import ComponentPages.Declaration.TypeText
import ComponentPages.Proofs.Text.Pattern

namespace ComponentPages

/-!
# Attribute bundles

A bundle is a name of one of a few forms, with the name of its library in front or without, and
behind it an angle pair without further angles. A type is read from left to right as characters and
bundles. In its short form each bundle gives way to a shorter name, which holds no angles, so that
a bundle stands in the short form exactly where the reading has the name of a bundle, or a bundle
with the general short name, directly in front of an angle pair whose only further angles are
inside bundles.
-/

namespace TypeText

/-! ## The form of bundles -/

/-- Whether a text has no angles. -/
def IsFlat (text : Text) : Prop :=
  ∀ character ∈ text, character ≠ '<' ∧ character ≠ '>'

instance (text : Text) : Decidable (IsFlat text) :=
  inferInstanceAs (Decidable (∀ character ∈ text, character ≠ '<' ∧ character ≠ '>'))

/-- An angle pair that holds no other angle. -/
def IsArguments (text : Text) : Prop :=
  ∃ inside, text = '<' :: (inside ++ ['>']) ∧ IsFlat inside

/-- The general short name, which bundles of elements end in. -/
def elementName : Text :=
  "HTMLAttributes".toList

/-- The names of bundles of the properties of a component. -/
def componentNames : List Text :=
  ["ComponentProps".toList, "ComponentPropsWithoutRef".toList, "ComponentPropsWithRef".toList]

/-- The names that bundles end in. -/
def lastNames : List Text :=
  elementName :: componentNames

/-- The name of a bundle of an element: the element's name has letters, a capital in front. -/
def IsElementName (name : Text) : Prop :=
  ∃ element,
    name = element ++ elementName ∧ (∀ letter ∈ element, letter.isAlpha = true) ∧
      ∀ first ∈ element.head?, first.isUpper = true

/-- The name of a bundle: of a component or of an element. -/
def IsName (name : Text) : Prop :=
  name ∈ componentNames ∨ IsElementName name

/-- A name with arguments, behind the name of its library or not. -/
def IsBundle (text : Text) : Prop :=
  ∃ library name arguments,
    text = library ++ (name ++ arguments) ∧ library ∈ [[], "React.".toList] ∧ IsName name ∧
      IsArguments arguments

/-- Whether a bundle stands somewhere in a text. -/
def HoldsBundle (text : Text) : Prop :=
  ∃ bundle, IsBundle bundle ∧ bundle <:+: text

variable {text rest : Text}

private theorem isFlat_of_isAlpha
    (areLetters : ∀ letter ∈ text, letter.isAlpha = true) :
    IsFlat text := by
  intro character member
  have isLetter := areLetters character member
  constructor <;> rintro rfl <;> exact absurd isLetter (by decide)

private theorem isFlat_append {first second : Text} :
    IsFlat (first ++ second) ↔ IsFlat first ∧ IsFlat second :=
  List.forall_mem_append

/-- A name ends in one of a few, and has no angles. -/
theorem IsName.exists_lastName
    {name : Text}
    (isName : IsName name) :
    IsFlat name ∧ ∃ element, ∃ last ∈ lastNames, name = element ++ last := by
  rcases isName with isComponent | ⟨element, rfl, areLetters, -⟩
  · have areFlat : ∀ name ∈ componentNames, IsFlat name := by
      decide
    exact ⟨areFlat name isComponent, [], name, List.mem_cons_of_mem _ isComponent, rfl⟩
  · exact ⟨isFlat_append.mpr ⟨isFlat_of_isAlpha areLetters, by decide⟩, element, elementName,
      List.mem_cons_self, rfl⟩

/-- A bundle ends in a name and an angle pair, and has no angles in front. -/
theorem IsBundle.exists_lastName
    {bundle : Text}
    (isBundle : IsBundle bundle) :
    ∃ lead, ∃ name ∈ lastNames, ∃ inside,
      bundle = lead ++ (name ++ '<' :: (inside ++ ['>'])) ∧ IsFlat (lead ++ name) ∧
        IsFlat inside := by
  obtain ⟨library, name, _, rfl, isLibrary, isName, inside, rfl, insideFlat⟩ := isBundle
  have libraryFlat : IsFlat library := by
    rcases List.mem_pair.mp isLibrary with rfl | rfl
    · exact List.forall_mem_nil _
    · decide
  obtain ⟨nameFlat, element, last, isLast, rfl⟩ := isName.exists_lastName
  refine ⟨library ++ element, last, isLast, inside, by simp, ?_, insideFlat⟩
  rw [List.append_assoc]
  exact isFlat_append.mpr ⟨libraryFlat, nameFlat⟩

/-- One of the last names with arguments is a bundle by itself. -/
theorem isBundle_of_lastName
    {name inside : Text}
    (isLast : name ∈ lastNames)
    (isFlat : IsFlat inside) :
    IsBundle (name ++ '<' :: (inside ++ ['>'])) := by
  refine ⟨[], name, '<' :: (inside ++ ['>']), rfl, List.mem_cons_self, ?_, inside, rfl, isFlat⟩
  rcases List.mem_cons.mp isLast with rfl | isComponent
  · exact .inr ⟨[], rfl, List.forall_mem_nil _, by simp⟩
  · exact .inl isComponent

/-- A bundle stands where one of the last names stands in front of an angle pair. -/
theorem holdsBundle_iff :
    HoldsBundle text ↔
      ∃ before, ∃ name ∈ lastNames, ∃ inside after,
        text = before ++ (name ++ '<' :: (inside ++ '>' :: after)) ∧ IsFlat inside := by
  constructor
  · rintro ⟨bundle, isBundle, before, after, rfl⟩
    obtain ⟨lead, name, isLast, inside, rfl, -, isFlat⟩ := isBundle.exists_lastName
    exact ⟨before ++ lead, name, isLast, inside, after, by simp, isFlat⟩
  · rintro ⟨before, name, isLast, inside, after, rfl, isFlat⟩
    exact ⟨_, isBundle_of_lastName isLast isFlat, before, after, by simp⟩

private theorem IsBundle.ne_nil
    {bundle : Text}
    (isBundle : IsBundle bundle) :
    bundle ≠ [] := by
  obtain ⟨lead, name, -, inside, rfl, -, -⟩ := isBundle.exists_lastName
  simp

/-- Where a bundle starts, its end is the first closing angle. -/
theorem IsBundle.eq_of_append_eq
    {bundle other otherRest : Text}
    (isBundle : IsBundle bundle)
    (isOther : IsBundle other)
    (same : bundle ++ rest = other ++ otherRest) :
    bundle = other ∧ rest = otherRest := by
  have upToEnd {bundle : Text} (isBundle : IsBundle bundle) :
      ∃ front, bundle = front ++ ['>'] ∧
        ∀ character ∈ front, (character != '>') = true := by
    obtain ⟨lead, name, -, inside, rfl, leadFlat, insideFlat⟩ := isBundle.exists_lastName
    refine ⟨lead ++ (name ++ '<' :: inside), by simp, fun character member => ?_⟩
    have isElsewhere : character ∈ lead ++ name ∨ character = '<' ∨ character ∈ inside := by
      simpa [or_assoc] using member
    rcases isElsewhere with inFront | rfl | isInside
    · simpa using (leadFlat character inFront).2
    · decide
    · simpa using (insideFlat character isInside).2
  obtain ⟨front, rfl, frontBelongs⟩ := upToEnd isBundle
  obtain ⟨otherFront, rfl, otherBelongs⟩ := upToEnd isOther
  have stops (rest : Text) : Text.Stops (· != '>') ('>' :: rest) := by
    intro character isFirst
    obtain rfl := Option.some.inj isFirst
    decide
  rw [List.append_assoc, List.append_assoc, List.singleton_append, List.singleton_append] at same
  have isRun := Text.run_append frontBelongs (stops rest)
  rw [same, Text.run_append otherBelongs (stops otherRest)] at isRun
  obtain ⟨rfl, sameRest⟩ := Prod.mk.inj isRun
  exact ⟨rfl, (List.cons.inj sameRest).2.symm⟩

/-! ## Reading bundles -/

/-- Type arguments are read as far as their closing angle. -/
theorem arguments?_eq_some_iff :
    arguments? text = some rest ↔ ∃ arguments, text = arguments ++ rest ∧ IsArguments arguments := by
  constructor
  · intro isRead
    unfold arguments? at isRead
    split at isRead
    · rename_i inside
      split at isRead
      · rename_i behind isClosed
        obtain rfl := Option.some.inj isRead
        refine ⟨'<' :: (inside.takeWhile (fun character => character != '<' && character != '>') ++
          ['>']), ?_, _, rfl, ?_⟩
        · conv_lhs => rw [← List.takeWhile_append_dropWhile (p := fun character =>
            character != '<' && character != '>') (l := inside), isClosed]
          simp
        · intro character isTaken
          simpa using List.mem_takeWhile_imp isTaken
      · contradiction
    · contradiction
  · rintro ⟨_, rfl, inside, rfl, isFlat⟩
    have isSkipped : (inside ++ '>' :: rest).dropWhile
        (fun character => character != '<' && character != '>') = '>' :: rest := by
      rw [List.dropWhile_append_of_pos fun character member => by simpa using isFlat character member]
      rfl
    have isWhole : '<' :: (inside ++ ['>']) ++ rest = '<' :: (inside ++ '>' :: rest) := by
      simp
    rw [isWhole, arguments?]
    simp [isSkipped]

/-- A name of an element's bundle is what is read of it. -/
private theorem exists_of_afterElementBundle?
    (isRead : afterElementBundle? text = some rest) :
    ∃ name arguments,
      text = name ++ (arguments ++ rest) ∧ IsElementName name ∧ IsArguments arguments := by
  obtain ⟨reversed, isLast, isNamed⟩ := Option.bind_eq_some_iff.mp isRead
  have isName := congrArg List.reverse (Text.after?_eq_some_iff.mp isLast)
  rw [List.reverse_reverse, List.reverse_append, List.reverse_reverse] at isName
  obtain ⟨isCapital, isBehind⟩ : (∀ first ∈ reversed.reverse.head?, first.isUpper = true) ∧
      arguments? (text.dropWhile Char.isAlpha) = some rest := by
    generalize reversed.reverse = element at isNamed
    cases element with
    | nil =>
        exact ⟨by simp, isNamed⟩
    | cons first later =>
        dsimp only at isNamed
        split at isNamed
        · exact ⟨by simpa, isNamed⟩
        · contradiction
  obtain ⟨arguments, isBehind, isArguments⟩ := arguments?_eq_some_iff.mp isBehind
  refine ⟨text.takeWhile Char.isAlpha, arguments, ?_, ⟨reversed.reverse, isName, ?_, isCapital⟩,
    isArguments⟩
  · rw [← isBehind]
    exact List.takeWhile_append_dropWhile.symm
  · intro letter isMember
    apply List.mem_takeWhile_imp
    rw [isName]
    exact List.mem_append_left _ isMember

/-- The name of an element's bundle is read with its arguments. -/
private theorem afterElementBundle?_append
    {name arguments : Text}
    (isName : IsElementName name)
    (isArguments : IsArguments arguments)
    (rest : Text) :
    afterElementBundle? (name ++ (arguments ++ rest)) = some rest := by
  obtain ⟨element, rfl, areLetters, isCapital⟩ := isName
  have allLetters : ∀ letter ∈ element ++ elementName, letter.isAlpha = true :=
    List.forall_mem_append.mpr ⟨areLetters, by decide⟩
  have stops : Text.Stops Char.isAlpha (arguments ++ rest) := by
    obtain ⟨inside, rfl, -⟩ := isArguments
    intro character isFirst
    obtain rfl := Option.some.inj isFirst
    decide
  have isRead : arguments? (arguments ++ rest) = some rest :=
    arguments?_eq_some_iff.mpr ⟨arguments, rfl, isArguments⟩
  have isLast : Text.after? (element ++ elementName).reverse "HTMLAttributes".toList.reverse =
      some element.reverse := by
    rw [List.reverse_append]
    exact Text.after?_append elementName.reverse element.reverse
  simp only [afterElementBundle?, Text.run_append allLetters stops, isLast, List.reverse_reverse,
    Option.bind_eq_bind, Option.bind_some, isRead]
  cases element with
  | nil =>
      rfl
  | cons first later =>
      exact if_pos (isCapital first rfl)

/-- A name of a component's bundle is what is read of it. -/
private theorem exists_of_afterComponentBundle?
    (isRead : afterComponentBundle? text = some rest) :
    ∃ name arguments,
      text = name ++ (arguments ++ rest) ∧ name ∈ componentNames ∧ IsArguments arguments := by
  obtain ⟨behind, isWord, isVariant⟩ := Option.bind_eq_some_iff.mp isRead
  obtain ⟨variant, isMember, isNamed⟩ := List.exists_of_findSome?_eq_some isVariant
  obtain ⟨afterName, isName, isBehind⟩ := Option.bind_eq_some_iff.mp isNamed
  obtain ⟨arguments, rfl, isArguments⟩ := arguments?_eq_some_iff.mp isBehind
  obtain rfl := Text.after?_eq_some_iff.mp isName
  obtain rfl := Text.after?_eq_some_iff.mp isWord
  have isComponent : ∀ variant ∈ ["WithoutRef".toList, "WithRef".toList, []],
      "ComponentProps".toList ++ variant ∈ componentNames := by
    decide
  exact ⟨_, arguments, (List.append_assoc _ _ _).symm, isComponent variant isMember, isArguments⟩

/-- Where the name of a component's bundle stands with its arguments, something is read. -/
private theorem isSome_afterComponentBundle?
    {name arguments : Text}
    (isName : name ∈ componentNames)
    (isArguments : IsArguments arguments)
    (rest : Text) :
    (afterComponentBundle? (name ++ (arguments ++ rest))).isSome = true := by
  obtain ⟨variant, isVariant, rfl⟩ :
      ∃ variant ∈ ["WithoutRef".toList, "WithRef".toList, []],
        name = "ComponentProps".toList ++ variant := by
    revert name
    decide
  have isRead : arguments? (arguments ++ rest) = some rest :=
    arguments?_eq_some_iff.mpr ⟨arguments, rfl, isArguments⟩
  rw [afterComponentBundle?, List.append_assoc, Text.after?_append]
  refine List.findSome?_isSome_iff.mpr ⟨variant, isVariant, ?_⟩
  rw [Text.after?_append, Option.bind_some, isRead]
  rfl

/-- What is skipped as a bundle is one. -/
private theorem exists_of_afterBundle?
    (isRead : afterBundle? text = some rest) :
    ∃ bundle, text = bundle ++ rest ∧ IsBundle bundle := by
  obtain ⟨library, isLibrary, isText⟩ := Text.exists_append_getD_after? text "React.".toList
  simp only [afterBundle?, Option.orElse_eq_orElse, Option.orElse_eq_or, Option.or_eq_some_iff]
    at isRead
  generalize (Text.after? text "React.".toList).getD text = unqualified at isRead isText
  obtain ⟨lead, isLead, name, arguments, isName, isArguments, isWhole⟩ :
      ∃ lead ∈ [[], "React.".toList], ∃ name arguments,
        IsName name ∧ IsArguments arguments ∧ text = lead ++ (name ++ (arguments ++ rest)) := by
    rcases isRead with isElement | ⟨-, isElement | ⟨-, isComponent | ⟨-, isComponent⟩⟩⟩
    · obtain ⟨name, arguments, rfl, isName, isArguments⟩ :=
        exists_of_afterElementBundle? isElement
      exact ⟨library, isLibrary, name, arguments, .inr isName, isArguments, isText⟩
    · obtain ⟨name, arguments, rfl, isName, isArguments⟩ :=
        exists_of_afterElementBundle? isElement
      exact ⟨[], List.mem_cons_self, name, arguments, .inr isName, isArguments, rfl⟩
    · obtain ⟨name, arguments, rfl, isName, isArguments⟩ :=
        exists_of_afterComponentBundle? isComponent
      exact ⟨library, isLibrary, name, arguments, .inl isName, isArguments, isText⟩
    · obtain ⟨name, arguments, rfl, isName, isArguments⟩ :=
        exists_of_afterComponentBundle? isComponent
      exact ⟨[], List.mem_cons_self, name, arguments, .inl isName, isArguments, rfl⟩
  exact ⟨lead ++ (name ++ arguments), by simp [isWhole], lead, name, arguments, rfl, isLead, isName,
    isArguments⟩

/-- A bundle at the start of a text is skipped, whatever follows it. -/
private theorem isSome_afterBundle?
    {bundle : Text}
    (isBundle : IsBundle bundle)
    (rest : Text) :
    (afterBundle? (bundle ++ rest)).isSome = true := by
  obtain ⟨library, name, arguments, rfl, isLibrary, isName, isArguments⟩ := isBundle
  have isRead : (afterElementBundle? (name ++ (arguments ++ rest))).isSome = true ∨
      (afterComponentBundle? (name ++ (arguments ++ rest))).isSome = true := by
    rcases isName with isComponent | isElement
    · exact .inr (isSome_afterComponentBundle? isComponent isArguments rest)
    · left
      rw [afterElementBundle?_append isElement isArguments]
      rfl
  rw [List.append_assoc, List.append_assoc]
  generalize name ++ (arguments ++ rest) = unqualified at isRead
  simp only [afterBundle?, Option.orElse_eq_orElse, Option.orElse_eq_or, Option.isSome_or,
    Bool.or_eq_true]
  rcases List.mem_pair.mp isLibrary with rfl | rfl
  · rw [List.nil_append]
    rcases isRead with isElement | isComponent
    · exact .inr (.inl isElement)
    · exact .inr (.inr (.inr isComponent))
  · rw [Text.after?_append, Option.getD_some]
    rcases isRead with isElement | isComponent
    · exact .inl isElement
    · exact .inr (.inr (.inl isComponent))

/-- What is left behind a bundle is what a bundle stands in front of. -/
theorem afterBundle?_eq_some_iff :
    afterBundle? text = some rest ↔ ∃ bundle, text = bundle ++ rest ∧ IsBundle bundle := by
  refine ⟨exists_of_afterBundle?, ?_⟩
  rintro ⟨bundle, rfl, isBundle⟩
  obtain ⟨left, isRead⟩ := Option.isSome_iff_exists.mp (isSome_afterBundle? isBundle rest)
  obtain ⟨other, same, isOther⟩ := exists_of_afterBundle? isRead
  rw [isRead, (isBundle.eq_of_append_eq isOther same).2]

/-- The pattern of bundles reads a bundle and captures its short name. -/
theorem bundle_eq_some_iff
    {previous : Option Char}
    {short : Text} :
    bundle previous text = some (short, rest) ↔
      ∃ bundle, text = bundle ++ rest ∧ IsBundle bundle ∧ short = bundleName bundle := by
  have isTaken (bundle : Text) : (bundle ++ rest).take ((bundle ++ rest).length - rest.length) =
      bundle := by
    rw [List.length_append, Nat.add_sub_cancel, List.take_left]
  unfold bundle
  rw [Option.map_eq_some_iff]
  constructor
  · rintro ⟨left, isRead, isResult⟩
    obtain ⟨rfl, rfl⟩ := Prod.mk.inj isResult
    obtain ⟨bundle, rfl, isBundle⟩ := afterBundle?_eq_some_iff.mp isRead
    exact ⟨bundle, rfl, isBundle, by rw [isTaken]⟩
  · rintro ⟨bundle, rfl, isBundle, rfl⟩
    exact ⟨rest, afterBundle?_eq_some_iff.mpr ⟨bundle, rfl, isBundle⟩, by rw [isTaken]⟩

/-! ## Short names -/

/-- The names that bundles are shortened to. -/
def shortNames : List Text :=
  ["ButtonAttributes".toList, "InputAttributes".toList, elementName]

/-- A bundle is shortened to one of the short names. -/
theorem bundleName_mem (bundle : Text) : bundleName bundle ∈ shortNames := by
  unfold bundleName
  dsimp only
  split_ifs <;> decide

/-- The short name of a bundle is shorter. -/
theorem IsBundle.length_bundleName_lt
    {bundle : Text}
    (isBundle : IsBundle bundle) :
    (bundleName bundle).length < bundle.length := by
  obtain ⟨lead, name, isLast, inside, rfl, -, -⟩ := isBundle.exists_lastName
  have nameLong : ∀ name ∈ lastNames, 14 ≤ name.length := by
    decide
  have shortBounded : ∀ name ∈ shortNames, name.length ≤ 16 := by
    decide
  by_cases isBare : lead = [] ∧ inside = []
  · obtain ⟨rfl, rfl⟩ := isBare
    have bareLonger : ∀ name ∈ lastNames,
        (bundleName (name ++ ['<', '>'])).length < (name ++ ['<', '>']).length := by
      decide
    exact bareLonger name isLast
  · have longer : 1 ≤ lead.length + inside.length := by
      rw [← List.length_eq_zero_iff, ← List.length_eq_zero_iff] at isBare
      omega
    have lastLong := nameLong name isLast
    have shorter := shortBounded _ (bundleName_mem (lead ++ (name ++ '<' :: (inside ++ ['>']))))
    simp only [List.length_append, List.length_cons, List.length_nil]
    omega

/-! ## Reading types -/

/-- A part of a type: a character or a bundle. -/
inductive Piece where
  | plain (character : Char)
  | bundle (text : Text)
  deriving Repr, DecidableEq

namespace Piece

/-- The text of a piece. -/
def written : Piece → Text
  | plain character => [character]
  | bundle text => text

/-- The short form of a piece. -/
def short : Piece → Text
  | plain character => [character]
  | bundle text => bundleName text

end Piece

/-- The pieces of a text from left to right: a bundle wherever one starts. -/
inductive Reads : Text → List Piece → Prop where
  | done : Reads [] []
  | plain {character : Char} {rest : Text} {pieces : List Piece} :
      (∀ bundle behind, IsBundle bundle → character :: rest ≠ bundle ++ behind) →
      Reads rest pieces →
      Reads (character :: rest) (.plain character :: pieces)
  | bundle {bundle rest : Text} {pieces : List Piece} :
      IsBundle bundle →
      Reads rest pieces →
      Reads (bundle ++ rest) (.bundle bundle :: pieces)

variable {pieces : List Piece}

/-- Every text has pieces, and replacing bundles takes the short form of each piece. -/
theorem exists_reads (text : Text) :
    ∃ pieces, Reads text pieces ∧ bundle.replaceAll text = pieces.flatMap Piece.short := by
  suffices ofLength : ∀ length, ∀ text : Text, text.length = length →
      ∃ pieces, Reads text pieces ∧
        ∀ previous, bundle.replaceFrom previous 0 text = pieces.flatMap Piece.short by
    obtain ⟨pieces, reads, isReplaced⟩ := ofLength text.length text rfl
    exact ⟨pieces, reads, isReplaced none⟩
  intro length
  induction length using Nat.strongRecOn with
  | _ length inductionHypothesis =>
  rintro text rfl
  cases text with
  | nil =>
      exact ⟨[], .done, fun _ => rfl⟩
  | cons character later =>
      cases isRead : bundle none (character :: later) with
      | none =>
          have noBundle (other behind : Text) (isBundle : IsBundle other) :
              character :: later ≠ other ++ behind := by
            intro isText
            rw [bundle_eq_some_iff.mpr ⟨other, isText, isBundle, rfl⟩] at isRead
            contradiction
          obtain ⟨pieces, reads, isReplaced⟩ :=
            inductionHypothesis later.length (Nat.lt_succ_self _) later rfl
          refine ⟨.plain character :: pieces, .plain noBundle reads, fun previous => ?_⟩
          have noMatch : bundle previous (character :: later) = none := isRead
          rw [Text.Pattern.replaceFrom_cons_of_none noMatch, isReplaced]
          rfl
      | some result =>
          obtain ⟨short, rest⟩ := result
          obtain ⟨other, isText, isBundle, rfl⟩ := bundle_eq_some_iff.mp isRead
          have isShorter : rest.length < (character :: later).length := by
            rw [isText, List.length_append]
            exact Nat.lt_add_of_pos_left (List.length_pos_of_ne_nil isBundle.ne_nil)
          obtain ⟨pieces, reads, isReplaced⟩ := inductionHypothesis _ isShorter rest rfl
          rw [isText] at isRead ⊢
          refine ⟨.bundle other :: pieces, .bundle isBundle reads, fun previous => ?_⟩
          have isMatch : bundle previous (other ++ rest) = some (bundleName other, rest) := isRead
          rw [Text.Pattern.replaceFrom_of_some isBundle.ne_nil isMatch, isReplaced]
          rfl

/-- A text has its pieces in one way only. -/
theorem Reads.unique
    {others : List Piece}
    (reads : Reads text pieces)
    (othersRead : Reads text others) :
    others = pieces := by
  induction reads generalizing others with
  | done =>
      generalize isText : ([] : Text) = whole at othersRead
      cases othersRead with
      | done =>
          rfl
      | plain =>
          contradiction
      | bundle isBundle _ =>
          exact absurd (List.append_eq_nil_iff.mp isText.symm).1 isBundle.ne_nil
  | @plain character rest pieces noBundle _ inductionHypothesis =>
      generalize isText : character :: rest = whole at othersRead
      cases othersRead with
      | done =>
          contradiction
      | plain _ laterRead =>
          obtain ⟨rfl, rfl⟩ := List.cons.inj isText
          rw [inductionHypothesis laterRead]
      | bundle isBundle _ =>
          exact absurd isText (noBundle _ _ isBundle)
  | @bundle text rest pieces isBundle _ inductionHypothesis =>
      generalize isText : text ++ rest = whole at othersRead
      cases othersRead with
      | done =>
          exact absurd (List.append_eq_nil_iff.mp isText).1 isBundle.ne_nil
      | plain noBundle _ =>
          exact absurd isText.symm (noBundle _ _ isBundle)
      | bundle isOther laterRead =>
          obtain ⟨rfl, rfl⟩ := isBundle.eq_of_append_eq isOther isText
          rw [inductionHypothesis laterRead]

/-- The pieces of a text are written as the text. -/
theorem Reads.written_eq (reads : Reads text pieces) : pieces.flatMap Piece.written = text := by
  induction reads with
  | done =>
      rfl
  | plain _ _ inductionHypothesis =>
      exact congrArg (_ :: ·) inductionHypothesis
  | bundle _ _ inductionHypothesis =>
      exact congrArg (_ ++ ·) inductionHypothesis

/-- Without bundles a text is its own short form. -/
theorem Reads.short_of_not_holdsBundle
    (reads : Reads text pieces)
    (noBundle : ¬ HoldsBundle text) :
    pieces.flatMap Piece.short = text := by
  induction reads with
  | done =>
      rfl
  | plain _ _ inductionHypothesis =>
      refine congrArg (_ :: ·) (inductionHypothesis fun holds => noBundle ?_)
      obtain ⟨bundle, isBundle, isInfix⟩ := holds
      exact ⟨bundle, isBundle, isInfix.trans (List.suffix_cons _ _).isInfix⟩
  | bundle isBundle _ _ =>
      exact absurd ⟨_, isBundle, (List.prefix_append _ _).isInfix⟩ noBundle

/-- The short form of a text is no longer, and shorter if there is a bundle. -/
theorem Reads.length_short
    (reads : Reads text pieces) :
    (pieces.flatMap Piece.short).length ≤ text.length ∧
      (HoldsBundle text → (pieces.flatMap Piece.short).length < text.length) := by
  induction reads with
  | done =>
      refine ⟨le_rfl, ?_⟩
      rintro ⟨bundle, isBundle, isInfix⟩
      exact absurd (List.eq_nil_of_infix_nil isInfix) isBundle.ne_nil
  | plain noBundle _ inductionHypothesis =>
      obtain ⟨noLonger, shorter⟩ := inductionHypothesis
      refine ⟨Nat.succ_le_succ noLonger, ?_⟩
      rintro ⟨bundle, isBundle, isInfix⟩
      rcases List.infix_cons_iff.mp isInfix with ⟨behind, isText⟩ | isLater
      · exact absurd isText.symm (noBundle bundle behind isBundle)
      · exact Nat.succ_lt_succ (shorter ⟨bundle, isBundle, isLater⟩)
  | bundle isBundle _ inductionHypothesis =>
      have nameShorter := isBundle.length_bundleName_lt
      have restNoLonger := inductionHypothesis.1
      simp only [List.flatMap_cons, List.length_append, Piece.short]
      omega

/-! ## Bundles in short forms -/

/-- Whether no piece is an angle. -/
def IsFilling (pieces : List Piece) : Prop :=
  ∀ piece ∈ pieces, piece ≠ .plain '<' ∧ piece ≠ .plain '>'

/-- Whether pieces are one of the last names, or a bundle with the general short name. -/
def IsNaming (pieces : List Piece) : Prop :=
  (∃ name ∈ lastNames, pieces = name.map .plain) ∨
    ∃ bundle, pieces = [.bundle bundle] ∧ bundleName bundle = elementName

/--
Whether one of the last names, or a bundle with the general short name, stands in front of an angle
pair whose only further angles are inside bundles.
-/
def Exposes (pieces : List Piece) : Prop :=
  ∃ before naming inside after,
    pieces = before ++ (naming ++ .plain '<' :: (inside ++ .plain '>' :: after)) ∧
      IsNaming naming ∧ IsFilling inside

/-- The short form of pieces has no angles exactly if no piece is one. -/
theorem isFlat_short_iff : IsFlat (pieces.flatMap Piece.short) ↔ IsFilling pieces := by
  have namesFlat : ∀ name ∈ shortNames, IsFlat name := by
    decide
  constructor
  · intro isFlat piece isPiece
    constructor <;> rintro rfl
    · exact (isFlat '<' (List.mem_flatMap.mpr ⟨_, isPiece, List.mem_cons_self⟩)).1 rfl
    · exact (isFlat '>' (List.mem_flatMap.mpr ⟨_, isPiece, List.mem_cons_self⟩)).2 rfl
  · intro isFilling character member
    obtain ⟨piece, isPiece, inPiece⟩ := List.mem_flatMap.mp member
    cases piece with
    | plain other =>
        obtain rfl := List.mem_singleton.mp inPiece
        simpa using isFilling _ isPiece
    | bundle text =>
        exact namesFlat _ (bundleName_mem text) character inPiece

/-- A character that is in no short name is a piece wherever it stands in a short form. -/
theorem exists_plain_of_short
    {stop : Char}
    {before after : Text}
    (inNoName : ∀ name ∈ shortNames, stop ∉ name)
    (isShort : pieces.flatMap Piece.short = before ++ stop :: after) :
    ∃ front back,
      pieces = front ++ .plain stop :: back ∧ front.flatMap Piece.short = before ∧
        back.flatMap Piece.short = after := by
  induction pieces generalizing before with
  | nil =>
      exact absurd isShort (by simp)
  | cons piece later inductionHypothesis =>
      cases piece with
      | plain character =>
          cases before with
          | nil =>
              obtain ⟨rfl, isAfter⟩ := List.cons.inj isShort
              exact ⟨[], later, rfl, rfl, isAfter⟩
          | cons first between =>
              obtain ⟨rfl, isLater⟩ := List.cons.inj isShort
              obtain ⟨front, back, rfl, isFront, isBack⟩ := inductionHypothesis isLater
              exact ⟨.plain character :: front, back, rfl, congrArg (character :: ·) isFront, isBack⟩
      | bundle text =>
          obtain ⟨between, rfl, isLater⟩ :=
            Text.exists_between (inNoName _ (bundleName_mem text)) isShort.symm
          obtain ⟨front, back, rfl, isFront, isBack⟩ := inductionHypothesis isLater
          exact ⟨.bundle text :: front, back, rfl, congrArg (bundleName text ++ ·) isFront, isBack⟩

/-- Only the general short name ends like the start of a last name. -/
private theorem eq_elementName_of_suffix
    {name word short text : Text}
    (isLast : name ∈ lastNames)
    (isStart : word <+: name)
    (notEmpty : word ≠ [])
    (isShort : short ∈ shortNames)
    (wordEnds : word <:+ text)
    (shortEnds : short <:+ text) :
    word = elementName ∧ short = elementName := by
  have ofStarts : ∀ name ∈ lastNames, ∀ word ∈ name.inits, word ≠ [] → ∀ short ∈ shortNames,
      short <:+ word ∨ word <:+ short → word = elementName ∧ short = elementName := by
    decide +kernel
  exact ofStarts name isLast word ((List.mem_inits word name).mpr isStart) notEmpty short isShort
    (List.suffix_or_suffix_of_suffix shortEnds wordEnds)

/-- What a short form ends in, of the start of a last name, is plain or is a general short name. -/
private theorem exists_naming_of_short
    {name word before : Text}
    (isLast : name ∈ lastNames)
    (isStart : word <+: name)
    (notEmpty : word ≠ [])
    (isShort : pieces.flatMap Piece.short = before ++ word) :
    (∃ front, pieces = front ++ word.map .plain) ∨
      word = elementName ∧
        ∃ front bundle, pieces = front ++ [.bundle bundle] ∧ bundleName bundle = elementName := by
  induction word using List.reverseRecOn generalizing pieces with
  | nil =>
      contradiction
  | append_singleton start letter inductionHypothesis =>
      rcases List.eq_nil_or_concat pieces with rfl | ⟨front, piece, rfl⟩
      · exact absurd isShort (by simp)
      · rw [List.concat_eq_append, List.flatMap_append, List.flatMap_singleton] at isShort
        cases piece with
        | plain character =>
            rw [← List.append_assoc] at isShort
            obtain ⟨isFront, isLetter⟩ := List.append_inj' isShort rfl
            obtain rfl := List.singleton_inj.mp isLetter
            by_cases isFirst : start = []
            · subst isFirst
              exact .inl ⟨front, by simp⟩
            · have startsName := (List.prefix_append start [character]).trans isStart
              rcases inductionHypothesis startsName isFirst isFront with
                ⟨lead, rfl⟩ | ⟨rfl, -⟩
              · exact .inl ⟨lead, by simp⟩
              · -- No last name goes on behind the general short name.
                have isWhole : ∀ name ∈ lastNames, elementName <+: name → name = elementName := by
                  decide
                obtain rfl := isWhole name isLast ((List.prefix_append _ _).trans isStart)
                exact absurd isStart.length_le (by simp)
        | bundle text =>
            right
            obtain ⟨isWord, isGeneral⟩ := eq_elementName_of_suffix isLast isStart notEmpty
              (bundleName_mem text) ⟨before, isShort.symm⟩ ⟨_, rfl⟩
            exact ⟨isWord, front, text, List.concat_eq_append, isGeneral⟩

/-- A bundle stands in the short form of pieces exactly if they expose one. -/
theorem holdsBundle_short_iff : HoldsBundle (pieces.flatMap Piece.short) ↔ Exposes pieces := by
  rw [holdsBundle_iff]
  constructor
  · rintro ⟨before, name, isLast, inside, after, isShort, isFlat⟩
    rw [← List.append_assoc] at isShort
    obtain ⟨front, back, rfl, isFront, isBack⟩ := exists_plain_of_short (by decide) isShort
    obtain ⟨filling, rest, rfl, isInside, -⟩ := exists_plain_of_short (by decide) isBack
    have isFilling : IsFilling filling := isFlat_short_iff.mp (isInside ▸ isFlat)
    have notEmpty : name ≠ [] := by
      have noneEmpty : [] ∉ lastNames := by
        decide
      rintro rfl
      exact noneEmpty isLast
    rcases exists_naming_of_short isLast List.prefix_rfl notEmpty isFront with
      ⟨lead, rfl⟩ | ⟨rfl, lead, bundle, rfl, isGeneral⟩
    · exact ⟨lead, name.map .plain, filling, rest, by simp, .inl ⟨name, isLast, rfl⟩, isFilling⟩
    · exact ⟨lead, [.bundle bundle], filling, rest, by simp, .inr ⟨bundle, rfl, isGeneral⟩,
        isFilling⟩
  · rintro ⟨before, naming, inside, after, rfl, isNaming, isFilling⟩
    obtain ⟨name, isLast, isName⟩ :
        ∃ name ∈ lastNames, naming.flatMap Piece.short = name := by
      rcases isNaming with ⟨name, isLast, rfl⟩ | ⟨bundle, rfl, isGeneral⟩
      · exact ⟨name, isLast, by simp [List.flatMap_map, Piece.short]⟩
      · exact ⟨elementName, List.mem_cons_self, by simp [Piece.short, isGeneral]⟩
    refine ⟨before.flatMap Piece.short, name, isLast, inside.flatMap Piece.short,
      after.flatMap Piece.short, ?_, isFlat_short_iff.mpr isFilling⟩
    simp [isName, Piece.short]

end TypeText

end ComponentPages
