import ComponentPages.Page.Context
import ComponentPages.Proofs.Project.Path
import ComponentPages.Proofs.Text.Pattern

namespace ComponentPages

/-!
# Identities are names

Whether it is declared in a source or taken from a path, an identity is a run of ASCII letters,
digits and underscores. So its lower-case form is taken letter by letter, and the name of its page
is the name of a file in the output directory, as long as the extension holds no separator. Two
components then share a name for their pages exactly if their identities have one lower-case form.
-/

namespace Identity

/-! ## Name characters -/

/-- Name characters are ASCII letters, digits and the underscore. -/
theorem isNameCharacter_iff
    {character : Char} :
    isNameCharacter character = true ↔
      ((character.isUpper = true ∨ character.isLower = true) ∨ character.isDigit = true) ∨
        character = '_' := by
  unfold isNameCharacter
  rw [Bool.or_eq_true, beq_iff_eq]
  refine or_congr_left (Bool.or_eq_true_iff.trans (or_congr_left ?_))
  exact Bool.or_eq_true_iff

private theorem toNat_lt_of_isNameCharacter
    {character : Char}
    (isName : isNameCharacter character = true) :
    character.toNat < 128 := by
  rcases isNameCharacter_iff.mp isName with ((isUpper | isLower) | isDigit) | rfl
  · have upTo : character.val ≤ 'Z'.val := (of_decide_eq_true isUpper).2
    exact Nat.lt_of_le_of_lt (UInt32.le_iff_toNat_le.mp upTo) (by decide)
  · have upTo : character.val ≤ 'z'.val := of_decide_eq_true (Bool.and_eq_true_iff.mp isLower).2
    exact Nat.lt_of_le_of_lt (UInt32.le_iff_toNat_le.mp upTo) (by decide)
  · have upTo : character.val ≤ '9'.val := of_decide_eq_true (Bool.and_eq_true_iff.mp isDigit).2
    exact Nat.lt_of_le_of_lt (UInt32.le_iff_toNat_le.mp upTo) (by decide)
  · decide

/-- What holds of the name characters among the first 128 characters holds of all of them. -/
private theorem forall_nameCharacter
    (property : Char → Prop)
    (ofCode : ∀ code < 128, isNameCharacter (Char.ofNat code) = true → property (Char.ofNat code))
    {character : Char}
    (isName : isNameCharacter character = true) :
    property character := by
  have isCode := Char.ofNat_toNat character
  rw [← isCode] at isName ⊢
  rw [isCode] at isName
  exact ofCode _ (toNat_lt_of_isNameCharacter isName) (isCode.symm ▸ isName)

private theorem isNameCharacter_toLower
    {character : Char}
    (isName : isNameCharacter character = true) :
    isNameCharacter character.toLower = true :=
  forall_nameCharacter (fun character => isNameCharacter character.toLower = true)
    (by decide) isName

private theorem isNameCharacter_toUpper
    {character : Char}
    (isName : isNameCharacter character = true) :
    isNameCharacter character.toUpper = true :=
  forall_nameCharacter (fun character => isNameCharacter character.toUpper = true)
    (by decide) isName

/-- A name has characters, all of which are letters, digits or underscores. -/
structure IsName (text : Text) : Prop where
  notEmpty : text ≠ []
  areNameCharacters : ∀ character ∈ text, isNameCharacter character = true

/-! ## Sources and paths -/

/-- What is read as the name of a component is a name. -/
theorem IsName.of_componentName?
    {text name rest : Text}
    (named : componentName? text = some (name, rest)) :
    IsName name := by
  cases text with
  | nil =>
      contradiction
  | cons first later =>
      rw [componentName?] at named
      split at named
      · rename_i isUpper
        obtain ⟨rfl, -⟩ := Prod.mk.inj (Option.some.inj named)
        refine ⟨List.cons_ne_nil _ _, List.forall_mem_cons.mpr ⟨?_, ?_⟩⟩
        · exact isNameCharacter_iff.mpr (.inl (.inl (.inl isUpper)))
        · intro character isTaken
          exact List.all_eq_true.mp List.all_takeWhile character isTaken
      · contradiction

/-- A declared component has a name. -/
theorem IsName.of_mem_declared
    {source name : Text}
    (isDeclared : name ∈ declared source) :
    IsName name := by
  obtain ⟨occurrence, occurs, rfl⟩ := List.mem_map.mp isDeclared
  rcases List.mem_append.mp occurs with isExported | isWrapped
  · obtain ⟨_, _, _, _, isMatch, _⟩ :=
      Text.Pattern.isPlaced_of_mem_occurrencesFrom isExported
    simp only [exported, bind, Option.bind_eq_some_iff] at isMatch
    obtain ⟨_, _, _, _, _, _, named⟩ := isMatch
    exact of_componentName? named
  · obtain ⟨_, _, _, _, isMatch, _⟩ :=
      Text.Pattern.isPlaced_of_mem_occurrencesFrom isWrapped
    simp only [wrapped, bind, Option.bind_eq_some_iff] at isMatch
    obtain ⟨_, _, ⟨name, afterName⟩, named, _, _, _, _, isResult⟩ := isMatch
    split at isResult
    · contradiction
    · obtain ⟨rfl, -⟩ := Prod.mk.inj (Option.some.inj isResult)
      exact of_componentName? named

/-- The words of a text have nothing but letters and digits in them. -/
theorem isNameCharacter_of_mem_pascalCase
    {text : Text}
    {character : Char}
    (member : character ∈ pascalCase text) :
    isNameCharacter character = true := by
  obtain ⟨piece, isPiece, isInside⟩ := List.mem_flatMap.mp member
  have areNames : ∀ other ∈ piece, isNameCharacter other = true := by
    intro other isOther
    have isAlphanum := Text.separates_of_mem_pieces isPiece other isOther
    rw [Bool.not_eq_false'] at isAlphanum
    rw [isNameCharacter, isAlphanum, Bool.true_or]
  cases piece with
  | nil =>
      contradiction
  | cons first rest =>
      rcases List.mem_cons.mp isInside with rfl | isLater
      · exact isNameCharacter_toUpper (areNames first List.mem_cons_self)
      · exact areNames character (List.mem_cons_of_mem _ isLater)

/-- The identity that a path gives is a name. -/
theorem IsName.of_ofPath?
    {path : Path}
    {name : Text}
    (named : ofPath? path = some name) :
    IsName name := by
  have ofText : ∀ {text : Text},
      (if (pascalCase text).isEmpty then none else some (pascalCase text)) = some name →
        IsName name := by
    intro text isResult
    split at isResult
    · contradiction
    · rename_i notEmpty
      obtain rfl := Option.some.inj isResult
      exact ⟨mt List.isEmpty_iff.mpr notEmpty, fun _ => isNameCharacter_of_mem_pascalCase⟩
  unfold ofPath? at named
  obtain ⟨stem, _, isRest⟩ := Option.bind_eq_some_iff.mp named
  dsimp only at isRest
  split at isRest
  · obtain ⟨source, _, isResult⟩ := Option.bind_eq_some_iff.mp isRest
    exact ofText isResult
  · obtain ⟨source, _, isResult⟩ := Option.bind_eq_some_iff.mp isRest
    exact ofText isResult

/-- The identity of a source is a name. -/
theorem IsName.of_ofSource?
    {source : Text}
    {path : Path}
    {identity : Text}
    (isIdentity : ofSource? source path = some identity) :
    IsName identity := by
  unfold ofSource? at isIdentity
  dsimp only at isIdentity
  cases isPath : ofPath? path with
  | none =>
      rw [isPath] at isIdentity
      exact of_mem_declared (List.mem_of_head? isIdentity)
  | some expected =>
      rw [isPath] at isIdentity
      dsimp only at isIdentity
      split at isIdentity
      · obtain rfl := Option.some.inj isIdentity
        exact of_ofPath? isPath
      · obtain rfl := Option.some.inj isIdentity
        cases areDeclared : declared source with
        | nil =>
            exact of_ofPath? isPath
        | cons first others =>
            exact of_mem_declared (areDeclared ▸ List.mem_cons_self)

/-! ## Lower case -/

/-- Names are put into lower case letter by letter. -/
theorem lowerAfter_eq_map
    {text : Text}
    (areNames : ∀ character ∈ text, isNameCharacter character = true)
    (before : Text) :
    Text.lowerAfter before text = text.map Char.toLower := by
  induction text generalizing before with
  | nil =>
      rfl
  | cons first rest inductionHypothesis =>
      obtain ⟨firstIsName, areOthers⟩ := List.forall_mem_cons.mp areNames
      have isAscii := toNat_lt_of_isNameCharacter firstIsName
      have noSigma : first ≠ '\u03A3' := by
        rintro rfl
        contradiction
      rw [Text.lowerAfter, inductionHypothesis areOthers]
      simp [noSigma, Text.lowerCharacter, isAscii]

/-- The lower-case form of a name is a name. -/
theorem IsName.toLowerCase
    {text : Text}
    (isName : IsName text) :
    IsName text.toLowerCase := by
  rw [Text.toLowerCase, lowerAfter_eq_map isName.areNameCharacters]
  refine ⟨mt List.map_eq_nil_iff.mp isName.notEmpty, ?_⟩
  intro character member
  obtain ⟨former, isFormer, rfl⟩ := List.mem_map.mp member
  exact isNameCharacter_toLower (isName.areNameCharacters former isFormer)

end Identity

/-! ## Names of pages -/

namespace Page

open Identity

variable {identity extension : Text}

/-- The page of a name is a name of a file, if the extension holds no separator. -/
theorem isFileName_fileName
    (isName : IsName identity)
    (isWhole : '/' ∉ extension) :
    Path.counts (fileName identity extension) = true ∧
      fileName identity extension ≠ ['.', '.'] ∧ '/' ∉ fileName identity extension := by
  have lower := isName.toLowerCase
  obtain ⟨first, rest, isLower⟩ := List.exists_cons_of_ne_nil lower.notEmpty
  have noDot : first ≠ '.' := by
    rintro rfl
    have isDot := lower.areNameCharacters '.' (isLower ▸ List.mem_cons_self)
    contradiction
  have lowerWhole : '/' ∉ identity.toLowerCase := by
    intro member
    have isSlash := lower.areNameCharacters '/' member
    contradiction
  unfold fileName
  refine ⟨?_, ?_, ?_⟩
  · simp [isLower, Path.counts, noDot]
  · simp [isLower, noDot]
  · simp [lowerWhole, isWhole]

/-- Two pages have one name exactly if the identities have one lower-case form. -/
theorem fileName_inj
    {other : Text} :
    fileName identity extension = fileName other extension ↔
      identity.toLowerCase = other.toLowerCase :=
  List.append_left_inj _

end Page

end ComponentPages
