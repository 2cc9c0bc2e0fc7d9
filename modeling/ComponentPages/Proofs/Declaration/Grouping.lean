import ComponentPages.Proofs.Declaration.AnchorPlace
import ComponentPages.Proofs.Declaration.ShortForm
import ComponentPages.Proofs.Declaration.TypeText
import ComponentPages.Declaration.Extraction

namespace ComponentPages

/-!
# Properties in groups

The properties of a source come in groups, one for each declaration that lists properties, in the
order in which the declarations stand. The names of a group are distinct, though a name may come
again in a later group. The type of each property is one line of words with one space between
neighbours, and it opens as many angles as it closes.
-/

/-! ## Clean types -/

namespace TypeText

variable {text : Text}

/-- The number of arrows in a text. -/
def arrows (text : Text) : Nat :=
  (text.zip text.tail).count ('=', '>')

/--
Whether a type is one line of words with one space between neighbours, with as many closing as
opening angles besides those of arrows.
-/
structure IsClean (text : Text) : Prop where
  notEmpty : text ≠ []
  isJoined : Text.joinWith [' '] (Text.words text) = text
  onlySpaces : ∀ character ∈ text, Text.isBlank character = true → character = ' '
  isBalanced : text.count '>' = text.count '<' + arrows text

/-- The balance behind a character, as counts of the angles and of the arrows. -/
private theorem angleBalanceFrom_add_count
    (previous : Char)
    (text : Text) :
    angleBalanceFrom (some previous) text + text.count '>' =
      text.count '<' + ((previous :: text).zip text).count ('=', '>') := by
  induction text generalizing previous with
  | nil =>
      rfl
  | cons character rest inductionHypothesis =>
      have isWeight :
          (if character = '<' then 1
            else if character = '>' && some previous != some '=' then -1
            else 0) + ((if character == '>' then 1 else 0 : Nat) : Int) =
            ((if character == '<' then 1 else 0 : Nat) : Int) +
              ((if (previous, character) == ('=', '>') then 1 else 0 : Nat) : Int) := by
        by_cases isOpening : character = '<'
        · simp [isOpening]
        · by_cases isClosing : character = '>'
          · by_cases isArrow : previous = '=' <;> simp [isClosing, isArrow]
          · simp [isOpening, isClosing]
      have balanced := inductionHypothesis character
      rw [angleBalanceFrom, List.zip_cons_cons, List.count_cons, List.count_cons, List.count_cons,
        Int.natCast_add, Int.natCast_add, Int.natCast_add]
      omega

/-- The balance of a text's angles, as counts of the angles and of the arrows. -/
private theorem angleBalance_add_count (text : Text) :
    angleBalance text + text.count '>' = text.count '<' + arrows text := by
  cases text with
  | nil =>
      rfl
  | cons character rest =>
      have balanced := angleBalanceFrom_add_count ' ' (character :: rest)
      have noArrow : (' ', character) ≠ ('=', '>') :=
        fun isArrow => absurd (Prod.mk.inj isArrow).1 (by decide)
      rw [angleBalanceFrom_of_ne (by decide), List.zip_cons_cons, List.count_cons_of_ne noArrow]
        at balanced
      exact balanced

end TypeText

/-- The type of a property that is read from a field is clean. -/
theorem Field.isClean_of_toProperty
    {field : Text}
    {property : Property}
    (isRead : toProperty field = .ok property) :
    TypeText.IsClean property.typeText := by
  rw [toProperty] at isRead
  split at isRead
  · contradiction
  · rename_i shape _
    dsimp only at isRead
    split_ifs at isRead with isEmpty isUnbalanced
    obtain rfl := Except.ok.inj isRead
    have isSpaced := TypeText.isSpaced_normalize (separateDefault shape.typeText).1
    have balance := TypeText.angleBalance_add_count
      (TypeText.normalize (separateDefault shape.typeText).1)
    dsimp only
    refine ⟨by simpa using isEmpty, Text.joinWith_words isSpaced, isSpaced.onlySpaces, ?_⟩
    omega

/-! ## Names of a group -/

namespace PropertyList

/-- A property that is listed was read from a field. -/
theorem exists_field
    {declaration : Text}
    {seen fields : List Text}
    {property : Property}
    (member : property ∈ (ofFieldsFrom declaration seen fields).properties) :
    ∃ field, Field.toProperty field = .ok property := by
  induction fields generalizing seen with
  | nil =>
      contradiction
  | cons field later inductionHypothesis =>
      rw [ofFieldsFrom] at member
      split at member
      · rename_i read isRead
        split at member
        · exact inductionHypothesis member
        · rcases List.mem_cons.mp member with rfl | isLater
          · exact ⟨field, isRead⟩
          · exact inductionHypothesis isLater
      · exact inductionHypothesis member

/-- The names of the properties of fields are distinct, and none of them was seen before. -/
theorem nodup_names_ofFieldsFrom
    (declaration : Text)
    (seen fields : List Text) :
    ((ofFieldsFrom declaration seen fields).properties.map Property.name).Nodup ∧
      ∀ name ∈ (ofFieldsFrom declaration seen fields).properties.map Property.name,
        name ∉ seen := by
  fun_induction ofFieldsFrom declaration seen fields with
  | case1 =>
      exact ⟨.nil, nofun⟩
  | case2 _ _ _ _ _ _ inductionHypothesis =>
      exact inductionHypothesis
  | case3 seen field later property isRead isNew others inductionHypothesis =>
      obtain ⟨areDistinct, areNew⟩ := inductionHypothesis
      refine ⟨List.nodup_cons.mpr ⟨fun isLater => ?_, areDistinct⟩,
        List.forall_mem_cons.mpr ⟨isNew, fun name isLater isSeen => ?_⟩⟩
      · exact areNew _ isLater List.mem_cons_self
      · exact areNew name isLater (List.mem_cons_of_mem _ isSeen)
  | case4 _ _ _ _ _ _ inductionHypothesis =>
      exact inductionHypothesis

end PropertyList

/-! ## Groups -/

/-- Whether properties are those that the body of a declaration lists. -/
def Anchor.Lists (text : Text) (anchor : Anchor) (group : List Property) : Prop :=
  ∃ body,
    Scope.contentAt? text anchor.bodyStart = some body ∧
      group = (PropertyList.ofBody anchor.name body).properties

namespace Anchor.Lists

variable {text : Text} {anchor : Anchor} {group : List Property}

/-- Every group that is listed has an anchor that lists it. -/
theorem exists_of_mem
    {anchors : List Anchor}
    {groups : List (List Property)}
    (areListed : List.Forall₂ (Lists text) anchors groups)
    (isGroup : group ∈ groups) :
    ∃ anchor ∈ anchors, anchor.Lists text group := by
  induction areListed with
  | nil =>
      contradiction
  | @cons anchor first anchors groups lists _ inductionHypothesis =>
      rcases List.mem_cons.mp isGroup with rfl | isLater
      · exact ⟨anchor, List.mem_cons_self, lists⟩
      · obtain ⟨other, isOther, listsOther⟩ := inductionHypothesis isLater
        exact ⟨other, List.mem_cons_of_mem _ isOther, listsOther⟩

private theorem exists_field
    {property : Property}
    (lists : anchor.Lists text group)
    (member : property ∈ group) :
    ∃ field, Field.toProperty field = .ok property := by
  obtain ⟨body, -, rfl⟩ := lists
  exact PropertyList.exists_field member

/-- The names that an anchor lists are distinct. -/
theorem nodup_names (lists : anchor.Lists text group) : (group.map Property.name).Nodup := by
  obtain ⟨body, -, rfl⟩ := lists
  exact (PropertyList.nodup_names_ofFieldsFrom anchor.name [] (Field.ofBody body)).1

end Anchor.Lists

namespace Extraction

/-- The properties of declarations are one group for each of them. -/
theorem exists_groups_of_ofAnchors
    {text : Text}
    {anchors : List Anchor}
    {declared : PropertyList}
    (isDeclared : ofAnchors text anchors = .ok declared) :
    ∃ groups,
      List.Forall₂ (Anchor.Lists text) anchors groups ∧ declared.properties = groups.flatten := by
  induction anchors generalizing declared with
  | nil =>
      cases isDeclared
      exact ⟨[], .nil, rfl⟩
  | cons anchor later inductionHypothesis =>
      rw [ofAnchors] at isDeclared
      split at isDeclared
      · contradiction
      · rename_i body isBody
        cases isOthers : ofAnchors text later with
        | error fault =>
            rw [isOthers] at isDeclared
            contradiction
        | ok others =>
            rw [isOthers] at isDeclared
            cases isDeclared
            obtain ⟨groups, areListed, areOthers⟩ := inductionHypothesis isOthers
            refine ⟨_ :: groups, .cons ⟨body, isBody, rfl⟩ areListed, ?_⟩
            rw [List.flatten_cons, ← areOthers]

/-- The properties that are extracted are one group for each declaration. -/
theorem exists_groups
    {source : Text}
    {extraction : Extraction}
    (extracted : ofSource source = .ok extraction) :
    ∃ groups,
      List.Forall₂ (Anchor.Lists (Comment.strip source)) (Anchor.allOf (Comment.strip source))
          groups ∧
        extraction.properties = groups.flatten := by
  rw [ofSource, ofStripped] at extracted
  cases isDeclared : ofAnchors (Comment.strip source) (Anchor.allOf (Comment.strip source)) with
  | error fault =>
      rw [isDeclared] at extracted
      contradiction
  | ok declared =>
      cases isVariants : Variant.allOf (Comment.strip source) with
      | error fault =>
          rw [isDeclared, isVariants] at extracted
          contradiction
      | ok variants =>
          rw [isDeclared, isVariants] at extracted
          cases extracted
          exact exists_groups_of_ofAnchors isDeclared

/-- Each property that is extracted was read from a field. -/
theorem exists_field
    {source : Text}
    {extraction : Extraction}
    {property : Property}
    (extracted : ofSource source = .ok extraction)
    (member : property ∈ extraction.properties) :
    ∃ field, Field.toProperty field = .ok property := by
  obtain ⟨groups, areListed, areProperties⟩ := exists_groups extracted
  rw [areProperties] at member
  obtain ⟨group, isGroup, inGroup⟩ := List.mem_flatten.mp member
  obtain ⟨anchor, -, lists⟩ := Anchor.Lists.exists_of_mem areListed isGroup
  exact lists.exists_field inGroup

/--
The properties that are extracted are one group for each declaration, in the order in which the
declarations stand. The names of a group are distinct, and the type of each property is clean.
-/
theorem properties_of_ofSource
    {source : Text}
    {extraction : Extraction}
    (extracted : ofSource source = .ok extraction) :
    ((Anchor.allOf (Comment.strip source)).Pairwise
        fun earlier later => earlier.start < later.start) ∧
      (∃ groups,
        List.Forall₂ (Anchor.Lists (Comment.strip source)) (Anchor.allOf (Comment.strip source))
            groups ∧
          extraction.properties = groups.flatten ∧
            ∀ group ∈ groups, (group.map Property.name).Nodup) ∧
        ∀ property ∈ extraction.properties, TypeText.IsClean property.typeText := by
  obtain ⟨groups, areListed, areProperties⟩ := exists_groups extracted
  refine ⟨Anchor.pairwise_start_allOf _, ⟨groups, areListed, areProperties, ?_⟩, ?_⟩
  · intro group isGroup
    obtain ⟨anchor, -, lists⟩ := Anchor.Lists.exists_of_mem areListed isGroup
    exact lists.nodup_names
  · intro property member
    obtain ⟨field, isRead⟩ := exists_field extracted member
    exact Field.isClean_of_toProperty isRead

/-- Two declarations that list the same name, one of them twice. -/
def namesakes : Text :=
  "interface AProps \x7b run: () => Set<A>; run: B \x7d\ntype BProps = \x7b run: C \x7d".toList

/-- The name comes once in each group. -/
theorem properties_of_ofSource_namesakes :
    ∃ extraction groups,
      ofSource namesakes = .ok extraction ∧
        extraction.properties.map Property.typeText = ["() => Set<A>".toList, "C".toList] ∧
          List.Forall₂ (Anchor.Lists namesakes) (Anchor.allOf namesakes) groups ∧
            extraction.properties = groups.flatten ∧
              ∀ property ∈ extraction.properties, TypeText.IsClean property.typeText := by
  have isStripped : Comment.strip namesakes = namesakes :=
    Comment.strip_of_not_mem (by decide)
  have extracted : ofSource namesakes = .ok {
      properties := [
        ⟨"run".toList, "() => Set<A>".toList, true, none, "Callback function for `run`".toList⟩,
        ⟨"run".toList, "C".toList, true, none, "The `run` prop".toList⟩] } := by
    rw [ofSource, isStripped, ofStripped, Anchor.allOf_of_pairwise (by decide)]
    decide
  obtain ⟨-, ⟨groups, areListed, areProperties, -⟩, areClean⟩ := properties_of_ofSource extracted
  rw [isStripped] at areListed
  exact ⟨_, groups, extracted, rfl, areListed, areProperties, areClean⟩

end Extraction

end ComponentPages
