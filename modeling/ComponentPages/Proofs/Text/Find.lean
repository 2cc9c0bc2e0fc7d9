import ComponentPages.Proofs.Text.Pattern

namespace ComponentPages

/-!
# Finding a piece of text

What is found first in a text stands there, and no other occurrence ends in front of where it ends.
Nothing is found exactly if the piece stands nowhere.
-/

namespace Text

variable {text needle before after : Text}

/-- What an occurrence is found between makes up the text. -/
theorem eq_append_of_breakOn?
    (found : breakOn? text needle = some (before, after)) :
    text = before ++ (needle ++ after) := by
  induction text generalizing before with
  | nil =>
      rw [breakOn?] at found
      split at found
      · rename_i noNeedle
        obtain ⟨rfl, rfl⟩ := Prod.mk.inj (Option.some.inj found)
        rw [List.isEmpty_iff.mp noNeedle]
        rfl
      · contradiction
  | cons character rest inductionHypothesis =>
      rw [breakOn?] at found
      split at found
      · rename_i behind isLead
        obtain ⟨rfl, rfl⟩ := Prod.mk.inj (Option.some.inj found)
        rw [List.nil_append]
        exact after?_eq_some_iff.mp isLead
      · obtain ⟨⟨front, behind⟩, isLater, same⟩ := Option.map_eq_some_iff.mp found
        obtain ⟨rfl, rfl⟩ := Prod.mk.inj same
        rw [inductionHypothesis isLater, List.cons_append]

private theorem breakOn?_lead
    (needle rest : Text) :
    breakOn? (needle ++ rest) needle = some ([], rest) := by
  have isLead := after?_append needle rest
  cases whole : needle ++ rest with
  | nil =>
      obtain ⟨rfl, rfl⟩ := List.append_eq_nil_iff.mp whole
      rfl
  | cons character later =>
      rw [whole] at isLead
      rw [breakOn?, isLead]

/-- Nothing is found exactly if the needle stands nowhere. -/
theorem breakOn?_eq_none_iff :
    breakOn? text needle = none ↔ ¬ needle <:+: text := by
  constructor
  · rintro notFound ⟨front, behind, rfl⟩
    induction front with
    | nil =>
        rw [List.nil_append, breakOn?_lead] at notFound
        contradiction
    | cons character rest inductionHypothesis =>
        rw [List.cons_append, List.cons_append, breakOn?] at notFound
        split at notFound
        · contradiction
        · exact inductionHypothesis (Option.map_eq_none_iff.mp notFound)
  · intro notInfix
    refine Option.eq_none_iff_forall_ne_some.mpr fun found isFound => notInfix ?_
    rw [eq_append_of_breakOn? isFound]
    exact ⟨found.1, found.2, List.append_assoc _ _ _⟩

/-- In front of the last character of the occurrence that is found no occurrence ends. -/
theorem not_infix_append_dropLast
    (notEmpty : needle ≠ [])
    (found : breakOn? text needle = some (before, after)) :
    ¬ needle <:+: before ++ needle.dropLast := by
  have positive := List.length_pos_of_ne_nil notEmpty
  induction text generalizing before with
  | nil =>
      rw [breakOn?, if_neg (by simpa using notEmpty)] at found
      contradiction
  | cons character rest inductionHypothesis =>
      rw [breakOn?] at found
      split at found
      · obtain ⟨rfl, -⟩ := Prod.mk.inj (Option.some.inj found)
        intro isInfix
        have tooLong := isInfix.length_le
        simp only [List.nil_append, List.length_dropLast] at tooLong
        omega
      · rename_i notThere
        obtain ⟨⟨front, behind⟩, isLater, same⟩ := Option.map_eq_some_iff.mp found
        obtain ⟨rfl, rfl⟩ := Prod.mk.inj same
        intro isInfix
        rcases List.infix_cons_iff.mp isInfix with isStart | inLater
        · have isWhole : character :: (front ++ needle.dropLast) <+: character :: rest := by
            rw [eq_append_of_breakOn? isLater, ← List.append_assoc]
            exact List.cons_prefix_cons.mpr ⟨rfl,
              (List.prefix_append_right_inj front).mpr (List.dropLast_prefix needle)
                |>.trans (List.prefix_append _ behind)⟩
          obtain ⟨left, isLead⟩ := isStart.trans isWhole
          rw [← isLead, after?_append] at notThere
          contradiction
        · exact inductionHypothesis isLater inLater

/-- The occurrence in front of whose last character no other one ends is found. -/
theorem breakOn?_of_not_infix
    (notEmpty : needle ≠ [])
    (noneBefore : ¬ needle <:+: before ++ needle.dropLast) :
    breakOn? (before ++ (needle ++ after)) needle = some (before, after) := by
  have positive := List.length_pos_of_ne_nil notEmpty
  induction before with
  | nil =>
      exact breakOn?_lead needle after
  | cons character front inductionHypothesis =>
      rw [List.cons_append] at noneBefore ⊢
      have notThere : after? (character :: (front ++ (needle ++ after))) needle = none := by
        refine Option.eq_none_iff_forall_ne_some.mpr fun left isLead => noneBefore ?_
        have isPrefix : needle <+: character :: (front ++ (needle ++ after)) :=
          ⟨left, (after?_eq_some_iff.mp isLead).symm⟩
        have isShort : needle.length ≤ (character :: (front ++ needle.dropLast)).length := by
          simp only [List.length_cons, List.length_append, List.length_dropLast]
          omega
        have isCommon : character :: (front ++ needle.dropLast) <+:
            character :: (front ++ (needle ++ after)) := by
          refine List.cons_prefix_cons.mpr ⟨rfl, (List.prefix_append_right_inj front).mpr ?_⟩
          exact (List.dropLast_prefix needle).trans (List.prefix_append needle after)
        exact (List.prefix_of_prefix_length_le isPrefix isCommon isShort).isInfix
      have noneLater : ¬ needle <:+: front ++ needle.dropLast := fun isInfix =>
        noneBefore (isInfix.trans (List.suffix_cons character _).isInfix)
      rw [breakOn?, notThere]
      simp only [inductionHypothesis noneLater, Option.map_some]

/-- The first occurrence is the one in front of whose last character no occurrence ends. -/
theorem breakOn?_eq_some_iff
    (notEmpty : needle ≠ []) :
    breakOn? text needle = some (before, after) ↔
      text = before ++ (needle ++ after) ∧ ¬ needle <:+: before ++ needle.dropLast := by
  constructor
  · intro found
    exact ⟨eq_append_of_breakOn? found, not_infix_append_dropLast notEmpty found⟩
  · rintro ⟨rfl, noneBefore⟩
    exact breakOn?_of_not_infix notEmpty noneBefore

/-- The first occurrence stays the first one when other text stands behind it. -/
theorem breakOn?_append
    (notEmpty : needle ≠ [])
    (found : breakOn? text needle = some (before, after))
    (other : Text) :
    breakOn? (before ++ (needle ++ other)) needle = some (before, other) :=
  breakOn?_of_not_infix notEmpty (not_infix_append_dropLast notEmpty found)

/-- What is found does not stand in front of the place where it is found first. -/
theorem not_infix_of_breakOn?
    (notEmpty : needle ≠ [])
    (found : breakOn? text needle = some (before, after)) :
    ¬ needle <:+: before := by
  intro isInfix
  have isLonger := isInfix.trans (List.prefix_append before needle.dropLast).isInfix
  exact not_infix_append_dropLast notEmpty found isLonger

end Text

end ComponentPages
