import ComponentPages.Declaration.TypeText
import ComponentPages.Proofs.Text.Blank
import ComponentPages.Proofs.Text.Pattern

namespace ComponentPages

/-!
# Angles of types

The balance of the angles of a type is that of its parts together, as long as no arrow is cut in
two, and text without angles does not matter to it.
-/

namespace TypeText

variable {text : Text}

/-- Angles are counted from left to right. -/
theorem angleBalanceFrom_append
    (previous : Option Char)
    (first second : Text) :
    angleBalanceFrom previous (first ++ second) =
      angleBalanceFrom previous first + angleBalanceFrom (first.getLast?.or previous) second := by
  induction first generalizing previous with
  | nil =>
      simp [angleBalanceFrom]
  | cons character rest inductionHypothesis =>
      rw [List.cons_append, angleBalanceFrom, angleBalanceFrom, inductionHypothesis,
        Text.Pattern.getLast?_cons_or, Int.add_assoc]

/-- A text without angles has no angles left over. -/
theorem angleBalanceFrom_eq_zero
    (noAngles : ∀ character ∈ text, character ≠ '<' ∧ character ≠ '>')
    (previous : Option Char) :
    angleBalanceFrom previous text = 0 := by
  induction text generalizing previous with
  | nil =>
      rfl
  | cons character rest inductionHypothesis =>
      obtain ⟨⟨notOpening, notClosing⟩, noneLater⟩ := List.forall_mem_cons.mp noAngles
      simp [angleBalanceFrom, notOpening, notClosing, inductionHypothesis noneLater]

/-- What precedes a text matters only if it can be the start of an arrow. -/
theorem angleBalanceFrom_of_ne
    {previous : Option Char}
    (notArrow : previous ≠ some '=')
    (text : Text) :
    angleBalanceFrom previous text = angleBalance text := by
  cases text with
  | nil =>
      rfl
  | cons character rest =>
      simp [angleBalance, angleBalanceFrom, notArrow]

/-- Text without angles in front does not matter, unless it ends in the start of an arrow. -/
theorem angleBalance_append_left
    {lead : Text}
    (noAngles : ∀ character ∈ lead, character ≠ '<' ∧ character ≠ '>')
    (notArrow : lead.getLast? ≠ some '=')
    (text : Text) :
    angleBalance (lead ++ text) = angleBalance text := by
  rw [angleBalance, angleBalanceFrom_append, angleBalanceFrom_eq_zero noAngles, Int.zero_add,
    Option.or_none, angleBalanceFrom_of_ne notArrow]

/-- Text without angles does not change how many angles are left over. -/
theorem angleBalance_append_right
    {behind : Text}
    (noAngles : ∀ character ∈ behind, character ≠ '<' ∧ character ≠ '>')
    (text : Text) :
    angleBalance (text ++ behind) = angleBalance text := by
  rw [angleBalance, angleBalanceFrom_append, angleBalanceFrom_eq_zero noAngles, Int.add_zero,
    ← angleBalance]

/-- No blank is an angle. -/
theorem ne_angle_of_isBlank
    {character : Char}
    (isBlank : Text.isBlank character = true) :
    character ≠ '<' ∧ character ≠ '>' := by
  constructor <;> rintro rfl <;> exact absurd isBlank (by decide)

/-- Blanks around a text do not matter to the balance of its angles. -/
theorem angleBalance_trim (text : Text) : angleBalance (Text.trim text) = angleBalance text := by
  obtain ⟨before, after, isText, beforeBlank, afterBlank⟩ := Text.exists_eq_trim text
  have noneBefore : ∀ character ∈ before, character ≠ '<' ∧ character ≠ '>' :=
    fun character member => ne_angle_of_isBlank (beforeBlank character member)
  have noneAfter : ∀ character ∈ after, character ≠ '<' ∧ character ≠ '>' :=
    fun character member => ne_angle_of_isBlank (afterBlank character member)
  have notArrow : before.getLast? ≠ some '=' := by
    intro isLast
    exact absurd (beforeBlank _ (List.mem_of_getLast? isLast)) (by decide)
  conv_rhs => rw [isText]
  rw [angleBalance_append_left noneBefore notArrow, angleBalance_append_right noneAfter]

end TypeText

end ComponentPages
