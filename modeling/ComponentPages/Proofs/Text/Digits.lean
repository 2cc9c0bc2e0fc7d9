import ComponentPages.Text.Basic
import Mathlib.Data.List.Induction

namespace ComponentPages

/-!
# Decimal notation

A number in decimal notation is a run of digits without a zero too many in front, and its digits
have the value of the number. Every such run is the notation of its value.
-/

namespace Text

/-- The digits of a number have its value. -/
@[simp] theorem digitsValue_ofNat (number : Nat) : digitsValue (ofNat number) = number := by
  rw [digitsValue, ← Nat.ofDigitChars_eq_foldl]
  exact Nat.ofDigitChars_ten_toDigits

/-- A natural number is written in digits. -/
theorem isDigit_of_mem_ofNat
    {number : Nat}
    {digit : Char}
    (member : digit ∈ ofNat number) :
    digit.isDigit = true :=
  Nat.isDigit_of_mem_toDigits (by decide) (by decide) member

/-- A natural number is written in at least one digit. -/
theorem ofNat_ne_nil (number : Nat) : ofNat number ≠ [] :=
  Nat.toDigits_ne_nil

/-- The digit of a number from one to nine is no zero. -/
private theorem digitChar_ne_zero
    {number : Nat}
    (positive : 0 < number)
    (small : number < 10) :
    number.digitChar ≠ '0' := by
  have all : ∀ digit : Fin 10, 0 < digit.val → digit.val.digitChar ≠ '0' := by
    decide
  exact all ⟨number, small⟩ positive

/-- Only zero is written with a zero in front. -/
theorem head?_ofNat_ne_zero
    {number : Nat}
    (positive : 0 < number) :
    (ofNat number).head? ≠ some '0' := by
  induction number using Nat.strongRecOn with
  | _ number inductionHypothesis =>
  by_cases small : number < 10
  · rw [ofNat, Nat.toDigits_of_lt_base small]
    simpa using digitChar_ne_zero positive small
  · have shorter := inductionHypothesis (number / 10) (by omega) (by omega)
    rw [ofNat, Nat.toDigits_of_base_le (by decide) (by omega)]
    obtain ⟨first, later, shape⟩ := List.exists_cons_of_ne_nil (ofNat_ne_nil (number / 10))
    rw [shape] at shorter
    rw [ofNat] at shape
    rwa [shape]

/-- Zero is written as a zero. -/
@[simp] theorem ofNat_zero : ofNat 0 = ['0'] :=
  Nat.toDigits_zero 10

/-! ## Digits of a value -/

/-- The value of a digit is below ten, and the digit is the one of that value. -/
private theorem digitChar_sub
    {digit : Char}
    (isDigit : digit.isDigit = true) :
    digit.toNat - '0'.toNat < 10 ∧ (digit.toNat - '0'.toNat).digitChar = digit := by
  obtain ⟨lower, upper⟩ := Char.isDigit_iff_toNat.mp isDigit
  obtain ⟨value, isValue⟩ := Nat.exists_eq_add_of_le lower
  have small : value < 10 := by
    have nine : '9'.toNat = '0'.toNat + 9 := rfl
    omega
  have all : ∀ value : Fin 10, value.val.digitChar = Char.ofNat ('0'.toNat + value.val) := by
    decide
  rw [isValue, Nat.add_sub_cancel_left]
  refine ⟨small, ?_⟩
  rw [all ⟨value, small⟩, ← isValue, Char.ofNat_toNat]

/-- A last digit adds its value to ten times the value of the digits in front. -/
private theorem digitsValue_concat (front : Text) (digit : Char) :
    digitsValue (front ++ [digit]) = 10 * digitsValue front + (digit.toNat - '0'.toNat) := by
  simp [digitsValue]

/-- Digits without a zero in front are those of their value, which is not zero. -/
theorem ofNat_digitsValue_of_head?
    {digits : Text}
    (notEmpty : digits ≠ [])
    (areDigits : ∀ digit ∈ digits, digit.isDigit = true)
    (noZero : digits.head? ≠ some '0') :
    0 < digitsValue digits ∧ ofNat (digitsValue digits) = digits := by
  induction digits using List.reverseRecOn with
  | nil =>
      contradiction
  | append_singleton front last inductionHypothesis =>
      obtain ⟨areFront, isLast⟩ := List.forall_mem_append.mp areDigits
      obtain ⟨small, isDigit⟩ := digitChar_sub (isLast last (List.mem_singleton_self last))
      rw [digitsValue_concat]
      by_cases isFirst : front = []
      · subst isFirst
        have notZero : last.toNat - '0'.toNat ≠ 0 := by
          intro isZero
          rw [isZero] at isDigit
          exact noZero (congrArg some isDigit.symm)
        have noFront : digitsValue [] = 0 := rfl
        rw [noFront, Nat.mul_zero, Nat.zero_add]
        refine ⟨Nat.pos_of_ne_zero notZero, ?_⟩
        rw [ofNat, Nat.toDigits_of_lt_base small, isDigit, List.nil_append]
      · rw [List.head?_append, Option.or_of_isSome (List.isSome_head?.mpr isFirst)] at noZero
        obtain ⟨positive, isFront⟩ := inductionHypothesis isFirst areFront noZero
        refine ⟨by omega, ?_⟩
        rw [ofNat, ← Nat.toDigits_append_toDigits (by decide) positive small,
          Nat.toDigits_of_lt_base small, isDigit, ← ofNat, isFront]

/-- Digits without a zero too many in front are those of their value. -/
theorem ofNat_digitsValue
    {digits : Text}
    (notEmpty : digits ≠ [])
    (areDigits : ∀ digit ∈ digits, digit.isDigit = true)
    (noPadding : digits.length = 1 ∨ digits.head? ≠ some '0') :
    ofNat (digitsValue digits) = digits := by
  by_cases noZero : digits.head? = some '0'
  · obtain ⟨rest, rfl⟩ := List.head?_eq_some_iff.mp noZero
    obtain isAlone : rest = [] := by
      simpa [noZero] using noPadding
    subst isAlone
    exact ofNat_zero
  · exact (ofNat_digitsValue_of_head? notEmpty areDigits noZero).2

end Text

end ComponentPages
