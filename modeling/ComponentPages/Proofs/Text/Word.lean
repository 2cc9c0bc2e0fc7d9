import ComponentPages.Text.Word

namespace ComponentPages

/-!
# Kinds of characters

Beyond ASCII the kinds of characters are told apart by their ranges, and within ASCII by going
through the characters. No blank is a word character or a digit.
-/

namespace Text

variable {character : Char}

/-- A character of one list of ranges is in no other one whose ranges are all apart from them. -/
theorem inRanges_eq_false
    {ranges others : List (Nat × Nat)}
    (apart : ∀ range ∈ ranges, ∀ other ∈ others, range.2 < other.1 ∨ other.2 < range.1)
    (within : inRanges ranges character = true) :
    inRanges others character = false := by
  simp only [inRanges, List.any_eq_true, Bool.and_eq_true, decide_eq_true_eq] at within
  obtain ⟨range, isRange, fromFirst, toLast⟩ := within
  simp only [inRanges, List.any_eq_false, Bool.and_eq_true, decide_eq_true_eq, not_and]
  intro other isOther fromOther toOther
  have disjoint := apart range isRange other isOther
  omega

/-- What holds of the first 128 characters holds of every ASCII character. -/
theorem forall_ascii
    (holds : Char → Prop)
    (ofNumbers : ∀ number : Fin 128, holds (Char.ofNat number))
    (isAscii : character.toNat < 128) :
    holds character := by
  rw [← Char.ofNat_toNat character]
  exact ofNumbers ⟨character.toNat, isAscii⟩

/-- No blank is a word character. -/
theorem isWordCharacter_eq_false_of_isBlank
    (blank : isBlank character = true) :
    isWordCharacter character = false := by
  by_cases isAscii : character.toNat < 128
  · exact forall_ascii
      (fun character => isBlank character = true → isWordCharacter character = false)
      (by decide +kernel) isAscii blank
  · rw [isWordCharacter, if_neg isAscii]
    exact inRanges_eq_false (by decide +kernel) blank

/-- No digit is a blank. -/
theorem isBlank_eq_false_of_isDecimalDigit
    (isDigit : isDecimalDigit character = true) :
    isBlank character = false := by
  by_cases isAscii : character.toNat < 128
  · exact forall_ascii
      (fun character => isDecimalDigit character = true → isBlank character = false)
      (by decide +kernel) isAscii isDigit
  · rw [isDecimalDigit, if_neg isAscii] at isDigit
    exact inRanges_eq_false (by decide +kernel) isDigit

/-- No blank is a digit. -/
theorem isDecimalDigit_eq_false_of_isBlank
    (blank : isBlank character = true) :
    isDecimalDigit character = false := by
  cases isDigit : isDecimalDigit character with
  | false =>
      rfl
  | true =>
      rw [isBlank_eq_false_of_isDecimalDigit isDigit] at blank
      contradiction

/-- Letters and digits of the small set are ASCII characters. -/
theorem toNat_lt_of_isAlphanum
    (isAlphanum : character.isAlphanum = true) :
    character.toNat < 128 := by
  have ofLast {last : Char} (atMost : character.val ≤ last.val) (isAscii : last.toNat < 128) :
      character.toNat < 128 :=
    Nat.lt_of_le_of_lt (UInt32.le_iff_toNat_le.mp atMost) isAscii
  rcases (Bool.or_eq_true _ _).mp isAlphanum with isLetter | isDigit
  · rcases (Bool.or_eq_true _ _).mp isLetter with isUpper | isLower
    · exact ofLast (of_decide_eq_true isUpper).2 (by decide)
    · exact ofLast (of_decide_eq_true ((Bool.and_eq_true _ _).mp isLower).2) (by decide)
  · exact ofLast (of_decide_eq_true ((Bool.and_eq_true _ _).mp isDigit).2) (by decide)

/-- Neither letters nor digits of ASCII are blanks. -/
theorem isBlank_eq_false_of_isAlphanum
    (isAlphanum : character.isAlphanum = true) :
    isBlank character = false :=
  forall_ascii (fun character => character.isAlphanum = true → isBlank character = false)
    (by decide +kernel) (toNat_lt_of_isAlphanum isAlphanum) isAlphanum

/-- The digits of decimal notation are digits. -/
theorem isDecimalDigit_of_isDigit
    (isDigit : character.isDigit = true) :
    isDecimalDigit character = true := by
  have isAscii : character.toNat < 128 :=
    Nat.lt_of_le_of_lt (Char.isDigit_iff_toNat.mp isDigit).2 (by decide)
  rw [isDecimalDigit, if_pos isAscii]
  exact isDigit

end Text

end ComponentPages
