import ComponentPages.Text.Basic

namespace ComponentPages

/-!
# Offsets into a text

The length in bytes of what stands in front of a place is the offset of that place, and cutting a
text at this offset gives back the two parts.
-/

namespace Text

/-- The bytes of texts add up. -/
@[simp] theorem byteLength_append
    (first second : Text) :
    byteLength (first ++ second) = byteLength first + byteLength second := by
  induction first with
  | nil =>
      simp [byteLength]
  | cons character rest inductionHypothesis =>
      simp only [List.cons_append, byteLength, inductionHypothesis]
      omega

/-- The length of a text that is not empty leaves the length of its rest behind its first
character. -/
theorem exists_byteLength_cons
    (character : Char)
    (rest : Text) :
    ∃ offset,
      byteLength (character :: rest) = offset + 1 ∧
        character.utf8Size ≤ offset + 1 ∧
          offset + 1 - character.utf8Size = byteLength rest := by
  have positive := Char.utf8Size_pos character
  refine ⟨character.utf8Size + byteLength rest - 1, ?_, ?_, ?_⟩
  · rw [byteLength]
    omega
  · omega
  · omega

/-- A text that is not empty has bytes. -/
theorem byteLength_pos
    {text : Text}
    (notEmpty : text ≠ []) :
    0 < byteLength text := by
  obtain ⟨character, rest, rfl⟩ := List.exists_cons_of_ne_nil notEmpty
  exact Nat.lt_of_lt_of_le (Char.utf8Size_pos character) (Nat.le_add_right _ _)

/-- The end of a text has no more bytes than the text. -/
theorem byteLength_le_of_suffix
    {text rest : Text}
    (isSuffix : rest <:+ text) :
    byteLength rest ≤ byteLength text := by
  obtain ⟨front, rfl⟩ := isSuffix
  rw [byteLength_append]
  exact Nat.le_add_left _ _

/-- The text from the offset of a place on is what stands behind the place. -/
theorem from?_byteLength
    (before rest : Text) :
    from? (byteLength before) (before ++ rest) = some rest := by
  induction before with
  | nil =>
      cases rest <;> rfl
  | cons character later inductionHypothesis =>
      obtain ⟨offset, isOffset, fits, left⟩ := exists_byteLength_cons character later
      rw [isOffset, List.cons_append, from?, if_pos fits, left, inductionHypothesis]

/-- A text is split at one offset in one way only. -/
theorem append_inj_of_byteLength
    {before rest otherBefore otherRest : Text}
    (same : before ++ rest = otherBefore ++ otherRest)
    (sameOffset : byteLength before = byteLength otherBefore) :
    before = otherBefore ∧ rest = otherRest := by
  have isRest := from?_byteLength before rest
  rw [same, sameOffset, from?_byteLength] at isRest
  obtain rfl := Option.some.inj isRest
  exact ⟨List.append_cancel_right same, rfl⟩

/-- The text from an offset is what stands behind as many bytes. -/
theorem from?_eq_some_iff
    {offset : Nat}
    {text rest : Text} :
    from? offset text = some rest ↔
      ∃ before, text = before ++ rest ∧ byteLength before = offset := by
  constructor
  · intro found
    fun_induction from? offset text with
    | case1 text =>
        obtain rfl := Option.some.inj found
        exact ⟨[], rfl, rfl⟩
    | case2 =>
        contradiction
    | case3 offset character later fits inductionHypothesis =>
        obtain ⟨before, rfl, isLength⟩ := inductionHypothesis found
        refine ⟨character :: before, rfl, ?_⟩
        rw [byteLength, isLength]
        omega
    | case4 =>
        contradiction
  · rintro ⟨before, rfl, rfl⟩
    exact from?_byteLength before rest

/-- Cutting at the start cuts off nothing. -/
theorem cutAt_zero (text : Text) : cutAt 0 text = ([], text) := by
  cases text <;> rfl

/-- Behind some text a cut goes on with the rest of the offset. -/
theorem cutAt_add
    (before rest : Text)
    (offset : Nat) :
    cutAt (byteLength before + offset) (before ++ rest) =
      (before ++ (cutAt offset rest).1, (cutAt offset rest).2) := by
  induction before with
  | nil =>
      rw [byteLength, Nat.zero_add, List.nil_append, List.nil_append]
  | cons character later inductionHypothesis =>
      have positive := Char.utf8Size_pos character
      obtain ⟨total, isTotal⟩ : ∃ total, byteLength (character :: later) + offset = total + 1 :=
        ⟨character.utf8Size + byteLength later + offset - 1, by rw [byteLength]; omega⟩
      have left : total + 1 - character.utf8Size = byteLength later + offset := by
        rw [← isTotal, byteLength, Nat.add_assoc, Nat.add_sub_cancel_left]
      rw [isTotal, List.cons_append, cutAt, left, inductionHypothesis]
      rfl

/-- Cutting at the offset of a place gives what stands in front of it and behind it. -/
theorem cutAt_byteLength
    (before rest : Text) :
    cutAt (byteLength before) (before ++ rest) = (before, rest) := by
  have isCut := cutAt_add before rest 0
  rwa [cutAt_zero, List.append_nil, Nat.add_zero] at isCut

/-- Wherever a text is cut, nothing is lost. -/
theorem cutAt_append
    (offset : Nat)
    (text : Text) :
    (cutAt offset text).1 ++ (cutAt offset text).2 = text := by
  fun_induction cutAt offset text with
  | case1 =>
      rfl
  | case2 =>
      rfl
  | case3 offset character rest before after isCut inductionHypothesis =>
      rw [isCut] at inductionHypothesis
      exact congrArg (character :: ·) inductionHypothesis

/-- An offset inside a character counts as the end of the character. -/
theorem cutAt_inside
    {character : Char}
    {inside : Nat}
    (isPositive : 0 < inside)
    (isInside : inside ≤ character.utf8Size)
    (before rest : Text) :
    cutAt (byteLength before + inside) (before ++ character :: rest) =
      (before ++ [character], rest) := by
  obtain ⟨less, rfl⟩ := Nat.exists_eq_add_one_of_ne_zero (Nat.ne_of_gt isPositive)
  rw [cutAt_add, cutAt, Nat.sub_eq_zero_of_le isInside, cutAt_zero]

/-- Nothing stands behind an offset beyond a text. -/
theorem cutAt_of_le
    {text : Text}
    {offset : Nat}
    (isBeyond : byteLength text ≤ offset) :
    cutAt offset text = (text, []) := by
  obtain ⟨more, rfl⟩ := Nat.exists_eq_add_of_le isBeyond
  have isCut := cutAt_add text [] more
  rwa [cutAt, List.append_nil] at isCut

/-- An offset is that of a place in a text, lies inside a character, or is beyond the text. -/
theorem place_or_inside_or_beyond
    (text : Text)
    (offset : Nat) :
    (∃ before rest, text = before ++ rest ∧ byteLength before = offset) ∨
      (∃ before character rest inside,
        text = before ++ character :: rest ∧ byteLength before + inside = offset ∧
          0 < inside ∧ inside < character.utf8Size) ∨
        byteLength text < offset := by
  induction text generalizing offset with
  | nil =>
      rcases Nat.eq_zero_or_pos offset with rfl | isBeyond
      · exact .inl ⟨[], [], rfl, rfl⟩
      · exact .inr (.inr isBeyond)
  | cons character rest inductionHypothesis =>
      rcases Nat.lt_or_ge offset character.utf8Size with isInside | isBehind
      · rcases Nat.eq_zero_or_pos offset with rfl | isPositive
        · exact .inl ⟨[], character :: rest, rfl, rfl⟩
        · exact .inr (.inl ⟨[], character, rest, offset, rfl, Nat.zero_add _, isPositive, isInside⟩)
      obtain ⟨later, rfl⟩ := Nat.exists_eq_add_of_le isBehind
      rcases inductionHypothesis later with
        ⟨before, behind, rfl, rfl⟩ | ⟨before, other, behind, inside, rfl, rfl, isInside⟩ | isBeyond
      · exact .inl ⟨character :: before, behind, rfl, rfl⟩
      · exact .inr (.inl ⟨character :: before, other, behind, inside, rfl, Nat.add_assoc _ _ _,
          isInside⟩)
      · exact .inr (.inr (Nat.add_lt_add_left isBeyond _))
end Text

end ComponentPages
