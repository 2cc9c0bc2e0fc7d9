import ComponentPages.Proofs.Source.Complete
import ComponentPages.Proofs.Source.Division
import ComponentPages.Proofs.Text.Offset

namespace ComponentPages

/-!
# Ranges of pieces

The pieces of a division stand in the text at their ranges. If all separators are ASCII characters,
one byte is left out between two neighbours, and the bytes that are left out are those of the
separators at the top level of the text. What is at the top level is told by complete text, for any
nesting, for closers without openers and for literals that stay open.
-/

namespace Division

variable {separates : Char → Bool}

/-! ## Ranges -/

/--
Ranges from one offset to another, each of which but the first starts one byte behind the end of
the range before it.
-/
inductive Tiles : (start stop : Nat) → List (Nat × Nat) → Prop where
  | last {start stop : Nat} :
      start ≤ stop →
      Tiles start stop [(start, stop)]
  | cons {start gap stop : Nat} {spans : List (Nat × Nat)} :
      start ≤ gap →
      Tiles (gap + 1) stop spans →
      Tiles start stop ((start, gap) :: spans)

/-- Whether an offset lies in one of some ranges. -/
def Covers (spans : List (Nat × Nat)) (offset : Nat) : Prop :=
  ∃ span ∈ spans, span.1 ≤ offset ∧ offset < span.2

private theorem covers_cons
    {span : Nat × Nat}
    {spans : List (Nat × Nat)}
    {offset : Nat} :
    Covers (span :: spans) offset ↔ (span.1 ≤ offset ∧ offset < span.2) ∨ Covers spans offset := by
  simp [Covers]

/-- Whether a range of a text holds a piece. -/
def Holds (text : Text) (span : Nat × Nat) (piece : Text) : Prop :=
  ∃ before after,
    text = before ++ piece ++ after ∧ before.byteLength = span.1 ∧
      (before ++ piece).byteLength = span.2

/-- The first of some ranges can start earlier. -/
private theorem Tiles.of_le
    {start earlier first stop last : Nat}
    {spans : List (Nat × Nat)}
    (isEarlier : earlier ≤ start)
    (tiles : Tiles start stop ((first, last) :: spans)) :
    Tiles earlier stop ((earlier, last) :: spans) := by
  cases tiles with
  | last isBehind =>
      exact .last (Nat.le_trans isEarlier isBehind)
  | cons isBehind tilesLater =>
      exact .cons (Nat.le_trans isEarlier isBehind) tilesLater

/-- Ranges cover nothing in front of their start. -/
private theorem Tiles.le_of_covers
    {start stop offset : Nat}
    {spans : List (Nat × Nat)}
    (tiles : Tiles start stop spans)
    (covers : Covers spans offset) :
    start ≤ offset := by
  obtain ⟨span, isMember, isBehind, _⟩ := covers
  induction tiles with
  | last _ =>
      rwa [List.mem_singleton.mp isMember] at isBehind
  | cons isOrdered _ inductionHypothesis =>
      rcases List.mem_cons.mp isMember with rfl | isLater
      · exact isBehind
      · exact Nat.le_trans isOrdered (Nat.le_of_succ_le (inductionHypothesis isLater))

/-! ## The ranges from an offset on -/

/-- The ranges of the pieces of a division that stands at an offset. -/
def spansFrom (offset : Nat) (division : Division) : List (Nat × Nat) :=
  (offset, offset + division.first.byteLength) ::
    laterSpans (offset + division.first.byteLength) division.later

/-- The spans of a division start at the offset zero. -/
theorem spans_eq_spansFrom (division : Division) : division.spans = spansFrom 0 division := by
  rw [spans, spansFrom, Nat.zero_add]

/-- A separator in front of a division gives an empty span in front. -/
theorem spansFrom_pushSeparator
    (offset : Nat)
    (separator : Char)
    (division : Division) :
    spansFrom offset (pushSeparator separator division) =
      (offset, offset) :: spansFrom (offset + separator.utf8Size) division :=
  rfl

/-- A character in front of a division belongs to its first range. -/
theorem exists_spansFrom_push
    (offset : Nat)
    (character : Char)
    (division : Division) :
    ∃ stop later,
      spansFrom (offset + character.utf8Size) division =
          (offset + character.utf8Size, stop) :: later ∧
        spansFrom offset (push character division) = (offset, stop) :: later := by
  refine ⟨_, _, rfl, ?_⟩
  rw [spansFrom, push, Text.byteLength, ← Nat.add_assoc]

private theorem covers_spansFrom_push
    {start offset : Nat}
    {character : Char}
    {division : Division} :
    Covers (spansFrom start (push character division)) (start + offset) ↔
      offset < character.utf8Size ∨
        Covers (spansFrom (start + character.utf8Size) division) (start + offset) := by
  obtain ⟨stop, later, spans, pushed⟩ := exists_spansFrom_push start character division
  have isBehind : start + character.utf8Size ≤ stop := by
    obtain ⟨isFirst, -⟩ := List.cons_eq_cons.mp spans
    rw [← (Prod.mk.inj isFirst).2]
    exact Nat.le_add_right _ _
  rw [pushed, spans, covers_cons, covers_cons, ← or_assoc]
  exact or_congr_left (by omega)

/-! ## What the ranges leave out -/

/-- An ASCII character has one byte. -/
theorem utf8Size_of_isAscii
    {character : Char}
    (isAscii : character.toNat < 128) :
    character.utf8Size = 1 :=
  Char.utf8Size_eq_one_iff.mpr (UInt32.le_iff_toNat_le.mpr (Nat.le_of_lt_succ isAscii))

/-- Between the ranges one byte each is left out. -/
theorem tiles_spansFrom
    (areAscii : ∀ character, separates character = true → character.toNat < 128)
    (reading : Reading)
    (offset : Nat)
    (text : Text) :
    Tiles offset (offset + text.byteLength)
      (spansFrom offset (ofTextFrom separates reading text)) := by
  induction text generalizing reading offset with
  | nil =>
      exact .last (Nat.le_refl offset)
  | cons character rest inductionHypothesis =>
      have tiles := inductionHypothesis (reading.next character) (offset + character.utf8Size)
      rw [Text.byteLength, ← Nat.add_assoc, ofTextFrom]
      split
      · rename_i isSeparator
        rw [spansFrom_pushSeparator]
        rw [utf8Size_of_isAscii (areAscii character isSeparator.2.2)] at tiles ⊢
        exact .cons (Nat.le_refl offset) tiles
      · obtain ⟨stop, later, spans, pushed⟩ := exists_spansFrom_push offset character
          (ofTextFrom separates (reading.next character) rest)
        rw [spans] at tiles
        rw [pushed]
        exact tiles.of_le (Nat.le_add_right offset _)

/-- Whether a separator at the top level stands at an offset of the text that follows a reading. -/
def SeparatorAt (separates : Char → Bool) (reading : Reading) (text : Text) (offset : Nat) : Prop :=
  ∃ before separator after,
    text = before ++ separator :: after ∧ before.byteLength = offset ∧
      IsSeparator separates (reading.after before) separator

private theorem separatorAt_cons
    {reading : Reading}
    {character : Char}
    {rest : Text}
    {offset : Nat} :
    SeparatorAt separates reading (character :: rest) offset ↔
      (offset = 0 ∧ IsSeparator separates reading character) ∨
        ∃ later,
          offset = character.utf8Size + later ∧
            SeparatorAt separates (reading.next character) rest later := by
  constructor
  · rintro ⟨before, separator, after, isText, rfl, isSeparator⟩
    cases before with
    | nil =>
        obtain ⟨rfl, rfl⟩ := List.cons_eq_cons.mp isText
        exact .inl ⟨rfl, isSeparator⟩
    | cons first later =>
        obtain ⟨rfl, isRest⟩ := List.cons_eq_cons.mp isText
        exact .inr ⟨_, rfl, later, separator, after, isRest, rfl, isSeparator⟩
  · rintro (⟨rfl, isSeparator⟩ | ⟨_, rfl, before, separator, after, rfl, rfl, isSeparator⟩)
    · exact ⟨[], character, rest, rfl, rfl, isSeparator⟩
    · exact ⟨character :: before, separator, after, rfl, rfl, isSeparator⟩

/-- Complete text tells where the separators at the top level of a text stand. -/
theorem separatorAt_iff
    {text : Text}
    {offset : Nat} :
    SeparatorAt separates {} text offset ↔
      ∃ before separator after,
        text = before ++ separator :: after ∧ before.byteLength = offset ∧
          separates separator = true ∧ StandsAtTop before separator := by
  refine exists_congr fun before => exists_congr fun separator => exists_congr fun after =>
    and_congr_right fun _ => and_congr_right fun _ => ?_
  rw [standsAtTop_iff, IsSeparator, ← and_assoc, and_comm]

/-- The ranges leave out the separators at the top level and nothing else. -/
theorem not_covers_spansFrom_iff
    (areAscii : ∀ character, separates character = true → character.toNat < 128)
    (reading : Reading)
    (start : Nat)
    (text : Text)
    {offset : Nat}
    (isInside : offset < text.byteLength) :
    ¬ Covers (spansFrom start (ofTextFrom separates reading text)) (start + offset) ↔
      SeparatorAt separates reading text offset := by
  induction text generalizing reading start offset with
  | nil =>
      contradiction
  | cons character rest inductionHypothesis =>
      rw [Text.byteLength] at isInside
      rw [ofTextFrom, separatorAt_cons]
      split
      · rename_i isSeparator
        have isByte := utf8Size_of_isAscii (areAscii character isSeparator.2.2)
        have tiles := tiles_spansFrom areAscii (reading.next character) (start + 1) rest
        have emptyRange : ¬ (start ≤ start + offset ∧ start + offset < start) := by
          omega
        rw [spansFrom_pushSeparator, isByte, covers_cons, or_iff_right emptyRange]
        rw [isByte] at isInside
        cases offset with
        | zero =>
            refine iff_of_true (fun covers => ?_) (.inl ⟨rfl, isSeparator⟩)
            exact absurd (tiles.le_of_covers covers) (Nat.not_succ_le_self start)
        | succ later =>
            have sameOffset : start + (later + 1) = start + 1 + later := by
              omega
            rw [sameOffset, inductionHypothesis (reading.next character) (start + 1) (by omega)]
            refine ⟨fun found => .inr ⟨later, Nat.add_comm _ _, found⟩, ?_⟩
            rintro (⟨isZero, _⟩ | ⟨other, isOther, found⟩)
            · contradiction
            · obtain rfl : other = later := by
                omega
              exact found
      · rename_i noSeparator
        rw [covers_spansFrom_push, not_or]
        constructor
        · rintro ⟨isBehind, notCovered⟩
          obtain ⟨later, rfl⟩ := Nat.exists_eq_add_of_le (Nat.le_of_not_lt isBehind)
          rw [← Nat.add_assoc, inductionHypothesis _ _ (by omega)] at notCovered
          exact .inr ⟨later, rfl, notCovered⟩
        · rintro (⟨_, isSeparator⟩ | ⟨later, rfl, found⟩)
          · exact absurd isSeparator noSeparator
          · rw [← Nat.add_assoc, inductionHypothesis _ _ (by omega)]
            exact ⟨by omega, found⟩

/-! ## The texts of the ranges -/

/-- The pieces of a division stand in the text at their ranges. -/
theorem holds_spansFrom
    (before first : Text)
    (later : List (Char × Text)) :
    List.Forall₂ (Holds (before ++ (first ++ laterText later)))
      (spansFrom before.byteLength ⟨first, later⟩) (pieces ⟨first, later⟩) := by
  induction later generalizing before first with
  | nil =>
      refine .cons ⟨before, [], ?_, rfl, Text.byteLength_append before first⟩ .nil
      rw [laterText_nil, List.append_assoc]
  | cons behind others inductionHypothesis =>
      obtain ⟨separator, piece⟩ := behind
      have behindPiece := inductionHypothesis (before ++ first ++ [separator]) piece
      refine .cons ⟨before, separator :: (piece ++ laterText others), ?_, rfl,
        Text.byteLength_append before first⟩ ?_
      · rw [laterText_cons, List.append_assoc]
      · have sameText : before ++ (first ++ laterText ((separator, piece) :: others)) =
            before ++ first ++ [separator] ++ (piece ++ laterText others) := by
          simp
        have sameStart : (before ++ first ++ [separator]).byteLength =
            before.byteLength + first.byteLength + separator.utf8Size := by
          rw [Text.byteLength_append, Text.byteLength_append]
          rfl
        rw [sameText]
        rw [sameStart] at behindPiece
        exact behindPiece

/--
The ranges of a text that is divided at ASCII characters go from its start to its end and leave out
one byte between neighbours. What they leave out are the separators at the top level, and their
texts without blanks at the ends are the segments, apart from blank ones.
-/
theorem spans_ofText
    {separates : Char → Bool}
    (areAscii : ∀ character, separates character = true → character.toNat < 128)
    (text : Text) :
    Tiles 0 text.byteLength (ofText separates text).spans ∧
      (∀ offset, offset < text.byteLength →
        (¬ Covers (ofText separates text).spans offset ↔
          ∃ before separator after,
            text = before ++ separator :: after ∧ before.byteLength = offset ∧
              separates separator = true ∧ StandsAtTop before separator)) ∧
      ∃ pieces,
        List.Forall₂ (Holds text) (ofText separates text).spans pieces ∧
          topLevelSegments separates text =
            (pieces.map Text.trim).filter fun piece => !piece.isEmpty := by
  rw [spans_eq_spansFrom]
  refine ⟨?_, ?_, (ofText separates text).pieces, ?_, rfl⟩
  · have tiles := tiles_spansFrom areAscii {} 0 text
    rwa [Nat.zero_add] at tiles
  · intro offset isInside
    have leftOut := not_covers_spansFrom_iff areAscii {} 0 text isInside
    rwa [Nat.zero_add, separatorAt_iff] at leftOut
  · have holds := holds_spansFrom [] (ofText separates text).first (ofText separates text).later
    rwa [List.nil_append, ofText, joined_ofTextFrom] at holds

/-- A closer without its opener, a comma below the top level, and an opener in front of another. -/
def unmatched : Text :=
  "a\x7d, b\x7b, c".toList

/-- Where the depth is below zero nothing is divided, and where it is back at zero something is. -/
theorem spans_ofText_unmatched :
    Tiles 0 9 (ofText (· == ',') unmatched).spans ∧
      ¬ Covers (ofText (· == ',') unmatched).spans 6 ∧
      Covers (ofText (· == ',') unmatched).spans 2 := by
  have areAscii : ∀ character, (character == ',') = true → character.toNat < 128 := by
    intro character isComma
    rw [beq_iff_eq.mp isComma]
    decide
  obtain ⟨tiles, leftOut, _⟩ := spans_ofText areAscii unmatched
  have isTop : StandsAtTop "a\x7d, b\x7b".toList ',' :=
    standsAtTop_iff.mpr (by decide)
  refine ⟨tiles, ?_, ⟨(0, 6), by decide, by decide, by decide⟩⟩
  exact (leftOut 6 (by decide)).mpr ⟨_, _, " c".toList, rfl, rfl, rfl, isTop⟩

end Division

end ComponentPages
