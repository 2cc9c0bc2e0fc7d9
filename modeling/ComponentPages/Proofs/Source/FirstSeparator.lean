import ComponentPages.Proofs.Source.Ranges
import ComponentPages.Proofs.Text.Cut

namespace ComponentPages

/-!
# The first separator of a division

A search at the top level finds the character at which the text would be divided first, unless a
closer in front of it takes the depth below zero: there the search ends, while a division goes on.
A search that starts in the middle of a text reads only what stands from there on, apart from a
backslash right in front of its start, which takes a quote's meaning away.
-/

variable {needle : Char} {reading : Reading}

/-! ## What is found -/

/-- Whether no closer outside literals in a text takes the depth below zero. -/
def StaysInside (reading : Reading) (text : Text) : Prop :=
  reading.Along
    (fun reading character =>
      reading.role character = .closer → 0 ≤ (reading.next character).depth) text

/-- What plays the part of a closer is one outside literals. -/
theorem Reading.kind_of_role_closer
    {character : Char}
    (isClosing : reading.role character = .closer) :
    reading.quote = none ∧ isCloser character = true := by
  rcases reading with ⟨depth, quote, escaped⟩
  cases quote with
  | some quote =>
      cases role_inside.symm.trans isClosing
  | none =>
      refine ⟨rfl, ?_⟩
      rcases opensLiteral_or_delimiter_or_plain escaped character with
        ⟨isQuoting, rfl⟩ | isOpening | isCloser | ⟨notOpener, notCloser, opensNothing⟩
      · cases (role_quote isQuoting).symm.trans isClosing
      · cases (role_opener isOpening).symm.trans isClosing
      · exact isCloser
      · cases (role_plain notOpener notCloser opensNothing).symm.trans isClosing

/-- A closer leaves the depth not below zero exactly if something is open in front of it. -/
theorem Reading.zero_le_next_iff
    {character : Char}
    (isClosing : reading.role character = .closer) :
    0 ≤ (reading.next character).depth ↔ 0 < reading.depth := by
  have isDepth : (reading.next character).depth = reading.depth - 1 := by
    rw [next, isClosing]
  omega

/-- What is found is the first separator of the text, and no closer stands in the way. -/
theorem breakTopLevelFrom?_eq_some_iff
    {text before after : Text} :
    breakTopLevelFrom? needle reading text = some (before, after) ↔
      text = before ++ needle :: after ∧
        Division.Undivided (· == needle) reading before ∧
          Division.IsSeparator (· == needle) (reading.after before) needle ∧
            StaysInside reading before := by
  constructor
  · intro isFound
    induction text generalizing reading before with
    | nil =>
        contradiction
    | cons character rest inductionHypothesis =>
        rw [breakTopLevelFrom?] at isFound
        split at isFound
        · contradiction
        rename_i noEnd
        split at isFound
        · rename_i isNeedle
          obtain ⟨isPlain, atTop, rfl⟩ := isNeedle
          obtain ⟨rfl, rfl⟩ := Prod.mk.inj (Option.some.inj isFound)
          exact ⟨rfl, trivial, ⟨isPlain, atTop, beq_self_eq_true character⟩, trivial⟩
        · rename_i noNeedle
          obtain ⟨⟨later, _⟩, isLater, isBefore⟩ := Option.map_eq_some_iff.mp isFound
          obtain ⟨rfl, rfl⟩ := Prod.mk.inj isBefore
          obtain ⟨rfl, undivided, isSeparator, staysInside⟩ := inductionHypothesis isLater
          refine ⟨rfl, ⟨?_, undivided⟩, isSeparator, fun isClosing => ?_, staysInside⟩
          · rintro ⟨isPlain, atTop, isSame⟩
            exact noNeedle ⟨isPlain, atTop, beq_iff_eq.mp isSame⟩
          · rw [Reading.zero_le_next_iff isClosing]
            exact Int.not_le.mp fun isOutside => noEnd ⟨isClosing, isOutside⟩
  · rintro ⟨rfl, undivided, ⟨isPlain, atTop, -⟩, staysInside⟩
    have passes : reading.Along
        (fun reading character =>
          (reading.role character = .closer → 0 < reading.depth) ∧
            ¬ (reading.role character = .plain ∧ reading.depth = 0 ∧ character = needle)) before := by
      refine (undivided.and staysInside).imp fun reading character passes => ?_
      obtain ⟨noSeparator, isInside⟩ := passes
      refine ⟨fun isClosing => (Reading.zero_le_next_iff isClosing).mp (isInside isClosing), ?_⟩
      rintro ⟨isPlain, atTop, isSame⟩
      exact noSeparator ⟨isPlain, atTop, beq_iff_eq.mpr isSame⟩
    have noEnd : ¬ ((reading.after before).role needle = .closer ∧
        (reading.after before).depth ≤ 0) := by
      rintro ⟨isClosing, -⟩
      cases isPlain.symm.trans isClosing
    rw [breakTopLevelFrom?_append passes, breakTopLevelFrom?, if_neg noEnd,
      if_pos ⟨isPlain, atTop, rfl⟩, Option.map_some]
    simp only [List.append_nil]

/-- A text that is divided has a first separator, and its first range ends there. -/
theorem Division.exists_separator_iff
    {separates : Char → Bool}
    {text : Text}
    {index : Nat} :
    (2 ≤ (ofText separates text).spans.length ∧
        (ofText separates text).spans.head? = some (0, index)) ↔
      ∃ before separator after,
        text = before ++ separator :: after ∧ before.byteLength = index ∧
          Undivided separates {} before ∧
            IsSeparator separates (Reading.after {} before) separator := by
  constructor
  · rintro ⟨isDivided, isFirst⟩
    have isText := joined_ofTextFrom separates {} text
    have divides := divides_ofTextFrom separates {} text
    rw [ofText] at isDivided isFirst
    rcases isDivision : ofTextFrom separates {} text with ⟨first, later⟩
    rw [isDivision] at isDivided isFirst isText divides
    have isIndex : first.byteLength = index := congrArg Prod.snd (Option.some.inj isFirst)
    cases later with
    | nil =>
        exact absurd isDivided (Nat.not_succ_le_self 1)
    | cons behind others =>
        exact ⟨first, behind.1, _, isText.symm, isIndex, divides.1, divides.2.1⟩
  · rintro ⟨before, separator, after, rfl, rfl, undivided, isSeparator⟩
    have isDivision : ofTextFrom separates (Reading.after {} before) (separator :: after) =
        pushSeparator separator
          (ofTextFrom separates ((Reading.after {} before).next separator) after) :=
      if_pos isSeparator
    rw [ofText, ofTextFrom_append_of_undivided undivided, isDivision, pushSeparator]
    refine ⟨?_, ?_⟩
    · rw [spans, laterSpans]
      exact Nat.le_add_left 2 _
    · rw [spans, List.append_nil]
      rfl

/-! ## Closers that end a search -/

/-- Whether a closer outside literals that stands before an offset takes the depth below zero. -/
def LeavesBefore (text : Text) (offset : Nat) : Prop :=
  ∃ before closer after change last,
    text = before ++ closer :: after ∧ before.byteLength < offset ∧
      isCloser closer = true ∧ Complete false before change last ∧ change - 1 < 0

/-- A text stays inside if the depth is below zero behind none of its closers outside literals. -/
theorem staysInside_iff
    {text rest : Text} :
    StaysInside {} text ↔ ¬ LeavesBefore (text ++ rest) text.byteLength := by
  rw [StaysInside, Reading.along_iff]
  constructor
  · rintro staysInside ⟨before, closer, after, change, last, isText, isBefore, isClosing, complete,
      isBelow⟩
    rcases List.append_eq_append_iff.mp isText with ⟨later, rfl, -⟩ | ⟨later, rfl, isRest⟩
    · rw [Text.byteLength_append] at isBefore
      exact absurd isBefore (Nat.not_lt.mpr (Nat.le_add_right _ _))
    cases later with
    | nil =>
        rw [List.append_nil] at isBefore
        exact absurd isBefore (Nat.lt_irrefl _)
    | cons character later =>
        obtain ⟨rfl, -⟩ := List.cons_eq_cons.mp isRest
        have isInside := staysInside before closer later rfl
        rw [complete.after 0, Reading.next_closer isClosing, Int.zero_add] at isInside
        exact absurd (isInside (Reading.role_closer isClosing)) (Int.not_le.mpr isBelow)
  · rintro notBelow before closer after rfl isClosing
    refine Int.not_lt.mp fun isBelow => notBelow ?_
    rcases isAfter : Reading.after {} before with ⟨depth, quote, last⟩
    rw [isAfter] at isClosing isBelow
    obtain ⟨rfl, isCloser⟩ := Reading.kind_of_role_closer isClosing
    have isAfterChange : Reading.after {} before = ⟨0 + depth, none, last⟩ := by
      rw [isAfter, Int.zero_add]
    rw [Reading.next_closer isCloser] at isBelow
    refine ⟨before, closer, after ++ rest, depth, last, ?_, ?_, isCloser,
      Reading.after_eq_iff_complete.mp isAfterChange, isBelow⟩
    · rw [List.append_assoc, List.cons_append]
    · rw [Text.byteLength_append, Text.byteLength]
      have hasBytes := Char.utf8Size_pos closer
      omega

/-! ## Searches from an offset -/

private theorem findTopLevel?_byteLength
    (before rest : Text)
    (needle : Char) :
    findTopLevel? (before ++ rest) before.byteLength needle =
      (breakTopLevelFrom? needle (Reading.behind before) rest).map
        fun (skipped, _) => before.byteLength + skipped.byteLength := by
  rw [findTopLevel?, Text.cutAt_byteLength]

/-- A search from the start reads the whole text. -/
theorem findTopLevel?_zero
    (text : Text)
    (needle : Char) :
    findTopLevel? text 0 needle =
      (breakTopLevelFrom? needle {} text).map fun (skipped, _) => skipped.byteLength := by
  have noBackslash : Reading.behind [] = {} :=
    rfl
  have fromStart := findTopLevel?_byteLength [] text needle
  simpa only [List.nil_append, Text.byteLength, Nat.zero_add, noBackslash] using fromStart

/-- What a search finds is a place where the needle stands. -/
theorem exists_place_of_findTopLevel?
    {text : Text}
    {start index : Nat}
    {needle : Char}
    (isFound : findTopLevel? text start needle = some index) :
    ∃ before after, text = before ++ needle :: after ∧ before.byteLength = index := by
  have isText := Text.cutAt_append start text
  obtain ⟨⟨skipped, after⟩, isBroken, rfl⟩ := Option.map_eq_some_iff.mp isFound
  obtain ⟨isRest, -⟩ := breakTopLevelFrom?_eq_some_iff.mp isBroken
  refine ⟨(text.cutAt start).1 ++ skipped, after, ?_, Text.byteLength_append _ _⟩
  rw [List.append_assoc, ← isRest, isText]

/-- Behind a place where no byte of a backslash precedes a search starts anew. -/
theorem Reading.behind_eq
    {before rest : Text}
    (noBackslash : before.byteLength = 0 ∨
      (Utf8.encode (before ++ rest))[before.byteLength - 1]? ≠ some (Utf8.byteOf '\\')) :
    behind before = {} := by
  have notLast : before.getLast? ≠ some '\\' := by
    intro isLast
    have notEmpty := List.ne_nil_of_mem (List.mem_of_getLast? isLast)
    have isByte := (Utf8.getLast?_encode (by decide) before).mpr isLast
    rw [← Utf8.getElem?_encode_pred notEmpty rest] at isByte
    exact noBackslash.elim (Nat.ne_of_gt (Text.byteLength_pos notEmpty)) fun isOther =>
      isOther isByte
  rw [behind, beq_eq_false_iff_ne.mpr notLast]

/--
A search from the start finds the end of the first of several ranges, unless a closer in front of
it takes the depth below zero. A search from a later place that no backslash precedes finds what
one from the start of the text from that place on finds.
-/
theorem findTopLevel?_agrees
    (text : Text)
    (needle : Char) :
    (∀ index,
      findTopLevel? text 0 needle = some index ↔
        2 ≤ (Division.ofText (· == needle) text).spans.length ∧
          (Division.ofText (· == needle) text).spans.head? = some (0, index) ∧
            ¬ LeavesBefore text index) ∧
      ∀ offset rest,
        text.from? offset = some rest →
          (offset = 0 ∨ (Utf8.encode text)[offset - 1]? ≠ some (Utf8.byteOf '\\')) →
            findTopLevel? text offset needle =
              (findTopLevel? rest 0 needle).map (offset + ·) := by
  refine ⟨fun index => ?_, fun offset rest isFrom noBackslash => ?_⟩
  · rw [findTopLevel?_zero, ← and_assoc, Division.exists_separator_iff, Option.map_eq_some_iff]
    constructor
    · rintro ⟨⟨before, after⟩, isFound, rfl⟩
      obtain ⟨rfl, undivided, isSeparator, staysInside⟩ := breakTopLevelFrom?_eq_some_iff.mp isFound
      exact ⟨⟨before, needle, after, rfl, rfl, undivided, isSeparator⟩,
        staysInside_iff.mp staysInside⟩
    · rintro ⟨⟨before, separator, after, rfl, rfl, undivided, isSeparator⟩, notLeft⟩
      obtain rfl : separator = needle := beq_iff_eq.mp isSeparator.2.2
      exact ⟨(before, after), breakTopLevelFrom?_eq_some_iff.mpr
        ⟨rfl, undivided, isSeparator, staysInside_iff.mpr notLeft⟩, rfl⟩
  · obtain ⟨before, rfl, rfl⟩ := Text.from?_eq_some_iff.mp isFrom
    rw [findTopLevel?_byteLength, findTopLevel?_zero, Reading.behind_eq noBackslash,
      Option.map_map]
    rfl

/-- The closer at the second place ends the search from the start, but not one from behind it. -/
theorem findTopLevel?_agrees_unmatched :
    (Division.ofText (· == ',') Division.unmatched).spans = [(0, 6), (7, 9)] ∧
      findTopLevel? Division.unmatched 0 ',' ≠ some 6 ∧
        findTopLevel? Division.unmatched 2 ',' = some 2 := by
  obtain ⟨fromStart, fromPlace⟩ := findTopLevel?_agrees Division.unmatched ','
  have complete : Complete false "a".toList 0 false :=
    .plain (by decide) (by decide) (by decide) .nil
  refine ⟨by decide, fun isFound => ((fromStart 6).mp isFound).2.2 ?_, ?_⟩
  · exact ⟨"a".toList, '\x7d', ", b\x7b, c".toList, 0, false, by decide, by decide, by decide,
      complete, by decide⟩
  · rw [fromPlace 2 ", b\x7b, c".toList (by decide) (.inr (by decide))]
    decide

end ComponentPages
