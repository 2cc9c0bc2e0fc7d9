import ComponentPages.Proofs.Source.Bytewise

namespace ComponentPages

/-!
# Scanning bytes

A search, a scope and a division are found in the bytes of a text like in its characters, and what
they find is cut out of the text. From any offset on a search finds what a search of the characters
finds, and at any offset, inside a character or beyond the text too, the content that is cut out is
that of the scope. So every cut is between two characters.
-/

namespace Bytewise

variable {reading : Reading} {character : Char}

/-! ## Searches -/

/-- Whether a visit ends a search: the needle at the top level, or a closer below it. -/
def Visit.endsSearch (needle : Char) (visit : Visit) : Bool :=
  decide (visit.role = .closer ∧ visit.depth < 0) ||
    decide (visit.role = .plain ∧ visit.depth = 0 ∧ visit.byte = Utf8.byteOf needle)

/-- The offset of the first needle at depth zero from an offset on, found in the bytes. -/
def findTopLevel? (text : Text) (start : Nat) (needle : Char) : Option Nat :=
  ((visits (Utf8.encode text) start).find? (Visit.endsSearch needle)).bind fun visit =>
    if visit.role = .closer then none else some visit.offset

private theorem isAscii_of_role_closer
    (isClosing : reading.role character = .closer) :
    character.toNat < 128 := by
  have isCloser := (Reading.kind_of_role_closer isClosing).2
  rw [← contains_closers, List.contains_iff_mem] at isCloser
  exact areAscii_closers character isCloser

private theorem isAscii_of_isOpener
    (opens : isOpener character = true) :
    character.toNat < 128 := by
  rw [← contains_openers, List.contains_iff_mem] at opens
  exact areAscii_openers character opens

/-- Neither a plain character nor one in a literal changes the depth. -/
private theorem depth_next_of_plain
    (isPlain : reading.role character = .plain) :
    (reading.next character).depth = reading.depth := by
  rw [Reading.next, isPlain]

private theorem depth_next_of_closer
    (isClosing : reading.role character = .closer) :
    (reading.next character).depth = reading.depth - 1 := by
  rw [Reading.next, isClosing]

/-- Whether a character ends a search. -/
def endsSearch (needle : Char) (reading : Reading) (character : Char) : Bool :=
  decide (reading.role character = .closer ∧ reading.depth ≤ 0) ||
    decide (reading.role character = .plain ∧ reading.depth = 0 ∧ character = needle)

/-- The byte of a character tells whether the search ends at it. -/
theorem tells_endsSearch
    {needle : Char}
    (needleAscii : needle.toNat < 128) :
    Tells (Visit.endsSearch needle) (endsSearch needle) where
  ignores := by
    rintro visit ⟨isBeyond, notCloser⟩
    have noNeedle := Utf8.ne_byteOf_of_le isBeyond needleAscii
    simp [Visit.endsSearch, notCloser, noNeedle]
  isAscii := by
    intro reading character ends
    simp only [endsSearch, Bool.or_eq_true, decide_eq_true_eq] at ends
    rcases ends with ⟨isClosing, -⟩ | ⟨-, -, rfl⟩
    · exact isAscii_of_role_closer isClosing
    · exact needleAscii
  isSame := by
    intro offset reading character isAscii
    rw [Bool.eq_iff_iff]
    simp only [Visit.endsSearch, endsSearch, Bool.or_eq_true, decide_eq_true_eq]
    refine or_congr (and_congr_right fun isClosing => ?_) (and_congr_right fun isPlain => ?_)
    · rw [depth_next_of_closer isClosing]
      omega
    · rw [depth_next_of_plain isPlain, Utf8.byteOf_inj isAscii needleAscii]

/-- The first place that ends a search is where it finds the needle, or it finds none. -/
theorem head?_placesWhere_endsSearch
    (needle : Char)
    (reading : Reading)
    (offset : Nat)
    (text : Text) :
    ((placesWhere (endsSearch needle) reading offset text).head?.bind fun visit =>
        if visit.role = .closer then none else some visit.offset) =
      (breakTopLevelFrom? needle reading text).map
        fun (skipped, _) => offset + skipped.byteLength := by
  induction text generalizing reading offset with
  | nil =>
      rfl
  | cons character rest inductionHypothesis =>
      rw [placesWhere, breakTopLevelFrom?, endsSearch]
      by_cases isClosed : reading.role character = .closer ∧ reading.depth ≤ 0
      · rw [if_pos isClosed, decide_eq_true isClosed, Bool.true_or, if_pos rfl, List.head?_cons,
          Option.bind_some, if_pos isClosed.1]
        rfl
      rw [if_neg isClosed, decide_eq_false isClosed, Bool.false_or]
      by_cases isFound : reading.role character = .plain ∧ reading.depth = 0 ∧ character = needle
      · have notCloser : ¬ reading.role character = .closer := by
          rw [isFound.1]
          decide
        rw [if_pos isFound, decide_eq_true isFound, if_pos rfl, List.head?_cons, Option.bind_some,
          if_neg notCloser]
        rfl
      · rw [if_neg isFound, decide_eq_false isFound, if_neg Bool.false_ne_true,
          inductionHypothesis, Option.map_map]
        refine congrArg (Option.map · _) (funext fun found => ?_)
        exact Nat.add_assoc _ _ _

/-- Wherever a search starts, the bytes tell what the text tells. -/
theorem findTopLevel?_eq
    {needle : Char}
    (needleAscii : needle.toNat < 128)
    (text : Text)
    (start : Nat) :
    findTopLevel? text start needle = ComponentPages.findTopLevel? text start needle := by
  rw [findTopLevel?, ← List.head?_filter, (tells_endsSearch needleAscii).filter_visits,
    head?_placesWhere_endsSearch]
  rfl

/-! ## Scopes -/

/-- Whether a visit closes a scope. -/
def Visit.closes (visit : Visit) : Bool :=
  decide (visit.role = .closer ∧ visit.depth = 0)

/-- The content of the scope that opens at an offset, cut out of the text. -/
def content? (text : Text) (opening : Nat) : Except Text.BadCut (Option Text) :=
  let bytes := Utf8.encode text
  if bytes[opening]?.any (isOneOf openers) then
    match (visits bytes opening).find? Visit.closes with
    | some closer => (text.cut (opening + 1) closer.offset).map some
    | none => .ok none
  else
    .ok none

/-- Whether a character closes a scope. -/
def closes (reading : Reading) (character : Char) : Bool :=
  decide (reading.role character = .closer ∧ (reading.next character).depth = 0)

/-- The byte of a character tells whether the scope is closed by it. -/
theorem tells_closes : Tells Visit.closes closes where
  ignores := by
    rintro visit ⟨-, notCloser⟩
    exact decide_eq_false fun isClosed => notCloser isClosed.1
  isAscii := by
    intro reading character isClosed
    exact isAscii_of_role_closer (of_decide_eq_true isClosed).1
  isSame := fun _ _ _ _ => rfl

/-- The first place that closes the scope is where its content ends. -/
theorem head?_placesWhere_closes
    (reading : Reading)
    (offset : Nat)
    (text : Text) :
    (placesWhere closes reading offset text).head?.map (·.offset) =
      (Scope.contentFrom? reading text).map (offset + ·.byteLength) := by
  induction text generalizing reading offset with
  | nil =>
      rfl
  | cons character rest inductionHypothesis =>
      rw [placesWhere, Scope.contentFrom?, closes]
      by_cases isClosed : reading.role character = .closer ∧ (reading.next character).depth = 0
      · rw [if_pos isClosed, decide_eq_true isClosed, if_pos rfl]
        rfl
      · rw [if_neg isClosed, decide_eq_false isClosed, if_neg Bool.false_ne_true,
          inductionHypothesis, Option.map_map]
        refine congrArg (Option.map · _) (funext fun content => ?_)
        exact Nat.add_assoc _ _ _

/-- At the offset of a place an opener's byte stands exactly if the text behind starts with one. -/
private theorem any_isOneOf_openers (before : Text) (character : Char) (rest : Text) :
    (Utf8.encode (before ++ character :: rest))[before.byteLength]?.any (isOneOf openers) =
      isOpener character := by
  rw [Utf8.getElem?_encode, ← contains_openers]
  by_cases isAscii : character.toNat < 128
  · rw [Utf8.encode_cons, Utf8.encodeCharacter_of_isAscii isAscii]
    exact isOneOf_byteOf areAscii_openers isAscii
  · obtain ⟨lead, tail, isBytes, -⟩ := Utf8.exists_encodeCharacter isAscii
    have isBeyond : 128 ≤ lead.toNat :=
      Utf8.le_of_mem_encodeCharacter isAscii (isBytes ▸ List.mem_cons_self)
    rw [Utf8.encode_cons, isBytes, contains_of_not_isAscii areAscii_openers isAscii]
    exact isOneOf_of_le areAscii_openers isBeyond

/-- Where an opener's byte stands is a place of the text. -/
private theorem exists_place_of_any
    {text : Text}
    {offset : Nat}
    (opens : (Utf8.encode text)[offset]?.any (isOneOf openers) = true) :
    ∃ before rest, text = before ++ rest ∧ before.byteLength = offset := by
  cases stands : (Utf8.encode text)[offset]? with
  | none =>
      rw [stands] at opens
      contradiction
  | some byte =>
      rw [stands, Option.any_some] at opens
      refine Utf8.exists_append_of_getElem? stands (Nat.not_le.mp fun isBeyond => ?_)
      rw [isOneOf_of_le areAscii_openers isBeyond] at opens
      contradiction

/-- The visits from an opener on are those of what stands behind it, read inside the scope. -/
private theorem find?_closes
    {opener : Char}
    (opens : isOpener opener = true)
    (before inside : Text) :
    ((visits (Utf8.encode (before ++ opener :: inside)) before.byteLength).find?
        Visit.closes).map (·.offset) =
      (Scope.contentFrom? ⟨1, none, false⟩ inside).map
        ((before ++ [opener]).byteLength + ·.byteLength) := by
  have notClosed : ¬ closes (Reading.behind before) opener = true := by
    rw [closes, Reading.behind, Reading.role_opener opens, decide_eq_true_iff]
    exact fun isClosed => Role.noConfusion isClosed.1
  have isNext : (Reading.behind before).next opener = ⟨1, none, false⟩ :=
    Reading.next_opener opens
  rw [← List.head?_filter, tells_closes.filter_visits, Text.cutAt_byteLength, placesWhere,
    if_neg notClosed, isNext, head?_placesWhere_closes, Text.byteLength_append]
  rfl

/-- Behind an opener the content of its scope is cut out. -/
theorem cut_content
    {opener : Char}
    (opens : isOpener opener = true)
    (before inside : Text) :
    (match (visits (Utf8.encode (before ++ opener :: inside)) before.byteLength).find?
        Visit.closes with
      | some closer =>
          ((before ++ opener :: inside).cut (before.byteLength + 1) closer.offset).map some
      | none => .ok none) =
      Except.ok (Scope.contentFrom? ⟨1, none, false⟩ inside) := by
  have isFound := find?_closes opens before inside
  cases isContent : Scope.contentFrom? ⟨1, none, false⟩ inside with
  | none =>
      rw [isContent, Option.map_none, Option.map_eq_none_iff] at isFound
      rw [isFound]
  | some content =>
      rw [isContent, Option.map_some, Option.map_eq_some_iff] at isFound
      obtain ⟨closer, isCloser, isOffset⟩ := isFound
      have atZero : Scope.contentFrom? ⟨((0 : Nat) : Int) + 1, none, false⟩ inside = some content :=
        isContent
      obtain ⟨closing, after, rfl, -⟩ := Scope.balanced_of_contentFrom? atZero
      have isStart : before.byteLength + 1 = (before ++ [opener]).byteLength := by
        rw [Text.byteLength_append, Text.byteLength, Text.byteLength,
          Division.utf8Size_of_isAscii (isAscii_of_isOpener opens)]
      have isCut := Text.cut_append (before ++ [opener]) content (closing :: after)
      rw [List.append_assoc, List.singleton_append, Text.byteLength_append _ content,
        ← isOffset, ← isStart] at isCut
      simp only [isCloser, isCut]
      rfl

/-- The content that is cut out is that of the scope, wherever it is looked for. -/
theorem content?_eq
    (text : Text)
    (opening : Nat) :
    content? text opening = .ok (Scope.contentAt? text opening) := by
  rw [content?, Scope.contentAt?]
  cases isRest : text.from? opening with
  | none =>
      refine if_neg fun opens => ?_
      obtain ⟨before, rest, rfl, rfl⟩ := exists_place_of_any opens
      rw [Text.from?_byteLength] at isRest
      contradiction
  | some rest =>
      obtain ⟨before, rfl, rfl⟩ := Text.from?_eq_some_iff.mp isRest
      rw [Option.bind_some]
      cases rest with
      | nil =>
          rw [Utf8.getElem?_encode]
          rfl
      | cons opener inside =>
          simp only [any_isOneOf_openers]
          rw [Scope.content?]
          by_cases opens : isOpener opener = true
          · rw [if_pos opens, if_pos opens]
            exact cut_content opens before inside
          · rw [if_neg opens, if_neg opens]

/-- The content of a scope behind some text is that of the scope by itself. -/
theorem content?_byteLength (front rest : Text) :
    content? (front ++ rest) front.byteLength = .ok (Scope.content? rest) := by
  rw [content?_eq, Scope.contentAt?, Text.from?_byteLength]
  rfl

/-! ## Divisions -/

/-- Whether a visit is one of a separator at the top level. -/
def Visit.separates (separators : List Char) (visit : Visit) : Bool :=
  decide (visit.role = .plain ∧ visit.depth = 0 ∧ isOneOf separators visit.byte = true)

/-- The ranges between separators that stand at some offsets. -/
def rangesBetween (start stop : Nat) : List Nat → List (Nat × Nat)
  | [] => [(start, stop)]
  | separator :: later => (start, separator) :: rangesBetween (separator + 1) stop later

/-- The ranges between the separators at the top level, found in the bytes. -/
def ranges (separators : List Char) (text : Text) : List (Nat × Nat) :=
  let bytes := Utf8.encode text
  rangesBetween 0 bytes.length
    (((visits bytes 0).filter (Visit.separates separators)).map (·.offset))

/-- What stands in the ranges of a text, cut out of it. -/
def cutAll (text : Text) (ranges : List (Nat × Nat)) : Except Text.BadCut (List Text) :=
  ranges.mapM fun (start, stop) => text.cut start stop

/-- The trimmed texts of the ranges, blank ones left out. -/
def segments (separators : List Char) (text : Text) : Except Text.BadCut (List Text) :=
  (cutAll text (ranges separators text)).map fun pieces =>
    (pieces.map Text.trim).filter (!·.isEmpty)

/-- Whether a character is a separator at the top level. -/
def separates (separators : List Char) (reading : Reading) (character : Char) : Bool :=
  decide (reading.role character = .plain ∧ reading.depth = 0 ∧
    separators.contains character = true)

/-- The byte of a character tells whether it separates. -/
theorem tells_separates
    {separators : List Char}
    (areAscii : ∀ separator ∈ separators, separator.toNat < 128) :
    Tells (Visit.separates separators) (separates separators) where
  ignores := by
    rintro visit ⟨isBeyond, -⟩
    rw [Visit.separates, isOneOf_of_le areAscii isBeyond]
    exact decide_eq_false fun isSeparator => Bool.false_ne_true isSeparator.2.2
  isAscii := by
    intro reading character isSeparator
    obtain ⟨-, -, member⟩ := of_decide_eq_true isSeparator
    exact areAscii character (List.contains_iff_mem.mp member)
  isSame := by
    intro offset reading character isAscii
    refine decide_eq_decide.mpr (and_congr_right fun isPlain => ?_)
    rw [depth_next_of_plain isPlain, isOneOf_byteOf areAscii isAscii]

/-- The ranges start where the first of them starts. -/
private theorem exists_rangesBetween
    (start earlier stop : Nat)
    (separators : List Nat) :
    ∃ last later,
      rangesBetween start stop separators = (start, last) :: later ∧
        rangesBetween earlier stop separators = (earlier, last) :: later := by
  cases separators with
  | nil =>
      exact ⟨stop, [], rfl, rfl⟩
  | cons separator later =>
      exact ⟨separator, rangesBetween (separator + 1) stop later, rfl, rfl⟩

/-- The ranges between the places of separators are those of the division. -/
theorem rangesBetween_placesWhere
    {separators : List Char}
    (areAscii : ∀ separator ∈ separators, separator.toNat < 128)
    (reading : Reading)
    (offset : Nat)
    (text : Text) :
    rangesBetween offset (offset + text.byteLength)
        ((placesWhere (separates separators) reading offset text).map (·.offset)) =
      Division.spansFrom offset (Division.ofTextFrom separators.contains reading text) := by
  induction text generalizing reading offset with
  | nil =>
      rfl
  | cons character rest inductionHypothesis =>
      have others := inductionHypothesis (reading.next character) (offset + character.utf8Size)
      rw [Text.byteLength, ← Nat.add_assoc, placesWhere, Division.ofTextFrom, separates]
      by_cases isSeparator : reading.role character = .plain ∧ reading.depth = 0 ∧
          separators.contains character = true
      · have isByte := Division.utf8Size_of_isAscii
          (areAscii character (List.contains_iff_mem.mp isSeparator.2.2))
        rw [if_pos isSeparator, decide_eq_true isSeparator, if_pos rfl, List.map_cons,
          rangesBetween, Division.spansFrom_pushSeparator, ← others, isByte]
      · obtain ⟨last, later, isRanges, isEarlier⟩ := exists_rangesBetween
          (offset + character.utf8Size) offset (offset + character.utf8Size + Text.byteLength rest)
          ((placesWhere (separates separators) (reading.next character)
            (offset + character.utf8Size) rest).map (·.offset))
        obtain ⟨stop, behind, isSpans, isPushed⟩ := Division.exists_spansFrom_push offset character
          (Division.ofTextFrom separators.contains (reading.next character) rest)
        rw [others, isSpans] at isRanges
        obtain ⟨isLast, rfl⟩ := List.cons_eq_cons.mp isRanges
        rw [if_neg isSeparator, decide_eq_false isSeparator, if_neg Bool.false_ne_true, isEarlier,
          isPushed, (Prod.mk.inj isLast).2]

/-- The ranges that are found in the bytes are those of the division. -/
theorem ranges_eq
    {separators : List Char}
    (areAscii : ∀ separator ∈ separators, separator.toNat < 128)
    (text : Text) :
    ranges separators text = (Division.ofText separators.contains text).spans := by
  have isStart : Reading.behind [] = {} :=
    rfl
  have areRanges := rangesBetween_placesWhere areAscii {} 0 text
  rw [Nat.zero_add] at areRanges
  rw [ranges, (tells_separates areAscii).filter_visits, Text.cutAt_zero, isStart, Text.byteLength,
    Utf8.length_encode, areRanges, Division.spans_eq_spansFrom]
  rfl

/-! ## Cutting along ranges -/

/-- What follows a success goes on with its value. -/
theorem ok_bind
    {fault α β : Type}
    (value : α)
    (next : α → Except fault β) :
    (Except.ok value >>= next) = next value :=
  rfl

/-- Steps that all succeed give what they give one by one. -/
theorem mapM_of_forall
    {fault α β : Type}
    {step : α → Except fault β}
    {result : α → β}
    {items : List α}
    (succeed : ∀ item ∈ items, step item = .ok (result item)) :
    items.mapM step = .ok (items.map result) := by
  induction items with
  | nil =>
      rfl
  | cons item later inductionHypothesis =>
      obtain ⟨isFirst, areLater⟩ := List.forall_mem_cons.mp succeed
      rw [List.mapM_cons, isFirst, inductionHypothesis areLater]
      rfl

/-- A range from the end of one piece to the end of the next holds the latter. -/
theorem holds_append (front piece rest : Text) :
    Division.Holds (front ++ (piece ++ rest)) (front.byteLength, (front ++ piece).byteLength)
      piece :=
  ⟨front, rest, (List.append_assoc _ _ _).symm, rfl, rfl⟩

/-- A range that holds a piece is cut out without a fault. -/
theorem cut_of_holds
    {text piece : Text}
    {start stop : Nat}
    (holds : Division.Holds text (start, stop) piece) :
    text.cut start stop = .ok piece := by
  obtain ⟨before, after, rfl, rfl, rfl⟩ := holds
  rw [List.append_assoc]
  exact Text.cut_append before piece after

/-- The pieces that ranges hold are cut out. -/
theorem cutAll_of_holds
    {text : Text}
    {ranges : List (Nat × Nat)}
    {pieces : List Text}
    (hold : List.Forall₂ (Division.Holds text) ranges pieces) :
    cutAll text ranges = .ok pieces := by
  induction hold with
  | nil =>
      rfl
  | cons holds _ inductionHypothesis =>
      rw [cutAll] at inductionHypothesis
      rw [cutAll, List.mapM_cons, inductionHypothesis]
      dsimp only
      rw [cut_of_holds holds]
      rfl

/-- The pieces of a division stand at its ranges. -/
theorem holds_spans
    (separates : Char → Bool)
    (text : Text) :
    List.Forall₂ (Division.Holds text) (Division.ofText separates text).spans
      (Division.ofText separates text).pieces := by
  have hold := Division.holds_spansFrom [] (Division.ofText separates text).first
    (Division.ofText separates text).later
  rw [List.nil_append, Division.ofText, Division.joined_ofTextFrom] at hold
  rwa [Division.spans_eq_spansFrom]

/-- The segments that are cut out are those of the text. -/
theorem segments_eq
    {separators : List Char}
    (areAscii : ∀ separator ∈ separators, separator.toNat < 128)
    (text : Text) :
    segments separators text = .ok (topLevelSegments separators.contains text) := by
  rw [segments, ranges_eq areAscii, cutAll_of_holds (holds_spans _ text)]
  rfl

end Bytewise

end ComponentPages
