import ComponentPages.Proofs.Text.Offset
import ComponentPages.Proofs.Text.Utf8

namespace ComponentPages

/-!
# Cutting text between its bytes

An ASCII character is one byte, and every byte of another character is beyond ASCII. The first byte
of a character starts one and the others continue it, so an offset in the bytes of a text lies
between two of its characters exactly if no byte that continues a character stands there. A text is
cut at two offsets of which the first is not behind the second; anything else is a bad cut.
-/

namespace Utf8

/-! ## The bytes of a character -/

/-- The byte of an ASCII character. -/
def byteOf (character : Char) : UInt8 :=
  UInt8.ofNat character.toNat

private theorem toNat_byteOf
    {character : Char}
    (isAscii : character.toNat < 128) :
    (byteOf character).toNat = character.toNat :=
  toNat_ofNat_of_lt (Nat.lt_trans isAscii (by decide))

/-- ASCII characters with one byte are one character. -/
theorem byteOf_inj
    {character other : Char}
    (isAscii : character.toNat < 128)
    (otherAscii : other.toNat < 128) :
    byteOf character = byteOf other ↔ character = other := by
  refine ⟨fun same => Char.toNat_inj.mp ?_, congrArg byteOf⟩
  rw [← toNat_byteOf isAscii, same, toNat_byteOf otherAscii]

/-- ASCII characters are told apart by their bytes. -/
theorem beq_byteOf
    {character other : Char}
    (isAscii : character.toNat < 128)
    (otherAscii : other.toNat < 128) :
    (byteOf character == byteOf other) = (character == other) := by
  rw [Bool.eq_iff_iff, beq_iff_eq, beq_iff_eq, byteOf_inj isAscii otherAscii]

/-- A byte beyond ASCII is that of no ASCII character. -/
theorem ne_byteOf_of_le
    {byte : UInt8}
    {character : Char}
    (isBeyond : 128 ≤ byte.toNat)
    (isAscii : character.toNat < 128) :
    byte ≠ byteOf character := by
  rintro rfl
  rw [toNat_byteOf isAscii] at isBeyond
  exact absurd isAscii (Nat.not_lt.mpr isBeyond)

/-- Whether a byte continues a character that an earlier byte starts. -/
def continues (byte : UInt8) : Bool :=
  (continuationBits? byte).isSome

private theorem continues_iff {byte : UInt8} :
    continues byte = true ↔ 0x80 ≤ byte.toNat ∧ byte.toNat < 0xC0 := by
  rw [continues, continuationBits?]
  split
  · rename_i isWithin
    simpa using isWithin
  · rename_i notWithin
    simpa using notWithin

private theorem toNat_continuation (bits : Nat) :
    (continuation bits).toNat = 0x80 + bits % 0x40 := by
  rw [continuation, UInt8.toNat_ofNat']
  omega

/-- An ASCII character is encoded by its byte. -/
theorem encodeCharacter_of_isAscii
    {character : Char}
    (isAscii : character.toNat < 128) :
    encodeCharacter character = [byteOf character] :=
  if_pos isAscii

/-- The bytes of a character beyond ASCII are one that starts it and others that continue it. -/
theorem exists_encodeCharacter
    {character : Char}
    (notAscii : ¬ character.toNat < 128) :
    ∃ lead tail,
      encodeCharacter character = lead :: tail ∧ 0xC0 ≤ lead.toNat ∧
        (∀ byte ∈ tail, continues byte = true) ∧ tail.length + 1 = character.utf8Size := by
  have areContinuing (bits : List Nat) :
      ∀ byte ∈ bits.map continuation, continues byte = true := by
    intro byte member
    obtain ⟨number, -, rfl⟩ := List.mem_map.mp member
    rw [continues_iff, toNat_continuation]
    omega
  have bound : character.toNat < 0x110000 := by
    rcases character.valid with low | high
    · exact Nat.lt_trans low (by decide)
    · exact high.2
  have isCode : character.val.toNat = character.toNat := rfl
  unfold encodeCharacter Char.utf8Size
  simp only [UInt32.le_iff_toNat_le, isCode]
  by_cases isTwo : character.toNat < 0x800
  · refine ⟨UInt8.ofNat (0xC0 + character.toNat / 0x40), [character.toNat].map continuation,
      ?_, ?_, areContinuing _, ?_⟩
    · rw [if_neg notAscii, if_pos isTwo]
      rfl
    · rw [toNat_ofNat_of_lt (by omega)]
      omega
    · rw [if_neg (by simp; omega), if_pos (by simp; omega)]
      rfl
  by_cases isThree : character.toNat < 0x10000
  · refine ⟨UInt8.ofNat (0xE0 + character.toNat / 0x1000),
      [character.toNat / 0x40, character.toNat].map continuation, ?_, ?_, areContinuing _, ?_⟩
    · rw [if_neg notAscii, if_neg isTwo, if_pos isThree]
      rfl
    · rw [toNat_ofNat_of_lt (by omega)]
      omega
    · rw [if_neg (by simp; omega), if_neg (by simp; omega), if_pos (by simp; omega)]
      rfl
  · refine ⟨UInt8.ofNat (0xF0 + character.toNat / 0x40000),
      [character.toNat / 0x1000, character.toNat / 0x40, character.toNat].map continuation, ?_, ?_,
      areContinuing _, ?_⟩
    · rw [if_neg notAscii, if_neg isTwo, if_neg isThree]
      rfl
    · rw [toNat_ofNat_of_lt (by omega)]
      omega
    · rw [if_neg (by simp; omega), if_neg (by simp; omega), if_neg (by simp; omega)]
      rfl

/-- No byte of a character beyond ASCII is that of an ASCII character. -/
theorem le_of_mem_encodeCharacter
    {character : Char}
    {byte : UInt8}
    (notAscii : ¬ character.toNat < 128)
    (member : byte ∈ encodeCharacter character) :
    128 ≤ byte.toNat := by
  obtain ⟨lead, tail, isBytes, isLead, areContinuing, -⟩ := exists_encodeCharacter notAscii
  rw [isBytes] at member
  rcases List.mem_cons.mp member with rfl | isLater
  · exact Nat.le_trans (by decide) isLead
  · exact (continues_iff.mp (areContinuing byte isLater)).1

/-- One byte starts a character and all others continue it. -/
theorem exists_lead (character : Char) :
    ∃ lead tail,
      encodeCharacter character = lead :: tail ∧ continues lead = false ∧
        (∀ byte ∈ tail, continues byte = true) ∧ tail.length + 1 = character.utf8Size := by
  by_cases isAscii : character.toNat < 128
  · refine ⟨byteOf character, [], encodeCharacter_of_isAscii isAscii, ?_, List.forall_mem_nil _, ?_⟩
    · have isByte := toNat_byteOf isAscii
      rw [← Bool.not_eq_true, continues_iff]
      omega
    · exact (Char.utf8Size_eq_one_iff.mpr
        (UInt32.le_iff_toNat_le.mpr (Nat.le_of_lt_succ isAscii))).symm
  · obtain ⟨lead, tail, isBytes, isLead, areContinuing, isLength⟩ := exists_encodeCharacter isAscii
    refine ⟨lead, tail, isBytes, ?_, areContinuing, isLength⟩
    rw [← Bool.not_eq_true, continues_iff]
    omega

/-- The encoding of a character has its number of bytes. -/
theorem length_encodeCharacter (character : Char) :
    (encodeCharacter character).length = character.utf8Size := by
  obtain ⟨lead, tail, isBytes, -, -, isLength⟩ := exists_lead character
  rw [isBytes, List.length_cons, isLength]

/-! ## The bytes of a text -/

@[simp] private theorem encode_nil : encode [] = [] :=
  rfl

/-- A text is encoded character by character. -/
@[simp] theorem encode_cons (character : Char) (rest : Text) :
    encode (character :: rest) = encodeCharacter character ++ encode rest :=
  List.flatMap_cons

@[simp] private theorem encode_append (first second : Text) :
    encode (first ++ second) = encode first ++ encode second :=
  List.flatMap_append

/-- The encoding of a text has its number of bytes. -/
@[simp] theorem length_encode (text : Text) : (encode text).length = text.byteLength := by
  induction text with
  | nil =>
      rfl
  | cons character rest inductionHypothesis =>
      rw [encode_cons, List.length_append, inductionHypothesis, length_encodeCharacter,
        Text.byteLength]

/-- The bytes behind a place are those of what stands behind it. -/
theorem drop_encode (before rest : Text) :
    (encode (before ++ rest)).drop before.byteLength = encode rest := by
  rw [encode_append, List.drop_left' (length_encode before)]

/-- The first byte of a text is that of an ASCII character exactly if the text starts with it. -/
theorem head?_encode
    {character : Char}
    (isAscii : character.toNat < 128)
    (text : Text) :
    (encode text).head? = some (byteOf character) ↔ text.head? = some character := by
  cases text with
  | nil =>
      simp
  | cons first rest =>
      rw [encode_cons, List.head?_cons, Option.some.injEq]
      by_cases firstAscii : first.toNat < 128
      · rw [encodeCharacter_of_isAscii firstAscii, List.singleton_append, List.head?_cons,
          Option.some.injEq, byteOf_inj firstAscii isAscii]
      · obtain ⟨lead, tail, isBytes, -⟩ := exists_encodeCharacter firstAscii
        have isBeyond : 128 ≤ lead.toNat :=
          le_of_mem_encodeCharacter firstAscii (isBytes ▸ List.mem_cons_self)
        rw [isBytes, List.cons_append, List.head?_cons, Option.some.injEq]
        exact iff_of_false (ne_byteOf_of_le isBeyond isAscii)
          fun isSame => firstAscii (isSame ▸ isAscii)

/-- The last byte of a text is that of an ASCII character exactly if the text ends in it. -/
theorem getLast?_encode
    {character : Char}
    (isAscii : character.toNat < 128)
    (text : Text) :
    (encode text).getLast? = some (byteOf character) ↔ text.getLast? = some character := by
  rcases List.eq_nil_or_concat text with rfl | ⟨front, last, rfl⟩
  · simp
  rw [List.concat_eq_append, encode_append, encode_cons, encode_nil, List.append_nil,
    List.getLast?_concat, Option.some.injEq]
  by_cases lastAscii : last.toNat < 128
  · rw [encodeCharacter_of_isAscii lastAscii, List.getLast?_concat, Option.some.injEq,
      byteOf_inj lastAscii isAscii]
  · obtain ⟨lead, tail, isBytes, -⟩ := exists_encodeCharacter lastAscii
    obtain ⟨byte, isByte⟩ : ∃ byte, (encodeCharacter last).getLast? = some byte :=
      ⟨_, isBytes ▸ List.getLast?_cons⟩
    have isBeyond := le_of_mem_encodeCharacter lastAscii (List.mem_of_getLast? isByte)
    rw [List.getLast?_append, isByte, Option.some_or, Option.some.injEq]
    exact iff_of_false (ne_byteOf_of_le isBeyond isAscii)
      fun isSame => lastAscii (isSame ▸ isAscii)

/-- What stands in front of an ASCII character that a text stops at, byte by byte. -/
theorem takeWhile_encode
    {stop : Char}
    (isAscii : stop.toNat < 128)
    (text : Text) :
    (encode text).takeWhile (· != byteOf stop) = encode (text.takeWhile (· != stop)) := by
  induction text with
  | nil =>
      rfl
  | cons character rest inductionHypothesis =>
      by_cases characterAscii : character.toNat < 128
      · rw [encode_cons, encodeCharacter_of_isAscii characterAscii, List.singleton_append,
          List.takeWhile_cons, List.takeWhile_cons, bne, bne, beq_byteOf characterAscii isAscii,
          inductionHypothesis]
        split
        · rw [encode_cons, encodeCharacter_of_isAscii characterAscii, List.singleton_append]
        · rfl
      · have passes : ∀ byte ∈ encodeCharacter character, (byte != byteOf stop) = true :=
          fun byte member => bne_iff_ne.mpr
            (ne_byteOf_of_le (le_of_mem_encodeCharacter characterAscii member) isAscii)
        have notStop : (character != stop) = true :=
          bne_iff_ne.mpr fun isSame => characterAscii (isSame ▸ isAscii)
        rw [encode_cons, List.takeWhile_append_of_pos passes, List.takeWhile_cons, if_pos notStop,
          encode_cons, inductionHypothesis]

/-! ## Boundaries -/

/-- Whether an offset is not behind the end of bytes and no byte that continues a character stands
at it. -/
def isBoundary (bytes : Bytes) (offset : Nat) : Bool :=
  offset ≤ bytes.length && !bytes[offset]?.any continues

/-- At the offset of a place stands the first byte of what is behind the place. -/
theorem getElem?_encode (before rest : Text) :
    (encode (before ++ rest))[before.byteLength]? = (encode rest).head? := by
  rw [← List.head?_drop, drop_encode]

/-- Right in front of the offset of a place stands the last byte of the text in front of it. -/
theorem getElem?_encode_pred
    {before : Text}
    (notEmpty : before ≠ [])
    (rest : Text) :
    (encode (before ++ rest))[before.byteLength - 1]? = (encode before).getLast? := by
  have isInside : before.byteLength - 1 < (encode before).length := by
    rw [length_encode]
    exact Nat.sub_lt (Text.byteLength_pos notEmpty) Nat.one_pos
  rw [encode_append, List.getElem?_append_left isInside, List.getLast?_eq_getElem?, length_encode]

/-- Between two characters is a boundary. -/
theorem isBoundary_byteLength (before rest : Text) :
    isBoundary (encode (before ++ rest)) before.byteLength = true := by
  have isWithin : before.byteLength ≤ (encode (before ++ rest)).length := by
    rw [length_encode, Text.byteLength_append]
    exact Nat.le_add_right _ _
  rw [isBoundary, getElem?_encode, decide_eq_true isWithin, Bool.true_and]
  cases rest with
  | nil =>
      rfl
  | cons character later =>
      obtain ⟨lead, tail, isBytes, isLead, -, -⟩ := exists_lead character
      rw [encode_cons, isBytes, List.cons_append, List.head?_cons, Option.any_some, isLead]
      rfl

/-- Inside a character is no boundary. -/
theorem exists_append_of_isBoundary
    {text : Text}
    {offset : Nat}
    (isBetween : isBoundary (encode text) offset = true) :
    ∃ before after, text = before ++ after ∧ before.byteLength = offset := by
  induction text generalizing offset with
  | nil =>
      rw [isBoundary, Bool.and_eq_true, decide_eq_true_eq] at isBetween
      exact ⟨[], [], rfl, (Nat.le_zero.mp isBetween.1).symm⟩
  | cons character rest inductionHypothesis =>
      obtain ⟨lead, tail, isBytes, -, areContinuing, isLength⟩ := exists_lead character
      rw [isBoundary, encode_cons, isBytes, Bool.and_eq_true, decide_eq_true_eq] at isBetween
      obtain ⟨isWithin, notContinuing⟩ := isBetween
      match offset with
      | 0 =>
          exact ⟨[], character :: rest, rfl, rfl⟩
      | offset + 1 =>
          rw [List.cons_append, List.getElem?_cons_succ] at notContinuing
          by_cases isInside : offset < tail.length
          · rw [List.getElem?_append_left isInside, List.getElem?_eq_getElem isInside,
              Option.any_some, areContinuing _ (List.getElem_mem isInside)] at notContinuing
            contradiction
          · obtain ⟨later, rfl⟩ := Nat.exists_eq_add_of_le (Nat.le_of_not_lt isInside)
            rw [List.getElem?_append_right (Nat.le_add_right _ _), Nat.add_sub_cancel_left]
              at notContinuing
            have isLater : isBoundary (encode rest) later = true := by
              rw [isBoundary, notContinuing, Bool.and_true, decide_eq_true_eq]
              simp only [List.cons_append, List.length_cons, List.length_append] at isWithin
              omega
            obtain ⟨before, after, rfl, rfl⟩ := inductionHypothesis isLater
            refine ⟨character :: before, after, rfl, ?_⟩
            rw [Text.byteLength]
            omega

/-- Where the byte of an ASCII character stands is a place of the text. -/
theorem exists_append_of_getElem?
    {text : Text}
    {offset : Nat}
    {byte : UInt8}
    (stands : (encode text)[offset]? = some byte)
    (isAscii : byte.toNat < 128) :
    ∃ before rest, text = before ++ rest ∧ before.byteLength = offset := by
  obtain ⟨isInside, -⟩ := List.getElem?_eq_some_iff.mp stands
  have notContinuing : continues byte = false := by
    rw [← Bool.not_eq_true, continues_iff]
    omega
  refine exists_append_of_isBoundary ?_
  rw [isBoundary, stands, Option.any_some, notContinuing, decide_eq_true (Nat.le_of_lt isInside)]
  rfl

end Utf8

namespace Text

/-! ## Cuts -/

/-- Two offsets between which a text cannot be cut out. -/
structure BadCut where
  start : Nat
  stop : Nat
  deriving Repr, DecidableEq

/-- The text between two offsets in its bytes; they are in order and boundaries of characters. -/
def cut (text : Text) (start stop : Nat) : Except BadCut Text :=
  let bytes := Utf8.encode text
  if start ≤ stop && Utf8.isBoundary bytes start && Utf8.isBoundary bytes stop then
    match Utf8.decode? ((bytes.drop start).take (stop - start)) with
    | some piece => .ok piece
    | none => .error ⟨start, stop⟩
  else
    .error ⟨start, stop⟩

/-- A stretch of a text is cut out between the offsets of its ends. -/
theorem cut_append (before piece after : Text) :
    cut (before ++ (piece ++ after)) before.byteLength (before ++ piece).byteLength =
      .ok piece := by
  have isOrdered : before.byteLength ≤ (before ++ piece).byteLength := by
    rw [byteLength_append]
    exact Nat.le_add_right _ _
  have isStop : Utf8.isBoundary (Utf8.encode (before ++ (piece ++ after)))
      (before ++ piece).byteLength = true := by
    rw [← List.append_assoc]
    exact Utf8.isBoundary_byteLength (before ++ piece) after
  have areBytes : ((Utf8.encode (before ++ (piece ++ after))).drop before.byteLength).take
      ((before ++ piece).byteLength - before.byteLength) = Utf8.encode piece := by
    rw [Utf8.drop_encode, byteLength_append, Nat.add_sub_cancel_left, Utf8.encode_append,
      List.take_left' (Utf8.length_encode piece)]
  rw [cut, decide_eq_true isOrdered, Utf8.isBoundary_byteLength, isStop]
  simp only [areBytes, Utf8.decode?_encode, Bool.and_self, if_true]

/-- The rest of a text is cut out up to its end. -/
theorem cut_byteLength (before rest : Text) :
    cut (before ++ rest) before.byteLength (before ++ rest).byteLength = .ok rest := by
  have isCut := cut_append before rest []
  rwa [List.append_nil] at isCut

/-- A text is cut at two offsets exactly if they are in order and boundaries of characters. -/
theorem exists_cut_iff
    {text : Text}
    {start stop : Nat} :
    (∃ piece, cut text start stop = .ok piece) ↔
      start ≤ stop ∧
        (∃ before after, text = before ++ after ∧ before.byteLength = start) ∧
          ∃ before after, text = before ++ after ∧ before.byteLength = stop := by
  constructor
  · rintro ⟨piece, isCut⟩
    rw [cut] at isCut
    split at isCut
    · rename_i areBoundaries
      simp only [Bool.and_eq_true, decide_eq_true_eq] at areBoundaries
      obtain ⟨⟨isOrdered, isStart⟩, isStop⟩ := areBoundaries
      exact ⟨isOrdered, Utf8.exists_append_of_isBoundary isStart,
        Utf8.exists_append_of_isBoundary isStop⟩
    · contradiction
  · rintro ⟨isOrdered, ⟨before, rest, rfl, rfl⟩, front, after, isText, rfl⟩
    rcases List.append_eq_append_iff.mp isText with ⟨piece, rfl, rfl⟩ | ⟨piece, rfl, rfl⟩
    · exact ⟨piece, cut_append before piece after⟩
    · rw [byteLength_append] at isOrdered
      have isEmpty : piece = [] := by
        refine Decidable.byContradiction fun notEmpty => ?_
        have hasBytes := byteLength_pos notEmpty
        omega
      rw [isEmpty, List.append_nil]
      have isCut := cut_append front [] rest
      rw [List.append_nil] at isCut
      exact ⟨[], isCut⟩

end Text

end ComponentPages
