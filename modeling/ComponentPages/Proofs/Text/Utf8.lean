import ComponentPages.Text.Utf8

namespace ComponentPages

/-!
# Reading UTF-8 that was written

The bytes of a character are read as that character, whatever follows, so the bytes of a text are
read as that text.
-/

namespace Utf8

/-- A code that lies in its range gives the character that it was taken from. -/
private theorem character?_toNat
    {low : Nat}
    {character : Char}
    (inRange : low ≤ character.toNat) :
    character? low character.toNat = some character := by
  unfold character?
  rw [dif_pos ⟨inRange, character.valid⟩]
  rfl

/-- A byte that continues a character gives its six bits. -/
@[simp] theorem continuationBits?_continuation
    (bits : Nat) :
    continuationBits? (continuation bits) = some (bits % 0x40) := by
  have value : (continuation bits).toNat = 0x80 + bits % 0x40 := by
    rw [continuation, UInt8.toNat_ofNat']
    omega
  simp only [continuationBits?, value]
  rw [if_pos (by simp; omega)]
  simp

/-- A small number is kept in a byte. -/
theorem toNat_ofNat_of_lt
    {number : Nat}
    (small : number < 0x100) :
    (UInt8.ofNat number).toNat = number := by
  rw [UInt8.toNat_ofNat']
  exact Nat.mod_eq_of_lt small

private theorem bind_of_eq_some
    {α β : Type}
    {value : Option α}
    {given : α}
    (isGiven : value = some given)
    (next : α → Option β) :
    (value >>= next) = next given := by
  subst isGiven
  rfl

/-- A lead byte and one more are read as a character of two bytes. -/
private theorem decodeFirst?_two
    {first second : UInt8}
    {low : Nat}
    (isTwo : 0xC0 ≤ first.toNat ∧ first.toNat < 0xE0)
    (continues : continuationBits? second = some low)
    (rest : Bytes) :
    decodeFirst? (first :: second :: rest) =
      (character? 0x80 ((first.toNat - 0xC0) * 0x40 + low)).map
        fun character => (character, rest) := by
  have notOne : ¬ first.toNat < 0x80 := by
    omega
  rw [decodeFirst?, if_neg notOne, if_pos (by simpa using isTwo), Option.map_eq_bind]
  exact bind_of_eq_some continues _

/-- A lead byte and two more are read as a character of three bytes. -/
private theorem decodeFirst?_three
    {first second third : UInt8}
    {middle low : Nat}
    (isThree : 0xE0 ≤ first.toNat ∧ first.toNat < 0xF0)
    (continues : continuationBits? second = some middle)
    (continuesLast : continuationBits? third = some low)
    (rest : Bytes) :
    decodeFirst? (first :: second :: third :: rest) =
      (character? 0x800 ((first.toNat - 0xE0) * 0x1000 + middle * 0x40 + low)).map
        fun character => (character, rest) := by
  have notOne : ¬ first.toNat < 0x80 := by
    omega
  have notTwo : ¬ (0xC0 ≤ first.toNat ∧ first.toNat < 0xE0) := by
    omega
  rw [decodeFirst?, if_neg notOne, if_neg (by simpa using notTwo),
    if_pos (by simpa using isThree), Option.map_eq_bind]
  exact (bind_of_eq_some continues _).trans (bind_of_eq_some continuesLast _)

/-- A lead byte and three more are read as a character of four bytes. -/
private theorem decodeFirst?_four
    {first second third fourth : UInt8}
    {high middle low : Nat}
    (isFour : 0xF0 ≤ first.toNat ∧ first.toNat < 0xF8)
    (continues : continuationBits? second = some high)
    (continuesThen : continuationBits? third = some middle)
    (continuesLast : continuationBits? fourth = some low)
    (rest : Bytes) :
    decodeFirst? (first :: second :: third :: fourth :: rest) =
      (character? 0x10000
          ((first.toNat - 0xF0) * 0x40000 + high * 0x1000 + middle * 0x40 + low)).map
        fun character => (character, rest) := by
  have notOne : ¬ first.toNat < 0x80 := by
    omega
  have notTwo : ¬ (0xC0 ≤ first.toNat ∧ first.toNat < 0xE0) := by
    omega
  have notThree : ¬ (0xE0 ≤ first.toNat ∧ first.toNat < 0xF0) := by
    omega
  rw [decodeFirst?, if_neg notOne, if_neg (by simpa using notTwo),
    if_neg (by simpa using notThree), if_pos (by simpa using isFour), Option.map_eq_bind]
  exact (bind_of_eq_some continues _).trans
    ((bind_of_eq_some continuesThen _).trans (bind_of_eq_some continuesLast _))

/-- The bytes of a character are read as that character. -/
theorem decodeFirst?_encodeCharacter
    (character : Char)
    (rest : Bytes) :
    decodeFirst? (encodeCharacter character ++ rest) = some (character, rest) := by
  have bound : character.toNat < 0x110000 := by
    rcases character.valid with low | high
    · exact Nat.lt_trans low (by decide)
    · exact high.2
  unfold encodeCharacter
  simp only
  split
  · rename_i short
    have lead := toNat_ofNat_of_lt (show character.toNat < 0x100 by omega)
    generalize UInt8.ofNat character.toNat = first at lead
    simp [decodeFirst?, lead, short, character?_toNat]
  · split
    · rename_i notOne short
      have lead := toNat_ofNat_of_lt (show 0xC0 + character.toNat / 0x40 < 0x100 by omega)
      generalize UInt8.ofNat (0xC0 + character.toNat / 0x40) = first at lead
      have code :
          (first.toNat - 0xC0) * 0x40 + character.toNat % 0x40 = character.toNat := by
        omega
      rw [List.cons_append, List.cons_append, List.nil_append,
        decodeFirst?_two (by omega) (continuationBits?_continuation _), code,
        character?_toNat (by omega)]
      rfl
    · split
      · rename_i notOne notTwo short
        have lead := toNat_ofNat_of_lt (show 0xE0 + character.toNat / 0x1000 < 0x100 by omega)
        generalize UInt8.ofNat (0xE0 + character.toNat / 0x1000) = first at lead
        have code :
            (first.toNat - 0xE0) * 0x1000 + character.toNat / 0x40 % 0x40 * 0x40 +
              character.toNat % 0x40 = character.toNat := by
          omega
        rw [List.cons_append, List.cons_append, List.cons_append, List.nil_append,
          decodeFirst?_three (by omega) (continuationBits?_continuation _)
            (continuationBits?_continuation _), code, character?_toNat (by omega)]
        rfl
      · rename_i notOne notTwo notThree
        have lead := toNat_ofNat_of_lt (show 0xF0 + character.toNat / 0x40000 < 0x100 by omega)
        generalize UInt8.ofNat (0xF0 + character.toNat / 0x40000) = first at lead
        have code :
            (first.toNat - 0xF0) * 0x40000 + character.toNat / 0x1000 % 0x40 * 0x1000 +
              character.toNat / 0x40 % 0x40 * 0x40 + character.toNat % 0x40 =
                character.toNat := by
          omega
        rw [List.cons_append, List.cons_append, List.cons_append, List.cons_append,
          List.nil_append,
          decodeFirst?_four (by omega) (continuationBits?_continuation _)
            (continuationBits?_continuation _) (continuationBits?_continuation _), code,
          character?_toNat (by omega)]
        rfl

/-- Every character is encoded by at least one byte. -/
theorem encodeCharacter_ne_nil (character : Char) : encodeCharacter character ≠ [] := by
  unfold encodeCharacter
  simp only
  split
  · simp
  · split
    · simp
    · split <;> simp

/-- The first character is read from the bytes of a text, and those of the rest are left. -/
theorem exists_encode_cons
    (character : Char)
    (rest : Text) :
    ∃ first later,
      encode (character :: rest) = first :: later ∧
        decodeFirst? (first :: later) = some (character, encode rest) := by
  obtain ⟨first, later, shape⟩ := List.exists_cons_of_ne_nil (encodeCharacter_ne_nil character)
  have decoded := decodeFirst?_encodeCharacter character (encode rest)
  rw [shape, List.cons_append] at decoded
  refine ⟨first, later ++ encode rest, ?_, decoded⟩
  rw [encode, List.flatMap_cons, shape, List.cons_append, ← encode]

/-- The bytes of a text are read as that text. -/
theorem decode?_encode (text : Text) : decode? (encode text) = some text := by
  induction text with
  | nil =>
      rw [encode, List.flatMap_nil, decode?]
  | cons character rest inductionHypothesis =>
      obtain ⟨first, later, shape, decoded⟩ := exists_encode_cons character rest
      rw [shape, decode?]
      split
      · rename_i notDecoded
        simp [decoded] at notDecoded
      · rename_i character' rest' decoded'
        obtain ⟨rfl, rfl⟩ := Prod.mk.inj (Option.some.inj (decoded.symm.trans decoded'))
        rw [inductionHypothesis]
        rfl

end Utf8

end ComponentPages
