import ComponentPages.Text.Basic

namespace ComponentPages

/-!
# UTF-8

The bytes of a text, and the text of bytes. Only the shortest form of a character is read, and no
surrogate.
-/

/-- The content of a file. -/
abbrev Bytes := List UInt8

namespace Utf8

/-- The low six bits of a number, marked as a byte that continues a character. -/
def continuation (bits : Nat) : UInt8 :=
  UInt8.ofNat (0x80 + bits % 0x40)

def encodeCharacter (character : Char) : Bytes :=
  let code := character.toNat
  if code < 0x80 then
    [UInt8.ofNat code]
  else if code < 0x800 then
    [UInt8.ofNat (0xC0 + code / 0x40), continuation code]
  else if code < 0x10000 then
    [UInt8.ofNat (0xE0 + code / 0x1000), continuation (code / 0x40), continuation code]
  else
    [UInt8.ofNat (0xF0 + code / 0x40000), continuation (code / 0x1000),
      continuation (code / 0x40), continuation code]

def encode (text : Text) : Bytes :=
  text.flatMap encodeCharacter

/-- The six bits of a byte that continues a character. -/
def continuationBits? (byte : UInt8) : Option Nat :=
  if 0x80 ≤ byte.toNat && byte.toNat < 0xC0 then some (byte.toNat - 0x80) else none

/-- The character of a code that lies in its range; surrogates are none. -/
def character? (low code : Nat) : Option Char :=
  if h : low ≤ code ∧ code.isValidChar then
    some (Char.ofNatAux code h.2)
  else
    none

/-- The first character of bytes, and the bytes behind it. -/
def decodeFirst? : Bytes → Option (Char × Bytes)
  | [] => none
  | first :: rest =>
      let lead := first.toNat
      if lead < 0x80 then
        (character? 0 lead).map fun character => (character, rest)
      else if 0xC0 ≤ lead && lead < 0xE0 then
        match rest with
        | second :: after => do
            let low ← continuationBits? second
            let character ← character? 0x80 ((lead - 0xC0) * 0x40 + low)
            return (character, after)
        | _ => none
      else if 0xE0 ≤ lead && lead < 0xF0 then
        match rest with
        | second :: third :: after => do
            let middle ← continuationBits? second
            let low ← continuationBits? third
            let character ← character? 0x800 ((lead - 0xE0) * 0x1000 + middle * 0x40 + low)
            return (character, after)
        | _ => none
      else if 0xF0 ≤ lead && lead < 0xF8 then
        match rest with
        | second :: third :: fourth :: after => do
            let high ← continuationBits? second
            let middle ← continuationBits? third
            let low ← continuationBits? fourth
            let character ← character? 0x10000
              ((lead - 0xF0) * 0x40000 + high * 0x1000 + middle * 0x40 + low)
            return (character, after)
        | _ => none
      else
        none

/-- The bytes behind a first character are fewer. -/
theorem decodeFirst?_length
    {bytes rest : Bytes}
    {character : Char}
    (decoded : decodeFirst? bytes = some (character, rest)) :
    rest.length < bytes.length := by
  cases bytes with
  | nil => simp [decodeFirst?] at decoded
  | cons first later =>
      simp only [decodeFirst?] at decoded
      split at decoded
      · simp only [Option.map_eq_some_iff, Prod.mk.injEq] at decoded
        obtain ⟨_, _, _, rfl⟩ := decoded
        simp
      · split at decoded
        · split at decoded
          · simp only [Option.bind_eq_bind, Option.pure_def, Option.bind_eq_some_iff,
              Option.some.injEq, Prod.mk.injEq] at decoded
            obtain ⟨_, _, _, _, _, rfl⟩ := decoded
            simp only [List.length_cons]
            omega
          · simp at decoded
        · split at decoded
          · split at decoded
            · simp only [Option.bind_eq_bind, Option.pure_def, Option.bind_eq_some_iff,
                Option.some.injEq, Prod.mk.injEq] at decoded
              obtain ⟨_, _, _, _, _, _, _, rfl⟩ := decoded
              simp only [List.length_cons]
              omega
            · simp at decoded
          · split at decoded
            · split at decoded
              · simp only [Option.bind_eq_bind, Option.pure_def, Option.bind_eq_some_iff,
                  Option.some.injEq, Prod.mk.injEq] at decoded
                obtain ⟨_, _, _, _, _, _, _, _, _, rfl⟩ := decoded
                simp only [List.length_cons]
                omega
              · simp at decoded
            · simp at decoded

/-- The text of bytes; none if they are not well formed. -/
def decode? (bytes : Bytes) : Option Text :=
  match bytes with
  | [] => some []
  | first :: later =>
      match _decoded : decodeFirst? (first :: later) with
      | none => none
      | some (character, rest) => (decode? rest).map (character :: ·)
  termination_by bytes.length
  decreasing_by exact decodeFirst?_length _decoded

end Utf8

end ComponentPages
