namespace ComponentPages

/-!
# Text

Text is a list of characters. Offsets into a text count the bytes of its UTF-8 form, and always
name a boundary between two characters.

This module holds what every reader of text needs: lengths in bytes, cutting at an offset,
blanks and trimming, splitting and joining, and looking for a piece of text inside another.
-/

/-- Source text, page text and names, character by character. -/
abbrev Text := List Char

namespace Text

/-- A shortcut to the instance for lists. Membership in a list of texts is decided by it. -/
instance : LawfulBEq Text :=
  List.instLawfulBEq

/-! ## Characters of a text

Whether some or all characters of a text have a property is decided along the text, and whether
its first one has it by looking at that one. The instances are stated for characters so that none
that goes through all characters there are is preferred.
-/

instance (holds : Char → Prop) [DecidablePred holds] (text : Text) :
    Decidable (∀ character ∈ text, holds character) :=
  List.decidableBAll holds text

instance (holds : Char → Prop) [DecidablePred holds] (text : Text) :
    Decidable (∃ character ∈ text, holds character) :=
  List.decidableBEx holds text

instance (holds : Char → Prop) [DecidablePred holds] (first : Option Char) :
    Decidable (∀ character ∈ first, holds character) :=
  Option.decidableForallMem first

/-! ## Offsets -/

/-- The number of bytes of the UTF-8 form. -/
def byteLength : Text → Nat
  | [] => 0
  | character :: rest => character.utf8Size + byteLength rest

/--
The characters that start before the offset, and the rest. An offset inside a character counts
as the end of that character.
-/
def cutAt : Nat → Text → Text × Text
  | _, [] => ([], [])
  | 0, text => ([], text)
  | offset + 1, character :: rest =>
      let (before, after) := cutAt (offset + 1 - character.utf8Size) rest
      (character :: before, after)

/-- The text from an offset on, if the offset is a boundary of the text. -/
def from? : Nat → Text → Option Text
  | 0, text => some text
  | _ + 1, [] => none
  | offset + 1, character :: rest =>
      if character.utf8Size ≤ offset + 1 then
        from? (offset + 1 - character.utf8Size) rest
      else
        none

/-! ## Ranges of characters -/

/-- Whether a character lies in one of the ranges, ends included. -/
def inRanges (ranges : List (Nat × Nat)) (character : Char) : Bool :=
  ranges.any fun (first, last) => first ≤ character.toNat && character.toNat ≤ last

/-! ## Blanks -/

/-- Ranges of the blank characters: white space of every kind, line breaks included. -/
def blankRanges : List (Nat × Nat) :=
  [(0x0009, 0x000D), (0x0020, 0x0020), (0x0085, 0x0085), (0x00A0, 0x00A0),
   (0x1680, 0x1680), (0x2000, 0x200A), (0x2028, 0x2029), (0x202F, 0x202F),
   (0x205F, 0x205F), (0x3000, 0x3000)]

/-- White space of every kind, line breaks included. -/
def isBlank (character : Char) : Bool :=
  inRanges blankRanges character

/-- The text without its leading characters of a kind. -/
def trimStartWhile (drop : Char → Bool) (text : Text) : Text :=
  text.dropWhile drop

/-- The text without its trailing characters of a kind. -/
def trimEndWhile (drop : Char → Bool) (text : Text) : Text :=
  (text.reverse.dropWhile drop).reverse

def trimStart (text : Text) : Text :=
  trimStartWhile isBlank text

def trimEnd (text : Text) : Text :=
  trimEndWhile isBlank text

/-- The text without leading and trailing blanks. -/
def trim (text : Text) : Text :=
  trimEnd (trimStart text)

/-- What follows one blank or more; nothing if the text does not start with a blank. -/
def afterBlanks? : Text → Option Text
  | [] => none
  | character :: rest =>
      if isBlank character then some (trimStart rest) else none

/-! ## Splitting and joining -/

/-- The pieces between separating characters: one more than there are separators. -/
def pieces (separates : Char → Bool) : Text → List Text
  | [] => [[]]
  | character :: rest =>
      if separates character then
        [] :: pieces separates rest
      else
        match pieces separates rest with
        | [] => [[character]]
        | piece :: later => (character :: piece) :: later

/-- The words of a text: its runs of characters that are not blank. -/
def words (text : Text) : List Text :=
  (pieces isBlank text).filter (!·.isEmpty)

/-- The texts one after another with `separator` between neighbours. -/
def joinWith (separator : Text) : List Text → Text
  | [] => []
  | [text] => text
  | text :: later => text ++ separator ++ joinWith separator later

/-- What follows `lead`, if the text starts with it. -/
def after? : (text lead : Text) → Option Text
  | text, [] => some text
  | [], _ :: _ => none
  | character :: rest, expected :: lead =>
      if character = expected then after? rest lead else none

/-- What precedes and what follows the first occurrence of `needle`. -/
def breakOn? (text needle : Text) : Option (Text × Text) :=
  match text with
  | [] => if needle.isEmpty then some ([], []) else none
  | character :: rest =>
      match after? (character :: rest) needle with
      | some after => some ([], after)
      | none => (breakOn? rest needle).map fun (before, after) => (character :: before, after)

def contains (text needle : Text) : Bool :=
  (breakOn? text needle).isSome

/-- What follows a leading text is no longer than the whole. -/
theorem after?_length
    {text lead rest : Text}
    (found : after? text lead = some rest) :
    rest.length ≤ text.length := by
  induction lead generalizing text with
  | nil =>
      simp only [after?, Option.some.injEq] at found
      simp [found]
  | cons expected lead inductionHypothesis =>
      cases text with
      | nil =>
          simp [after?] at found
      | cons character later =>
          simp only [after?] at found
          split at found
          · have shorter := inductionHypothesis found
            simp only [List.length_cons]
            omega
          · simp at found

/-- What follows an occurrence is no longer than the whole. -/
theorem breakOn?_length
    {text needle before after : Text}
    (found : breakOn? text needle = some (before, after)) :
    after.length ≤ text.length := by
  induction text generalizing before with
  | nil =>
      simp only [breakOn?] at found
      split at found
      · simp_all
      · simp at found
  | cons character later inductionHypothesis =>
      simp only [breakOn?] at found
      split at found
      · rename_i rest starts
        simp only [Option.some.injEq, Prod.mk.injEq] at found
        rw [← found.2]
        exact after?_length starts
      · simp only [Option.map_eq_some_iff, Prod.exists, Prod.mk.injEq] at found
        obtain ⟨inside, rest, occurs, -, rfl⟩ := found
        have shorter := inductionHypothesis occurs
        simp only [List.length_cons]
        omega

/-- The text with every `old` replaced by `new`. -/
def replaceCharacter (text : Text) (old : Char) (new : Text) : Text :=
  text.flatMap fun character => if character = old then new else [character]

/-- The text without the leading and trailing characters of a kind. -/
def trimWhile (drop : Char → Bool) (text : Text) : Text :=
  trimEndWhile drop (trimStartWhile drop text)

/-! ## Numbers -/

def ofNat (number : Nat) : Text :=
  Nat.toDigits 10 number

/-- The value of a run of ASCII digits. -/
def digitsValue (digits : Text) : Nat :=
  digits.foldl (fun value digit => 10 * value + (digit.toNat - '0'.toNat)) 0

/-- The first number that is too large for sixty-four bits: 2⁶⁴. -/
def wordLimit : Nat := 0x10000000000000000

def hexadecimalDigit? (character : Char) : Option Nat :=
  if character.isDigit then
    some (character.toNat - '0'.toNat)
  else if 'a' ≤ character && character ≤ 'f' then
    some (character.toNat - 'a'.toNat + 10)
  else if 'A' ≤ character && character ≤ 'F' then
    some (character.toNat - 'A'.toNat + 10)
  else
    none

def hexadecimalValue? (digits : Text) : Option Nat :=
  digits.foldlM (fun value digit => (hexadecimalDigit? digit).map (16 * value + ·)) 0

end Text

end ComponentPages
