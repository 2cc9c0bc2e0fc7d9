import ComponentPages.Text.Utf8

namespace ComponentPages

/-!
# JSON tokens

A document is bytes. Its bytes are first read as characters, with a gap for each byte that belongs
to none, and the characters as tokens. A gap is refused outside strings; a string with a gap or
with an unpaired surrogate is a token without content.
-/

/-- A token of a JSON document. -/
inductive JsonToken where
  | openObject
  | closeObject
  | openList
  | closeList
  | colon
  | comma
  | null
  | boolean (value : Bool)
  | number (written : Text)
  | text (content : Option Text)
  deriving Repr, DecidableEq

namespace JsonToken

/-- A character, or the gap that a byte leaves which belongs to no character. -/
abbrev Sign := Option Char

/-! ## Numbers -/

/-- Whether a sign can stand in a number. -/
def belongsToNumber : Sign → Bool
  | none => false
  | some character => character.isDigit || "+-.eE".toList.contains character

/-- What follows the whole part of a number: one zero, or digits that start with another. -/
def afterWhole? (written : Text) : Option Text :=
  match written with
  | '0' :: rest => some rest
  | digit :: rest => if digit.isDigit then some (rest.dropWhile Char.isDigit) else none
  | [] => none

/-- What follows one digit or more. -/
def afterDigits? (written : Text) : Option Text :=
  match written with
  | digit :: rest => if digit.isDigit then some (rest.dropWhile Char.isDigit) else none
  | [] => none

/-- What follows the fraction of a number, if there is one. -/
def afterFraction? (written : Text) : Option Text :=
  match written with
  | '.' :: rest => afterDigits? rest
  | _ => some written

/-- What follows the exponent of a number, if there is one. -/
def afterExponent? (written : Text) : Option Text :=
  match written with
  | mark :: rest =>
      if mark = 'e' || mark = 'E' then
        match rest with
        | '+' :: digits => afterDigits? digits
        | '-' :: digits => afterDigits? digits
        | _ => afterDigits? rest
      else
        some written
  | [] => some []

def isNumber (written : Text) : Bool :=
  let unsigned := (Text.after? written ['-']).getD written
  ((afterWhole? unsigned).bind afterFraction?).bind afterExponent? == some []

/-! ## Strings -/

/-- What stands for a character or half of one inside a string. -/
inductive Piece where
  | character (character : Char)
  /-- Half of a pair of surrogates, as an escape gives it. -/
  | surrogate (code : Nat)
  | gap
  deriving Repr, DecidableEq

/-- The code of four hexadecimal digits. -/
def code? (first second third fourth : Sign) : Option Nat := do
  Text.hexadecimalValue? [← first, ← second, ← third, ← fourth]

/-- What a code below 2¹⁶ stands for. -/
def pieceOfCode (code : Nat) : Piece :=
  if code.isValidChar then .character (Char.ofNat code) else .surrogate code

/-- The character that an escape of one letter stands for. -/
def escaped? (letter : Char) : Option Char :=
  match letter with
  | '"' => some '"'
  | '\\' => some '\\'
  | '/' => some '/'
  | 'b' => some '\x08'
  | 'f' => some '\x0c'
  | 'n' => some '\n'
  | 'r' => some '\r'
  | 't' => some '\t'
  | _ => none

/-- The pieces of a string up to its closing quote, and the number of signs read. -/
def stringPieces? : List Sign → Option (List Piece × Nat)
  | [] => none
  | none :: rest => (stringPieces? rest).map fun (pieces, taken) => (.gap :: pieces, taken + 1)
  | some '"' :: _ => some ([], 1)
  | some '\\' :: some 'u' :: first :: second :: third :: fourth :: rest => do
      let code ← code? first second third fourth
      let (pieces, taken) ← stringPieces? rest
      return (pieceOfCode code :: pieces, taken + 6)
  | some '\\' :: some letter :: rest => do
      let character ← escaped? letter
      let (pieces, taken) ← stringPieces? rest
      return (.character character :: pieces, taken + 2)
  | some character :: rest =>
      if character < ' ' || character = '\\' then
        none
      else
        (stringPieces? rest).map fun (pieces, taken) => (.character character :: pieces, taken + 1)

/-- Whether a code is the first half of a pair. -/
def isHigh (code : Nat) : Bool :=
  0xD800 ≤ code && code < 0xDC00

def textOf? : List Piece → Option Text
  | [] => some []
  | .character character :: rest => (textOf? rest).map (character :: ·)
  | .surrogate high :: .surrogate low :: rest =>
      if isHigh high && !isHigh low then
        (textOf? rest).map (Char.ofNat (0x10000 + (high - 0xD800) * 0x400 + (low - 0xDC00)) :: ·)
      else
        none
  | _ :: _ => none

/-! ## Documents -/

/-- Whether a sign may stand between tokens. -/
def isSpace (sign : Sign) : Bool :=
  sign == some ' ' || sign == some '\t' || sign == some '\n' || sign == some '\r'

/-- The token that a word stands for, if the signs start with the word. -/
def word? (signs : List Sign) : Option (JsonToken × Nat) :=
  if ("null".toList.map some).isPrefixOf signs then
    some (.null, 4)
  else if ("true".toList.map some).isPrefixOf signs then
    some (.boolean true, 4)
  else if ("false".toList.map some).isPrefixOf signs then
    some (.boolean false, 5)
  else
    none

/-- The first token, and the number of its signs. -/
def first? (signs : List Sign) : Option (JsonToken × Nat) :=
  match signs with
  | [] => none
  | none :: _ => none
  | some character :: rest =>
      match character with
      | '\x7b' => some (.openObject, 1)
      | '\x7d' => some (.closeObject, 1)
      | '[' => some (.openList, 1)
      | ']' => some (.closeList, 1)
      | ':' => some (.colon, 1)
      | ',' => some (.comma, 1)
      | '"' => (stringPieces? rest).map fun (pieces, taken) => (.text (textOf? pieces), taken + 1)
      | _ =>
          let written := (signs.takeWhile belongsToNumber).filterMap id
          if isNumber written then
            some (.number written, written.length)
          else
            word? signs

/-- The tokens of signs; the first `passing` signs belong to the token that was read last. -/
def ofSignsFrom? : (passing : Nat) → List Sign → Option (List JsonToken)
  | _, [] => some []
  | passing + 1, _ :: rest => ofSignsFrom? passing rest
  | 0, sign :: rest =>
      if isSpace sign then
        ofSignsFrom? 0 rest
      else do
        let (token, taken) ← first? (sign :: rest)
        return token :: (← ofSignsFrom? (taken - 1) rest)

/-- The signs of bytes. -/
def signsOf (bytes : Bytes) : List Sign :=
  match bytes with
  | [] => []
  | byte :: later =>
      match _decoded : Utf8.decodeFirst? (byte :: later) with
      | none => none :: signsOf later
      | some (character, rest) => some character :: signsOf rest
  termination_by bytes.length
  decreasing_by
    · simp
    · exact Utf8.decodeFirst?_length _decoded

def ofBytes? (bytes : Bytes) : Option (List JsonToken) :=
  ofSignsFrom? 0 (signsOf bytes)

end JsonToken

end ComponentPages
