import ComponentPages.Toml.Scalar

namespace ComponentPages

/-!
# TOML tokens

Blanks and comments separate tokens and are no tokens themselves. A word is a run of characters
of keys, numbers and moments; what it means depends on where it stands.
-/

/-- A token of a TOML document. -/
inductive TomlToken where
  | word (written : Text)
  | text (content : Text) (ofLines : Bool)
  | equals
  | comma
  /-- An opening bracket, and whether another stands right before it. -/
  | openBracket (attached : Bool)
  /-- A closing bracket, and whether another stands right before it. -/
  | closeBracket (attached : Bool)
  | openBrace
  | closeBrace
  | lineEnd
  deriving Repr, DecidableEq

namespace TomlToken

/-! ## Strings -/

/-- Whether a character may stand for itself in a string or comment. -/
def isPlain (character : Char) : Bool :=
  character = '\t' || (' ' ≤ character && character ≠ '\x7f')

/-- The character of a code in hexadecimal digits, if the digits are as many as they should be. -/
def coded? (count : Nat) (text : Text) : Option (Char × Nat) := do
  let digits := text.take count
  let code ← Text.hexadecimalValue? digits
  if digits.length = count && code.isValidChar then
    return (Char.ofNat code, count + 1)
  else
    none

/-- The character that an escape stands for, and the number of characters behind the backslash. -/
def escape? (text : Text) : Option (Char × Nat) :=
  match text with
  | 'b' :: _ => some ('\x08', 1)
  | 't' :: _ => some ('\t', 1)
  | 'n' :: _ => some ('\n', 1)
  | 'f' :: _ => some ('\x0c', 1)
  | 'r' :: _ => some ('\r', 1)
  | 'e' :: _ => some ('\x1b', 1)
  | '"' :: _ => some ('"', 1)
  | '\\' :: _ => some ('\\', 1)
  | 'x' :: rest => coded? 2 rest
  | 'u' :: rest => coded? 4 rest
  | 'U' :: rest => coded? 8 rest
  | _ => none

/-- A result with a character in front and a number of characters more. -/
def prepend (character : Char) : Text × Nat → Text × Nat
  | (content, taken) => (character :: content, taken + 1)

/-- A result with one character more that does not count. -/
def skip : Text × Nat → Text × Nat
  | (content, taken) => (content, taken + 1)

/--
The content of a string up to its closing quote, and the number of characters read. The first
`passing` characters belong to an escape.
-/
def basic? : (passing : Nat) → Text → Option (Text × Nat)
  | _, [] => none
  | passing + 1, _ :: rest => (basic? passing rest).map skip
  | 0, '"' :: _ => some ([], 1)
  | 0, '\\' :: rest => do
      let (character, taken) ← escape? rest
      return prepend character (← basic? taken rest)
  | 0, character :: rest =>
      if isPlain character then (basic? 0 rest).map (prepend character) else none

/-- The content of a string without escapes up to its closing quote. -/
def literal? : Text → Option (Text × Nat)
  | [] => none
  | '\'' :: _ => some ([], 1)
  | character :: rest =>
      if isPlain character then (literal? rest).map (prepend character) else none

/-- Whether the text starts with a line break. -/
def startsLine (text : Text) : Bool :=
  match text with
  | '\n' :: _ => true
  | '\r' :: '\n' :: _ => true
  | _ => false

/-- Whether a character is a blank within a line. -/
def isInlineBlank (character : Char) : Bool :=
  character == ' ' || character == '\t'

/-- Whether a character may stand in a string of several lines, given what follows it. -/
def isPlainInLines (character : Char) (rest : Text) : Bool :=
  isPlain character || startsLine (character :: rest)

/-- The quotes that end a string of several lines: three, with up to two before them. -/
def closing? (quote : Char) (text : Text) : Option (Text × Nat) :=
  let count := min (text.takeWhile (· == quote)).length 5
  if 3 ≤ count then some (List.replicate (count - 3) quote, count) else none

/--
The content of a string of several lines. Behind a backslash at the end of a line, blanks and line
breaks are dropped; `trimming` tells that this is going on.
-/
def basicLines? : (passing : Nat) → (trimming : Bool) → Text → Option (Text × Nat)
  | _, _, [] => none
  | passing + 1, trimming, _ :: rest => (basicLines? passing trimming rest).map skip
  | 0, trimming, character :: rest =>
      match closing? '"' (character :: rest) with
      | some ending => some ending
      | none =>
          if trimming && (isInlineBlank character || startsLine (character :: rest)) then
            (basicLines? 0 true rest).map skip
          else if character = '\\' then
            if startsLine (rest.dropWhile isInlineBlank) then
              (basicLines? 0 true rest).map skip
            else do
              let (escaped, taken) ← escape? rest
              return prepend escaped (← basicLines? taken false rest)
          else if isPlainInLines character rest then
            (basicLines? 0 false rest).map (prepend character)
          else
            none

/-- The content of a string of several lines without escapes. -/
def literalLines? : Text → Option (Text × Nat)
  | [] => none
  | character :: rest =>
      match closing? '\'' (character :: rest) with
      | some ending => some ending
      | none =>
          if isPlainInLines character rest then
            (literalLines? rest).map (prepend character)
          else
            none

/-- The number of characters of the line break right behind the opening quotes. -/
def leadingBreak (text : Text) : Nat :=
  match text with
  | '\n' :: _ => 1
  | '\r' :: '\n' :: _ => 2
  | _ => 0

/-- The token of a string, and the number of characters behind its first quote. -/
def string? (quote : Char) (rest : Text) : Option (TomlToken × Nat) :=
  if rest.take 2 = [quote, quote] then
    let start := leadingBreak (rest.drop 2)
    let body := rest.drop (2 + start)
    let content := if quote = '"' then basicLines? 0 false body else literalLines? body
    content.map fun (content, taken) => (.text content true, 2 + start + taken)
  else
    let content := if quote = '"' then basic? 0 rest else literal? rest
    content.map fun (content, taken) => (.text content false, taken)

/-! ## Documents -/

def isWordCharacter (character : Char) : Bool :=
  character.isAlphanum || "+-_.:".toList.contains character

/-- The word at the start of a text. A blank may stand between a date and a time. -/
def wordOf (text : Text) : Text :=
  let word := text.takeWhile isWordCharacter
  match text.drop word.length with
  | ' ' :: digit :: rest =>
      if TomlValue.isDate word && digit.isDigit then
        word ++ ' ' :: (digit :: rest).takeWhile isWordCharacter
      else
        word
  | _ => word

/-- The number of characters of a comment, if it holds plain characters only. -/
def comment? (text : Text) : Option Nat :=
  let content := text.takeWhile isPlain
  let rest := text.drop content.length
  if rest.isEmpty || startsLine rest then some content.length else none

/--
The tokens of the text behind a character. The first `passing` characters belong to the token that
was read last.
-/
def ofTextFrom? (previous : Option Char) : (passing : Nat) → Text → Option (List TomlToken)
  | _, [] => some [.lineEnd]
  | passing + 1, character :: rest => ofTextFrom? (some character) passing rest
  | 0, character :: rest =>
      let continueWith (token : TomlToken) (taken : Nat) :=
        (ofTextFrom? (some character) taken rest).map (token :: ·)
      match character with
      | '\n' => continueWith .lineEnd 0
      | '\r' => if startsLine (character :: rest) then ofTextFrom? (some character) 0 rest else none
      | ' ' => ofTextFrom? (some character) 0 rest
      | '\t' => ofTextFrom? (some character) 0 rest
      | '#' => do ofTextFrom? (some character) (← comment? rest) rest
      | '=' => continueWith .equals 0
      | ',' => continueWith .comma 0
      | '[' => continueWith (.openBracket (previous == some '[')) 0
      | ']' => continueWith (.closeBracket (previous == some ']')) 0
      | '\x7b' => continueWith .openBrace 0
      | '\x7d' => continueWith .closeBrace 0
      | '"' => do
          let (token, taken) ← string? '"' rest
          continueWith token taken
      | '\'' => do
          let (token, taken) ← string? '\'' rest
          continueWith token taken
      | _ =>
          let word := wordOf (character :: rest)
          if word.isEmpty then none else continueWith (.word word) (word.length - 1)

/-- The tokens of a document, a byte order mark at its start left out. -/
def ofText? (text : Text) : Option (List TomlToken) :=
  match text with
  | '\uFEFF' :: rest => ofTextFrom? none 0 rest
  | _ => ofTextFrom? none 0 text

end TomlToken

end ComponentPages
