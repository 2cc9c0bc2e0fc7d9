import ComponentPages.Text.Basic

namespace ComponentPages

/-!
# Reading source text

Source text is read from left to right while the depth of nesting and the state of quoted
literals are followed. The three families of delimiters, braces, parentheses and brackets, share
one depth, so that a parenthesis closed by a brace still comes out at zero. Inside a literal no
character counts as a delimiter until the quote that opened it stands again. A quote right behind
a backslash neither opens nor closes a literal.
-/

/-- How a character counts when source text is read. -/
inductive Role where
  /-- Part of a quoted literal, quotes included. -/
  | literal
  /-- An opening delimiter. -/
  | opener
  /-- A closing delimiter. -/
  | closer
  /-- Any other character outside literals. -/
  | plain
  deriving Repr, DecidableEq

/-- The opening delimiters. -/
def isOpener (character : Char) : Bool :=
  character == '{' || character == '(' || character == '['

/-- The closing delimiters. -/
def isCloser (character : Char) : Bool :=
  character == '}' || character == ')' || character == ']'

/-- The three quotes. -/
def isQuote (character : Char) : Bool :=
  character == '\x22' || character == '\'' || character == '\x60'

/-- What is known after some source text has been read. -/
structure Reading where
  /-- Openers less closers, outside literals. -/
  depth : Int := 0
  /-- The quote of the literal that is still open. -/
  quote : Option Char := none
  /-- Whether the last character is a backslash. -/
  escaped : Bool := false
  deriving Repr, DecidableEq

namespace Reading

def inLiteral (reading : Reading) : Bool :=
  reading.quote.isSome

/-- The role of the next character. -/
def role (reading : Reading) (character : Char) : Role :=
  if reading.inLiteral then
    .literal
  else if isQuote character && !reading.escaped then
    .literal
  else if isOpener character then
    .opener
  else if isCloser character then
    .closer
  else
    .plain

/-- The quote that is open once the next character has been read. -/
def quoteAfter (reading : Reading) (character : Char) : Option Char :=
  match reading.quote with
  | some quote =>
      if character = quote && !reading.escaped then none else some quote
  | none =>
      if isQuote character && !reading.escaped then some character else none

def next (reading : Reading) (character : Char) : Reading where
  depth :=
    match reading.role character with
    | .opener => reading.depth + 1
    | .closer => reading.depth - 1
    | _ => reading.depth
  quote := reading.quoteAfter character
  escaped := character == '\\'

def after (reading : Reading) (text : Text) : Reading :=
  text.foldl next reading

end Reading

end ComponentPages
