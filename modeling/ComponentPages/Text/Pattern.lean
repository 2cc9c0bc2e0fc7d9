import ComponentPages.Text.Word

namespace ComponentPages

/-!
# Patterns

A pattern reads a text from its start, knowing the character that precedes it, and answers what
it captured together with the text that it left unread. Its occurrences in a text are found from
left to right and never overlap: after an occurrence the search goes on where that occurrence
ended.

The second half holds the small readers from which patterns are put together.
-/

namespace Text

/-- One occurrence of a pattern: its first offset, the offset behind it, and what it captured. -/
structure Occurrence (α : Type) where
  start : Nat
  stop : Nat
  captured : α
  deriving Repr, DecidableEq

/--
A reader of the text that follows a given character: the value captured and the text left
unread.
-/
abbrev Pattern (α : Type) :=
  Option Char → Text → Option (α × Text)

namespace Pattern

variable {α : Type}

/--
The occurrences in the text that stands at `offset` behind `previous`. The first `passing`
characters belong to the occurrence found last.
-/
def occurrencesFrom
    (pattern : Pattern α) :
    (offset : Nat) →
    (previous : Option Char) →
    (passing : Nat) →
    Text →
    List (Occurrence α)
  | _, _, _, [] => []
  | offset, _, passing + 1, character :: rest =>
      occurrencesFrom pattern (offset + character.utf8Size) (some character) passing rest
  | offset, previous, 0, character :: rest =>
      match pattern previous (character :: rest) with
      | none =>
          occurrencesFrom pattern (offset + character.utf8Size) (some character) 0 rest
      | some (captured, unread) =>
          {
            start := offset
            stop := offset + (byteLength (character :: rest) - byteLength unread)
            captured := captured
          } ::
            occurrencesFrom pattern (offset + character.utf8Size) (some character)
              (rest.length - unread.length) rest

/-- Every occurrence in a text, from left to right, none overlapping another. -/
def occurrences (pattern : Pattern α) (text : Text) : List (Occurrence α) :=
  occurrencesFrom pattern 0 none 0 text

/-- What the first occurrence in a text that follows a character captured, and its surroundings. -/
def breakFrom?
    (pattern : Pattern α)
    (previous : Option Char) :
    Text → Option (Text × α × Text)
  | [] => none
  | character :: rest =>
      match pattern previous (character :: rest) with
      | some (captured, unread) => some ([], captured, unread)
      | none =>
          (breakFrom? pattern (some character) rest).map
            fun (before, captured, after) => (character :: before, captured, after)

/-- The text before the first occurrence, what it captured, and the text behind it. -/
def break? (pattern : Pattern α) (text : Text) : Option (Text × α × Text) :=
  breakFrom? pattern none text

/-- What the first occurrence in a text captured. -/
def first? (pattern : Pattern α) (text : Text) : Option α :=
  (break? pattern text).map fun (_, captured, _) => captured

def occursIn (pattern : Pattern α) (text : Text) : Bool :=
  (break? pattern text).isSome

/-- The text that follows a character, with what each occurrence captured in its place. -/
def replaceFrom
    (pattern : Pattern Text) :
    (previous : Option Char) →
    (passing : Nat) →
    Text →
    Text
  | _, _, [] => []
  | _, passing + 1, character :: rest =>
      replaceFrom pattern (some character) passing rest
  | previous, 0, character :: rest =>
      match pattern previous (character :: rest) with
      | none => character :: replaceFrom pattern (some character) 0 rest
      | some (replacement, unread) =>
          replacement ++
            replaceFrom pattern (some character) (rest.length - unread.length) rest

/-- The text with what each occurrence captured in the place of that occurrence. -/
def replaceAll (pattern : Pattern Text) (text : Text) : Text :=
  replaceFrom pattern none 0 text

end Pattern

/-! ## Small readers -/

/-- What follows `word`, if the text starts with it and `previous` is no word character. -/
def afterWord? (word : Text) (previous : Option Char) (text : Text) : Option Text :=
  if followsWord previous then none else after? text word

/-- What follows `word` and one blank or more. -/
def afterWordAndBlanks? (word : Text) (text : Text) : Option Text :=
  (after? text word).bind afterBlanks?

/-- The text behind `word` and the blanks after it, or the text itself if it starts otherwise. -/
def skipWordAndBlanks (word : Text) (text : Text) : Text :=
  (afterWordAndBlanks? word text).getD text

/-- The first of the words that the text starts with, and what follows it. -/
def oneOf? (words : List Text) (text : Text) : Option (Text × Text) :=
  words.findSome? fun word => (after? text word).map fun rest => (word, rest)

/-- The longest run of characters of a kind at the start, and what follows it. -/
def run (belongs : Char → Bool) (text : Text) : Text × Text :=
  (text.takeWhile belongs, text.dropWhile belongs)

/-- A run of at least one character of a kind. -/
def run? (belongs : Char → Bool) (text : Text) : Option (Text × Text) :=
  if (text.takeWhile belongs).isEmpty then none else some (run belongs text)

/-- The characters that may start an identifier. -/
def startsIdentifier (character : Char) : Bool :=
  character.isAlpha || character == '_' || character == '$'

/-- An identifier whose later characters are of the kind `continues`. -/
def identifierOf? (continues : Char → Bool) : Text → Option (Text × Text)
  | [] => none
  | character :: rest =>
      if startsIdentifier character then
        some (character :: rest.takeWhile continues, rest.dropWhile continues)
      else
        none

/-- An identifier: a letter, `_` or `$`, then word characters and `$`. -/
def identifier? : Text → Option (Text × Text) :=
  identifierOf? fun character => isWordCharacter character || character == '$'

/-- A literal between two quotes of the given kind, quotes included. -/
def quoted? (quote : Char) : Text → Option (Text × Text)
  | [] => none
  | character :: rest =>
      if character = quote then
        match rest.dropWhile (· != quote) with
        | [] => none
        | closing :: after =>
            some (character :: rest.takeWhile (· != quote) ++ [closing], after)
      else
        none

end Text

end ComponentPages
