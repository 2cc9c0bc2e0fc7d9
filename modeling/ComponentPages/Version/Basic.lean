import ComponentPages.Text.Basic

namespace ComponentPages

/-!
# Versions

A semantic version: three numbers below 2⁶⁴ without leading zeros, then optional prerelease
identifiers behind a hyphen and optional build identifiers behind a plus sign.
-/

/-- A semantic version. -/
structure Version where
  major : Nat
  minor : Nat
  patch : Nat
  /-- The prerelease identifiers. -/
  prerelease : List Text := []
  /-- The build identifiers. -/
  build : List Text := []
  deriving Repr, DecidableEq

namespace Version

/-- Whether digits are written with a zero too many. -/
def hasLeadingZero (digits : Text) : Bool :=
  digits.length > 1 && digits.head? == some '0'

/-- A number at the start of a text, and what follows it. -/
def number? (text : Text) : Option (Nat × Text) :=
  let digits := text.takeWhile Char.isDigit
  let value := Text.digitsValue digits
  if digits.isEmpty || hasLeadingZero digits || value ≥ Text.wordLimit then
    none
  else
    some (value, text.dropWhile Char.isDigit)

def isIdentifierCharacter (character : Char) : Bool :=
  character.isAlphanum || character == '-'

/-- Whether a text is a prerelease identifier. -/
def isPrereleaseIdentifier (text : Text) : Bool :=
  !text.isEmpty && !(text.all Char.isDigit && hasLeadingZero text)

/-- Whether a text is a build identifier. -/
def isBuildIdentifier (text : Text) : Bool :=
  !text.isEmpty

/-- The identifiers at the start of a text, and what follows them. -/
def identifiers? (isValid : Text → Bool) (text : Text) : Option (List Text × Text) :=
  let belongs := fun character => isIdentifierCharacter character || character == '.'
  let identifiers := Text.pieces (· == '.') (text.takeWhile belongs)
  if identifiers.all isValid then
    some (identifiers, text.dropWhile belongs)
  else
    none

/-- The identifiers behind a mark, none if the text does not start with the mark. -/
def suffix? (mark : Char) (isValid : Text → Bool) : Text → Option (List Text × Text)
  | [] => some ([], [])
  | character :: rest =>
      if character = mark then
        identifiers? isValid rest
      else
        some ([], character :: rest)

/-- The version that a text gives as a whole. -/
def ofText? (text : Text) : Option Version := do
  let (major, afterMajor) ← number? text
  let (minor, afterMinor) ← (Text.after? afterMajor ['.']).bind number?
  let (patch, afterPatch) ← (Text.after? afterMinor ['.']).bind number?
  let (prerelease, afterPrerelease) ← suffix? '-' isPrereleaseIdentifier afterPatch
  let (build, rest) ← suffix? '+' isBuildIdentifier afterPrerelease
  if rest.isEmpty then
    return { major, minor, patch, prerelease, build }
  else
    none

/-- The text without a leading `v` or `V`. -/
def dropMark : Text → Text
  | 'v' :: rest => rest
  | 'V' :: rest => rest
  | text => text

/-- The version that a text gives when outer blanks and one leading `v` or `V` do not count. -/
def read? (text : Text) : Option Version :=
  ofText? (dropMark (Text.trim text))

def identifiersText (identifiers : List Text) : Text :=
  Text.joinWith ['.'] identifiers

end Version

end ComponentPages
