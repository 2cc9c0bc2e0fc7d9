import ComponentPages.Snapshot.Status

namespace ComponentPages

/-!
# Declared versions and dates

A source declares its version, in order of preference, by an annotation, by an exported constant,
by a property of the component, or by a comment.
-/

namespace DeclaredVersion

/-- The version of a source that declares none. -/
def default : Text := "1.0.0".toList

/-- The text without a leading `v`. -/
def dropMark (text : Text) : Text :=
  (Text.after? text ['v']).getD text

def isSuffixCharacter (character : Char) : Bool :=
  character.isAlphanum || character == '.' || character == '-'

/-- A suffix: one of the marks and at least one character of a kind. -/
def suffix? (marks : List Char) (belongs : Char → Bool) : Text → Option (Text × Text)
  | [] => none
  | mark :: rest =>
      if marks.elem mark then
        (Text.run? belongs rest).map fun (characters, after) => (mark :: characters, after)
      else
        none

/-- What continues a digit: more digits, and further numbers that each have a dot in front. -/
def restOfNumbers : Text → Text × Text
  | [] => ([], [])
  | '.' :: digit :: rest =>
      if Text.isDecimalDigit digit then
        let (numbers, after) := restOfNumbers rest
        ('.' :: digit :: numbers, after)
      else
        ([], '.' :: digit :: rest)
  | character :: rest =>
      if Text.isDecimalDigit character then
        let (numbers, after) := restOfNumbers rest
        (character :: numbers, after)
      else
        ([], character :: rest)

/-- A version at the start of a text: numbers between dots, then at most one suffix. -/
def annotated? : Text → Option (Text × Text)
  | [] => none
  | first :: afterFirst =>
      if Text.isDecimalDigit first then
        let (numbers, afterNumbers) := restOfNumbers afterFirst
        let (suffix, rest) :=
          (suffix? ['-', '+'] isSuffixCharacter afterNumbers).getD ([], afterNumbers)
        some (first :: numbers ++ suffix, rest)
      else
        none

def versionTag : Text.Pattern Text :=
  fun _ text => do
    let value ← Text.afterWordAndBlanks? "@version".toList text
    annotated? (dropMark value)

/-- The quotes around a version. -/
def isQuote (character : Char) : Bool :=
  character == '\'' || character == '\x22' || character == '\x60'

/-- A version between two quotes, which need not be the same. A leading `v` does not count. -/
def quoted? : Text → Option (Text × Text)
  | [] => none
  | opening :: inside =>
      let content := inside.takeWhile (!isQuote ·)
      match inside.dropWhile (!isQuote ·) with
      | [] => none
      | _ :: rest =>
          if !isQuote opening || content.isEmpty then
            none
          else if (dropMark content).isEmpty then
            some (content, rest)
          else
            some (dropMark content, rest)

/-- A quoted version behind an equals sign. -/
def assigned? (text : Text) : Option (Text × Text) := do
  let value ← Text.after? (Text.trimStart text) ['=']
  quoted? (Text.trimStart value)

/-- What follows the type of a constant, if one is given. -/
def skipType (text : Text) : Text :=
  let afterType := do
    let type ← Text.after? (Text.trimStart text) [':']
    Text.after? (Text.trimStart type) "string".toList
  afterType.getD text

/-- The pattern of an exported constant whose name ends in `VERSION`. -/
def constant : Text.Pattern Text :=
  fun previous text => do
    let afterExport ← (Text.afterWord? "export".toList previous text).bind Text.afterBlanks?
    let name ← Text.afterWordAndBlanks? "const".toList afterExport
    let belongs := fun character => character.isAlpha || character == '_'
    if "VERSION".toList.isSuffixOf (name.takeWhile belongs) then
      assigned? (skipType (name.dropWhile belongs))
    else
      none

/-- The pattern of a version property that is set. -/
def property : Text.Pattern Text :=
  fun _ text => (Text.after? text ".version".toList).bind assigned?

/-- Three numbers between dots and at most one suffix, behind the word or letter for a version. -/
def commented? (text : Text) : Option (Text × Text) := do
  let afterWord := do
    let rest ← Text.afterFolded? text "version".toList
    let value := Text.trimStart ((Text.after? rest [':']).getD rest)
    threeNumbers? ((Text.afterFolded? value ['v']).getD value)
  let afterLetter := (Text.afterFolded? text ['v']).bind threeNumbers?
  afterWord <|> afterLetter
where
  threeNumbers? (text : Text) : Option (Text × Text) := do
    let (major, afterMajor) ← Text.run? Text.isDecimalDigit text
    let (minor, afterMinor) ← (Text.after? afterMajor ['.']).bind (Text.run? Text.isDecimalDigit)
    let (patch, afterPatch) ← (Text.after? afterMinor ['.']).bind (Text.run? Text.isDecimalDigit)
    let (suffix, rest) :=
      (suffix? ['-'] (fun character => isSuffixCharacter (Text.foldCharacter character))
        afterPatch).getD ([], afterPatch)
    return (major ++ '.' :: minor ++ '.' :: patch ++ suffix, rest)

/--
The first version in a comment: behind a comment opener, or behind the star of a comment's line,
in front of which only blanks stand. `atLineStart` says whether a star would count.
-/
def inComment? : (atLineStart : Bool) → Text → Option Text
  | _, [] => none
  | atLineStart, character :: rest =>
      let marked :=
        match character, rest with
        | '/', '/' :: inside => commented? (Text.trimStart inside)
        | '/', '*' :: inside => commented? (Text.trimStart inside)
        | '*', inside => if atLineStart then commented? (Text.trimStart inside) else none
        | _, _ => none
      match marked with
      | some (version, _) => some version
      | none => inComment? (character == '\n' || (atLineStart && Text.isBlank character)) rest

/-- The version that a source declares. -/
def ofSource (source : Text) : Text :=
  let declared :=
    versionTag.first? source <|> constant.first? source <|> property.first? source <|>
      inComment? true source
  Text.trim (declared.getD default)

end DeclaredVersion

namespace DeclaredDate

def dateTag : Text.Pattern Text :=
  fun _ text => do
    let (_, rest) ← Text.oneOf? ["@lastModified".toList, "@updated".toList] text
    let value ← Text.afterBlanks? rest
    Text.run? (fun character => !Text.isBlank character && character != '*') value

/-- The date that a source declares, or else the present one. -/
def ofSource (now source : Text) : Text :=
  (dateTag.first? source).getD now

end DeclaredDate

end ComponentPages
