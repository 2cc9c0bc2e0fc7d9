import ComponentPages.Project.Path
import ComponentPages.Text.Pattern

namespace ComponentPages

/-!
# Component identity

The name under which a component is known. A declared name that agrees with the file's name is
preferred, then the first declared name, then the file's name.
-/

namespace Identity

def isNameCharacter (character : Char) : Bool :=
  character.isAlphanum || character == '_'

/-- A component name: a capital, then letters, digits and underscores. -/
def componentName? : Text → Option (Text × Text)
  | [] => none
  | first :: rest =>
      if first.isUpper then
        some (first :: rest.takeWhile isNameCharacter, rest.dropWhile isNameCharacter)
      else
        none

/-- The pattern of an exported declaration of a component. -/
def exported : Text.Pattern Text :=
  fun previous text => do
    let afterExport ← (Text.afterWord? "export".toList previous text).bind Text.afterBlanks?
    let afterDefault := Text.skipWordAndBlanks "default".toList afterExport
    let afterAsync := Text.skipWordAndBlanks "async".toList afterDefault
    let (_, afterKeyword) ←
      Text.oneOf? ["function".toList, "const".toList, "let".toList, "class".toList] afterAsync
    (Text.afterBlanks? afterKeyword).bind componentName?

/-- What follows a type annotation that holds no equals sign, if the text starts with one. -/
def skipTypeText (text : Text) : Text :=
  match text with
  | ':' :: typeText =>
      if (typeText.takeWhile (· != '=')).isEmpty then
        text
      else
        typeText.dropWhile (· != '=')
  | _ => text

/-- The pattern of a component that is wrapped when it is declared. -/
def wrapped : Text.Pattern Text :=
  fun previous text => do
    let afterConst ← (Text.afterWord? "const".toList previous text).bind Text.afterBlanks?
    let (name, afterName) ← componentName? afterConst
    let value ← Text.after? (skipTypeText (Text.trimStart afterName)) ['=']
    let written := Text.trimStart value
    let wrapper := (Text.after? written "React.".toList).getD written
    let (_, rest) ← Text.oneOf? ["forwardRef".toList, "memo".toList] wrapper
    if Text.startsWithWord rest then none else return (name, rest)

/-- The component names that a source declares, exported ones first. -/
def declared (source : Text) : List Text :=
  (exported.occurrences source ++ wrapped.occurrences source).map (·.captured)

/-! ## Names of files -/

def capitalize : Text → Text
  | [] => []
  | first :: rest => first.toUpper :: rest

/-- The words of a text, each with a capital in front, joined without anything between. -/
def pascalCase (text : Text) : Text :=
  (Text.pieces (!·.isAlphanum) text).flatMap capitalize

/-- The part of a file's name in front of its first dot. -/
def shortStem (stem : Text) : Text :=
  stem.takeWhile (· != '.')

/-- The identity that a path gives: its file's name, or its directory's for an index file. -/
def ofPath? (path : Path) : Option Text := do
  let stem := shortStem (← path.fileStem?)
  let source ← if stem = "index".toList then path.parent?.bind Path.fileName? else some stem
  let name := pascalCase source
  if name.isEmpty then none else return name

/-- The identity of a component whose source has the given text and path. -/
def ofSource? (source : Text) (path : Path) : Option Text :=
  let names := declared source
  match ofPath? path with
  | none => names.head?
  | some expected =>
      if names.contains expected then some expected else some (names.headD expected)

end Identity

end ComponentPages
