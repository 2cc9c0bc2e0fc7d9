import ComponentPages.Source.Division
import ComponentPages.Declaration.TypeText

namespace ComponentPages

/-!
# Properties

The body of a declaration is divided into fields at semicolons, commas and line breaks. A piece
that continues the type of the field before it is joined to that field. Each field then reads as
a property, or is reported together with the reason why it does not.
-/

/-- A property of a component. -/
structure Property where
  name : Text
  /-- The type in its short form. -/
  typeText : Text
  required : Bool
  /-- What the field's default marker says. -/
  defaultValue : Option Text
  description : Text
  deriving Repr, DecidableEq

/-- Why a field does not read as a property. -/
inductive FieldFault where
  /-- The field is no name, colon and type. -/
  | noShape
  /-- Nothing is left of the type in its short form. -/
  | noType
  /-- The type has more opening than closing angles, or fewer. -/
  | unbalancedAngles
  deriving Repr, DecidableEq

/-- The reason in words. -/
def FieldFault.message : FieldFault → Text
  | .noShape => "no top-level `name: type` shape".toList
  | .noType => "missing type annotation".toList
  | .unbalancedAngles => "unbalanced generic brackets".toList

/-! ## Descriptions -/

namespace Property

/-- Descriptions of the properties that most components share. -/
def descriptions : List (String × String) :=
  [("children", "The content rendered inside the component"),
   ("className", "Additional CSS classes to apply"),
   ("variant", "The visual style variant"),
   ("size", "The size of the component"),
   ("disabled", "Whether the component is disabled"),
   ("asChild", "Render as the child element, merging props onto it"),
   ("onClick", "Handler called when the component is clicked"),
   ("onChange", "Handler called when the value changes"),
   ("value", "The controlled value"),
   ("defaultValue", "The initial value when uncontrolled"),
   ("placeholder", "Placeholder text shown while empty"),
   ("type", "The native type attribute"),
   ("id", "Unique identifier for the element"),
   ("name", "The name submitted with a form"),
   ("label", "Accessible label text"),
   ("checked", "Whether the control is checked"),
   ("open", "Whether the component is open"),
   ("onOpenChange", "Handler called when the open state changes"),
   ("required", "Whether a value is required"),
   ("loading", "Whether to show a loading state"),
   ("style", "Inline styles to apply")]

def isFunctionType (typeText : Text) : Bool :=
  Text.contains typeText "=>".toList || Text.contains typeText "Function".toList ||
    "Handler".toList.isSuffixOf typeText

/-- A description guessed from the type. -/
def describeByType (name typeText : Text) : Text :=
  let quoted := "`".toList ++ name ++ "`".toList
  if Text.contains typeText "boolean".toList then
    "Whether to enable ".toList ++ quoted
  else if Text.contains typeText "string".toList then
    "The ".toList ++ quoted ++ " text".toList
  else if Text.contains typeText "number".toList then
    "The ".toList ++ quoted ++ " value".toList
  else if isFunctionType typeText then
    "Callback function for ".toList ++ quoted
  else
    "The ".toList ++ quoted ++ " prop".toList

/-- The description of a property: from the table, else guessed from its type. -/
def describe (name typeText : Text) : Text :=
  match descriptions.find? fun (known, _) => known.toList == name with
  | some (_, description) => description.toList
  | none => describeByType name typeText

end Property

/-! ## Fields -/

/-- A quoted name without its quotes. -/
def unquote (text : Text) : Text :=
  text.trimWhile fun character => character == '\'' || character == '\x22'

namespace Field

/-- A field as it is written: its name, whether a question mark follows, and the type's text. -/
structure Shape where
  name : Text
  optional : Bool
  typeText : Text
  deriving Repr, DecidableEq

/-- An identifier or a quoted name. -/
def name? (text : Text) : Option (Text × Text) :=
  Text.identifier? text <|> Text.quoted? '\'' text <|> Text.quoted? '\x22' text

/-- The shape of a field that starts with its name. -/
def shapeFromName? (text : Text) : Option Shape := do
  let (name, afterName) ← name? text
  let (optional, afterMark) :=
    match Text.trimStart afterName with
    | '?' :: rest => (true, Text.trimStart rest)
    | rest => (false, rest)
  let typeText ← Text.after? afterMark [':']
  return ⟨name, optional, typeText⟩

/-- The shape of a field, which may start with `readonly`. -/
def shape? (field : Text) : Option Shape :=
  (Text.afterWordAndBlanks? "readonly".toList field).bind shapeFromName? <|>
    shapeFromName? field

/-- Whether a piece continues the type of the field that precedes it. -/
def continuesType (previous piece : Text) : Bool :=
  ["|", "&", "=>"].any (·.toList.isPrefixOf piece) ||
    ["|", "&", ":", "=>"].any (·.toList.isSuffixOf previous) ||
    (TypeText.angleBalance previous > 0 && (shape? piece).isNone)

/--
The fields of the pieces that are still to come, when the last field so far is `current` and
`gap` stands behind it: separators and blank pieces that belong to no field unless a continuation
follows.
-/
def gather (current gap : Text) : List (Char × Text) → List Text
  | [] => [current]
  | (separator, piece) :: later =>
      let gap := gap ++ [separator]
      if (Text.trim piece).isEmpty then
        gather current (gap ++ piece) later
      else if continuesType (Text.trim current) (Text.trim piece) then
        gather (current ++ gap ++ piece) [] later
      else
        current :: gather piece [] later

/-- The fields of pieces of which the first that is not blank starts a field. -/
def gatherAll (first : Text) : List (Char × Text) → List Text
  | [] => if (Text.trim first).isEmpty then [] else [first]
  | (separator, piece) :: later =>
      if (Text.trim first).isEmpty then
        gatherAll piece later
      else
        gather first [] ((separator, piece) :: later)

/-- The terminators of fields. -/
def isTerminator (character : Char) : Bool :=
  character == ';' || character == ',' || character == '\n'

/-- The fields of a declaration's body, trimmed. -/
def ofBody (body : Text) : List Text :=
  let division := Division.ofText isTerminator body
  (gatherAll division.first division.later).map Text.trim

/--
The pattern of a default marker: a comment that starts with `@default` and at least one blank. It
captures what stands between that and the end of the comment.
-/
def defaultMarker : Text.Pattern Text :=
  fun _ text => do
    let (_, afterStars) ← (Text.after? text ['/']).bind (Text.run? (· == '*'))
    let content ← Text.afterWordAndBlanks? "@default".toList (Text.trimStart afterStars)
    let (value, rest) ← Text.breakOn? content "*/".toList
    return (Text.trim value, rest)

/-- The type's text without its default marker, and what that marker says. -/
def separateDefault (typeText : Text) : Text × Option Text :=
  match defaultMarker.break? typeText with
  | some (before, value, after) => (before ++ ' ' :: after, some value)
  | none => (typeText, none)

/-- The property that a field declares. -/
def toProperty (field : Text) : Except FieldFault Property :=
  match shape? field with
  | none => .error .noShape
  | some shape =>
      let (written, defaultValue) := separateDefault shape.typeText
      let typeText := TypeText.normalize written
      if typeText.isEmpty then
        .error .noType
      else if TypeText.angleBalance typeText ≠ 0 then
        .error .unbalancedAngles
      else
        let name := unquote shape.name
        .ok {
          name := name
          typeText := typeText
          required := !shape.optional
          defaultValue := defaultValue
          description := Property.describe name typeText
        }

end Field

/-! ## The properties of a body -/

/-- A field that could not be read, and why. -/
structure Diagnostic where
  declaration : Text
  field : Text
  fault : FieldFault
  deriving Repr, DecidableEq

/-- The properties of one declaration and the fields that could not be read. -/
structure PropertyList where
  properties : List Property
  diagnostics : List Diagnostic
  deriving Repr, DecidableEq

namespace PropertyList

/--
The properties and diagnostics of fields, when properties of the names `seen` precede them. A
field whose name was seen is passed over.
-/
def ofFieldsFrom (declaration : Text) : (seen : List Text) → List Text → PropertyList
  | _, [] => ⟨[], []⟩
  | seen, field :: later =>
      match Field.toProperty field with
      | .ok property =>
          if property.name ∈ seen then
            ofFieldsFrom declaration seen later
          else
            let others := ofFieldsFrom declaration (property.name :: seen) later
            { others with properties := property :: others.properties }
      | .error fault =>
          let others := ofFieldsFrom declaration seen later
          { others with diagnostics := ⟨declaration, field, fault⟩ :: others.diagnostics }

/-- The properties and diagnostics of a declaration's body. -/
def ofBody (declaration body : Text) : PropertyList :=
  ofFieldsFrom declaration [] (Field.ofBody body)

end PropertyList

end ComponentPages
