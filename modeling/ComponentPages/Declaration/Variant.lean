import ComponentPages.Source.Scope
import ComponentPages.Declaration.Property

namespace ComponentPages

/-!
# Style variants

The style variants of a component are configured by calls of a builder. The second argument of
such a call may be an object with a `variants` entry, whose entries are the axes; the entries of
an axis are its options. Entries that do not have this form are passed over.
-/

/-- One option of an axis. -/
structure VariantOption where
  value : Text
  description : Text
  deriving Repr, DecidableEq

/-- An axis of style variants. -/
structure Variant where
  name : Text
  options : List VariantOption
  /-- The option that is taken if none is given. -/
  defaultValue : Option Text
  deriving Repr, DecidableEq

/-- Delimiters that do not match up, found at a declaration or call. -/
structure UnbalancedScope where
  anchor : Text
  offset : Nat
  deriving Repr, DecidableEq

namespace VariantOption

/-- Descriptions of the options that most components share. -/
def descriptions : List (String × String) :=
  [("default", "Default styling"),
   ("primary", "Primary emphasis for the main action"),
   ("secondary", "Secondary, lower-emphasis styling"),
   ("destructive", "Signals a dangerous or destructive action"),
   ("outline", "Bordered style with a transparent background"),
   ("ghost", "Minimal style without background or border"),
   ("link", "Styled as an inline text link"),
   ("sm", "Small size"),
   ("md", "Medium size"),
   ("lg", "Large size"),
   ("xl", "Extra large size"),
   ("icon", "Square sizing for icon-only content")]

def describe (value : Text) : Text :=
  match descriptions.find? fun (known, _) => known.toList == value with
  | some (_, description) => description.toList
  | none => "`".toList ++ value ++ "` variant".toList

end VariantOption

/-! ## Keyed entries -/

namespace Entry

/-- A key: an identifier that may hold hyphens, a quoted name, or digits. -/
def key? (text : Text) : Option (Text × Text) :=
  Text.identifierOf?
      (fun character =>
        Text.isWordCharacter character || character == '$' || character == '-') text <|>
    Text.quoted? '\'' text <|> Text.quoted? '\x22' text <|>
    Text.run? Text.isDecimalDigit text

/-- The key of an entry without its quotes, and the text of its value. -/
def keyAndValue? (entry : Text) : Option (Text × Text) := do
  let (key, afterKey) ← key? entry
  let value ← Text.after? (Text.trimStart afterKey) [':']
  return (unquote key, Text.trimStart value)

end Entry

/-! ## Builder calls -/

namespace BuilderCall

/-- The builder's name. -/
def builder : Text := "cva".toList

/-- The pattern of a call of the builder, up to its opening parenthesis. -/
def pattern : Text.Pattern Unit :=
  fun previous text => do
    let afterName ← Text.afterWord? builder previous text
    let inside ← Text.after? (Text.trimStart afterName) ['(']
    return ((), inside)

/-- The offsets of the opening parentheses of all calls. -/
def allOf (text : Text) : List Nat :=
  (pattern.occurrences text).map fun call => call.stop - 1

/--
The content of the object that is the second argument of the call whose parenthesis stands at an
offset; nothing if there is no such argument or it is no object.
-/
def configuration? (text : Text) (call : Nat) : Except UnbalancedScope (Option Text) :=
  match findTopLevel? text (call + 1) ',' with
  | none => .ok none
  | some comma =>
      let (before, after) := text.cutAt (comma + 1)
      let argument := Text.trimStart after
      match argument with
      | '{' :: _ =>
          match Scope.content? argument with
          | some content => .ok (some content)
          | none =>
              .error ⟨builder,
                before.byteLength + (after.byteLength - argument.byteLength)⟩
      | _ => .ok none

end BuilderCall

/-! ## Axes -/

namespace Variant

/-- The commas between entries. -/
def isComma (character : Char) : Bool :=
  character == ','

/-- The option that an entry of an axis gives. -/
def option? (entry : Text) : Option VariantOption := do
  let (key, value) ← Entry.keyAndValue? entry
  if value.isEmpty then
    none
  else
    return ⟨key, VariantOption.describe key⟩

/-- The axis that an entry of the `variants` object gives. -/
def axis? (entry : Text) : Option Variant := do
  let (key, value) ← Entry.keyAndValue? entry
  let body ← Scope.bracedContent? value
  let options := (topLevelSegments isComma body).filterMap option?
  let default := "default".toList
  return {
    name := key
    options := options
    defaultValue := if options.any (·.value == default) then some default else none
  }

/-- The pattern of the key `variants` with the brace that opens its value. -/
def variantsKey : Text.Pattern Text :=
  fun previous text => do
    let afterKey ← Text.afterWord? "variants".toList previous text
    let value ← Text.after? (Text.trimStart afterKey) [':']
    match Text.trimStart value with
    | '{' :: inside => return ('{' :: inside, inside)
    | _ => none

/-- The axes that a configuration object lists. -/
def axesOf (configuration : Text) : List Variant :=
  match (variantsKey.first? configuration).bind Scope.content? with
  | some body => (topLevelSegments isComma body).filterMap axis?
  | none => []

/-- The axes with those of `more` that have new names, each compared with all before it. -/
def addNew (axes : List Variant) : List Variant → List Variant
  | [] => axes
  | axis :: more =>
      if axes.any (·.name == axis.name) then
        addNew axes more
      else
        addNew (axes ++ [axis]) more

/-- The axes that builder calls configure, added to the axes found so far. -/
def ofCallsFrom
    (text : Text)
    (axes : List Variant) :
    List Nat → Except UnbalancedScope (List Variant)
  | [] => .ok axes
  | call :: later =>
      match BuilderCall.configuration? text call with
      | .error fault => .error fault
      | .ok none => ofCallsFrom text axes later
      | .ok (some configuration) =>
          ofCallsFrom text (addNew axes (axesOf configuration)) later

/-- The axes of source text without comments. -/
def allOf (text : Text) : Except UnbalancedScope (List Variant) :=
  ofCallsFrom text [] (BuilderCall.allOf text)

end Variant

end ComponentPages
