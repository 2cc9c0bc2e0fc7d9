import ComponentPages.Text.Basic

namespace ComponentPages

/-!
# JSON values

A value keeps what its document shows: numbers as they are written, and the fields of an object in
their order with all repetitions. A string whose escapes or bytes give no text is kept without its
content, because only a reader that asks for the text has to refuse it.
-/

/-- A value of a JSON document. -/
inductive JsonValue where
  | null
  | boolean (value : Bool)
  /-- A number as it is written. -/
  | number (written : Text)
  /-- A string; none if it is no text. -/
  | text (content : Option Text)
  | list (items : List JsonValue)
  | object (fields : List (Option Text × JsonValue))
  deriving Repr

namespace JsonValue

def ofText (content : Text) : JsonValue :=
  .text (some content)

def ofNat (number : Nat) : JsonValue :=
  .number (Text.ofNat number)

def ofOption (value : Option JsonValue) : JsonValue :=
  value.getD .null

def ofFields (fields : List (String × JsonValue)) : JsonValue :=
  .object (fields.map fun (name, value) => (some name.toList, value))

end JsonValue

end ComponentPages
