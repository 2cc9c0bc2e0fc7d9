import ComponentPages.Number.Decimal
import ComponentPages.Text.Keyed

namespace ComponentPages

/-!
# Template values

The values that a template can show or ask about, and the contexts in which it finds them. A
dotted path leads into maps by name and into lists by position.
-/

/-- A value that a template can use. -/
inductive Value where
  | null
  | boolean (flag : Bool)
  | number (amount : Binary64)
  | text (content : Text)
  | list (items : List Value)
  | map (fields : List (Text × Value))

namespace Value

def isTruthy : Value → Bool
  | .null => false
  | .boolean flag => flag
  | .number amount => !amount.isClose .zero
  | .text content => !content.isEmpty
  | .list items => !items.isEmpty
  | .map fields => !fields.isEmpty

/-- The text of a number: no places if it is as good as whole, else the shortest text. -/
def numberText (number : Binary64) : Text :=
  if number.isFinite && number.fractionalPart.isClose .zero then
    Decimal.fixed 0 number
  else
    Decimal.ofNumber number

mutual

def display : Value → Text
  | .null => []
  | .boolean true => "true".toList
  | .boolean false => "false".toList
  | .number amount => numberText amount
  | .text content => content
  | .list items => Text.joinWith ", ".toList (displayAll items)
  | .map _ => []

def displayAll : List Value → List Text
  | [] => []
  | item :: rest => display item :: displayAll rest

end

mutual

/-- Whether two values are the same up to the closeness of numbers. -/
def agrees : Value → Value → Bool
  | .null, .null => true
  | .boolean flag, .boolean other => flag == other
  | .number amount, .number other => amount.isClose other
  | .text content, .text other => content == other
  | .list items, .list others => allAgree items others
  | .map fields, .map others => fieldsAgree fields others
  | _, _ => false

/-- Whether two lists of values agree item by item. -/
def allAgree : List Value → List Value → Bool
  | [], [] => true
  | item :: rest, other :: others => agrees item other && allAgree rest others
  | _, _ => false

/-- Whether two lists of fields agree field by field. -/
def fieldsAgree : List (Text × Value) → List (Text × Value) → Bool
  | [], [] => true
  | (name, value) :: rest, (otherName, other) :: others =>
      name == otherName && agrees value other && fieldsAgree rest others
  | _, _ => false

end

/-- The position that a segment of a path names: decimal digits, perhaps behind a plus sign. -/
def position? (segment : Text) : Option Nat :=
  let digits := (Text.after? segment ['+']).getD segment
  let value := Text.digitsValue digits
  if digits.isEmpty || !digits.all Char.isDigit || value ≥ Text.wordLimit then
    none
  else
    some value

def child? (segment : Text) : Value → Option Value
  | .map fields => Bindings.find? segment fields
  | .list items => (position? segment).bind (items[·]?)
  | _ => none

/-- The value that segments lead to. -/
def descend? : Value → List Text → Option Value
  | value, [] => some value
  | value, segment :: rest => (child? segment value).bind (descend? · rest)

end Value

/-- Named values available to a template. -/
abbrev Context := Keyed Value

namespace Context

def segments (path : Text) : List Text :=
  Text.pieces (· == '.') path

/-- The value that a dotted path leads to. -/
def lookup? (context : Context) (path : Text) : Option Value :=
  match segments path with
  | [] => none
  | first :: rest => (context.find? first).bind (Value.descend? · rest)

/-- The name under which the fields of a component are bound. -/
def componentName : Text := "component".toList

/-- The fields of the map bound under `component`; none if there is no such map. -/
def componentFields (context : Context) : List (Text × Value) :=
  match context.find? componentName with
  | some (.map fields) => fields
  | _ => []

/-- The fields of the component with the context's own bindings laid over them. -/
def flatten (context : Context) : Context :=
  (Keyed.ofList context.componentFields).overlay context

end Context

end ComponentPages
