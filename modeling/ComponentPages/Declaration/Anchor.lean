import ComponentPages.Text.Pattern

namespace ComponentPages

/-!
# Declaration anchors

A declaration whose body lists properties is an interface or an object type alias whose name ends
in `Props` and is longer than that. A list of type parameters right behind the name disqualifies
it. An interface's body starts at the first brace of its heritage clause, unless a semicolon or a
closing brace comes first; an alias's body starts right behind its equals sign.
-/

/-- The two forms of a declaration. -/
inductive Anchor.Form where
  /-- An interface. -/
  | interface
  /-- A type alias for an object type. -/
  | alias
  deriving Repr, DecidableEq

/-- A declaration whose body lists properties. -/
structure Anchor where
  form : Anchor.Form
  name : Text
  /-- The offset of the keyword. -/
  start : Nat
  /-- The offset of the brace that opens the body. -/
  bodyStart : Nat
  deriving Repr, DecidableEq

namespace Anchor

def Form.keyword : Form → Text
  | .interface => "interface".toList
  | .alias => "type".toList

/-- The head of a declaration, and the text behind it. -/
structure Head where
  name : Text
  /-- Whether a list of type parameters follows the name. -/
  parametric : Bool
  rest : Text
  deriving Repr, DecidableEq

/-- The pattern of a declaration's keyword and name. -/
def Form.head (form : Form) : Text.Pattern Head :=
  fun previous text => do
    let afterKeyword ← Text.afterWord? form.keyword previous text
    let (name, afterName) ← (Text.afterBlanks? afterKeyword).bind Text.identifier?
    match Text.trimStart afterName with
    | '<' :: rest => some (⟨name, true, rest⟩, rest)
    | rest => some (⟨name, false, rest⟩, rest)

/-- Names of property lists end in `Props` and are longer than that. -/
def namesProperties (name : Text) : Bool :=
  "Props".toList.isSuffixOf name && name != "Props".toList

/-- The number of bytes between an interface's head and its body. -/
def interfaceGap? (rest : Text) : Option Nat :=
  let stops := fun character => character == '{' || character == ';' || character == '}'
  match rest.dropWhile (!stops ·) with
  | '{' :: _ => some (Text.byteLength (rest.takeWhile (!stops ·)))
  | _ => none

/-- The number of bytes between an alias's head and its body. -/
def aliasGap? (rest : Text) : Option Nat :=
  match Text.trimStart rest with
  | '=' :: value =>
      match Text.trimStart value with
      | '{' :: inside => some (rest.byteLength - Text.byteLength ('{' :: inside))
      | _ => none
  | _ => none

/-- The number of bytes between a declaration's head and its body. -/
def Form.gap? : Form → Text → Option Nat
  | .interface => interfaceGap?
  | .alias => aliasGap?

/-- The anchor that a declaration's head gives, if the declaration lists properties. -/
def ofHead? (form : Form) (head : Text.Occurrence Head) : Option Anchor :=
  if head.captured.parametric || !namesProperties head.captured.name then
    none
  else
    (form.gap? head.captured.rest).map fun gap =>
      ⟨form, head.captured.name, head.start, head.stop + gap⟩

/-- The anchors of one form, in source order. -/
def ofForm (form : Form) (text : Text) : List Anchor :=
  (form.head.occurrences text).filterMap (ofHead? form)

/-- The anchors of a text, in source order. -/
def allOf (text : Text) : List Anchor :=
  (ofForm .interface text ++ ofForm .alias text).mergeSort
    fun earlier later => earlier.start ≤ later.start

end Anchor

end ComponentPages
