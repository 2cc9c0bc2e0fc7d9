import ComponentPages.Text.Pattern

namespace ComponentPages

/-!
# Type texts

The type of a property is shown in a short form: blanks are collapsed, a leading bar and a last
`undefined` arm are dropped, and the long names of bundles of element attributes give way to
three short ones.
-/

namespace TypeText

/-- The words of a type, one blank between neighbours. -/
def collapse (text : Text) : Text :=
  Text.joinWith [' '] (Text.words text)

/-- A type without its leading bars. -/
def dropLeadingBars (text : Text) : Text :=
  Text.trimStart (text.trimStartWhile (· == '|'))

/-- A type without its last arm, if that arm is `undefined`. -/
def dropLastUndefined (text : Text) : Text :=
  let arm := do
    let beforeArm ← Text.after? (Text.trimEnd text).reverse "undefined".toList.reverse
    let beforeBar ← Text.after? (Text.trimStart beforeArm) ['|']
    return (Text.trimStart beforeBar).reverse
  arm.getD text

/-- The arguments of a bundle: an angle pair that holds no other angle. -/
def arguments? (text : Text) : Option Text :=
  match text with
  | '<' :: inside =>
      match inside.dropWhile fun character => character != '<' && character != '>' with
      | '>' :: rest => some rest
      | _ => none
  | _ => none

/-- What follows a bundle of the attributes of an element: `ButtonHTMLAttributes<…>`. -/
def afterElementBundle? (text : Text) : Option Text := do
  let (letters, rest) := Text.run Char.isAlpha text
  let elementName ← Text.after? letters.reverse "HTMLAttributes".toList.reverse
  let isName :=
    match elementName.reverse with
    | [] => true
    | first :: _ => first.isUpper
  if isName then arguments? rest else none

/-- What follows a bundle of the properties of a component: `ComponentProps<…>`. -/
def afterComponentBundle? (text : Text) : Option Text := do
  let rest ← Text.after? text "ComponentProps".toList
  let variants := ["WithoutRef".toList, "WithRef".toList, []]
  variants.findSome? fun variant => (Text.after? rest variant).bind arguments?

/-- What follows a bundle, with or without the name of its library in front. -/
def afterBundle? (text : Text) : Option Text :=
  let unqualified := (Text.after? text "React.".toList).getD text
  afterElementBundle? unqualified <|> afterElementBundle? text <|>
    afterComponentBundle? unqualified <|> afterComponentBundle? text

def bundleName (bundle : Text) : Text :=
  let small := bundle.map Char.toLower
  if Text.contains small "button".toList then
    "ButtonAttributes".toList
  else if Text.contains small "input".toList then
    "InputAttributes".toList
  else
    "HTMLAttributes".toList

/-- The pattern of a bundle; it captures the bundle's short name. -/
def bundle : Text.Pattern Text :=
  fun _ text => (afterBundle? text).map fun rest =>
    (bundleName (text.take (text.length - rest.length)), rest)

/-- The short form of a type. -/
def normalize (text : Text) : Text :=
  Text.trim (bundle.replaceAll (dropLastUndefined (dropLeadingBars (collapse text))))

/-! ## Angles -/

/-- Opening less closing angles behind a character; the angle of an arrow does not count. -/
def angleBalanceFrom : Option Char → Text → Int
  | _, [] => 0
  | previous, character :: rest =>
      let weight : Int :=
        if character = '<' then
          1
        else if character = '>' && previous != some '=' then
          -1
        else
          0
      weight + angleBalanceFrom (some character) rest

/-- Opening less closing angles; the angle of an arrow does not count. -/
def angleBalance (text : Text) : Int :=
  angleBalanceFrom none text

end TypeText

end ComponentPages
