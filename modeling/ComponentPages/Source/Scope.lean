import ComponentPages.Source.Reading

namespace ComponentPages

/-!
# Scopes

The content of a scope is the text between an opening delimiter and the closer at which the depth
of nesting comes back to zero.
-/

namespace Scope

/-- The text up to the closer at which the depth comes back to zero. -/
def contentFrom? : Reading → Text → Option Text
  | _, [] => none
  | reading, character :: rest =>
      if reading.role character = .closer ∧ (reading.next character).depth = 0 then
        some []
      else
        (contentFrom? (reading.next character) rest).map (character :: ·)

/-- The content of the scope whose opening delimiter is the first character of the text. -/
def content? : Text → Option Text
  | [] => none
  | character :: rest =>
      if isOpener character then
        contentFrom? ⟨1, none, false⟩ rest
      else
        none

/-- The content of the scope whose opening brace is the first character of the text. -/
def bracedContent? : Text → Option Text
  | '{' :: rest => content? ('{' :: rest)
  | _ => none

/--
The content of the scope that opens at an offset; nothing if no opening delimiter stands there or
the scope is not closed.
-/
def contentAt? (text : Text) (offset : Nat) : Option Text :=
  (text.from? offset).bind content?

end Scope

end ComponentPages
