import ComponentPages.Template.Fragment
import ComponentPages.Template.Value

namespace ComponentPages

/-!
# Rendering

A template is rendered in three passes. The conditional pass drops the blocks whose value is
missing or counts as no, renders what stands inside the others, and leaves the blocks of lists
that are not empty. The loop pass renders the inside of those once for each item. The
substitution pass replaces variables. What a pass has rendered is not looked at again, so that a
value never acts as a tag.
-/

/-- The result of a pass over a template of at most `bound` characters. -/
inductive Segment (bound : Nat) where
  /-- A part of the template that is still to be rendered. -/
  | template (content : Text) (fits : content.length ≤ bound)
  /-- Rendered text. -/
  | rendered (content : Text)

namespace Template

/-- The context inside a loop: the fields of an item that is a map are laid over the context. -/
def itemContext (context : Context) : Value → Context
  | .map fields => context.insertAll fields
  | _ => context

/-- The conditional pass. -/
def conditionalPass
    {bound : Nat}
    (context : Context)
    (nested : (inner : Text) → inner.length < bound → Text) :
    Fragment bound → List (Segment bound)
  | .text content fits => [.template content fits]
  | .block name inner fits =>
      match context.lookup? name with
      | none => []
      | some (.list (_ :: _)) =>
          [.template (Fragment.blockSource name inner)
            (Nat.le_trans (Nat.le_of_eq (Fragment.blockSource_length name inner)) fits)]
      | some value =>
          if value.isTruthy then [.rendered (nested inner (by omega))] else []

/-- The loop pass over one fragment of what the conditional pass left. -/
def loopFragment
    {bound : Nat}
    (context : Context)
    (nested : Context → (inner : Text) → inner.length < bound → Text) :
    Fragment bound → List (Segment bound)
  | .text content fits => [.template content fits]
  | .block name inner fits =>
      match context.lookup? name with
      | some (.list items) =>
          [.rendered (items.flatMap fun item =>
            nested (itemContext context item) inner (by omega))]
      | _ => []

/-- A segment as part of a longer template. -/
def widen {bound larger : Nat} (within : bound ≤ larger) : Segment bound → Segment larger
  | .template content fits => .template content (Nat.le_trans fits within)
  | .rendered content => .rendered content

/-- The loop pass. -/
def loopPass
    {bound : Nat}
    (context : Context)
    (nested : Context → (inner : Text) → inner.length < bound → Text) :
    Segment bound → List (Segment bound)
  | .rendered content => [.rendered content]
  | .template content fits =>
      (Fragment.ofTemplate content).flatMap fun fragment =>
        (loopFragment context
            (fun itemContext inner shorter =>
              nested itemContext inner (Nat.lt_of_lt_of_le shorter fits))
            fragment).map
          (widen fits)

/-- What a token becomes when no block is left. -/
def substituteToken (context : Context) : Token → Text
  | .variable path => ((context.lookup? path).map Value.display).getD []
  | token => token.source

/-- The substitution pass. -/
def substitute (context : Context) {bound : Nat} : Segment bound → Text
  | .rendered content => content
  | .template content _ => (Token.ofTemplate content).flatMap (substituteToken context)

/-- The text of a template in a context that is flat. -/
def renderFlat (context : Context) (template : Text) : Text :=
  let conditionals := (Fragment.ofTemplate template).flatMap
    (conditionalPass context fun inner _ => renderFlat context inner)
  let loops := conditionals.flatMap
    (loopPass context fun itemContext inner _ => renderFlat itemContext inner)
  loops.flatMap (substitute context)
  termination_by template.length

/-- The text of a template in a context. -/
def render (template : Text) (context : Context) : Text :=
  renderFlat context.flatten template

end Template

end ComponentPages
