import ComponentPages.Source.Comments
import ComponentPages.Declaration.Anchor
import ComponentPages.Declaration.Variant

namespace ComponentPages

/-!
# Extraction

The properties and style variants that a source declares. Comments are stripped first, so that an
apostrophe in prose opens no literal. A declaration or call whose scope is not closed makes the
whole extraction fail.
-/

/-- What a source declares, and the fields of its declarations that could not be read. -/
structure Extraction where
  properties : List Property := []
  variants : List Variant := []
  diagnostics : List Diagnostic := []
  deriving Repr, DecidableEq

namespace Extraction

/-- The properties and diagnostics of declarations, in order. -/
def ofAnchors (text : Text) : List Anchor → Except UnbalancedScope PropertyList
  | [] => .ok ⟨[], []⟩
  | anchor :: later =>
      match Scope.contentAt? text anchor.bodyStart with
      | none => .error ⟨anchor.name, anchor.bodyStart⟩
      | some body => do
          let fields := PropertyList.ofBody anchor.name body
          let others ← ofAnchors text later
          return {
            properties := fields.properties ++ others.properties
            diagnostics := fields.diagnostics ++ others.diagnostics
          }

/-- What source text without comments declares. -/
def ofStripped (text : Text) : Except UnbalancedScope Extraction := do
  let declared ← ofAnchors text (Anchor.allOf text)
  let variants ← Variant.allOf text
  return {
    properties := declared.properties
    variants := variants
    diagnostics := declared.diagnostics
  }

/-- What a source declares. -/
def ofSource (source : Text) : Except UnbalancedScope Extraction :=
  ofStripped (Comment.strip source)

def variantsOfSource (source : Text) : Except UnbalancedScope (List Variant) :=
  Variant.allOf (Comment.strip source)

end Extraction

end ComponentPages
