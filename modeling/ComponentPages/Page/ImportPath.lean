import ComponentPages.Project.Path

namespace ComponentPages

/-!
# Import paths

How other sources import a component: below a directory named `src` by the alias `@/`, elsewhere
as a neighbour.
-/

namespace ImportPath

/-- What follows the last `src` of a list of names, if anything does. -/
def belowSource? : List Text → Option (List Text)
  | [] => none
  | name :: rest =>
      match belowSource? rest with
      | some inner => some inner
      | none =>
          if name = "src".toList ∧ rest ≠ [] ∧ "src".toList ∉ rest then some rest else none

/-- Names without a final `index` that follows another name. -/
def dropIndex (names : List Text) : List Text :=
  if names.length > 1 && names.getLast? == some "index".toList then names.dropLast else names

/-- The text by which a component at a path is imported. -/
def ofPath (path : Path) : Text :=
  let names := (path.withExtension []).components.filterMap Path.Component.name?
  match belowSource? names with
  | some inner => "@/".toList ++ Text.joinWith ['/'] (dropIndex inner)
  | none => "./".toList ++ names.getLast?.getD []

end ImportPath

end ComponentPages
