import ComponentPages.Project.Path

namespace ComponentPages

/-!
# Configuration

What a project can configure. Every setting has a default. Paths are relative to the root of the
project.
-/

/-- Where pages are written. -/
structure OutputSettings where
  directory : Path := ⟨"docs/components".toList⟩
  extension : Text := "md".toList
  deriving Repr, DecidableEq

/-- Which template pages are made from. -/
structure TemplateSettings where
  directory : Path := ⟨".compdoc/templates".toList⟩
  name : Text := "component".toList
  deriving Repr, DecidableEq

/-- Where the registry is stored. -/
structure RegistrySettings where
  path : Path := ⟨".compdoc/registry.json".toList⟩
  deriving Repr, DecidableEq

/-- Which files are sources of components. -/
structure SourceSettings where
  /-- Globs of the sources; the default ones if there are none. -/
  includes : List Text := []
  /-- Globs of files that are no sources; the default ones if there are none. -/
  excludes : List Text := []
  /-- Whether the ignore rules of version control are disregarded. -/
  disableGitignore : Bool := false
  deriving Repr, DecidableEq

/-- The configuration of a project. -/
structure Configuration where
  output : OutputSettings := {}
  templates : TemplateSettings := {}
  registry : RegistrySettings := {}
  sources : SourceSettings := {}
  deriving Repr, DecidableEq

namespace Configuration

/-- The files that may hold a configuration; the first that exists counts. -/
def candidates : List Path :=
  [⟨"compdoc.toml".toList⟩, ⟨".compdoc.toml".toList⟩, ⟨".config/compdoc.toml".toList⟩]

end Configuration

end ComponentPages
