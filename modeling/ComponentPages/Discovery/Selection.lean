import ComponentPages.Configuration.Basic
import ComponentPages.Glob.Reader

namespace ComponentPages

/-!
# Selection of sources

A file is a source if one of the including globs matches its path below the root and none of the
excluding globs does. In these globs a star crosses separators.
-/

/-- The globs that select sources below a root. -/
structure Selection where
  root : Path
  includes : List Glob
  excludes : List Glob
  deriving Repr

namespace Selection

/-- The globs of sources when none are given. -/
def defaultIncludes : List Text :=
  ["src/components/**/*.tsx".toList, "src/components/**/*.jsx".toList]

/-- The globs of files that are no sources when none are given. -/
def defaultExcludes : List Text :=
  ["**/*.stories.tsx".toList, "**/*.stories.jsx".toList, "**/*.test.tsx".toList,
    "**/*.test.jsx".toList]

/-- A source pattern as a glob. -/
def globOf (pattern : Text) : Except ConfigurationFault Glob :=
  (Glob.read false false pattern).mapError (.badPattern pattern)

/-- The patterns given, or the default ones if there are none. -/
def orDefault (patterns default : List Text) : List Text :=
  if patterns.isEmpty then default else patterns

/-- The selection that settings describe. The first pattern that is no glob is refused. -/
def ofSettings (root : Path) (settings : SourceSettings) : Except ConfigurationFault Selection := do
  let includes ← (orDefault settings.includes defaultIncludes).mapM globOf
  let excludes ← (orDefault settings.excludes defaultExcludes).mapM globOf
  return ⟨root, includes, excludes⟩

def tracks (selection : Selection) (path : Path) : Bool :=
  match path.relativeTo? selection.root with
  | none => false
  | some inner =>
      selection.includes.any (·.isMatch inner.text) &&
        !selection.excludes.any (·.isMatch inner.text)

end Selection

end ComponentPages
