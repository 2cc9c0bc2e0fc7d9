import ComponentPages.Generator.Options
import ComponentPages.Proofs.Project.Component
import ComponentPages.Proofs.Snapshot.Identity
import ComponentPages.Proofs.Storage.Places

namespace ComponentPages

/-!
# Pages in the output directory

Whatever a source declares and however its file and the directories above it are named, the path of
its page is that of an entry of the output directory. The identity has no separator and no dot in
it, so the name of the page leads neither into a directory below nor to one above.
-/

/-! ## Entries -/

/--
Whether a path leads to an entry of a directory under a name: it has one component more than the
directory, which is the name; the directory is its parent; and from each working directory its place
is right below that of the directory.
-/
structure Path.IsEntry (path directory : Path) (name : Text) : Prop where
  components : path.components = directory.components ++ [.name name]
  fileName : path.fileName? = some name
  parent : ∃ parent, path.parent? = some parent ∧ parent.components = directory.components
  place : ∀ start, path.place start = directory.place start ++ [name]

/-- A file with a proper name is an entry of its directory. -/
theorem Path.isEntry_file
    {name : Text}
    (isCounted : counts name = true)
    (noDots : name ≠ ['.', '.'])
    (isWhole : '/' ∉ name)
    (directory : Path) :
    (directory.file name).IsEntry directory name where
  components := components_file isCounted noDots isWhole directory
  fileName := fileName?_file isCounted noDots isWhole directory
  parent := exists_parent?_file isCounted noDots isWhole directory
  place start := place_file isCounted noDots isWhole start directory

namespace Identity

/--
An identity is a name, and the path of its page leads to an entry of the output directory: the
identity in lower case, a dot and the extension.
-/
theorem isEntry_pagePath
    {source : Text}
    {path : Path}
    {identity : Text}
    (isIdentity : ofSource? source path = some identity) :
    IsName identity ∧
      ∀ options : Options, '/' ∉ options.extension →
        (options.pagePath identity).IsEntry options.outputDirectory
          (identity.map Char.toLower ++ '.' :: options.extension) := by
  have isName : IsName identity := .of_ofSource? isIdentity
  refine ⟨isName, fun options isWhole => ?_⟩
  obtain ⟨isCounted, noDots, noSlash⟩ := Page.isFileName_fileName isName isWhole
  have isLower : identity.toLowerCase = identity.map Char.toLower :=
    lowerAfter_eq_map isName.areNameCharacters []
  have isFileName : Page.fileName identity options.extension =
      identity.map Char.toLower ++ '.' :: options.extension := by
    rw [Page.fileName, isLower]
  rw [← isFileName]
  exact Path.isEntry_file isCounted noDots noSlash options.outputDirectory

/-- An index file below a directory whose name has blanks, dots and a foreign letter. -/
def indexFile : Path :=
  ⟨"../drag dröp.v2/index.test.tsx".toList⟩

/-- Options with an output directory above the working directory. -/
def outputAbove : Options where
  outputDirectory := ⟨"../docs/".toList⟩
  extension := "md".toList
  templatesDirectory := ⟨"templates".toList⟩
  templateName := "page".toList
  registryPath := ⟨"registry.json".toList⟩

/-- The letters that are left of the directory's name are those of the page's name. -/
theorem isEntry_pagePath_indexFile :
    ofSource? [] indexFile = some "DragDrPV2".toList ∧
      (outputAbove.pagePath "DragDrPV2".toList).IsEntry ⟨"../docs/".toList⟩
        "dragdrpv2.md".toList := by
  have isIdentity : ofSource? [] indexFile = some "DragDrPV2".toList := by
    decide
  exact ⟨isIdentity, (isEntry_pagePath isIdentity).2 outputAbove (by decide)⟩

end Identity

end ComponentPages
