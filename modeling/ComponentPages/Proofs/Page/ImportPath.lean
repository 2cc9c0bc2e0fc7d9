import ComponentPages.Page.ImportPath
import ComponentPages.Proofs.Project.Component

namespace ComponentPages

/-!
# Where imports lead

Only names count for an import, and of the file its name without the extension. A file that has a
directory `src` above it is imported by what stands below the last such directory, any other one as
a neighbour. One file is left out of this rule: the name of a file can be taken for that of the
directory, and so a file whose own name is `src` is always imported as a neighbour.
-/

/-! ## Names of a path -/

namespace Path

variable {path : Path}

/-- The names among the components of a path. -/
def names (path : Path) : List Text :=
  path.components.filterMap Component.name?

/-- The names of the directories that the file of a path stands in. -/
def directoryNames (path : Path) : List Text :=
  path.components.dropLast.filterMap Component.name?

/-- The names of a path are the pieces that count and are no double dot. -/
theorem names_eq (path : Path) : path.names = path.countedPieces.filter (· != ['.', '.']) := by
  have noName : path.lead.filterMap Component.name? = [] := by
    rcases path.lead_cases with isLead | isLead | isLead <;> rw [isLead] <;> rfl
  rw [names, components, ← countedPieces, List.filterMap_append, noName, List.nil_append,
    List.filterMap_map, ← List.filterMap_eq_filter]
  congr 1
  funext piece
  by_cases isUp : piece = ['.', '.']
  · rw [isUp]
    rfl
  · simp [ofPiece, isUp, Component.name?]

/-- Whether a text counts as a name where it stands alone: nothing, a dot and two dots do not. -/
def isOwnName (text : Text) : Bool :=
  counts text && text != ['.', '.']

/-- Without the extension a path has the names of its directories and that of its file, if any. -/
theorem names_withExtension (path : Path) :
    (path.withExtension []).names =
      path.directoryNames ++ path.fileStem?.toList.filter isOwnName := by
  cases isFile : path.fileName? with
  | none =>
      have noStem : path.fileStem? = none := by
        rw [fileStem?, isFile]
        rfl
      rw [withExtension, noStem, Option.toList_none, List.filter_nil, List.append_nil]
      -- The last component is no name, so that it does not matter to the names.
      rcases List.eq_nil_or_concat path.components with isEmpty | ⟨earlier, last, isWhole⟩
      · rw [names, directoryNames, isEmpty]
        rfl
      · rw [List.concat_eq_append] at isWhole
        rw [fileName?, isWhole, List.getLast?_concat, Option.bind_some] at isFile
        rw [names, directoryNames, isWhole, List.dropLast_concat, List.filterMap_append]
        simp [isFile]
  | some name =>
      obtain ⟨-, -, isWhole⟩ := isName_of_fileName? isFile
      have isStem : path.fileStem? = some (splitExtension name).1 := by
        rw [fileStem?, isFile]
        rfl
      have isStripped : path.withExtension [] =
          (ofComponents path.components.dropLast).file (splitExtension name).1 := by
        simp [withExtension, isStem]
      have isDirectory :
          (ofComponents path.components.dropLast).names = path.directoryNames := by
        rw [names, components_ofComponents_dropLast isFile, directoryNames]
      have areOwn : (fun text => text != ['.', '.'] && counts text) = isOwnName :=
        funext fun text => Bool.and_comm _ _
      rw [isStripped, names_eq, countedPieces_file_eq (not_mem_stem isWhole), List.filter_append,
        ← names_eq, isDirectory, List.filter_filter, areOwn, isStem, Option.toList_some]

end Path

/-! ## Below the source directory -/

namespace ImportPath

/-- The name of the directory below which imports start at the alias. -/
def sourceName : Text :=
  "src".toList

/-- The name of the file that stands for the directory it is in. -/
def indexName : Text :=
  "index".toList

/-- What is below `src` is what follows the last one among names, unless nothing does. -/
theorem belowSource?_eq_some_iff
    {names inner : List Text} :
    belowSource? names = some inner ↔
      inner ≠ [] ∧ sourceName ∉ inner ∧ ∃ outer, names = outer ++ sourceName :: inner := by
  induction names generalizing inner with
  | nil =>
      simp [belowSource?]
  | cons name rest inductionHypothesis =>
      rw [belowSource?]
      constructor
      · intro found
        split at found
        · rename_i below isBelow
          rw [isBelow] at inductionHypothesis
          obtain ⟨notEmpty, isLast, outer, rfl⟩ := inductionHypothesis.mp found
          exact ⟨notEmpty, isLast, name :: outer, rfl⟩
        · split at found
          · rename_i isSource
            obtain ⟨rfl, notEmpty, isLast⟩ := isSource
            obtain rfl := Option.some.inj found
            exact ⟨notEmpty, isLast, [], rfl⟩
          · contradiction
      · rintro ⟨notEmpty, isLast, outer, isNames⟩
        cases outer with
        | cons first others =>
            obtain ⟨rfl, rfl⟩ := List.cons.inj isNames
            rw [inductionHypothesis.mpr ⟨notEmpty, isLast, others, rfl⟩]
        | nil =>
            obtain ⟨rfl, rfl⟩ := List.cons.inj isNames
            have noneBelow : belowSource? rest = none := by
              refine Option.eq_none_iff_forall_ne_some.mpr fun below isBelow => isLast ?_
              obtain ⟨-, -, later, isRest⟩ := inductionHypothesis.mp isBelow
              rw [isRest]
              exact List.mem_append_right later List.mem_cons_self
            rw [noneBelow]
            exact if_pos ⟨rfl, notEmpty, isLast⟩

/-- Something is below `src` only in one of the directories, and if the last name is not `src`. -/
private theorem of_belowSource?_concat
    {directories inner : List Text}
    {name : Text}
    (isBelow : belowSource? (directories ++ [name]) = some inner) :
    sourceName ∈ directories ∧ name ≠ sourceName := by
  obtain ⟨notEmpty, isLast, outer, isWhole⟩ := belowSource?_eq_some_iff.mp isBelow
  obtain ⟨front, last, rfl⟩ := (List.eq_nil_or_concat inner).resolve_left notEmpty
  rw [List.concat_eq_append, ← List.cons_append, ← List.append_assoc] at isWhole
  obtain ⟨rfl, rfl⟩ := List.append_singleton_inj.mp isWhole
  refine ⟨List.mem_append_right outer List.mem_cons_self, ?_⟩
  rintro rfl
  exact isLast (by simp)

/-- A final `index` is left out where other names precede it. -/
private theorem dropIndex_concat (inner : List Text) (name : Text) :
    dropIndex (inner ++ [name]) =
      if name = indexName ∧ inner ≠ [] then inner else inner ++ [name] := by
  have isLong : (inner ++ [name]).length > 1 ↔ inner ≠ [] := by
    rw [List.length_append, List.length_singleton, ← List.length_pos_iff]
    omega
  rw [dropIndex, List.getLast?_concat, List.dropLast_concat]
  simp only [Bool.and_eq_true, decide_eq_true_eq, beq_iff_eq, Option.some.injEq, isLong]
  exact if_congr and_comm rfl rfl

/--
Whether a text imports what stands under a name in directories as their names tell: below the last
`src` of them by the names that follow it, with no `index` at the end of several, and as a neighbour
if none of them is `src`. What is called `src` itself is a neighbour wherever it stands.
-/
structure Follows (directories : List Text) (name written : Text) : Prop where
  below : ∀ outer inner,
    directories = outer ++ sourceName :: inner → sourceName ∉ inner → name ≠ sourceName →
      written = "@/".toList ++
        Text.joinWith ['/'] (if name = indexName ∧ inner ≠ [] then inner else inner ++ [name])
  beside : sourceName ∉ directories → written = "./".toList ++ name
  ownSource : name = sourceName → written = "./".toList ++ name

/-- The import of a path whose names without the extension end in a name. -/
theorem follows_of_names
    {path : Path}
    {directories : List Text}
    {name : Text}
    (areNames : (path.withExtension []).names = directories ++ [name]) :
    Follows directories name (ofPath path) := by
  have isBeside (noneBelow : belowSource? (directories ++ [name]) = none) :
      ofPath path = "./".toList ++ name := by
    rw [ofPath, ← Path.names, areNames]
    simp only [noneBelow, List.getLast?_concat, Option.getD_some]
  constructor
  case below =>
    intro outer inner isDirectories isLast notSource
    have isBelow : belowSource? (directories ++ [name]) = some (inner ++ [name]) := by
      refine belowSource?_eq_some_iff.mpr ⟨by simp, ?_, outer, ?_⟩
      · simpa [isLast] using Ne.symm notSource
      · rw [isDirectories, List.append_assoc, List.cons_append]
    rw [ofPath, ← Path.names, areNames]
    simp only [isBelow, dropIndex_concat]
  case beside =>
    intro noSource
    refine isBeside (Option.eq_none_iff_forall_ne_some.mpr fun inner isBelow => noSource ?_)
    exact (of_belowSource?_concat isBelow).1
  case ownSource =>
    intro isSource
    refine isBeside (Option.eq_none_iff_forall_ne_some.mpr fun inner isBelow => ?_)
    exact (of_belowSource?_concat isBelow).2 isSource

/--
A file is imported as the names of its directories and its own name without the extension tell. If
a path names no file, or nothing is left of the file's name but dots, the last of the directories
stands for it.
-/
theorem ofPath_follows_directories (path : Path) :
    (∀ stem, path.fileStem? = some stem → Path.isOwnName stem = true →
      Follows path.directoryNames stem (ofPath path)) ∧
      ((∀ stem, path.fileStem? = some stem → Path.isOwnName stem = false) →
        (path.directoryNames = [] → ofPath path = "./".toList) ∧
          ∀ directories name, path.directoryNames = directories ++ [name] →
            Follows directories name (ofPath path)) := by
  have areNames := path.names_withExtension
  refine ⟨fun stem isStem isOwn => ?_, fun noneOwn => ?_⟩
  · refine follows_of_names ?_
    rw [areNames, isStem, Option.toList_some, List.filter_cons_of_pos isOwn, List.filter_nil]
  · have onlyDirectories : (path.withExtension []).names = path.directoryNames := by
      rw [areNames]
      cases isStem : path.fileStem? with
      | none =>
          exact List.append_nil _
      | some stem =>
          have notOwn := noneOwn stem isStem
          simp [notOwn]
    refine ⟨fun isEmpty => ?_, fun directories name isWhole => follows_of_names ?_⟩
    · rw [ofPath, ← Path.names, onlyDirectories, isEmpty]
      rfl
    · rw [onlyDirectories, isWhole]

/-- The last `src` counts, also where the file stands for its directory, or no file is named. -/
theorem ofPath_follows_directories_nested :
    ofPath ⟨"../src/a/src/./forms/index.test/index.tsx".toList⟩ =
        "@/forms/index.test".toList ∧
      ofPath ⟨"src/lib/..".toList⟩ = "@/lib".toList := by
  have isStem : Path.fileStem? ⟨"../src/a/src/./forms/index.test/index.tsx".toList⟩ =
      some indexName := by
    decide
  have areDirectories :
      Path.directoryNames ⟨"../src/a/src/./forms/index.test/index.tsx".toList⟩ =
        ["src".toList, "a".toList] ++ sourceName :: ["forms".toList, "index.test".toList] := by
    decide
  have noStem : Path.fileStem? ⟨"src/lib/..".toList⟩ = none := by
    decide
  have noneOwn : ∀ stem, Path.fileStem? ⟨"src/lib/..".toList⟩ = some stem →
      Path.isOwnName stem = false := by
    intro stem isStem
    rw [noStem] at isStem
    contradiction
  have follows := (ofPath_follows_directories _).1 indexName isStem (by decide)
  have noFile := (ofPath_follows_directories _).2 noneOwn
  have followsDirectory := noFile.2 [sourceName] "lib".toList (by decide)
  rw [follows.below _ _ areDirectories (by decide) (by decide),
    followsDirectory.below [] [] rfl (by decide) (by decide)]
  decide

/-- A file called `src` stands below the directory `src`, but is imported as a neighbour. -/
theorem ofPath_sourceBelowSource :
    Path.directoryNames ⟨"src/lib/src.tsx".toList⟩ = [sourceName, "lib".toList] ∧
      Path.fileStem? ⟨"src/lib/src.tsx".toList⟩ = some sourceName ∧
        ofPath ⟨"src/lib/src.tsx".toList⟩ = "./src".toList ∧
          ofPath ⟨"src/lib/src.tsx".toList⟩ ≠ "@/lib/src".toList := by
  decide

end ImportPath

end ComponentPages
