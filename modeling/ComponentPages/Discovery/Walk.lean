import ComponentPages.Discovery.IgnoreRule
import ComponentPages.Discovery.Selection
import ComponentPages.Storage.Basic

namespace ComponentPages

/-!
# Discovery of sources

All files below the root of a project are looked at, unless they or a directory on the way to them
are skipped. Every directory may hold ignore files, those above the root included. Of the files of
one kind the nearest that has a verdict decides, and between kinds the order of the kinds. Without
a verdict a name is skipped if it starts with a dot.
-/

/-- The rules that a directory holds, by the kind of its files in order of precedence. -/
structure DirectoryRules where
  plain : List IgnoreRule
  versionControl : List IgnoreRule
  repository : List IgnoreRule
  deriving Repr

namespace Discovery

/-- The rules of all directories. -/
abbrev Rules := List (Location × DirectoryRules)

/-- The kinds of rules in order of precedence. -/
def kinds : List (DirectoryRules → List IgnoreRule) :=
  [(·.plain), (·.versionControl), (·.repository)]

/-- The rules of a kind that a directory holds. -/
def rulesAt (rules : Rules) (kind : DirectoryRules → List IgnoreRule) (directory : Location) :
    List IgnoreRule :=
  ((rules.lookup directory).map kind).getD []

/-- The directories around a place, the nearest first. -/
def around (place : Location) : List Location :=
  (List.range place.length).reverse.map place.take

/-- The verdict of the nearest file of a kind that has one. -/
def verdictOf? (rules : Rules) (place : Location) (isDirectory : Bool)
    (kind : DirectoryRules → List IgnoreRule) : Option Verdict :=
  (around place).findSome? fun directory =>
    IgnoreRule.decide? (rulesAt rules kind directory)
      (Text.joinWith ['/'] (place.drop directory.length)) isDirectory

def isHidden (place : Location) : Bool :=
  match place.getLast? with
  | some name => name.head? == some '.'
  | none => false

def isSkipped (rules : Rules) (place : Location) (isDirectory : Bool) : Bool :=
  match kinds.findSome? (verdictOf? rules place isDirectory) with
  | some .ignored => true
  | some .kept => false
  | none => isHidden place

/-- Whether neither a place below a root is skipped nor a directory on the way to it. -/
def isReached (rules : Rules) (root : Location) (found : Found) : Bool :=
  (List.range found.names.length).all fun depth =>
    !isSkipped rules (root ++ found.names.take (depth + 1))
      (found.isDirectory || depth + 1 < found.names.length)

def pathBelow (root : Path) (names : List Text) : Path :=
  names.foldl Path.file root

variable {m : Type → Type} [Monad m] [Storage m]

/-- The rules of an ignore file; none if it cannot be read. -/
def readRules (directory : Location) (names : List String) : m (List IgnoreRule) := do
  match ← Storage.read (Location.path (directory ++ names.map String.toList)) with
  | .ok bytes => return IgnoreRule.ofBytes bytes
  | .error _ => return []

def rulesOf (disableGitignore : Bool) (directory : Location) : m DirectoryRules := do
  let plain ← readRules directory [".ignore"]
  if disableGitignore then
    return ⟨plain, [], []⟩
  else
    return ⟨plain, ← readRules directory [".gitignore"],
      ← readRules directory [".git", "info", "exclude"]⟩

def rulesOfAll (disableGitignore : Bool) : List Location → m Rules
  | [] => return []
  | directory :: later => do
      let rules ← rulesOf disableGitignore directory
      return (directory, rules) :: (← rulesOfAll disableGitignore later)

/-- The files below a directory that are reached. -/
def filesBelow (disableGitignore : Bool) (root : Path) (place : Location) : m (List Path) := do
  let contents ← Storage.contents place
  let inside := (contents.filter (·.isDirectory)).map fun found => place ++ found.names
  let rules ← rulesOfAll disableGitignore (around place ++ place :: inside)
  let reached := contents.filter fun found => !found.isDirectory && isReached rules place found
  return reached.map fun found => pathBelow root found.names

/-- The files at a root: those below it, or the root itself if it is a file. -/
def filesAt (disableGitignore : Bool) (root : Path) : m (List Path) := do
  if ← Storage.isFile root then
    return [root]
  else
    match ← Storage.locate root with
    | .ok place => filesBelow disableGitignore root place
    | .error _ => return []

/-- The sources of a project as absolute paths, in order. -/
def sources (root : Path) (settings : SourceSettings) : m (Except Error (List Path)) := do
  match ← Storage.absolute root with
  | .error fault => return .error (.files fault)
  | .ok root =>
      match Selection.ofSettings root settings with
      | .error fault => return .error (.configuration fault)
      | .ok selection =>
          let files ← filesAt settings.disableGitignore root
          return .ok ((files.filter selection.tracks).mergeSort Path.precedes)

end Discovery

end ComponentPages
