import ComponentPages.Error
import ComponentPages.Text.Utf8

namespace ComponentPages

/-!
# Storage

The operations on files that the program needs, in any monad that offers them. Each operation
that can fail answers with its result or with the fault.
-/

/-- A place in the file tree: the names on the way to it from the root. -/
abbrev Location := List Text

def Location.path (location : Location) : Path :=
  ⟨'/' :: Text.joinWith ['/'] location⟩

/-- What stands at a place below a directory. -/
structure Found where
  /-- The names on the way from the directory. -/
  names : List Text
  isDirectory : Bool
  deriving Repr, DecidableEq

/-- Operations on files. -/
class Storage (m : Type → Type) where
  /-- The directory at which relative paths start. -/
  workingDirectory : m Path
  /-- The place that a path names, if something is there. -/
  locate : Path → m (Except FileFault Location)
  /-- Whether a path names a regular file. -/
  isFile : Path → m Bool
  /-- Everything below a directory, in any order. -/
  contents : Location → m (List Found)
  /-- The bytes of a file. -/
  read : Path → m (Except FileFault Bytes)
  /-- Replace the bytes of a file or make a new one. -/
  write : Path → Bytes → m (Except FileFault Unit)
  /-- Make a directory and those above it, as far as they are missing. -/
  makeDirectories : Path → m (Except FileFault Unit)
  /-- Move a file to a path, in the place of what is there. -/
  rename : (source target : Path) → m (Except FileFault Unit)
  /-- Remove a file. -/
  remove : Path → m (Except FileFault Unit)
  /-- A text that is in no use for temporary files. -/
  temporaryMark : m Text

namespace Storage

variable {m : Type → Type} [Monad m] [Storage m]

def readText (path : Path) : m (Except FileFault Text) := do
  match ← read path with
  | .error fault => return .error fault
  | .ok bytes =>
      match Utf8.decode? bytes with
      | some text => return .ok text
      | none => return .error .notText

def absolute (path : Path) : m (Except FileFault Path) := do
  match Path.absolute? (← workingDirectory) path with
  | some whole => return .ok whole
  | none => return .error .emptyPath

end Storage

end ComponentPages
