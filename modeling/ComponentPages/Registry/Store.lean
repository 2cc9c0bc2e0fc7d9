import ComponentPages.Registry.Stored
import ComponentPages.Storage.Basic

namespace ComponentPages

/-!
# The store of a registry

A registry is loaded from its store as a whole and saved as a whole. A store that is missing or
refused gives an empty registry. Saving writes a temporary file beside the store and then moves it
there, so that the store holds either the former registry or the new one.
-/

namespace Registry

variable {m : Type → Type} [Monad m] [Storage m]

/-- The registry that is stored at a path. -/
def load (path : Path) : m (Except Error Registry) := do
  match ← Storage.read path with
  | .ok bytes => return .ok ⟨path, (ofBytes? bytes).getD .empty⟩
  | .error .notFound => return .ok (.empty path)
  | .error fault => return .error (.registryUnreadable path fault)

/-- The path of the temporary file beside a store. -/
def temporaryPath (path : Path) (mark : Text) : Path :=
  path.withExtension ("json.tmp-".toList ++ mark)

/-- Make the directory of a path, if the path names one. -/
def makeParent (path : Path) : m (Except FileFault Unit) :=
  match path.parent? with
  | some parent => if parent.text.isEmpty then return .ok () else Storage.makeDirectories parent
  | none => return .ok ()

/-- Write bytes to a temporary file and move it to a path. -/
def writeThrough (temporary path : Path) (bytes : Bytes) : m (Except FileFault Unit) := do
  match ← Storage.write temporary bytes with
  | .ok () => Storage.rename temporary path
  | .error fault => return .error fault

/-- Replace a file by way of a temporary one; after a fault this one is removed. -/
def replace (temporary path : Path) (bytes : Bytes) : m (Except FileFault Unit) := do
  match ← writeThrough temporary path bytes with
  | .ok () => return .ok ()
  | .error fault =>
      let _ ← Storage.remove temporary
      return .error fault

/-- Save a registry in the form that a serializer gives it; it may refuse to. -/
def saveWith (serialize : Registry → Except FileFault Bytes) (registry : Registry) :
    m (Except FileFault Unit) := do
  match ← makeParent registry.path with
  | .error fault => return .error fault
  | .ok () =>
      match serialize registry with
      | .error fault => return .error fault
      | .ok bytes =>
          let mark ← Storage.temporaryMark
          replace (temporaryPath registry.path mark) registry.path bytes

/-- Save a registry. Its paths are texts, so its serializer never refuses. -/
def save (registry : Registry) : m (Except FileFault Unit) :=
  saveWith (fun registry => .ok registry.toBytes) registry

end Registry

end ComponentPages
