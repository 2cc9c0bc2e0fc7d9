import ComponentPages.Storage.Basic
import ComponentPages.Text.Keyed

namespace ComponentPages

/-!
# Disks

A file tree as a value: what stands at each place, in the order of the places, so that a directory
comes before what it holds. A path is followed name by name, and each name has to stand in a
directory that exists; this decides which fault a path gives.
-/

/-- What stands at a place. -/
inductive Node where
  | directory
  | file (content : Bytes)
  deriving Repr, DecidableEq

/-- A file tree, and the place at which relative paths start. -/
structure Disk where
  workingDirectory : Location
  nodes : List (Location × Node)
  deriving Repr, DecidableEq

namespace Disk

/-! ## Places -/

/-- What stands at a place; the root is always a directory. -/
def node? (disk : Disk) (location : Location) : Option Node :=
  if location.isEmpty then some .directory else Bindings.find? location disk.nodes

def put (disk : Disk) (location : Location) (node : Node) : Disk :=
  { disk with nodes := Bindings.insert location node disk.nodes }

/-- The disk without a place and all that is below it. -/
def erase (disk : Disk) (location : Location) : Disk :=
  { disk with nodes := disk.nodes.filter fun (place, _) => !location.isPrefixOf place }

/-- A disk that holds nothing but the directories on the way to a place. -/
def empty (workingDirectory : Location) : Disk where
  workingDirectory := workingDirectory
  nodes := (List.range workingDirectory.length).map fun depth =>
    (workingDirectory.take (depth + 1), .directory)

/-! ## Following paths -/

/-- The number of bytes that a name may have. -/
def nameLimit : Nat := 255

def enter (disk : Disk) (directory : Location) (name : Text) : Except FileFault Location :=
  match disk.node? directory with
  | none => .error .notFound
  | some (.file _) => .error .notADirectory
  | some .directory =>
      if name = [] || name = ['.'] then
        .ok directory
      else if name = ['.', '.'] then
        .ok directory.dropLast
      else if nameLimit < name.byteLength then
        .error .nameTooLong
      else
        .ok (directory ++ [name])

/-- The place to which names lead, whatever stands there. -/
def follow (disk : Disk) (start : Location) (names : List Text) : Except FileFault Location :=
  names.foldlM disk.enter start

/-- The place at which a path starts. -/
def startOf (disk : Disk) (path : Path) : Location :=
  if path.isAbsolute then [] else disk.workingDirectory

/-- The names of a path, if it is one that the file tree takes. -/
def namesOf (path : Path) : Except FileFault (List Text) :=
  if path.text.contains ['\x00'] then
    .error .nulInPath
  else if path.text.isEmpty then
    .error .notFound
  else
    .ok (Text.pieces Path.isSeparator path.text)

/-- The place that a path names and what stands there. -/
def locate (disk : Disk) (path : Path) : Except FileFault (Location × Node) := do
  let location ← disk.follow (disk.startOf path) (← namesOf path)
  match disk.node? location with
  | some node => return (location, node)
  | none => throw .notFound

/-- Where a path would make something new. -/
inductive Target where
  /-- A name in a directory; `slashed` tells whether a separator follows the name. -/
  | entry (location : Location) (slashed : Bool)
  /-- The root, or a directory that the path names by a dot. -/
  | self
  deriving Repr, DecidableEq

/-- Where a path would make something new: all but its last name has to exist. -/
def target (disk : Disk) (path : Path) : Except FileFault Target := do
  let names ← namesOf path
  match names.reverse.dropWhile (·.isEmpty) with
  | [] => return .self
  | name :: earlier =>
      let directory ← disk.follow (disk.startOf path) (earlier.reverse ++ [['.']])
      let place ← disk.enter directory name
      if name = ['.'] || name = ['.', '.'] then
        return .self
      else
        return .entry place (names.getLast? == some [])

/-! ## Operations -/

def read (disk : Disk) (path : Path) : Except FileFault Bytes := do
  match ← disk.locate path with
  | (_, .file content) => return content
  | (_, .directory) => throw .isADirectory

def isFile (disk : Disk) (path : Path) : Bool :=
  match disk.locate path with
  | .ok (_, .file _) => true
  | _ => false

def isDirectory (disk : Disk) (path : Path) : Bool :=
  match disk.locate path with
  | .ok (_, .directory) => true
  | _ => false

/-- The place at which a path would write a file. -/
def writePlace (disk : Disk) (path : Path) : Except FileFault Location := do
  match ← disk.target path with
  | .self => throw .isADirectory
  | .entry location slashed =>
      if slashed then
        throw .isADirectory
      else if disk.node? location = some .directory then
        throw .isADirectory
      else
        return location

def write (disk : Disk) (path : Path) (content : Bytes) : Except FileFault Disk :=
  (disk.writePlace path).map fun location => disk.put location (.file content)

def makeDirectory (disk : Disk) (path : Path) : Except FileFault Disk := do
  match ← disk.target path with
  | .self => throw .alreadyExists
  | .entry location _ =>
      if (disk.node? location).isSome then
        throw .alreadyExists
      else
        return disk.put location .directory

/-- A path and the directories above it, from the inside out. -/
def ancestors (path : Path) : List Path :=
  let components := path.components
  path :: ((List.range (components.length - 1)).map fun number =>
    Path.ofComponents (components.take (components.length - 1 - number)))

/--
The disk with a directory made, and with those above it as far as they are missing. A directory
that is made is kept even if one inside it then fails.
-/
def makeAll (disk : Disk) : List Path → Disk × Except FileFault Unit
  | [] => (disk, .ok ())
  | path :: outer =>
      match disk.makeDirectory path with
      | .ok made => (made, .ok ())
      | .error .notFound =>
          match makeAll disk outer with
          | (made, .error fault) => (made, .error fault)
          | (made, .ok ()) =>
              match made.makeDirectory path with
              | .ok whole => (whole, .ok ())
              | .error fault =>
                  if made.isDirectory path then (made, .ok ()) else (made, .error fault)
      | .error fault => if disk.isDirectory path then (disk, .ok ()) else (disk, .error fault)

/-- The disk with a directory made and those above it. -/
def makeDirectories (disk : Disk) (path : Path) : Disk × Except FileFault Unit :=
  if path.text.isEmpty then (disk, .ok ()) else disk.makeAll (ancestors path)

/-- The disk with a file moved, in the place of what is there. -/
def rename (disk : Disk) (source goal : Path) : Except FileFault Disk := do
  match ← disk.locate source with
  | (_, .directory) => throw .isADirectory
  | (place, .file content) =>
      match ← disk.target goal with
      | .self => throw .busy
      | .entry location slashed =>
          if slashed then
            throw .notADirectory
          else if disk.node? location = some .directory then
            throw .isADirectory
          else
            return (disk.erase place).put location (.file content)

def remove (disk : Disk) (path : Path) : Except FileFault Disk := do
  match ← disk.locate path with
  | (_, .directory) => throw .isADirectory
  | (place, .file _) => return disk.erase place

def contents (disk : Disk) (directory : Location) : List Found :=
  disk.nodes.filterMap fun (place, node) =>
    if directory.isPrefixOf place && place != directory then
      some ⟨place.drop directory.length, node == .directory⟩
    else
      none

end Disk

end ComponentPages
