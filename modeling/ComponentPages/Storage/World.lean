import ComponentPages.Storage.Disk

namespace ComponentPages

/-!
# Worlds

A disk on which operations may be interrupted: a schedule says which of the coming operations that
change files fail, and with which fault. An operation that fails before it begins leaves the disk
as it is; a write that fails in the middle leaves the first part of its bytes.
-/

/-- The failure of an operation that changes files. -/
structure Interruption where
  fault : FileFault
  /-- The number of bytes that a write has put down; none if it did not begin. -/
  written : Option Nat
  deriving Repr, DecidableEq

/-- A disk and what is going to fail. -/
structure World where
  disk : Disk
  /-- For each of the coming operations that change files, whether it fails. -/
  schedule : List (Option Interruption)
  deriving Repr, DecidableEq

namespace World

/-- The failure that is scheduled for the next operation. -/
def next? (world : World) : Option Interruption :=
  world.schedule.head?.join

/-- The world after one operation, with its disk. -/
def advance (world : World) (disk : Disk) : World :=
  ⟨disk, world.schedule.tail⟩

/-- A fault with the disk as it was. -/
def settle (disk : Disk) (changed : Except FileFault Disk) : Disk × Except FileFault Unit :=
  match changed with
  | .ok after => (after, .ok ())
  | .error fault => (disk, .error fault)

/-- An operation that fails as scheduled, or else does what it does to the disk. -/
def change
    (world : World)
    (interrupted : Interruption → Disk)
    (regular : Disk × Except FileFault Unit) :
    Except FileFault Unit × World :=
  match world.next? with
  | some interruption => (.error interruption.fault, world.advance (interrupted interruption))
  | none => (regular.2, world.advance regular.1)

/-- The disk after a write that was interrupted. -/
def partlyWritten (disk : Disk) (path : Path) (content : Bytes) (interruption : Interruption) :
    Disk :=
  match interruption.written with
  | none => disk
  | some number => (settle disk (disk.write path (content.take number))).1

end World

instance : Storage (StateM World) where
  workingDirectory := fun world => (world.disk.workingDirectory.path, world)
  locate path := fun world => ((world.disk.locate path).map (·.1), world)
  isFile path := fun world => (world.disk.isFile path, world)
  contents directory := fun world => (world.disk.contents directory, world)
  read path := fun world => (world.disk.read path, world)
  write path content := fun world =>
    world.change (World.partlyWritten world.disk path content)
      (World.settle world.disk (world.disk.write path content))
  makeDirectories path := fun world =>
    world.change (fun _ => world.disk) (world.disk.makeDirectories path)
  rename source target := fun world =>
    world.change (fun _ => world.disk) (World.settle world.disk (world.disk.rename source target))
  remove path := fun world =>
    world.change (fun _ => world.disk) (World.settle world.disk (world.disk.remove path))
  temporaryMark := fun world => ("tmp".toList, world)

end ComponentPages
