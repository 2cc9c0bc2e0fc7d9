import ComponentPages.Storage.World
import ComponentPages.Proofs.Storage.Disk

namespace ComponentPages

/-!
# Actions in a world

What the operations on files do in a world, whether they are interrupted or not. An operation that
succeeds was not interrupted, and every operation keeps the directories.
-/

namespace World

variable {α β : Type}

/-! ## Running -/

/-- One action after another starts in the world that the first one leaves. -/
theorem run_bind
    (action : StateM World α)
    (next : α → StateM World β)
    (world : World) :
    (action >>= next) world = next (action world).1 (action world).2 :=
  rfl

/-- An action that does nothing answers its value and leaves the world as it is. -/
theorem run_pure
    (value : α)
    (world : World) :
    (pure value : StateM World α) world = (value, world) :=
  rfl

/-- Whether an action leaves every world as it is. -/
def OnlyReads (action : StateM World α) : Prop :=
  ∀ world, (action world).2 = world

namespace OnlyReads

/-- An action that does nothing only reads. -/
theorem pure (value : α) : OnlyReads (Pure.pure value) :=
  fun _ => rfl

/-- Actions that only read do so one after another. -/
theorem bind
    {action : StateM World α}
    {next : α → StateM World β}
    (first : OnlyReads action)
    (later : ∀ value, OnlyReads (next value)) :
    OnlyReads (action >>= next) := by
  intro world
  rw [run_bind, later, first]

/-- An action that only reads runs with its value and the world as it was. -/
theorem run_eq
    {action : StateM World α}
    (onlyReads : OnlyReads action)
    (world : World) :
    action world = ((action world).1, world) :=
  Prod.ext rfl (onlyReads world)

end OnlyReads

/-! ## Changes -/

/-- A change that succeeds is the regular one. -/
theorem of_change_ok
    {world after : World}
    {interrupted : Interruption → Disk}
    {regular : Disk × Except FileFault Unit}
    (changed : world.change interrupted regular = (.ok (), after)) :
    regular = (after.disk, .ok ()) := by
  unfold change at changed
  split at changed
  · simp at changed
  · obtain ⟨succeeded, rfl⟩ := Prod.mk.inj changed
    exact Prod.ext rfl succeeded

/-- A change leaves one of the disks that it may leave. -/
theorem disk_of_change
    {world after : World}
    {interrupted : Interruption → Disk}
    {regular : Disk × Except FileFault Unit}
    {result : Except FileFault Unit}
    {property : Disk → Prop}
    (changed : world.change interrupted regular = (result, after))
    (ofInterrupted : ∀ interruption, property (interrupted interruption))
    (ofRegular : property regular.1) :
    property after.disk := by
  unfold change at changed
  split at changed
  · obtain rfl := (Prod.mk.inj changed).2
    exact ofInterrupted _
  · obtain rfl := (Prod.mk.inj changed).2
    exact ofRegular

/-- An operation that settles with success changed the disk as it does. -/
theorem of_settle_ok
    {disk after : Disk}
    {changed : Except FileFault Disk}
    (settled : settle disk changed = (after, .ok ())) :
    changed = .ok after := by
  unfold settle at settled
  split at settled
  · exact congrArg Except.ok (Prod.mk.inj settled).1
  · simp at settled

/-- An operation settles with the changed disk or with the former one. -/
theorem disk_settle
    {disk : Disk}
    {changed : Except FileFault Disk}
    {property : Disk → Prop}
    (ofChanged : ∀ after, changed = .ok after → property after)
    (ofFormer : property disk) :
    property (settle disk changed).1 := by
  unfold settle
  split
  · exact ofChanged _ rfl
  · exact ofFormer

/-! ## Writing, moving, removing -/

variable {world after : World}

/-- A write that succeeds is the one of the disk. -/
theorem of_write_ok
    {path : Path}
    {content : Bytes}
    (written : (Storage.write path content : StateM World _) world = (.ok (), after)) :
    world.disk.write path content = .ok after.disk :=
  of_settle_ok (of_change_ok written)

/-- A move that succeeds is the one of the disk. -/
theorem of_rename_ok
    {source goal : Path}
    (renamed : (Storage.rename source goal : StateM World _) world = (.ok (), after)) :
    world.disk.rename source goal = .ok after.disk :=
  of_settle_ok (of_change_ok renamed)

/-- A move that fails leaves the disk as it is. -/
theorem disk_of_rename_error
    {source goal : Path}
    {fault : FileFault}
    (renamed : (Storage.rename source goal : StateM World _) world = (.error fault, after)) :
    after.disk = world.disk := by
  change world.change _ (settle world.disk (world.disk.rename source goal)) = _ at renamed
  unfold change at renamed
  split at renamed
  · rw [← (Prod.mk.inj renamed).2]
    rfl
  · obtain ⟨failed, rfl⟩ := Prod.mk.inj renamed
    unfold settle at failed ⊢
    cases isRenamed : world.disk.rename source goal with
    | ok disk =>
        rw [isRenamed] at failed
        contradiction
    | error reason =>
        rfl

/-- A write leaves the former disk, or the disk with the content or with a part of it. -/
theorem disk_of_write
    (property : Disk → Prop)
    {path : Path}
    {content : Bytes}
    {result : Except FileFault Unit}
    (written : (Storage.write path content : StateM World _) world = (result, after))
    (ofWritten : ∀ bytes disk, world.disk.write path bytes = .ok disk → property disk)
    (ofFormer : property world.disk) :
    property after.disk := by
  have whole : ∀ bytes, property (settle world.disk (world.disk.write path bytes)).1 := by
    intro bytes
    exact disk_settle (ofWritten bytes) ofFormer
  have partly : ∀ interruption,
      property (partlyWritten world.disk path content interruption) := by
    intro interruption
    -- The file is not touched, or a part of the content is written instead of the whole.
    unfold partlyWritten
    split
    · exact ofFormer
    · exact whole _
  exact disk_of_change written partly (whole content)

/-- A removal leaves the former disk or the one without the file. -/
theorem disk_of_remove
    (property : Disk → Prop)
    {path : Path}
    {result : Except FileFault Unit}
    (removed : (Storage.remove path : StateM World _) world = (result, after))
    (ofRemoved : ∀ disk, world.disk.remove path = .ok disk → property disk)
    (ofFormer : property world.disk) :
    property after.disk :=
  disk_of_change removed (fun _ => ofFormer) (disk_settle ofRemoved ofFormer)

/-- Making directories leaves the former disk or the one with what was made. -/
theorem disk_of_makeDirectories
    (property : Disk → Prop)
    {path : Path}
    {result : Except FileFault Unit}
    (made : (Storage.makeDirectories path : StateM World _) world = (result, after))
    (ofMade : property (world.disk.makeDirectories path).1)
    (ofFormer : property world.disk) :
    property after.disk :=
  disk_of_change made (fun _ => ofFormer) ofMade

/-! ## Keeping directories -/

/-- A write keeps the directories, and so does one that fails in the middle. -/
theorem keeps_of_write
    {path : Path}
    {content : Bytes}
    {result : Except FileFault Unit}
    (written : (Storage.write path content : StateM World _) world = (result, after)) :
    world.disk.Keeps after.disk :=
  disk_of_write world.disk.Keeps written (fun _ _ wrote => .of_write wrote) (.refl _)

/-- Moving a file keeps the directories. -/
theorem keeps_of_rename
    {source goal : Path}
    {result : Except FileFault Unit}
    (renamed : (Storage.rename source goal : StateM World _) world = (result, after)) :
    world.disk.Keeps after.disk := by
  have regular : world.disk.Keeps (settle world.disk (world.disk.rename source goal)).1 :=
    disk_settle (fun _ renamed => .of_rename renamed) (.refl _)
  exact disk_of_change renamed (fun _ => .refl _) regular

/-- Removing a file keeps the directories. -/
theorem keeps_of_remove
    {path : Path}
    {result : Except FileFault Unit}
    (removed : (Storage.remove path : StateM World _) world = (result, after)) :
    world.disk.Keeps after.disk :=
  disk_of_remove world.disk.Keeps removed (fun _ isRemoved => .of_remove isRemoved) (.refl _)

/-- Making directories keeps the ones that are there. -/
theorem keeps_of_makeDirectories
    {path : Path}
    {result : Except FileFault Unit}
    (made : (Storage.makeDirectories path : StateM World _) world = (result, after)) :
    world.disk.Keeps after.disk :=
  disk_of_makeDirectories world.disk.Keeps made (.of_makeDirectories _ _) (.refl _)

end World

end ComponentPages
