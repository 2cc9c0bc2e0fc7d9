import Mathlib.Data.List.Infix
import ComponentPages.Proofs.Storage.Files

namespace ComponentPages

/-!
# Trees

A disk is a tree if whatever is there stands in directories that are there as well. Every operation
keeps this. In a tree a path that leads anywhere starts at a directory that stands, also if the
working directory is gone, and a file is found only where the directories above it stand.
-/

namespace Disk

variable {disk before after : Disk} {location : Location}

/-- Whether all that is there has its directories above it. -/
def IsTree (disk : Disk) : Prop :=
  ∀ location, disk.node? location ≠ none → disk.Stands location.dropLast

/-- Whether a disk is a tree is seen from what it lists. -/
theorem isTree_of_nodes
    (listed : ∀ entry ∈ disk.nodes, ∀ place ∈ entry.1.dropLast.inits,
      disk.node? place = some .directory) :
    disk.IsTree := by
  intro location isThere place isPrefix
  by_cases isRoot : location = []
  · rw [isRoot] at isPrefix
    rw [List.prefix_nil.mp isPrefix]
    rfl
  · obtain ⟨node, isNode⟩ := Option.ne_none_iff_exists'.mp isThere
    rw [node?, if_neg (by simpa using isRoot)] at isNode
    exact listed (location, node) (Bindings.mem_of_find? isNode) place
      ((List.mem_inits _ _).mpr isPrefix)

namespace IsTree

/-! ## Paths -/

/-- Names are followed from a directory that stands. -/
theorem stands_of_follow
    (isTree : disk.IsTree)
    {start : Location}
    {names : List Text}
    (areNames : names ≠ [])
    (followed : disk.follow start names = .ok location) :
    disk.Stands start := by
  cases names with
  | nil =>
      contradiction
  | cons name later =>
      rw [follow, List.foldlM_cons] at followed
      cases entered : disk.enter start name with
      | error fault =>
          rw [entered] at followed
          contradiction
      | ok next =>
          have isDirectory := isDirectory_of_enter entered
          exact stands_of_dropLast (isTree start (by simp [isDirectory])) isDirectory

/-- A path that leads anywhere starts at a directory that stands. -/
theorem stands_startOf
    (isTree : disk.IsTree)
    {path : Path}
    (leads : disk.Leads path location) :
    disk.Stands (disk.startOf path) := by
  obtain ⟨names, areNames, followed⟩ := leads
  have nonempty : names ≠ [] := by
    rw [eq_pieces_of_namesOf areNames, Text.pieces_eq_splitOnP]
    exact List.splitOnP_ne_nil _ _
  exact isTree.stands_of_follow nonempty followed

/-- The directory stands in which a path would make something new. -/
theorem stands_of_target
    (isTree : disk.IsTree)
    {path : Path}
    {slashed : Bool}
    (isTarget : disk.target path = .ok (.entry location slashed)) :
    disk.Stands location.dropLast := by
  obtain ⟨names, name, earlier, directory, -, -, followed, entered, -, -⟩ :=
    target_eq_entry.mp isTarget
  exact (isTree.stands_of_follow (by simp) followed).follow
    (follow_concat.mpr ⟨directory, follow_of_follow_dot followed, entered⟩)

/-! ## Operations -/

/-- A tree stays one when something is put into a directory, unless it takes the place of one. -/
theorem put
    (isTree : disk.IsTree)
    (stands : disk.Stands location.dropLast)
    (noDirectory : disk.node? location ≠ some .directory)
    (node : Node) :
    (disk.put location node).IsTree := by
  have keeps := Keeps.put noDirectory node
  intro place isThere
  by_cases same : place = location
  · rw [same]
    exact keeps.stands _ stands
  · rw [node?_put_of_ne same] at isThere
    exact keeps.stands _ (isTree place isThere)

private theorem erase
    (isTree : disk.IsTree)
    (noDirectory : disk.node? location ≠ some .directory) :
    (disk.erase location).IsTree := by
  have below : location ≠ [] := by
    rintro rfl
    exact noDirectory rfl
  intro place isThere
  have wasThere : disk.node? place ≠ none := by
    rw [node?_erase below] at isThere
    split at isThere
    · contradiction
    · exact isThere
  exact (Keeps.erase noDirectory).stands _ (isTree place wasThere)

/-- A tree stays one when a file is written. -/
theorem of_write
    (isTree : before.IsTree)
    {path : Path}
    {content : Bytes}
    (written : before.write path content = .ok after) :
    after.IsTree := by
  obtain ⟨location, leads, -, noDirectory, rfl⟩ := put_of_write written
  exact isTree.put (leads.stands_dropLast (isTree.stands_startOf leads)) noDirectory _

private theorem of_remove
    (isTree : before.IsTree)
    {path : Path}
    (removed : before.remove path = .ok after) :
    after.IsTree := by
  obtain ⟨place, content, -, holds, rfl⟩ := erase_of_remove removed
  exact isTree.erase (by simp [holds])

private theorem of_rename
    (isTree : before.IsTree)
    {source goal : Path}
    (renamed : before.rename source goal = .ok after) :
    after.IsTree := by
  obtain ⟨place, content, location, -, holds, leads, below, noDirectory, rfl⟩ :=
    put_of_rename renamed
  have isErased : before.node? place ≠ some .directory := by
    simp [holds]
  have placeBelow : place ≠ [] := by
    rintro rfl
    simp [node?] at holds
  have stillNoDirectory : (before.erase place).node? location ≠ some .directory := by
    rw [node?_erase placeBelow]
    split
    · simp
    · exact noDirectory
  have stands := leads.stands_dropLast (isTree.stands_startOf leads)
  exact (isTree.erase isErased).put ((Keeps.erase isErased).stands _ stands) stillNoDirectory _

/-- A tree stays one when a directory is made. -/
theorem of_makeDirectory
    (isTree : before.IsTree)
    {path : Path}
    (made : before.makeDirectory path = .ok after) :
    after.IsTree := by
  obtain ⟨location, slashed, isTarget, free, rfl⟩ := put_of_makeDirectory made
  exact isTree.put (isTree.stands_of_target isTarget) (by simp [free]) _

private theorem makeDirectories
    (isTree : disk.IsTree)
    (path : Path) :
    (disk.makeDirectories path).1.IsTree :=
  rel_makeDirectories (fun before after => before.IsTree → after.IsTree) (fun _ => id)
    (fun first second => second ∘ first) (fun made isTree => isTree.of_makeDirectory made)
    disk path isTree

/-! ## Files -/

/-- A file is found only where the directories above it stand. -/
theorem file?_eq_none
    (isTree : disk.IsTree)
    (noDirectory : ¬disk.Stands location.dropLast) :
    disk.file? location = none := by
  have isFree : disk.node? location = none := by
    by_contra isThere
    exact noDirectory (isTree location isThere)
  rw [file?, isFree]

/-- If the files whose directories stand are the same in two trees, all are. -/
theorem file?_eq
    (isTreeBefore : before.IsTree)
    (isTree : after.IsTree)
    (keeps : Keeps before after)
    (same : after.Stands location.dropLast → after.file? location = before.file? location) :
    after.file? location = before.file? location := by
  by_cases stands : after.Stands location.dropLast
  · exact same stands
  · have stoodNot : ¬before.Stands location.dropLast := mt (keeps.stands _) stands
    rw [isTree.file?_eq_none stands, isTreeBefore.file?_eq_none stoodNot]

end IsTree

end Disk

namespace World

variable {world after : World} {path : Path}

/-! ## Actions -/

/-- A tree stays one through a write, even one that is interrupted. -/
theorem isTree_of_write
    {content : Bytes}
    {result : Except FileFault Unit}
    (isTree : world.disk.IsTree)
    (written : (Storage.write path content : StateM World _) world = (result, after)) :
    after.disk.IsTree :=
  disk_of_write Disk.IsTree written (fun _ _ wrote => isTree.of_write wrote) isTree

/-- A tree stays one through a removal. -/
theorem isTree_of_remove
    {result : Except FileFault Unit}
    (isTree : world.disk.IsTree)
    (removed : (Storage.remove path : StateM World _) world = (result, after)) :
    after.disk.IsTree :=
  disk_of_remove Disk.IsTree removed (fun _ isRemoved => isTree.of_remove isRemoved) isTree

/-- A tree stays one through a move. -/
theorem isTree_of_rename
    {goal : Path}
    {result : Except FileFault Unit}
    (isTree : world.disk.IsTree)
    (renamed : (Storage.rename path goal : StateM World _) world = (result, after)) :
    after.disk.IsTree :=
  disk_of_change renamed (fun _ => isTree)
    (disk_settle (fun _ isRenamed => isTree.of_rename isRenamed) isTree)

/-- A tree stays one through the making of directories. -/
theorem isTree_of_makeDirectories
    {result : Except FileFault Unit}
    (isTree : world.disk.IsTree)
    (made : (Storage.makeDirectories path : StateM World _) world = (result, after)) :
    after.disk.IsTree :=
  disk_of_makeDirectories Disk.IsTree made (isTree.makeDirectories path) isTree

end World

end ComponentPages
