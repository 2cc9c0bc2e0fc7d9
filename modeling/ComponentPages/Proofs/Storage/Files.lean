import Mathlib.Data.List.Induction
import ComponentPages.Proofs.Project.Path
import ComponentPages.Proofs.Storage.World

namespace ComponentPages

/-!
# Which files operations touch

Making directories touches no file. Writing and removing touch the file at the place to which their
path leads and no other. Two paths with different file names never lead to the same place, because a
path leads to a place that ends in its file name.
-/

namespace Disk

variable {disk before after : Disk}

/-! ## The ends of places -/

/-- A name that does not count leads nowhere else. -/
theorem eq_of_enter
    {directory location : Location}
    {name : Text}
    (isUncounted : Path.counts name = false)
    (entered : disk.enter directory name = .ok location) :
    location = directory := by
  have isDot : name = [] ∨ name = ['.'] := by
    simpa [Path.counts, Decidable.or_iff_not_imp_left] using isUncounted
  exact eq_of_enter_dot isDot entered

/-- The place ends in the last name that counts, if this is no double dot. -/
private theorem getLast?_of_follow
    {start location : Location}
    {names : List Text}
    {name : Text}
    (isLast : (names.filter Path.counts).getLast? = some name)
    (noDots : name ≠ ['.', '.'])
    (followed : disk.follow start names = .ok location) :
    location.getLast? = some name := by
  induction names using List.reverseRecOn generalizing location with
  | nil =>
      simp at isLast
  | append_singleton earlier last inductionHypothesis =>
      obtain ⟨directory, followedEarlier, entered⟩ := follow_concat.mp followed
      by_cases isCounted : Path.counts last = true
      · obtain rfl : last = name := by
          simpa [isCounted] using isLast
        have isName : last ≠ [] ∧ last ≠ ['.'] := by
          simpa [Path.counts] using isCounted
        rw [enter_below ⟨isName.1, isName.2, noDots⟩ entered]
        simp
      · have isUncounted : Path.counts last = false := by
          simpa using isCounted
        rw [eq_of_enter isUncounted entered]
        refine inductionHypothesis ?_ followedEarlier
        simpa [isUncounted] using isLast

/-- The directory above the place to which names lead stands. -/
theorem Stands.follow
    {start location : Location}
    {names : List Text}
    (stands : disk.Stands start)
    (followed : disk.follow start names = .ok location) :
    disk.Stands location.dropLast := by
  induction names using List.reverseRecOn generalizing location with
  | nil =>
      obtain rfl := Except.ok.inj followed
      exact stands.of_prefix (List.dropLast_prefix _)
  | append_singleton earlier last inductionHypothesis =>
      obtain ⟨directory, followedEarlier, entered⟩ := follow_concat.mp followed
      have here := stands_of_dropLast (inductionHypothesis followedEarlier)
        (isDirectory_of_enter entered)
      exact here.of_prefix (dropLast_prefix_of_enter entered)

/-- Names that end in no name lead to a directory that stands. -/
theorem Stands.follow_of_unnamed
    {start location : Location}
    {names : List Text}
    (stands : disk.Stands start)
    (unnamed : ∀ name, (names.filter Path.counts).getLast? = some name → name = ['.', '.'])
    (followed : disk.follow start names = .ok location) :
    disk.Stands location := by
  induction names using List.reverseRecOn generalizing location with
  | nil =>
      obtain rfl := Except.ok.inj followed
      exact stands
  | append_singleton earlier last inductionHypothesis =>
      obtain ⟨directory, followedEarlier, entered⟩ := follow_concat.mp followed
      by_cases isCounted : Path.counts last = true
      · obtain rfl : last = ['.', '.'] := unnamed last (by simp [isCounted])
        rw [eq_dropLast_of_enter entered]
        exact stands.follow followedEarlier
      · have isUncounted : Path.counts last = false := by
          simpa using isCounted
        rw [eq_of_enter isUncounted entered]
        refine inductionHypothesis ?_ followedEarlier
        simpa [isUncounted] using unnamed

/-- The names of a path are its pieces. -/
theorem eq_pieces_of_namesOf
    {path : Path}
    {names : List Text}
    (areNames : namesOf path = .ok names) :
    names = Text.pieces Path.isSeparator path.text := by
  unfold namesOf at areNames
  split at areNames
  · contradiction
  · split at areNames
    · contradiction
    · exact (Except.ok.inj areNames).symm

/-- A path leads to a place that ends in its file name. -/
theorem Leads.getLast?_eq
    {path : Path}
    {location : Location}
    {name : Text}
    (leads : disk.Leads path location)
    (named : path.fileName? = some name) :
    location.getLast? = some name := by
  obtain ⟨names, areNames, followed⟩ := leads
  obtain ⟨isLast, noDots⟩ := Path.fileName?_eq_some.mp named
  rw [Path.countedPieces, ← eq_pieces_of_namesOf areNames] at isLast
  exact getLast?_of_follow isLast noDots followed

/-- The place to which a path leads is in a directory that stands. -/
theorem Leads.stands_dropLast
    {path : Path}
    {location : Location}
    (leads : disk.Leads path location)
    (stands : disk.Stands (disk.startOf path)) :
    disk.Stands location.dropLast := by
  obtain ⟨names, -, followed⟩ := leads
  exact stands.follow followed

/-- A path without a file name leads to a directory. -/
theorem Leads.isDirectory_of_unnamed
    {path : Path}
    {location : Location}
    (leads : disk.Leads path location)
    (stands : disk.Stands (disk.startOf path))
    (unnamed : path.fileName? = none) :
    disk.node? location = some .directory := by
  obtain ⟨names, areNames, followed⟩ := leads
  refine stands.follow_of_unnamed ?_ followed location List.prefix_rfl
  intro name isLast
  by_contra noDots
  rw [eq_pieces_of_namesOf areNames] at isLast
  rw [Path.fileName?_eq_some.mpr ⟨isLast, noDots⟩] at unnamed
  contradiction

/-- A place below another one has its directory at or below it. -/
theorem prefix_dropLast_of_ne
    {location place : Location}
    (inside : place <+: location)
    (different : location ≠ place) :
    place <+: location.dropLast := by
  rcases List.eq_nil_or_concat location with rfl | ⟨directory, name, rfl⟩
  · exact absurd (List.prefix_nil.mp inside).symm different
  · rw [List.concat_eq_append] at inside different ⊢
    rw [List.dropLast_concat]
    rcases List.prefix_concat_iff.mp inside with same | inner
    · exact absurd same.symm different
    · exact inner

/-! ## Files -/

/-- The bytes of the file at a place, if there is a file. -/
def file? (disk : Disk) (location : Location) : Option Bytes :=
  match disk.node? location with
  | some (.file content) => some content
  | _ => none

/-- A file has the bytes of the node at its place. -/
theorem file?_eq_some
    {location : Location}
    {content : Bytes} :
    disk.file? location = some content ↔ disk.node? location = some (.file content) := by
  unfold file?
  split
  · rename_i stood
    simp [stood]
  · rename_i noFile
    simp only [reduceCtorEq, false_iff]
    exact noFile content

/-- Putting something at a place touches no file elsewhere. -/
theorem file?_put_of_ne
    {location place : Location}
    (different : location ≠ place)
    (node : Node) :
    (disk.put place node).file? location = disk.file? location := by
  rw [file?, node?_put_of_ne different, file?]

/-- Erasing a file touches no other file. -/
theorem file?_erase
    {location place : Location}
    (below : place ≠ [])
    (different : location ≠ place)
    (stands : (disk.erase place).Stands location.dropLast) :
    (disk.erase place).file? location = disk.file? location := by
  have outside : ¬place.isPrefixOf location = true := by
    intro inside
    -- The directory above the location would have been erased as well.
    have isDirectory :=
      stands place (prefix_dropLast_of_ne (List.isPrefixOf_iff_prefix.mp inside) different)
    rw [node?_erase below, if_pos (List.isPrefixOf_iff_prefix.mpr List.prefix_rfl)] at isDirectory
    contradiction
  rw [file?, node?_erase below, if_neg outside, file?]

/-- Writing touches the file at the place to which the path leads and no other. -/
theorem file?_of_write
    {path : Path}
    {content : Bytes}
    {location : Location}
    (written : before.write path content = .ok after)
    (different : ∀ place, before.Leads path place → before.node? place ≠ some .directory →
      location ≠ place) :
    after.file? location = before.file? location := by
  obtain ⟨place, leads, -, noDirectory, rfl⟩ := put_of_write written
  exact file?_put_of_ne (different place leads noDirectory) _

/-- Removing touches the file at the place to which the path leads and no other. -/
theorem file?_of_remove
    {path : Path}
    {location : Location}
    (removed : before.remove path = .ok after)
    (different : ∀ place, before.Leads path place → before.node? place ≠ some .directory →
      location ≠ place)
    (stands : after.Stands location.dropLast) :
    after.file? location = before.file? location := by
  obtain ⟨place, content, leads, holds, rfl⟩ := erase_of_remove removed
  have below : place ≠ [] := by
    rintro rfl
    simp [node?] at holds
  have noDirectory : before.node? place ≠ some .directory := by
    simp [holds]
  exact file?_erase below (different place leads noDirectory) stands

private theorem file?_of_makeDirectory
    {path : Path}
    (made : before.makeDirectory path = .ok after)
    (location : Location) :
    after.file? location = before.file? location := by
  obtain ⟨place, _, -, free, rfl⟩ := put_of_makeDirectory made
  by_cases same : location = place
  · have below : place ≠ [] := by
      rintro rfl
      simp [node?] at free
    rw [same, file?, node?_put_self below, file?, free]
  · exact file?_put_of_ne same _

/-- Making a directory and those above it touches no file. -/
theorem file?_makeDirectories
    (disk : Disk)
    (path : Path)
    (location : Location) :
    (disk.makeDirectories path).1.file? location = disk.file? location :=
  rel_makeDirectories (fun before after => after.file? location = before.file? location)
    (fun _ => rfl) (fun first second => second.trans first)
    (fun made => file?_of_makeDirectory made location) disk path

end Disk

namespace World

variable {world after : World} {location : Location}

/-! ## Actions -/

/-- A write touches no other file, and neither does one that fails in the middle. -/
theorem file?_of_write
    {path : Path}
    {content : Bytes}
    {result : Except FileFault Unit}
    (written : (Storage.write path content : StateM World _) world = (result, after))
    (different : ∀ place, world.disk.Leads path place →
      world.disk.node? place ≠ some .directory → location ≠ place) :
    after.disk.file? location = world.disk.file? location :=
  disk_of_write (fun disk => disk.file? location = world.disk.file? location) written
    (fun _ _ wrote => Disk.file?_of_write wrote different) rfl

/-- Removing touches no file but the one to which the path leads. -/
theorem file?_of_remove
    {path : Path}
    {result : Except FileFault Unit}
    (removed : (Storage.remove path : StateM World _) world = (result, after))
    (different : ∀ place, world.disk.Leads path place →
      world.disk.node? place ≠ some .directory → location ≠ place)
    (stands : after.disk.Stands location.dropLast) :
    after.disk.file? location = world.disk.file? location := by
  revert stands
  exact disk_of_remove
    (fun disk => disk.Stands location.dropLast → disk.file? location = world.disk.file? location)
    removed (fun _ isRemoved stands => Disk.file?_of_remove isRemoved different stands)
    (fun _ => rfl)

/-- Making directories touches no file. -/
theorem file?_of_makeDirectories
    {path : Path}
    {result : Except FileFault Unit}
    (made : (Storage.makeDirectories path : StateM World _) world = (result, after))
    (location : Location) :
    after.disk.file? location = world.disk.file? location :=
  disk_of_makeDirectories (fun disk => disk.file? location = world.disk.file? location) made
    (Disk.file?_makeDirectories world.disk path location) rfl

end World

end ComponentPages
