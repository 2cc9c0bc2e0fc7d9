import Mathlib.Data.List.TakeWhile
import ComponentPages.Proofs.Storage.Places
import ComponentPages.Proofs.Storage.Tree

namespace ComponentPages

/-!
# Operations that succeed again

What succeeded once succeeds again as long as nothing is in its way. A directory that was made is
there from then on, so making it again does nothing. A path that took a file takes one as long as
the directories are kept and no directory is put in the place of the file. In a calm world, where
nothing is going to be interrupted, every operation does what the disk allows.
-/

namespace Disk

variable {disk before after : Disk} {path : Path} {location : Location}

/-! ## Places that are taken again -/

/-- A path goes on naming the same entry. -/
theorem target_of_keeps
    {slashed : Bool}
    (isTree : before.IsTree)
    (keeps : Keeps before after)
    (isTarget : before.target path = .ok (.entry location slashed)) :
    after.target path = .ok (.entry location slashed) := by
  obtain ⟨names, name, earlier, directory, areNames, reversed, followed, entered, noDots,
    isSlashed⟩ := target_eq_entry.mp isTarget
  have stands := isTree.stands_of_follow (by simp) followed
  refine target_eq_entry.mpr
    ⟨names, name, earlier, directory, areNames, reversed, ?_, ?_, noDots, isSlashed⟩
  · rw [keeps.startOf]
    exact keeps.follow stands followed
  · exact keeps.enter (stands.follow followed) entered

/-- A path takes a file at the same place as long as no directory is there. -/
theorem writePlace_of_keeps
    (isTree : before.IsTree)
    (keeps : Keeps before after)
    (isPlace : before.writePlace path = .ok location)
    (noDirectory : after.node? location ≠ some .directory) :
    after.writePlace path = .ok location := by
  obtain ⟨isTarget, -⟩ := writePlace_eq_ok.mp isPlace
  exact writePlace_eq_ok.mpr ⟨target_of_keeps isTree keeps isTarget, noDirectory⟩

/-- A tree with a file at a place that a path takes is a tree. -/
theorem IsTree.put_file
    (isTree : disk.IsTree)
    (isPlace : disk.writePlace path = .ok location)
    (content : Bytes) :
    (disk.put location (.file content)).IsTree := by
  obtain ⟨leads, -, noDirectory⟩ := leads_of_writePlace isPlace
  exact isTree.put (leads.stands_dropLast (isTree.stands_startOf leads)) noDirectory _

/-- What stands at a place after a file was put there or elsewhere. -/
theorem node?_put_file
    {place : Location}
    (below : place ≠ [])
    (content : Bytes)
    (location : Location) :
    (disk.put place (.file content)).node? location =
      if location = place then some (.file content) else disk.node? location := by
  by_cases same : location = place
  · rw [if_pos same, same, node?_put_self below]
  · rw [if_neg same, node?_put_of_ne same]

/-- A path takes a file at the same place after a file was put somewhere. -/
theorem writePlace_put
    {place : Location}
    (isTree : disk.IsTree)
    (below : place ≠ [])
    (noDirectory : disk.node? place ≠ some .directory)
    (isPlace : disk.writePlace path = .ok location)
    (content : Bytes) :
    (disk.put place (.file content)).writePlace path = .ok location := by
  refine writePlace_of_keeps isTree (.put noDirectory _) isPlace ?_
  rw [node?_put_file below]
  split
  · simp
  · exact (leads_of_writePlace isPlace).2.2

/-! ## Directories that are there -/

/-- A path names a directory if it leads to one. -/
theorem isDirectory_iff :
    disk.isDirectory path = true ↔
      ∃ location, disk.Leads path location ∧ disk.node? location = some .directory := by
  unfold isDirectory
  cases located : disk.locate path with
  | error fault =>
      simp only [Bool.false_eq_true, false_iff, not_exists]
      rintro location found
      rw [locate_eq_ok.mpr found] at located
      contradiction
  | ok found =>
      obtain ⟨place, node⟩ := found
      obtain ⟨leads, stood⟩ := locate_eq_ok.mp located
      cases node with
      | directory =>
          simp only [true_iff]
          exact ⟨place, leads, stood⟩
      | file content =>
          simp only [Bool.false_eq_true, false_iff, not_exists]
          rintro location ⟨leadsOther, isDirectory⟩
          rw [← leads.unique leadsOther, stood] at isDirectory
          simp at isDirectory

/-- A path still names a directory where directories are kept. -/
theorem isDirectory_of_keeps
    (isTree : before.IsTree)
    (keeps : Keeps before after)
    (isDirectory : before.isDirectory path = true) :
    after.isDirectory path = true := by
  obtain ⟨location, leads, stood⟩ := isDirectory_iff.mp isDirectory
  have stands := stands_of_dropLast (isTree location (by simp [stood])) stood
  exact isDirectory_iff.mpr ⟨location, leads.of_keeps (isTree.stands_startOf leads) keeps,
    keeps.stands location stands location List.prefix_rfl⟩

/-- Empty names lead on to the directory itself. -/
private theorem follow_blanks
    {names : List Text}
    (areBlank : ∀ name ∈ names, name = [])
    (isDirectory : disk.node? location = some .directory) :
    disk.follow location names = .ok location := by
  induction names with
  | nil =>
      rfl
  | cons name later inductionHypothesis =>
      obtain rfl : name = [] := areBlank name List.mem_cons_self
      have entered : disk.enter location [] = .ok location := by
        simp [enter, isDirectory]
      rw [follow, List.foldlM_cons, entered]
      exact inductionHypothesis fun other isLater =>
        areBlank other (List.mem_cons_of_mem _ isLater)

/-- Empty names lead nowhere else. -/
private theorem eq_of_follow_blanks
    {start : Location}
    {names : List Text}
    (areBlank : ∀ name ∈ names, name = [])
    (followed : disk.follow start names = .ok location) :
    location = start := by
  have noneCounts : names.filter Path.counts = [] := by
    refine List.filter_eq_nil_iff.mpr fun name isName => ?_
    simp [areBlank name isName, Path.counts]
  rw [eq_foldl_of_follow followed, noneCounts]
  rfl

/-- Names are those up to the last one that is not empty, and empty ones. -/
private theorem exists_blanks_of_dropWhile_reverse
    {names earlier : List Text}
    {name : Text}
    (reversed : names.reverse.dropWhile (·.isEmpty) = name :: earlier) :
    ∃ blanks : List Text,
      names = (earlier.reverse ++ [name]) ++ blanks ∧ ∀ blank ∈ blanks, blank = [] := by
  refine ⟨(names.reverse.takeWhile (·.isEmpty)).reverse, ?_, ?_⟩
  · have whole := List.takeWhile_append_dropWhile (p := (·.isEmpty)) (l := names.reverse)
    rw [reversed] at whole
    have backwards := congrArg List.reverse whole
    simpa using backwards.symm
  · intro blank isBlank
    have isEmpty := List.mem_takeWhile_imp (List.mem_reverse.mp isBlank)
    simpa using isEmpty

/-- A directory that is there is not made again. -/
theorem makeDirectory_of_isDirectory
    (isDirectory : disk.isDirectory path = true) :
    disk.makeDirectory path = .error .alreadyExists := by
  obtain ⟨location, ⟨names, areNames, followed⟩, stood⟩ := isDirectory_iff.mp isDirectory
  unfold makeDirectory target
  rw [areNames]
  simp only [bind, Except.bind]
  cases reversed : names.reverse.dropWhile (·.isEmpty) with
  | nil =>
      rfl
  | cons name earlier =>
      obtain ⟨blanks, rfl, areBlank⟩ := exists_blanks_of_dropWhile_reverse reversed
      rw [follow_append] at followed
      cases followedName : disk.follow (disk.startOf path) (earlier.reverse ++ [name]) with
      | error fault =>
          rw [followedName] at followed
          contradiction
      | ok place =>
          rw [followedName] at followed
          obtain rfl : location = place := eq_of_follow_blanks areBlank followed
          obtain ⟨directory, followedEarlier, entered⟩ := follow_concat.mp followedName
          have dotted :
              disk.follow (disk.startOf path) (earlier.reverse ++ [['.']]) = .ok directory := by
            refine follow_concat.mpr ⟨directory, followedEarlier, ?_⟩
            simp [enter, isDirectory_of_enter entered]
          simp only [dotted, entered]
          by_cases isDot : (decide (name = ['.']) || decide (name = ['.', '.'])) = true
          · rw [if_pos isDot]
            rfl
          · rw [if_neg isDot]
            simp only [pure, Except.pure, stood, Option.isSome_some, ↓reduceIte]
            rfl

/-- A path leads to the directory that it would make. -/
theorem leads_of_target_of_directory
    {slashed : Bool}
    (isTarget : disk.target path = .ok (.entry location slashed))
    (isDirectory : disk.node? location = some .directory) :
    disk.Leads path location := by
  obtain ⟨names, name, earlier, directory, areNames, reversed, followed, entered, -, -⟩ :=
    target_eq_entry.mp isTarget
  obtain ⟨blanks, rfl, areBlank⟩ := exists_blanks_of_dropWhile_reverse reversed
  refine ⟨_, areNames, ?_⟩
  rw [follow_append, follow_concat.mpr ⟨directory, follow_of_follow_dot followed, entered⟩]
  exact follow_blanks areBlank isDirectory

/-- A directory that was made is there. -/
theorem isDirectory_of_makeDirectory
    (isTree : before.IsTree)
    (made : before.makeDirectory path = .ok after) :
    after.isDirectory path = true := by
  have keeps := Keeps.of_makeDirectory made
  obtain ⟨location, slashed, isTarget, free, rfl⟩ := put_of_makeDirectory made
  have below : location ≠ [] := by
    rintro rfl
    simp [node?] at free
  have stood : (before.put location .directory).node? location = some .directory :=
    node?_put_self below .directory
  exact isDirectory_iff.mpr ⟨location,
    leads_of_target_of_directory (target_of_keeps isTree keeps isTarget) stood, stood⟩

/-- Whether there is nothing to be made for a directory. -/
def Has (disk : Disk) (path : Path) : Prop :=
  path.text.isEmpty = true ∨ disk.isDirectory path = true

/-- There is still nothing to be made where directories are kept. -/
theorem Has.of_keeps
    (has : before.Has path)
    (isTree : before.IsTree)
    (keeps : Keeps before after) :
    after.Has path :=
  has.imp_right (isDirectory_of_keeps isTree keeps)

/-- Where nothing is to be made, making directories succeeds and changes nothing. -/
theorem Has.makeDirectories
    (has : disk.Has path) :
    disk.makeDirectories path = (disk, .ok ()) := by
  unfold Disk.makeDirectories
  rcases has with isEmpty | isDirectory
  · rw [if_pos isEmpty]
  · split
    · rfl
    · rw [ancestors, makeAll, makeDirectory_of_isDirectory isDirectory]
      simp [isDirectory]

private theorem isDirectory_of_makeAll
    {outer : List Path}
    (isTree : before.IsTree)
    (made : before.makeAll (path :: outer) = (after, .ok ())) :
    after.isDirectory path = true := by
  unfold makeAll at made
  split at made
  · rename_i whole isWhole
    obtain rfl := (Prod.mk.inj made).1
    exact isDirectory_of_makeDirectory isTree isWhole
  · split at made
    · simp at made
    · rename_i between isBetween
      have isTreeBetween : between.IsTree := by
        have kept := rel_makeAll (fun before after => before.IsTree → after.IsTree) (fun _ => id)
          (fun first second => second ∘ first) (fun made isTree => isTree.of_makeDirectory made)
          before outer isTree
        rw [isBetween] at kept
        exact kept
      split at made
      · rename_i whole isWhole
        obtain rfl := (Prod.mk.inj made).1
        exact isDirectory_of_makeDirectory isTreeBetween isWhole
      · split at made
        · rename_i isDirectory
          obtain rfl := (Prod.mk.inj made).1
          exact isDirectory
        · simp at made
  · split at made
    · rename_i isDirectory
      obtain rfl := (Prod.mk.inj made).1
      exact isDirectory
    · simp at made

/-- A directory that was made is there. -/
theorem has_of_makeDirectories
    (isTree : before.IsTree)
    (made : before.makeDirectories path = (after, .ok ())) :
    after.Has path := by
  unfold makeDirectories at made
  split at made
  · rename_i isEmpty
    exact .inl isEmpty
  · exact .inr (isDirectory_of_makeAll isTree made)

end Disk

namespace World

variable {world after : World} {path : Path} {location : Location}

/-- Directories that were made need not be made again. -/
theorem has_of_makeDirectories
    (isTree : world.disk.IsTree)
    (made : (Storage.makeDirectories path : StateM World _) world = (.ok (), after)) :
    after.disk.Has path :=
  Disk.has_of_makeDirectories isTree (of_change_ok made)

/-! ## Calm worlds -/

/-- Whether none of the coming operations is going to be interrupted. -/
def IsCalm (world : World) : Prop :=
  ∀ planned ∈ world.schedule, planned = none

namespace IsCalm

private theorem next?
    (isCalm : world.IsCalm) :
    world.next? = none := by
  unfold World.next?
  cases isSchedule : world.schedule with
  | nil =>
      rfl
  | cons planned later =>
      have isRegular := isCalm planned (by simp [isSchedule])
      rw [isRegular]
      rfl

/-- A calm world stays calm. -/
theorem advance
    (isCalm : world.IsCalm)
    (disk : Disk) :
    (world.advance disk).IsCalm :=
  fun planned isLater => isCalm planned (List.mem_of_mem_tail isLater)

/-- In a calm world a write to a place where one can be made succeeds. -/
theorem write
    (isCalm : world.IsCalm)
    (isPlace : world.disk.writePlace path = .ok location)
    (content : Bytes) :
    (Storage.write path content : StateM World _) world =
      (.ok (), world.advance (world.disk.put location (.file content))) := by
  have written :
      world.disk.write path content = .ok (world.disk.put location (.file content)) :=
    Disk.write_eq_ok.mpr ⟨location, isPlace, rfl⟩
  change world.change _ (settle world.disk (world.disk.write path content)) = _
  rw [change, isCalm.next?, written]
  rfl

/-- In a calm world a file is moved to a place where one can be made. -/
theorem rename
    {goal : Path}
    {place : Location}
    {content : Bytes}
    (isCalm : world.IsCalm)
    (located : world.disk.locate path = .ok (place, .file content))
    (isPlace : world.disk.writePlace goal = .ok location) :
    (Storage.rename path goal : StateM World _) world =
      (.ok (), world.advance ((world.disk.erase place).put location (.file content))) := by
  have renamed := Disk.rename_eq_ok.mpr ⟨place, content, location, located, isPlace, rfl⟩
  change world.change _ (settle world.disk (world.disk.rename path goal)) = _
  rw [change, isCalm.next?, renamed]
  rfl

/-- In a calm world making directories succeeds where nothing is to be made. -/
theorem makeDirectories
    (isCalm : world.IsCalm)
    (has : world.disk.Has path) :
    (Storage.makeDirectories path : StateM World _) world =
      (.ok (), world.advance world.disk) := by
  change world.change _ (world.disk.makeDirectories path) = _
  rw [change, isCalm.next?, has.makeDirectories]

end IsCalm

end World

end ComponentPages
