import ComponentPages.Storage.Disk
import ComponentPages.Proofs.Text.Keyed

namespace ComponentPages

/-!
# What operations on a disk leave standing

A directory stands if all directories above it are there as well. No operation takes away a
directory that stands, so a path that leads to a place before an operation leads to the same place
after it. With this, what is written at a path and moved to another one is read there.
-/

/-! ## Steps that succeed -/

section Steps

variable {fault α β : Type} {value other : α}

/-- Two steps succeed if the first one does, and the second one does with its result. -/
theorem bind_eq_ok
    {first : Except fault α}
    {next : α → Except fault β}
    {result : β} :
    (first >>= next) = .ok result ↔ ∃ between, first = .ok between ∧ next between = .ok result := by
  cases first <;> simp [bind, Except.bind]

private theorem pure_eq_ok : (pure value : Except fault α) = .ok other ↔ value = other :=
  ⟨Except.ok.inj, congrArg Except.ok⟩

private theorem throw_ne_ok
    (reason : fault) :
    (throw reason : Except fault α) ≠ .ok value :=
  nofun

/-- A step with a refusal in front succeeds if it is not refused and succeeds by itself. -/
theorem ite_throw_eq_ok
    {condition : Prop}
    [Decidable condition]
    {reason : fault}
    {step : Except fault α} :
    (if condition then throw reason else step) = .ok value ↔ ¬ condition ∧ step = .ok value := by
  split
  · rename_i refused
    exact ⟨fun thrown => absurd thrown (throw_ne_ok reason), fun allowed => absurd refused allowed.1⟩
  · rename_i allowed
    exact ⟨fun isStep => ⟨allowed, isStep⟩, And.right⟩

end Steps

namespace Disk

variable {disk before after last : Disk}

/-! ## Places -/

/-- What was put at a place stands there. -/
theorem node?_put_self
    {location : Location}
    (below : location ≠ [])
    (node : Node) :
    (disk.put location node).node? location = some node := by
  simp [node?, put, below, Bindings.find?_insert_self]

/-- Putting something at a place touches no other one. -/
theorem node?_put_of_ne
    {location place : Location}
    (different : place ≠ location)
    (node : Node) :
    (disk.put location node).node? place = disk.node? place := by
  simp [node?, put, Bindings.find?_insert_of_ne different]

/-- Erasing a place takes away what is at or below it and nothing else. -/
theorem node?_erase
    {location : Location}
    (below : location ≠ [])
    (place : Location) :
    (disk.erase location).node? place =
      if location.isPrefixOf place then none else disk.node? place := by
  by_cases isRoot : place = []
  · have outside : location.isPrefixOf place = false := by
      cases location with
      | nil =>
          contradiction
      | cons name later =>
          rw [isRoot]
          rfl
    simp [node?, isRoot, isRoot ▸ outside]
  · have kept := Bindings.find?_filter (fun known => !location.isPrefixOf known) place disk.nodes
    by_cases inside : location.isPrefixOf place = true
    · simpa [node?, erase, isRoot, inside] using kept
    · simpa [node?, erase, isRoot, inside] using kept

/-! ## Standing directories -/

/-- Whether there are directories at a place and at all places above it. -/
def Stands (disk : Disk) (location : Location) : Prop :=
  ∀ place, place <+: location → disk.node? place = some .directory

/-- The root stands. -/
theorem stands_root : disk.Stands [] := by
  intro place isPrefix
  rw [List.prefix_nil.mp isPrefix]
  rfl

/-- The directories above one that stands do so as well. -/
theorem Stands.of_prefix
    {location outer : Location}
    (stands : disk.Stands location)
    (isPrefix : outer <+: location) :
    disk.Stands outer :=
  fun place inner => stands place (inner.trans isPrefix)

/-- A directory stands if the one above it does. -/
theorem stands_of_dropLast
    {location : Location}
    (outer : disk.Stands location.dropLast)
    (isDirectory : disk.node? location = some .directory) :
    disk.Stands location := by
  rcases List.eq_nil_or_concat location with rfl | ⟨directory, name, rfl⟩
  · exact stands_root
  · intro place isPrefix
    rcases List.prefix_concat_iff.mp (List.concat_eq_append ▸ isPrefix) with same | inner
    · rw [same, ← List.concat_eq_append]
      exact isDirectory
    · exact outer place (by simpa using inner)

/-- Whether the working directory stands. -/
def IsOpen (disk : Disk) : Prop :=
  disk.Stands disk.workingDirectory

/-- Relative and absolute paths start at a standing directory. -/
theorem IsOpen.stands_startOf
    (isOpen : disk.IsOpen)
    (path : Path) :
    disk.Stands (disk.startOf path) := by
  unfold startOf
  split
  · exact stands_root
  · exact isOpen

/-! ## Following paths -/

/-- A name entered in a directory leads nowhere else, to the one above it or directly into it. -/
theorem enter_eq_ok
    {directory location : Location}
    {name : Text} :
    disk.enter directory name = .ok location ↔
      disk.node? directory = some .directory ∧
        ((name = [] ∨ name = ['.']) ∧ location = directory ∨
          name = ['.', '.'] ∧ location = directory.dropLast ∨
          (name ≠ [] ∧ name ≠ ['.'] ∧ name ≠ ['.', '.']) ∧
            name.byteLength ≤ nameLimit ∧ location = directory ++ [name]) := by
  unfold enter
  split
  · rename_i nothing
    simp [nothing]
  · rename_i isFile
    simp [isFile]
  · rename_i isDirectory
    simp only [isDirectory, true_and]
    split
    · rename_i isDot
      have isDot : name = [] ∨ name = ['.'] := by simpa using isDot
      rcases isDot with rfl | rfl <;> simp [eq_comm (a := location)]
    · rename_i notDot
      obtain ⟨notEmpty, notDot⟩ : name ≠ [] ∧ name ≠ ['.'] := by simpa using notDot
      split
      · rename_i isUp
        simp [isUp, eq_comm (a := location)]
      · rename_i notUp
        simp only [notEmpty, notDot, notUp, or_self, false_and, ne_eq, not_false_eq_true, true_and,
          false_or]
        split
        · simp only [reduceCtorEq, false_iff]
          omega
        · simp only [Except.ok.injEq, eq_comm (a := location), iff_and_self]
          omega

/-- A name is entered in a directory only. -/
theorem isDirectory_of_enter
    {directory location : Location}
    {name : Text}
    (entered : disk.enter directory name = .ok location) :
    disk.node? directory = some .directory :=
  (enter_eq_ok.mp entered).1

/-- The place of a name is the directory, the one above it or directly in it. -/
theorem dropLast_prefix_of_enter
    {directory location : Location}
    {name : Text}
    (entered : disk.enter directory name = .ok location) :
    location.dropLast <+: directory := by
  obtain ⟨-, ⟨-, rfl⟩ | ⟨-, rfl⟩ | ⟨-, -, rfl⟩⟩ := enter_eq_ok.mp entered
  · exact List.dropLast_prefix _
  · exact (List.dropLast_prefix _).trans (List.dropLast_prefix _)
  · simp

/-- An empty name and a dot lead nowhere else. -/
theorem eq_of_enter_dot
    {directory location : Location}
    {name : Text}
    (isDot : name = [] ∨ name = ['.'])
    (entered : disk.enter directory name = .ok location) :
    location = directory := by
  obtain ⟨-, ⟨-, isHere⟩ | ⟨rfl, -⟩ | ⟨⟨notEmpty, notDot, -⟩, -⟩⟩ := enter_eq_ok.mp entered
  · exact isHere
  · simp at isDot
  · exact absurd isDot (not_or.mpr ⟨notEmpty, notDot⟩)

/-- A double dot leads to the directory above. -/
theorem eq_dropLast_of_enter
    {directory location : Location}
    (entered : disk.enter directory ['.', '.'] = .ok location) :
    location = directory.dropLast := by
  obtain ⟨-, ⟨isDot, -⟩ | ⟨-, isAbove⟩ | ⟨⟨-, -, notUp⟩, -⟩⟩ := enter_eq_ok.mp entered
  · simp at isDot
  · exact isAbove
  · exact absurd rfl notUp

/-- A name that is no dot is entered below the root. -/
theorem enter_below
    {directory location : Location}
    {name : Text}
    (isName : name ≠ [] ∧ name ≠ ['.'] ∧ name ≠ ['.', '.'])
    (entered : disk.enter directory name = .ok location) :
    location = directory ++ [name] := by
  obtain ⟨notEmpty, notDot, notUp⟩ := isName
  obtain ⟨-, ⟨isDot, -⟩ | ⟨isUp, -⟩ | ⟨-, -, isBelow⟩⟩ := enter_eq_ok.mp entered
  · exact absurd isDot (not_or.mpr ⟨notEmpty, notDot⟩)
  · exact absurd isUp notUp
  · exact isBelow

/-- Names are followed piece by piece. -/
theorem follow_append
    (start : Location)
    (names more : List Text) :
    disk.follow start (names ++ more) =
      (disk.follow start names).bind fun location => disk.follow location more :=
  List.foldlM_append

/-- Names are followed to the last one, and this one is entered. -/
theorem follow_concat
    {start location : Location}
    {names : List Text}
    {name : Text} :
    disk.follow start (names ++ [name]) = .ok location ↔
      ∃ directory,
        disk.follow start names = .ok directory ∧ disk.enter directory name = .ok location := by
  rw [follow_append]
  cases disk.follow start names <;> simp [Except.bind, follow]

/-! ## Keeping directories -/

/-- Whether every directory that stands before also stands after. -/
structure Keeps (before after : Disk) : Prop where
  workingDirectory : after.workingDirectory = before.workingDirectory
  stands : ∀ location, before.Stands location → after.Stands location

namespace Keeps

/-- A disk keeps its own directories. -/
theorem refl (disk : Disk) : Keeps disk disk :=
  ⟨rfl, fun _ stands => stands⟩

/-- What is kept twice is kept. -/
theorem trans
    (first : Keeps before after)
    (second : Keeps after last) :
    Keeps before last where
  workingDirectory := second.workingDirectory.trans first.workingDirectory
  stands location stands := second.stands location (first.stands location stands)

/-- The working directory still stands where directories are kept. -/
theorem isOpen
    (keeps : Keeps before after)
    (isOpen : before.IsOpen) :
    after.IsOpen := by
  rw [IsOpen, keeps.workingDirectory]
  exact keeps.stands _ isOpen

/-- Paths start where they started before. -/
theorem startOf
    (keeps : Keeps before after)
    (path : Path) :
    after.startOf path = before.startOf path := by
  rw [Disk.startOf, Disk.startOf, keeps.workingDirectory]

/-- Putting a node where there is no directory keeps the directories. -/
theorem put
    {location : Location}
    (noDirectory : disk.node? location ≠ some .directory)
    (node : Node) :
    Keeps disk (disk.put location node) := by
  refine ⟨rfl, ?_⟩
  intro directory stands place isPrefix
  have isDirectory := stands place isPrefix
  have different : place ≠ location := by
    rintro rfl
    exact noDirectory isDirectory
  rw [node?_put_of_ne different]
  exact isDirectory

/-- Erasing a place without a directory keeps the directories. -/
theorem erase
    {location : Location}
    (noDirectory : disk.node? location ≠ some .directory) :
    Keeps disk (disk.erase location) := by
  have below : location ≠ [] := by
    rintro rfl
    exact noDirectory rfl
  refine ⟨rfl, ?_⟩
  intro directory stands place isPrefix
  have outside : ¬location.isPrefixOf place = true := by
    intro inside
    exact noDirectory (stands location ((List.isPrefixOf_iff_prefix.mp inside).trans isPrefix))
  rw [node?_erase below, if_neg outside]
  exact stands place isPrefix

/-- Entering a name from a standing directory leads to the same place. -/
theorem enter
    (keeps : Keeps before after)
    {directory location : Location}
    {name : Text}
    (outer : before.Stands directory.dropLast)
    (entered : before.enter directory name = .ok location) :
    after.enter directory name = .ok location := by
  obtain ⟨isDirectory, leads⟩ := enter_eq_ok.mp entered
  have stillDirectory : after.node? directory = some .directory :=
    keeps.stands directory (stands_of_dropLast outer isDirectory) directory List.prefix_rfl
  exact enter_eq_ok.mpr ⟨stillDirectory, leads⟩

/-- Following names from a standing directory leads to the same place. -/
theorem follow
    (keeps : Keeps before after)
    {start location : Location}
    {names : List Text}
    (stands : before.Stands start)
    (followed : before.follow start names = .ok location) :
    after.follow start names = .ok location := by
  -- The last place may be a file, so only the directory above each place is known to stand.
  have outer : before.Stands start.dropLast := stands.of_prefix (List.dropLast_prefix start)
  clear stands
  induction names generalizing start with
  | nil =>
      exact followed
  | cons name later inductionHypothesis =>
      rw [Disk.follow, List.foldlM_cons] at followed ⊢
      cases entered : before.enter start name with
      | error fault =>
          rw [entered] at followed
          contradiction
      | ok next =>
          rw [entered] at followed
          rw [keeps.enter outer entered]
          have here := stands_of_dropLast outer (isDirectory_of_enter entered)
          exact inductionHypothesis followed (here.of_prefix (dropLast_prefix_of_enter entered))

end Keeps

/-! ## Leading somewhere -/

/-- Whether a path leads to a place, whatever stands there. -/
def Leads (disk : Disk) (path : Path) (location : Location) : Prop :=
  ∃ names, namesOf path = .ok names ∧ disk.follow (disk.startOf path) names = .ok location

/-- A path leads to one place. -/
theorem Leads.unique
    {path : Path}
    {location other : Location}
    (leads : disk.Leads path location)
    (leadsOther : disk.Leads path other) :
    location = other := by
  obtain ⟨names, areNames, followed⟩ := leads
  obtain ⟨otherNames, areOtherNames, followedOther⟩ := leadsOther
  obtain rfl := Except.ok.inj (areNames.symm.trans areOtherNames)
  exact Except.ok.inj (followed.symm.trans followedOther)

/-- A path goes on leading to the same place. -/
theorem Leads.of_keeps
    {path : Path}
    {location : Location}
    (leads : before.Leads path location)
    (stands : before.Stands (before.startOf path))
    (keeps : Keeps before after) :
    after.Leads path location := by
  obtain ⟨names, areNames, followed⟩ := leads
  refine ⟨names, areNames, ?_⟩
  rw [keeps.startOf]
  exact keeps.follow stands followed

/-- A path is located at the place to which it leads. -/
theorem locate_eq_ok
    {path : Path}
    {location : Location}
    {node : Node} :
    disk.locate path = .ok (location, node) ↔
      disk.Leads path location ∧ disk.node? location = some node := by
  simp only [locate, bind_eq_ok, Leads]
  constructor
  · rintro ⟨names, areNames, place, followed, found⟩
    split at found
    · rename_i other stood
      obtain ⟨rfl, rfl⟩ := Prod.mk.inj (pure_eq_ok.mp found)
      exact ⟨⟨names, areNames, followed⟩, stood⟩
    · exact absurd found (throw_ne_ok _)
  · rintro ⟨⟨names, areNames, followed⟩, stood⟩
    exact ⟨names, areNames, location, followed, by rw [stood]; rfl⟩

/-- A file is read at the place to which its path leads. -/
theorem read_eq_ok
    {path : Path}
    {content : Bytes} :
    disk.read path = .ok content ↔
      ∃ location, disk.Leads path location ∧ disk.node? location = some (.file content) := by
  simp only [read, bind_eq_ok, Prod.exists]
  constructor
  · rintro ⟨location, node, located, isContent⟩
    obtain ⟨leads, holds⟩ := locate_eq_ok.mp located
    cases node with
    | directory =>
        exact absurd isContent (throw_ne_ok _)
    | file bytes =>
        obtain rfl := pure_eq_ok.mp isContent
        exact ⟨location, leads, holds⟩
  · rintro ⟨location, leads, holds⟩
    exact ⟨location, .file content, locate_eq_ok.mpr ⟨leads, holds⟩, rfl⟩

/-- A dot at the end of a path leads nowhere else. -/
theorem follow_of_follow_dot
    {start directory : Location}
    {names : List Text}
    (followed : disk.follow start (names ++ [['.']]) = .ok directory) :
    disk.follow start names = .ok directory := by
  obtain ⟨place, followedNames, entered⟩ := follow_concat.mp followed
  rwa [eq_of_enter_dot (.inr rfl) entered]

/-- Without separators at the end the last name is the one that the names end in. -/
private theorem eq_concat_of_dropWhile_reverse
    {names earlier : List Text}
    {name : Text}
    (reversed : names.reverse.dropWhile (·.isEmpty) = name :: earlier)
    (notSlashed : (names.getLast? == some []) = false) :
    names = earlier.reverse ++ [name] := by
  rcases List.eq_nil_or_concat names with rfl | ⟨front, final, rfl⟩
  · contradiction
  · have notBlank : final.isEmpty = false := by
      simpa using notSlashed
    rw [List.concat_eq_append, List.reverse_append, List.reverse_singleton, List.singleton_append,
      List.dropWhile_cons_of_neg (by simp [notBlank])] at reversed
    obtain ⟨rfl, rfl⟩ := List.cons.inj reversed
    simp

/-- A path names an entry if its last name, which is no dot, is entered from what comes before
it. -/
theorem target_eq_entry
    {path : Path}
    {location : Location}
    {slashed : Bool} :
    disk.target path = .ok (.entry location slashed) ↔
      ∃ names name earlier directory,
        namesOf path = .ok names ∧
        names.reverse.dropWhile (·.isEmpty) = name :: earlier ∧
        disk.follow (disk.startOf path) (earlier.reverse ++ [['.']]) = .ok directory ∧
        disk.enter directory name = .ok location ∧
        (name ≠ ['.'] ∧ name ≠ ['.', '.']) ∧
        (names.getLast? == some []) = slashed := by
  simp only [target, bind_eq_ok]
  constructor
  · rintro ⟨names, areNames, isTarget⟩
    split at isTarget
    · cases pure_eq_ok.mp isTarget
    · rename_i name earlier reversed
      obtain ⟨directory, followed, isTarget⟩ := bind_eq_ok.mp isTarget
      obtain ⟨place, entered, isTarget⟩ := bind_eq_ok.mp isTarget
      split at isTarget
      · cases pure_eq_ok.mp isTarget
      · rename_i notDot
        obtain ⟨rfl, isSlashed⟩ := Target.entry.inj (pure_eq_ok.mp isTarget)
        exact ⟨names, name, earlier, directory, areNames, reversed, followed, entered,
          by simpa using notDot, isSlashed⟩
  · rintro ⟨names, name, earlier, directory, areNames, reversed, followed, entered, noDots, rfl⟩
    refine ⟨names, areNames, ?_⟩
    rw [reversed]
    refine bind_eq_ok.mpr ⟨directory, followed, bind_eq_ok.mpr ⟨location, entered, ?_⟩⟩
    exact if_neg (by simpa using noDots)

/-- A path that could make a file leads to the place where it would make it. -/
theorem leads_of_target
    {path : Path}
    {location : Location}
    (isTarget : disk.target path = .ok (.entry location false)) :
    disk.Leads path location ∧ location ≠ [] := by
  obtain ⟨names, name, earlier, directory, areNames, reversed, followed, entered, noDots,
    notSlashed⟩ := target_eq_entry.mp isTarget
  have notBlank : name ≠ [] := by
    have first := List.head?_dropWhile_not (fun name : Text => name.isEmpty) names.reverse
    rw [reversed] at first
    simpa using first
  have shape := eq_concat_of_dropWhile_reverse reversed notSlashed
  refine ⟨⟨names, areNames, ?_⟩, ?_⟩
  · rw [shape]
    exact follow_concat.mpr ⟨directory, follow_of_follow_dot followed, entered⟩
  · rw [enter_below ⟨notBlank, noDots⟩ entered]
    simp

/-! ## Operations -/

/-- An operation goes on at an entry that is no directory and has no separators behind its name. -/
theorem onFreeEntry_eq_ok
    {α : Type}
    {path : Path}
    {atSelf atSeparator atDirectory : FileFault}
    {value : α}
    (result : Location → α) :
    (do
      match ← disk.target path with
      | .self => throw atSelf
      | .entry location slashed =>
          if slashed then
            throw atSeparator
          else if disk.node? location = some .directory then
            throw atDirectory
          else
            return result location : Except FileFault α) = .ok value ↔
      ∃ location,
        disk.target path = .ok (.entry location false) ∧
          disk.node? location ≠ some .directory ∧ value = result location := by
  rw [bind_eq_ok]
  constructor
  · rintro ⟨goal, isTarget, isValue⟩
    cases goal with
    | self =>
        exact absurd isValue (throw_ne_ok _)
    | entry location slashed =>
        obtain ⟨notSlashed, atEntry⟩ := ite_throw_eq_ok.mp isValue
        obtain ⟨noDirectory, isResult⟩ := ite_throw_eq_ok.mp atEntry
        obtain rfl : slashed = false := by simpa using notSlashed
        exact ⟨location, isTarget, noDirectory, (pure_eq_ok.mp isResult).symm⟩
  · rintro ⟨location, isTarget, noDirectory, rfl⟩
    exact ⟨_, isTarget, ite_throw_eq_ok.mpr ⟨nofun, ite_throw_eq_ok.mpr ⟨noDirectory, rfl⟩⟩⟩

/-- A path takes a file where it names an entry that is no directory. -/
theorem writePlace_eq_ok
    {path : Path}
    {location : Location} :
    disk.writePlace path = .ok location ↔
      disk.target path = .ok (.entry location false) ∧
        disk.node? location ≠ some .directory := by
  refine (onFreeEntry_eq_ok id).trans ?_
  constructor
  · rintro ⟨_, isTarget, noDirectory, rfl⟩
    exact ⟨isTarget, noDirectory⟩
  · rintro ⟨isTarget, noDirectory⟩
    exact ⟨location, isTarget, noDirectory, rfl⟩

/-- What an operation puts where there is no directory. -/
theorem leads_of_writePlace
    {path : Path}
    {location : Location}
    (isPlace : disk.writePlace path = .ok location) :
    disk.Leads path location ∧ location ≠ [] ∧ disk.node? location ≠ some .directory := by
  obtain ⟨isTarget, noDirectory⟩ := writePlace_eq_ok.mp isPlace
  obtain ⟨leads, below⟩ := leads_of_target isTarget
  exact ⟨leads, below, noDirectory⟩

/-- Writing puts a file at the place that the path takes. -/
theorem write_eq_ok
    {path : Path}
    {content : Bytes} :
    before.write path content = .ok after ↔
      ∃ location,
        before.writePlace path = .ok location ∧ after = before.put location (.file content) := by
  unfold write
  cases before.writePlace path <;> simp [Except.map, eq_comm]

/-- Writing puts a file at the place to which the path leads. -/
theorem put_of_write
    {path : Path}
    {content : Bytes}
    (written : before.write path content = .ok after) :
    ∃ location, before.Leads path location ∧ location ≠ [] ∧
      before.node? location ≠ some .directory ∧ after = before.put location (.file content) := by
  obtain ⟨location, isPlace, isPut⟩ := write_eq_ok.mp written
  obtain ⟨leads, below, noDirectory⟩ := leads_of_writePlace isPlace
  exact ⟨location, leads, below, noDirectory, isPut⟩

/-- Moving takes a file from its place and puts it at the place that the other path takes. -/
theorem rename_eq_ok
    {source goal : Path} :
    before.rename source goal = .ok after ↔
      ∃ place content location,
        before.locate source = .ok (place, .file content) ∧
        before.writePlace goal = .ok location ∧
        after = (before.erase place).put location (.file content) := by
  simp only [rename, bind_eq_ok, Prod.exists, writePlace_eq_ok]
  constructor
  · rintro ⟨place, node, located, isMoved⟩
    cases node with
    | directory =>
        exact absurd isMoved (throw_ne_ok _)
    | file content =>
        obtain ⟨location, isTarget, noDirectory, isPut⟩ := (onFreeEntry_eq_ok fun location =>
          (before.erase place).put location (.file content)).mp isMoved
        exact ⟨place, content, location, located, ⟨isTarget, noDirectory⟩, isPut⟩
  · rintro ⟨place, content, location, located, ⟨isTarget, noDirectory⟩, isPut⟩
    refine ⟨place, .file content, located, ?_⟩
    exact (onFreeEntry_eq_ok fun location => (before.erase place).put location (.file content)).mpr
      ⟨location, isTarget, noDirectory, isPut⟩

/-- Moving takes a file from its place and puts it at the place to which the other path leads. -/
theorem put_of_rename
    {source goal : Path}
    (renamed : before.rename source goal = .ok after) :
    ∃ place content location,
      before.Leads source place ∧ before.node? place = some (.file content) ∧
      before.Leads goal location ∧ location ≠ [] ∧ before.node? location ≠ some .directory ∧
      after = (before.erase place).put location (.file content) := by
  obtain ⟨place, content, location, located, isPlace, isPut⟩ := rename_eq_ok.mp renamed
  obtain ⟨leads, holds⟩ := locate_eq_ok.mp located
  obtain ⟨leadsGoal, below, noDirectory⟩ := leads_of_writePlace isPlace
  exact ⟨place, content, location, leads, holds, leadsGoal, below, noDirectory, isPut⟩

/-- Removing takes a file from its place. -/
theorem erase_of_remove
    {path : Path}
    (removed : before.remove path = .ok after) :
    ∃ place content,
      before.Leads path place ∧ before.node? place = some (.file content) ∧
      after = before.erase place := by
  obtain ⟨⟨place, node⟩, located, isErased⟩ := bind_eq_ok.mp removed
  obtain ⟨leads, holds⟩ := locate_eq_ok.mp located
  cases node with
  | directory =>
      exact absurd isErased (throw_ne_ok _)
  | file content =>
      exact ⟨place, content, leads, holds, (pure_eq_ok.mp isErased).symm⟩

/-- Making a directory puts it where nothing was. -/
theorem put_of_makeDirectory
    {path : Path}
    (made : before.makeDirectory path = .ok after) :
    ∃ location slashed,
      before.target path = .ok (.entry location slashed) ∧ before.node? location = none ∧
        after = before.put location .directory := by
  obtain ⟨goal, isTarget, isMade⟩ := bind_eq_ok.mp made
  cases goal with
  | self =>
      exact absurd isMade (throw_ne_ok _)
  | entry location slashed =>
      obtain ⟨free, isPut⟩ := ite_throw_eq_ok.mp isMade
      exact ⟨location, slashed, isTarget, by simpa using free, (pure_eq_ok.mp isPut).symm⟩

section MakingDirectories

variable
  (relation : Disk → Disk → Prop)
  (refl : ∀ disk, relation disk disk)
  (trans : ∀ {before after last}, relation before after → relation after last →
    relation before last)
  (ofMade : ∀ {before after path}, before.makeDirectory path = .ok after → relation before after)

include refl trans ofMade

/-- If the making of each directory keeps to a relation, so does the making of all. -/
theorem rel_makeAll
    (disk : Disk)
    (paths : List Path) :
    relation disk (disk.makeAll paths).1 := by
  induction paths generalizing disk with
  | nil =>
      exact refl disk
  | cons path outer inductionHypothesis =>
      unfold makeAll
      split
      · rename_i made isMade
        exact ofMade isMade
      · -- The directory above is missing: those above are made first, and some of them may be made
        -- even if the whole fails.
        have outerMade := inductionHypothesis disk
        split
        · rename_i made fault isMade
          rw [isMade] at outerMade
          exact outerMade
        · rename_i made isMade
          rw [isMade] at outerMade
          split
          · rename_i whole isWhole
            exact trans outerMade (ofMade isWhole)
          · split <;> exact outerMade
      · split <;> exact refl disk

/-- What making one directory does to a disk is done by making those above it as well. -/
theorem rel_makeDirectories
    (disk : Disk)
    (path : Path) :
    relation disk (disk.makeDirectories path).1 := by
  unfold makeDirectories
  split
  · exact refl disk
  · exact rel_makeAll relation refl trans ofMade disk (ancestors path)

end MakingDirectories

namespace Keeps

/-- A write keeps the directories. -/
theorem of_write
    {path : Path}
    {content : Bytes}
    (written : before.write path content = .ok after) :
    Keeps before after := by
  obtain ⟨location, _, _, noDirectory, rfl⟩ := put_of_write written
  exact put noDirectory _

/-- Moving a file keeps the directories. -/
theorem of_rename
    {source goal : Path}
    (renamed : before.rename source goal = .ok after) :
    Keeps before after := by
  obtain ⟨place, content, location, _, holds, _, below, noDirectory, rfl⟩ := put_of_rename renamed
  have placeBelow : place ≠ [] := by
    rintro rfl
    simp [node?] at holds
  have erased : Keeps before (before.erase place) := erase (by simp [holds])
  have stillNoDirectory : (before.erase place).node? location ≠ some .directory := by
    rw [node?_erase placeBelow]
    split
    · simp
    · exact noDirectory
  exact erased.trans (put stillNoDirectory _)

/-- Removing a file keeps the directories. -/
theorem of_remove
    {path : Path}
    (removed : before.remove path = .ok after) :
    Keeps before after := by
  obtain ⟨place, content, _, holds, rfl⟩ := erase_of_remove removed
  exact erase (by simp [holds])

/-- Making a directory keeps the others. -/
theorem of_makeDirectory
    {path : Path}
    (made : before.makeDirectory path = .ok after) :
    Keeps before after := by
  obtain ⟨location, _, _, free, rfl⟩ := put_of_makeDirectory made
  exact put (by simp [free]) _

/-- Making a directory and those above it keeps the directories. -/
theorem of_makeDirectories
    (disk : Disk)
    (path : Path) :
    Keeps disk (disk.makeDirectories path).1 :=
  rel_makeDirectories Keeps refl trans of_makeDirectory disk path

end Keeps

/-- What was written at a path is read there. -/
theorem read_of_write
    {path : Path}
    {content : Bytes}
    (stands : before.Stands (before.startOf path))
    (written : before.write path content = .ok after) :
    after.read path = .ok content := by
  have keeps := Keeps.of_write written
  obtain ⟨location, leads, below, _, rfl⟩ := put_of_write written
  exact read_eq_ok.mpr ⟨location, leads.of_keeps stands keeps, node?_put_self below _⟩

/-- What was read at a path is read at the path to which the file was moved. -/
theorem read_of_rename
    {source goal : Path}
    {content : Bytes}
    (stands : before.Stands (before.startOf goal))
    (read : before.read source = .ok content)
    (renamed : before.rename source goal = .ok after) :
    after.read goal = .ok content := by
  have keeps := Keeps.of_rename renamed
  obtain ⟨place, moved, location, leadsSource, holds, leadsGoal, below, _, rfl⟩ :=
    put_of_rename renamed
  have same : moved = content := by
    have readMoved := read_eq_ok.mpr ⟨place, leadsSource, holds⟩
    exact Except.ok.inj (readMoved.symm.trans read)
  rw [same] at keeps ⊢
  exact read_eq_ok.mpr ⟨location, leadsGoal.of_keeps stands keeps, node?_put_self below _⟩

end Disk

end ComponentPages
