import ComponentPages.Proofs.Registry.Atomicity
import ComponentPages.Proofs.Storage.Again

namespace ComponentPages

/-!
# Saving again

A registry that was saved can be saved again: its directory is there, and the store and the
temporary file can be put where they were. What saving leaves on the disk is told place by place,
so that saving the same registry once more is seen to leave the same.
-/

namespace Registry

variable {world after : World} {path : Path} {disk : Disk} {temporary store : Location}

/-- What a disk holds once a temporary file was written and moved to the place of the store. -/
def stored (disk : Disk) (temporary store : Location) (bytes : Bytes) : Disk :=
  ((disk.put temporary (.file bytes)).erase temporary).put store (.file bytes)

/-- The store is at its place, nothing at the temporary one, and all else is as before. -/
theorem node?_stored
    (temporaryBelow : temporary ≠ [])
    (storeBelow : store ≠ [])
    (bytes : Bytes)
    (location : Location) :
    (stored disk temporary store bytes).node? location =
      if location = store then some (.file bytes)
      else if temporary <+: location then none
      else disk.node? location := by
  rw [stored, Disk.node?_put_file storeBelow, Disk.node?_erase temporaryBelow,
    Disk.node?_put_file temporaryBelow]
  by_cases inside : temporary <+: location
  · rw [if_pos (List.isPrefixOf_iff_prefix.mpr inside), if_pos inside]
  · have different : location ≠ temporary := by
      rintro rfl
      exact inside List.prefix_rfl
    rw [if_neg (mt List.isPrefixOf_iff_prefix.mp inside), if_neg inside, if_neg different]

/-- Saving puts no directory anywhere. -/
theorem node?_stored_ne_directory
    {location : Location}
    (temporaryBelow : temporary ≠ [])
    (storeBelow : store ≠ [])
    (noDirectory : disk.node? location ≠ some .directory)
    (bytes : Bytes) :
    (stored disk temporary store bytes).node? location ≠ some .directory := by
  rw [node?_stored temporaryBelow storeBelow]
  split
  · simp
  · split
    · simp
    · exact noDirectory

/-- Saving the same again leaves the same, also if a file was put before that was there already. -/
theorem node?_stored_again
    {place : Location}
    {content : Bytes}
    (temporaryBelow : temporary ≠ [])
    (storeBelow : store ≠ [])
    (below : place ≠ [])
    (isThere : disk.node? place = some (.file content))
    (bytes : Bytes)
    (location : Location) :
    (stored ((stored disk temporary store bytes).put place (.file content)) temporary store
        bytes).node? location =
      (stored disk temporary store bytes).node? location := by
  simp only [node?_stored temporaryBelow storeBelow, Disk.node?_put_file below]
  by_cases isStore : location = store
  · rw [if_pos isStore, if_pos isStore]
  · by_cases isTemporary : temporary <+: location
    · simp only [if_neg isStore, if_pos isTemporary]
    · by_cases isPlace : location = place
      · simp only [if_neg isStore, if_neg isTemporary, if_pos isPlace]
        rw [isPlace, isThere]
      · simp only [if_neg isStore, if_neg isTemporary, if_neg isPlace]

/-- Whether nothing on a disk is in the way of saving at a path. -/
structure Takes (path : Path) (disk : Disk) (temporary store : Location) : Prop where
  parent : ∀ parent, path.parent? = some parent → disk.Has parent
  temporary : disk.writePlace (temporaryPath path "tmp".toList) = .ok temporary
  store : disk.writePlace path = .ok store

/-- A file that is put anywhere is not in the way. -/
theorem Takes.put
    {place : Location}
    {content : Bytes}
    (takes : Takes path disk temporary store)
    (isTree : disk.IsTree)
    (below : place ≠ [])
    (noDirectory : disk.node? place ≠ some .directory) :
    Takes path (disk.put place (.file content)) temporary store where
  parent directory isParent :=
    (takes.parent directory isParent).of_keeps isTree (.put noDirectory _)
  temporary := Disk.writePlace_put isTree below noDirectory takes.temporary _
  store := Disk.writePlace_put isTree below noDirectory takes.store _

/-! ## The directory of the store -/

private theorem has_of_makeParent
    (isTree : world.disk.IsTree)
    (made : (makeParent path : StateM World (Except FileFault Unit)) world = (.ok (), after)) :
    ∀ parent, path.parent? = some parent → after.disk.Has parent := by
  intro parent isParent
  obtain ⟨-, isEmpty⟩ | ⟨other, isOther, isMade⟩ := makeDirectories_of_makeParent made
  · exact .inl (isEmpty parent isParent)
  · obtain rfl := Option.some.inj (isOther.symm.trans isParent)
    exact World.has_of_makeDirectories isTree isMade

/-- A directory that is there is not made. -/
theorem disk_of_makeParent
    (has : ∀ parent, path.parent? = some parent → world.disk.Has parent)
    (made : (makeParent path : StateM World (Except FileFault Unit)) world = (.ok (), after)) :
    after.disk = world.disk := by
  obtain ⟨rfl, -⟩ | ⟨parent, isParent, isMade⟩ := makeDirectories_of_makeParent made
  · rfl
  · have regular := World.of_change_ok isMade
    rw [(has parent isParent).makeDirectories] at regular
    exact (Prod.mk.inj regular).1.symm

private theorem makeParent_of_has
    (isCalm : world.IsCalm)
    (has : ∀ parent, path.parent? = some parent → world.disk.Has parent) :
    ∃ prepared : World,
      (makeParent path : StateM World (Except FileFault Unit)) world = (.ok (), prepared) ∧
        prepared.IsCalm := by
  unfold makeParent
  cases isParent : path.parent? with
  | none =>
      exact ⟨world, rfl, isCalm⟩
  | some parent =>
      dsimp only
      split
      · exact ⟨world, rfl, isCalm⟩
      · exact ⟨_, isCalm.makeDirectories (has parent isParent), isCalm.advance _⟩

/-! ## The store -/

/-- Replacing that succeeds has put both files in their places. -/
theorem stored_of_replace_ok
    {temporaryFile : Path}
    {bytes : Bytes}
    (isTree : world.disk.IsTree)
    (replaced :
      (replace temporaryFile path bytes : StateM World (Except FileFault Unit)) world =
        (.ok (), after)) :
    ∃ temporary store,
      world.disk.writePlace temporaryFile = .ok temporary ∧
      (world.disk.put temporary (.file bytes)).writePlace path = .ok store ∧
      (world.disk.put temporary (.file bytes)).Keeps after.disk ∧
      after.disk = stored world.disk temporary store bytes := by
  cases replacing_of_replace replaced with
  | @complete written _ isWritten isMoved =>
      obtain ⟨temporary, temporaryPlace, isPut⟩ :=
        Disk.write_eq_ok.mp (World.of_write_ok isWritten)
      obtain ⟨leads, below, -⟩ := Disk.leads_of_writePlace temporaryPlace
      obtain ⟨place, content, store, located, storePlace, isStored⟩ :=
        Disk.rename_eq_ok.mp (World.of_rename_ok isMoved)
      -- The file that was moved is the temporary one.
      obtain ⟨leadsMoved, holds⟩ := Disk.locate_eq_ok.mp located
      have leadsWritten :=
        leads.of_keeps (isTree.stands_startOf leads) (World.keeps_of_write isWritten)
      obtain rfl : place = temporary := leadsMoved.unique leadsWritten
      obtain rfl : content = bytes := by
        rw [isPut, Disk.node?_put_self below] at holds
        exact (Node.file.inj (Option.some.inj holds)).symm
      have keeps := World.keeps_of_rename isMoved
      rw [isPut] at storePlace isStored keeps
      exact ⟨place, store, temporaryPlace, storePlace, keeps, isStored⟩

/-- Replacing a file goes through in a calm world if both files have their places. -/
theorem replace_of_places
    {temporaryFile : Path}
    (isTree : world.disk.IsTree)
    (isCalm : world.IsCalm)
    (temporaryPlace : world.disk.writePlace temporaryFile = .ok temporary)
    (storePlace : world.disk.writePlace path = .ok store)
    (bytes : Bytes) :
    ∃ after : World,
      (replace temporaryFile path bytes : StateM World (Except FileFault Unit)) world =
        (.ok (), after) := by
  obtain ⟨leads, below, noDirectory⟩ := Disk.leads_of_writePlace temporaryPlace
  have written := isCalm.write temporaryPlace bytes
  have isCalmWritten := isCalm.advance (world.disk.put temporary (.file bytes))
  have located :
      (world.disk.put temporary (.file bytes)).locate temporaryFile =
        .ok (temporary, .file bytes) :=
    Disk.locate_eq_ok.mpr ⟨leads.of_keeps (isTree.stands_startOf leads) (.put noDirectory _),
      Disk.node?_put_self below _⟩
  have moved := isCalmWritten.rename located
    (Disk.writePlace_put isTree below noDirectory storePlace bytes)
  refine ⟨(world.advance (world.disk.put temporary (.file bytes))).advance
    (stored world.disk temporary store bytes), ?_⟩
  rw [replace, writeThrough, World.run_bind, World.run_bind, written]
  dsimp only
  rw [moved]
  rfl

namespace Takes

variable {registry : Registry} (takes : Takes registry.path world.disk temporary store)

include takes

/-- Where nothing is in the way, saving that succeeds puts both files in their places. -/
theorem disk_of_save_ok
    (isTree : world.disk.IsTree)
    (saved : (registry.save : StateM World (Except FileFault Unit)) world = (.ok (), after)) :
    after.disk = stored world.disk temporary store registry.toBytes := by
  obtain ⟨prepared, isMade, isReplaced⟩ := replace_of_save_ok saved
  have sameDisk := disk_of_makeParent takes.parent isMade
  rw [← sameDisk] at takes isTree ⊢
  obtain ⟨_, below, noDirectory⟩ := Disk.leads_of_writePlace takes.temporary
  obtain ⟨place, goal, isPlace, isGoal, -, isStored⟩ := stored_of_replace_ok isTree isReplaced
  obtain rfl := Except.ok.inj (isPlace.symm.trans takes.temporary)
  have sameGoal := Disk.writePlace_put isTree below noDirectory takes.store registry.toBytes
  obtain rfl := Except.ok.inj (isGoal.symm.trans sameGoal)
  exact isStored

/-- Where nothing is in the way, saving goes through in a calm world. -/
theorem save
    (isTree : world.disk.IsTree)
    (isCalm : world.IsCalm) :
    ∃ after : World,
      (registry.save : StateM World (Except FileFault Unit)) world = (.ok (), after) := by
  obtain ⟨prepared, isPrepared, isCalmPrepared⟩ := makeParent_of_has isCalm takes.parent
  have sameDisk := disk_of_makeParent takes.parent isPrepared
  rw [← sameDisk] at takes isTree
  obtain ⟨after, isReplaced⟩ :=
    replace_of_places isTree isCalmPrepared takes.temporary takes.store registry.toBytes
  exact ⟨after, by rw [run_save, isPrepared]; exact isReplaced⟩

end Takes

/-- Saving that succeeded leaves nothing in the way of saving again. -/
theorem takes_of_save_ok
    {registry : Registry}
    (isTree : world.disk.IsTree)
    (saved : (registry.save : StateM World (Except FileFault Unit)) world = (.ok (), after)) :
    ∃ prepared temporary store,
      after.disk = stored prepared temporary store registry.toBytes ∧
        (∀ location, prepared.file? location = world.disk.file? location) ∧
        temporary ≠ [] ∧ store ≠ [] ∧ Takes registry.path after.disk temporary store := by
  obtain ⟨prepared, isMade, isReplaced⟩ := replace_of_save_ok saved
  have isTreePrepared := isTree_of_makeParent isTree isMade
  have keeps := keeps_of_replace isReplaced
  obtain ⟨temporary, store, temporaryPlace, storePlace, keepsMoved, isStored⟩ :=
    stored_of_replace_ok isTreePrepared isReplaced
  obtain ⟨-, below, noDirectory⟩ := Disk.leads_of_writePlace temporaryPlace
  obtain ⟨-, storeBelow, -⟩ := Disk.leads_of_writePlace storePlace
  have isTreeWritten := isTreePrepared.put_file temporaryPlace registry.toBytes
  refine ⟨prepared.disk, temporary, store, isStored, file?_of_makeParent isMade, below,
    storeBelow, ?parent, ?temporary, ?store⟩
  case parent =>
    intro parent isParent
    exact (has_of_makeParent isTree isMade parent isParent).of_keeps isTreePrepared keeps
  case temporary =>
    refine Disk.writePlace_of_keeps isTreePrepared keeps temporaryPlace ?_
    rw [isStored]
    exact node?_stored_ne_directory below storeBelow noDirectory _
  case store =>
    refine Disk.writePlace_of_keeps isTreeWritten keepsMoved storePlace ?_
    rw [isStored, node?_stored below storeBelow, if_pos rfl]
    simp

end Registry

end ComponentPages
