import ComponentPages.Proofs.Registry.Saving
import ComponentPages.Proofs.Storage.Tree

namespace ComponentPages

/-!
# Saving is all or nothing

Saving fails when the directory of the store is made, when the registry is serialized, when the
temporary file is written, possibly with a part of it on the disk, or when this file is moved. In
each case every file has the bytes that it had: only the temporary file is written at all before
the last step, and its path never leads to the store. It is removed again, and what becomes of this
removal is not looked at, so the temporary file is left where the removal is refused too. Saving
that succeeds has replaced the store and left no temporary file of its own behind.
-/

namespace Disk

variable {disk : Disk} {location : Location}

/-- Removing a file erases its place. -/
private theorem remove_of_leads
    {path : Path}
    {content : Bytes}
    (leads : disk.Leads path location)
    (holds : disk.node? location = some (.file content)) :
    disk.remove path = .ok (disk.erase location) := by
  rw [remove, locate_eq_ok.mpr ⟨leads, holds⟩]
  rfl

/-- Whether removing succeeds or not, it leaves no file where the path leads. -/
private theorem file?_settle_remove
    {path : Path}
    (leads : disk.Leads path location) :
    (World.settle disk (disk.remove path)).1.file? location = none := by
  cases stood : disk.node? location with
  | none =>
      cases removed : disk.remove path with
      | error fault =>
          simp [World.settle, file?, stood]
      | ok after =>
          obtain ⟨place, content, leadsPlace, holds, -⟩ := erase_of_remove removed
          rw [leads.unique leadsPlace, holds] at stood
          contradiction
  | some node =>
      cases node with
      | directory =>
          have refused : disk.remove path = .error .isADirectory := by
            rw [remove, locate_eq_ok.mpr ⟨leads, stood⟩]
            rfl
          simp [refused, World.settle, file?, stood]
      | file content =>
          have below : location ≠ [] := by
            rintro rfl
            simp [node?] at stood
          rw [remove_of_leads leads stood, World.settle, file?, node?_erase below,
            if_pos (List.isPrefixOf_iff_prefix.mpr List.prefix_rfl)]

/-- Erasing makes no file. -/
private theorem file?_erase_eq_none
    {place : Location}
    (below : place ≠ [])
    (isFree : disk.file? location = none) :
    (disk.erase place).file? location = none := by
  unfold file? at isFree ⊢
  rw [node?_erase below]
  by_cases inside : place.isPrefixOf location = true
  · rw [if_pos inside]
  · rw [if_neg inside]
    exact isFree

end Disk

namespace World

variable {world after : World} {location : Location} {path : Path}

/-- Removing that is not interrupted leaves no file where the path leads. -/
private theorem file?_of_remove_regular
    {result : Except FileFault Unit}
    (isRegular : world.next? = none)
    (removed : (Storage.remove path : StateM World _) world = (result, after))
    (leads : world.disk.Leads path location) :
    after.disk.file? location = none := by
  change world.change _ (settle world.disk (world.disk.remove path)) = _ at removed
  rw [change, isRegular] at removed
  obtain rfl := (Prod.mk.inj removed).2
  exact Disk.file?_settle_remove leads

private theorem file?_eq_none_of_remove
    {result : Except FileFault Unit}
    (removed : (Storage.remove path : StateM World _) world = (result, after))
    (isFree : world.disk.file? location = none) :
    after.disk.file? location = none := by
  refine disk_of_remove (fun disk => disk.file? location = none) removed ?_ isFree
  intro disk isRemoved
  obtain ⟨place, content, -, holds, rfl⟩ := Disk.erase_of_remove isRemoved
  have below : place ≠ [] := by
    rintro rfl
    simp [Disk.node?] at holds
  exact Disk.file?_erase_eq_none below isFree

/-- If a write put a file where none was, its path leads there afterwards. -/
private theorem leads_of_write
    {content : Bytes}
    {result : Except FileFault Unit}
    (isTree : world.disk.IsTree)
    (isFree : world.disk.file? location = none)
    (isPlace : location = path.place world.disk.workingDirectory)
    (written : (Storage.write path content : StateM World _) world = (result, after)) :
    after.disk.file? location = none ∨ after.disk.Leads path location := by
  refine disk_of_write (fun disk => disk.file? location = none ∨ disk.Leads path location) written
    ?_ (.inl isFree)
  intro bytes disk wrote
  obtain ⟨place, leads, -⟩ := Disk.put_of_write wrote
  rw [isPlace, ← leads.eq_place]
  exact .inr (leads.of_keeps (isTree.stands_startOf leads) (.of_write wrote))

end World

namespace Registry

variable {world after : World}

/-! ## Replacing a file -/

/-- Replacing keeps a disk a tree, whether it succeeds or fails. -/
theorem isTree_of_replace
    {temporary path : Path}
    {bytes : Bytes}
    {result : Except FileFault Unit}
    (isTree : world.disk.IsTree)
    (replaced :
      (replace temporary path bytes : StateM World (Except FileFault Unit)) world =
        (result, after)) :
    after.disk.IsTree := by
  cases replacing_of_replace replaced with
  | unwritten isWritten =>
      exact World.isTree_of_remove (World.isTree_of_write isTree isWritten) rfl
  | unmoved isWritten isMoved =>
      have isTreeWritten := World.isTree_of_write isTree isWritten
      exact World.isTree_of_remove (World.isTree_of_rename isTreeWritten isMoved) rfl
  | complete isWritten isMoved =>
      exact World.isTree_of_rename (World.isTree_of_write isTree isWritten) isMoved

/-- Replacing that fails changes no file elsewhere than at the temporary place. -/
theorem elsewhere_of_replace_error
    {temporary path : Path}
    {bytes : Bytes}
    {fault : FileFault}
    {location : Location}
    (isTree : world.disk.IsTree)
    (replaced :
      (replace temporary path bytes : StateM World (Except FileFault Unit)) world =
        (.error fault, after))
    (notTemporary : location ≠ temporary.place world.disk.workingDirectory) :
    after.disk.file? location = world.disk.file? location := by
  have different : ∀ disk place, world.disk.Keeps disk → disk.Leads temporary place →
      disk.node? place ≠ some .directory → location ≠ place := by
    rintro disk place keeps leads -
    rw [leads.eq_place, keeps.workingDirectory]
    exact notTemporary
  exact Disk.IsTree.file?_eq isTree (isTree_of_replace isTree replaced) (keeps_of_replace replaced)
    (file?_of_replace_error replaced different)

/-- Replacing that succeeds changes no file elsewhere than at the two places. -/
theorem elsewhere_of_replace_ok
    {temporary path : Path}
    {bytes : Bytes}
    {location : Location}
    (isTree : world.disk.IsTree)
    (replaced :
      (replace temporary path bytes : StateM World (Except FileFault Unit)) world =
        (.ok (), after))
    (notStore : location ≠ path.place world.disk.workingDirectory)
    (notTemporary : location ≠ temporary.place world.disk.workingDirectory) :
    after.disk.file? location = world.disk.file? location := by
  by_cases stands : world.disk.Stands location.dropLast
  · exact file?_of_replace replaced stands notStore notTemporary
  · rw [file?_of_replace_ok replaced, if_neg notStore, isTree.file?_eq_none stands, ite_self]

/-- Replacing that fails leaves no file at the temporary place if the removal is not interrupted. -/
theorem temporary_of_replace_error
    {temporary path : Path}
    {bytes : Bytes}
    {fault : FileFault}
    (isTree : world.disk.IsTree)
    (isFree : world.disk.file? (temporary.place world.disk.workingDirectory) = none)
    (replaced :
      (replace temporary path bytes : StateM World (Except FileFault Unit)) world =
        (.error fault, after))
    (isRegular : ∀ failed,
      (writeThrough temporary path bytes : StateM World (Except FileFault Unit)) world =
        (.error fault, failed) → failed.next? = none) :
    after.disk.file? (temporary.place world.disk.workingDirectory) = none := by
  have removed : ∀ failed : World,
      (writeThrough temporary path bytes : StateM World (Except FileFault Unit)) world =
        (.error fault, failed) →
      failed.disk.file? (temporary.place world.disk.workingDirectory) = none ∨
        failed.disk.Leads temporary (temporary.place world.disk.workingDirectory) →
      ((Storage.remove temporary : StateM World _) failed).2.disk.file?
        (temporary.place world.disk.workingDirectory) = none := by
    rintro failed isFailed (stillFree | leads)
    · exact World.file?_eq_none_of_remove rfl stillFree
    · exact World.file?_of_remove_regular (isRegular failed isFailed) rfl leads
  cases replacing_of_replace replaced with
  | unwritten isWritten =>
      refine removed _ ?_ (World.leads_of_write isTree isFree rfl isWritten)
      rw [writeThrough, World.run_bind, isWritten]
      rfl
  | unmoved isWritten isMoved =>
      refine removed _ ?_ ?_
      · rw [writeThrough, World.run_bind, isWritten]
        exact isMoved
      · rw [World.disk_of_rename_error isMoved]
        exact World.leads_of_write isTree isFree rfl isWritten

/-- Replacing that succeeds leaves the bytes at the path, which is not the temporary one. -/
theorem store_of_replace_ok
    {path : Path}
    {mark : Text}
    {bytes : Bytes}
    (isTree : world.disk.IsTree)
    (markWhole : '/' ∉ mark)
    (replaced :
      (replace (temporaryPath path mark) path bytes : StateM World (Except FileFault Unit)) world =
        (.ok (), after)) :
    after.disk.read path = .ok bytes ∧
      path.place world.disk.workingDirectory ≠
        (temporaryPath path mark).place world.disk.workingDirectory := by
  cases replacing_of_replace replaced with
  | @complete written _ isWritten isMoved =>
      have wrote := World.of_write_ok isWritten
      have renamed := World.of_rename_ok isMoved
      have sameStart := (Disk.Keeps.of_write wrote).workingDirectory
      have isTreeWritten := isTree.of_write wrote
      obtain ⟨temporary, leadsTemporary, -, noDirectory, -⟩ := Disk.put_of_write wrote
      obtain ⟨_, _, store, -, -, leads, -⟩ := Disk.put_of_rename renamed
      have stands := isTreeWritten.stands_startOf leads
      have standsTemporary := isTree.stands_startOf leadsTemporary
      refine ⟨?_, ?_⟩
      · rw [(leads.of_keeps stands (.of_rename renamed)).read_eq_ok, leads.eq_place, sameStart,
          file?_of_replace_ok replaced, if_pos rfl]
      · rw [← sameStart, ← leads.eq_place, sameStart, ← leadsTemporary.eq_place]
        exact ne_temporaryPlace leads markWhole standsTemporary leadsTemporary noDirectory

/-! ## Saving -/

/-- The place of the temporary file. -/
def temporaryPlace (registry : Registry) (world : World) : Location :=
  (temporaryPath registry.path "tmp".toList).place world.disk.workingDirectory

/-- The world in which saving that fails removes its temporary file, if it comes to that. -/
def cleaning?
    (serialize : Registry → Except FileFault Bytes)
    (registry : Registry)
    (world : World) :
    Option World :=
  match (makeParent registry.path : StateM World (Except FileFault Unit)) world,
      serialize registry with
  | (.ok (), prepared), .ok bytes =>
      match (writeThrough (temporaryPath registry.path "tmp".toList) registry.path bytes :
          StateM World (Except FileFault Unit)) prepared with
      | (.error _, failed) => some failed
      | (.ok (), _) => none
  | _, _ => none

/-- Saving removes its temporary file in the world that the failed write or move leaves. -/
private theorem cleaning?_of_writeThrough
    {serialize : Registry → Except FileFault Bytes}
    {registry : Registry}
    {bytes : Bytes}
    {fault : FileFault}
    {prepared failed : World}
    (isPrepared :
      (makeParent registry.path : StateM World (Except FileFault Unit)) world =
        (.ok (), prepared))
    (isSerialized : serialize registry = .ok bytes)
    (isFailed :
      (writeThrough (temporaryPath registry.path "tmp".toList) registry.path bytes :
          StateM World (Except FileFault Unit)) prepared =
        (.error fault, failed)) :
    cleaning? serialize registry world = some failed := by
  unfold cleaning?
  rw [isPrepared, isSerialized]
  dsimp only
  rw [isFailed]

/-- Whether the removal of the temporary file is refused, if saving comes to it. -/
def refusesRemoval
    (serialize : Registry → Except FileFault Bytes)
    (registry : Registry)
    (world : World) :
    Bool :=
  (cleaning? serialize registry world).any (·.next?.isSome)

/-- A removal that is not refused is not interrupted. -/
theorem next?_eq_none_of_cleaning?
    {serialize : Registry → Except FileFault Bytes}
    {registry : Registry}
    {failed : World}
    (notRefused : refusesRemoval serialize registry world = false)
    (isCleaning : cleaning? serialize registry world = some failed) :
    failed.next? = none := by
  rw [refusesRemoval, isCleaning] at notRefused
  simpa using notRefused

/-- The ways in which saving can go. -/
inductive Saving
    (serialize : Registry → Except FileFault Bytes)
    (registry : Registry)
    (world : World) :
    Except FileFault Unit → World → Prop where
  /-- The directory of the store is not made. -/
  | unprepared
      {fault : FileFault}
      {prepared : World}
      (isPrepared :
        (makeParent registry.path : StateM World (Except FileFault Unit)) world =
          (.error fault, prepared)) :
      Saving serialize registry world (.error fault) prepared
  /-- The registry is not serialized. -/
  | refused
      {fault : FileFault}
      {prepared : World}
      (isPrepared :
        (makeParent registry.path : StateM World (Except FileFault Unit)) world =
          (.ok (), prepared))
      (isRefused : serialize registry = .error fault) :
      Saving serialize registry world (.error fault) prepared
  /-- The store is replaced, or it is tried. -/
  | replaced
      {bytes : Bytes}
      {result : Except FileFault Unit}
      {prepared after : World}
      (isPrepared :
        (makeParent registry.path : StateM World (Except FileFault Unit)) world =
          (.ok (), prepared))
      (isSerialized : serialize registry = .ok bytes)
      (isReplaced :
        (replace (temporaryPath registry.path "tmp".toList) registry.path bytes :
          StateM World (Except FileFault Unit)) prepared = (result, after)) :
      Saving serialize registry world result after

/-- Saving goes in one of the ways. -/
theorem saving_of_saveWith
    {serialize : Registry → Except FileFault Bytes}
    {registry : Registry}
    {result : Except FileFault Unit}
    (saved :
      (registry.saveWith serialize : StateM World (Except FileFault Unit)) world =
        (result, after)) :
    Saving serialize registry world result after := by
  rw [run_saveWith] at saved
  rcases isPrepared : (makeParent registry.path : StateM World (Except FileFault Unit)) world with
    ⟨_ | _, prepared⟩
  · rw [isPrepared] at saved
    obtain ⟨rfl, rfl⟩ := Prod.mk.inj saved
    exact .unprepared isPrepared
  · rw [isPrepared] at saved
    cases isSerialized : serialize registry with
    | error fault =>
        rw [isSerialized] at saved
        obtain ⟨rfl, rfl⟩ := Prod.mk.inj saved
        exact .refused isPrepared isSerialized
    | ok bytes =>
        rw [isSerialized] at saved
        exact .replaced isPrepared isSerialized saved

/-- Making the directory of a store keeps a disk a tree. -/
theorem isTree_of_makeParent
    {path : Path}
    {result : Except FileFault Unit}
    (isTree : world.disk.IsTree)
    (made : (makeParent path : StateM World (Except FileFault Unit)) world = (result, after)) :
    after.disk.IsTree := by
  obtain ⟨rfl, -⟩ | ⟨parent, -, isMade⟩ := makeDirectories_of_makeParent made
  · exact isTree
  · exact World.isTree_of_makeDirectories isTree isMade

/-- Making the directory of the store does not change where the temporary file is put. -/
theorem temporaryPlace_of_makeParent
    {registry : Registry}
    {result : Except FileFault Unit}
    (made :
      (makeParent registry.path : StateM World (Except FileFault Unit)) world = (result, after)) :
    registry.temporaryPlace after = registry.temporaryPlace world := by
  rw [temporaryPlace, (keeps_of_makeParent made).workingDirectory, temporaryPlace]

namespace Saving

variable
  {serialize : Registry → Except FileFault Bytes}
  {registry : Registry}
  {result : Except FileFault Unit}

/-- Saving keeps a disk a tree, whether it succeeds or fails. -/
theorem isTree
    (saving : Saving serialize registry world result after)
    (isTree : world.disk.IsTree) :
    after.disk.IsTree := by
  cases saving with
  | unprepared isPrepared =>
      exact isTree_of_makeParent isTree isPrepared
  | refused isPrepared _ =>
      exact isTree_of_makeParent isTree isPrepared
  | replaced isPrepared _ isReplaced =>
      exact isTree_of_replace (isTree_of_makeParent isTree isPrepared) isReplaced

/-- Saving keeps the directories. -/
theorem keeps
    (saving : Saving serialize registry world result after) :
    world.disk.Keeps after.disk := by
  cases saving with
  | unprepared isPrepared =>
      exact keeps_of_makeParent isPrepared
  | refused isPrepared _ =>
      exact keeps_of_makeParent isPrepared
  | replaced isPrepared _ isReplaced =>
      exact (keeps_of_makeParent isPrepared).trans (keeps_of_replace isReplaced)

/-- Saving that fails changes no file elsewhere than at the temporary place. -/
theorem elsewhere_of_error
    {fault : FileFault}
    {location : Location}
    (saving : Saving serialize registry world (.error fault) after)
    (isTree : world.disk.IsTree)
    (notTemporary : location ≠ registry.temporaryPlace world) :
    after.disk.file? location = world.disk.file? location := by
  cases saving with
  | unprepared isPrepared =>
      exact file?_of_makeParent isPrepared location
  | refused isPrepared _ =>
      exact file?_of_makeParent isPrepared location
  | replaced isPrepared _ isReplaced =>
      rw [← temporaryPlace_of_makeParent isPrepared] at notTemporary
      have notReplaced := elsewhere_of_replace_error (isTree_of_makeParent isTree isPrepared)
        isReplaced notTemporary
      exact notReplaced.trans (file?_of_makeParent isPrepared location)

/-- Saving that fails leaves no temporary file unless its removal is refused. -/
theorem temporary_of_error
    {fault : FileFault}
    (saving : Saving serialize registry world (.error fault) after)
    (isTree : world.disk.IsTree)
    (isFree : world.disk.file? (registry.temporaryPlace world) = none)
    (notRefused : refusesRemoval serialize registry world = false) :
    after.disk.file? (registry.temporaryPlace world) = none := by
  cases saving with
  | unprepared isPrepared =>
      rw [file?_of_makeParent isPrepared, isFree]
  | refused isPrepared _ =>
      rw [file?_of_makeParent isPrepared, isFree]
  | @replaced bytes _ prepared _ isPrepared isSerialized isReplaced =>
      rw [← file?_of_makeParent isPrepared, ← temporaryPlace_of_makeParent isPrepared] at isFree
      rw [← temporaryPlace_of_makeParent isPrepared]
      refine temporary_of_replace_error (isTree_of_makeParent isTree isPrepared) isFree
        isReplaced ?_
      intro failed isFailed
      exact next?_eq_none_of_cleaning? notRefused
        (cleaning?_of_writeThrough isPrepared isSerialized isFailed)

/-- A file that is read before saving that fails is read as it was afterwards. -/
theorem read_of_error
    {fault : FileFault}
    {path : Path}
    {content : Bytes}
    (saving : Saving serialize registry world (.error fault) after)
    (isTree : world.disk.IsTree)
    (isFree : world.disk.file? (registry.temporaryPlace world) = none)
    (isRead : world.disk.read path = .ok content) :
    after.disk.read path = .ok content := by
  obtain ⟨location, leads, holds⟩ := Disk.read_eq_ok.mp isRead
  have isFile := Disk.file?_eq_some.mpr holds
  have notTemporary : location ≠ registry.temporaryPlace world := by
    rintro rfl
    rw [isFree] at isFile
    contradiction
  have leadsAfter := leads.of_keeps (isTree.stands_startOf leads) saving.keeps
  rw [leadsAfter.read_eq_ok, saving.elsewhere_of_error isTree notTemporary, isFile]

/-- Saving that succeeds leaves the serialized registry at its path and nothing else anew. -/
theorem of_ok
    (saving : Saving serialize registry world (.ok ()) after)
    (isTree : world.disk.IsTree)
    (isFree : world.disk.file? (registry.temporaryPlace world) = none) :
    ∃ bytes, serialize registry = .ok bytes ∧ after.disk.read registry.path = .ok bytes ∧
      after.disk.file? (registry.temporaryPlace world) = none ∧
        ∀ location, location ≠ registry.path.place world.disk.workingDirectory →
          after.disk.file? location = world.disk.file? location := by
  cases saving with
  | @replaced bytes _ prepared _ isPrepared isSerialized isReplaced =>
      have sameStart := (keeps_of_makeParent isPrepared).workingDirectory
      have isTreePrepared := isTree_of_makeParent isTree isPrepared
      obtain ⟨isRead, different⟩ := store_of_replace_ok isTreePrepared (by decide) isReplaced
      rw [sameStart] at different
      have isRemoved : after.disk.file? (registry.temporaryPlace world) = none := by
        rw [temporaryPlace, file?_of_replace_ok isReplaced, sameStart, if_neg different.symm,
          if_pos List.prefix_rfl]
      refine ⟨bytes, isSerialized, isRead, isRemoved, ?_⟩
      intro location notStore
      by_cases isTemporary : location = registry.temporaryPlace world
      · rw [isTemporary, isRemoved, isFree]
      · rw [← sameStart] at notStore
        rw [← temporaryPlace_of_makeParent isPrepared] at isTemporary
        rw [elsewhere_of_replace_ok isTreePrepared isReplaced notStore isTemporary,
          file?_of_makeParent isPrepared]

end Saving

/--
Saving is all or nothing. If it fails, whether the directory of the store is not made, the registry
not serialized, the temporary file not written or not moved, every file has the bytes that it had,
in particular the store, and no file is new but the temporary one, and this one only where its
removal is refused as well. If it succeeds, what is read at the path is the serialized registry, its
temporary file is gone and every other file is as before.
-/
theorem allOrNothing_saveWith
    {serialize : Registry → Except FileFault Bytes}
    {registry : Registry}
    {result : Except FileFault Unit}
    (isTree : world.disk.IsTree)
    (isFree : world.disk.file? (registry.temporaryPlace world) = none)
    (saved :
      (registry.saveWith serialize : StateM World (Except FileFault Unit)) world =
        (result, after)) :
    (∀ fault, result = .error fault →
      (∀ location content, world.disk.file? location = some content →
        after.disk.file? location = some content) ∧
      (∀ content, world.disk.read registry.path = .ok content →
        after.disk.read registry.path = .ok content) ∧
      (∀ location, after.disk.file? location ≠ world.disk.file? location →
        location = registry.temporaryPlace world ∧
          refusesRemoval serialize registry world = true)) ∧
    (result = .ok () →
      ∃ bytes, serialize registry = .ok bytes ∧ after.disk.read registry.path = .ok bytes ∧
        after.disk.file? (registry.temporaryPlace world) = none ∧
          ∀ location, location ≠ registry.path.place world.disk.workingDirectory →
            after.disk.file? location = world.disk.file? location) := by
  have saving := saving_of_saveWith saved
  refine ⟨?ofError, ?ofOk⟩
  case ofError =>
    rintro fault rfl
    refine ⟨?_, fun content => saving.read_of_error isTree isFree, ?_⟩
    · intro location content isFile
      have notTemporary : location ≠ registry.temporaryPlace world := by
        rintro rfl
        rw [isFree] at isFile
        contradiction
      rw [saving.elsewhere_of_error isTree notTemporary, isFile]
    · intro location isNew
      by_cases isTemporary : location = registry.temporaryPlace world
      · refine ⟨isTemporary, ?_⟩
        by_contra notRefused
        rw [Bool.not_eq_true] at notRefused
        apply isNew
        rw [isTemporary, saving.temporary_of_error isTree isFree notRefused, isFree]
      · exact absurd (saving.elsewhere_of_error isTree isTemporary) isNew
  case ofOk =>
    rintro rfl
    exact saving.of_ok isTree isFree

/-- A write that stops in the middle: the store keeps its byte and the temporary file is gone. -/
def interrupted : World :=
  ⟨⟨[], [(["registry.json".toList], .file [7])]⟩, [some ⟨.other "full".toList, some 3⟩]⟩

/-- The write of the temporary file stops in the middle, and no file has changed. -/
theorem allOrNothing_save_interrupted :
    ∃ after : World,
      (unusual.save : StateM World (Except FileFault Unit)) interrupted =
        (.error (.other "full".toList), after) ∧
      ∀ location, after.disk.file? location = interrupted.disk.file? location := by
  have isTree : interrupted.disk.IsTree := Disk.isTree_of_nodes (by decide)
  have fails :
      ((unusual.save : StateM World (Except FileFault Unit)) interrupted).1 =
        .error (.other "full".toList) := by
    decide
  have notRefused :
      refusesRemoval (fun registry => .ok registry.toBytes) unusual interrupted = false := by
    decide
  rcases isSaved :
      (unusual.save : StateM World (Except FileFault Unit)) interrupted with ⟨result, after⟩
  rw [isSaved] at fails
  obtain rfl : result = .error (.other "full".toList) := fails
  have isFree : interrupted.disk.file? (unusual.temporaryPlace interrupted) = none := by
    decide
  have onlyTemporary := ((allOrNothing_saveWith isTree isFree isSaved).1 _ rfl).2.2
  refine ⟨after, rfl, fun location => ?_⟩
  by_contra isNew
  rw [(onlyTemporary location isNew).2] at notRefused
  contradiction

/-- The temporary file is written, then neither moving nor removing it is allowed. -/
def withdrawn : World :=
  ⟨⟨[], [(["registry.json".toList], .file [7])]⟩,
    [none, some ⟨.other "refused".toList, none⟩, some ⟨.other "refused".toList, none⟩]⟩

/-- A temporary file that an earlier process left behind stands beside the place of the store. -/
def littered : World :=
  ⟨⟨[], [(["registry.json.tmp-1-1".toList], .file [7])]⟩, []⟩

/--
Saving that fails leaves its temporary file where this cannot be removed, and saving that succeeds
leaves the temporary file of another process.
-/
theorem exists_temporary_left :
    (∃ after : World,
      (unusual.save : StateM World (Except FileFault Unit)) withdrawn =
        (.error (.other "refused".toList), after) ∧
      withdrawn.disk.file? (unusual.temporaryPlace withdrawn) = none ∧
      after.disk.file? (unusual.temporaryPlace withdrawn) ≠ none) ∧
    ∃ after : World,
      (unusual.save : StateM World (Except FileFault Unit)) littered = (.ok (), after) ∧
      littered.disk.file? (unusual.temporaryPlace littered) = none ∧
      after.disk.file? ["registry.json.tmp-1-1".toList] = some [7] :=
  ⟨⟨_, Prod.ext (by decide) rfl, by decide, by decide⟩,
    ⟨_, Prod.ext (by decide) rfl, by decide, by decide⟩⟩

end Registry

end ComponentPages
