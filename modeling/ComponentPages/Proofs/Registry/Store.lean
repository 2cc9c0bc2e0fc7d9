import ComponentPages.Registry.Store
import ComponentPages.Proofs.Registry.Stored
import ComponentPages.Proofs.Storage.World

namespace ComponentPages

/-!
# Saving and loading

A registry that was saved is loaded as it was. Saving that succeeds has written the whole store to
the temporary file and moved it to the path of the registry, so what is read there afterwards are
the bytes of the store, and these are read as the entries that they were written for.
-/

namespace Registry

variable {world after : World}

/-! ## Running -/

/-- The ways in which replacing a file can go. -/
inductive Replacing (temporary path : Path) (bytes : Bytes) (world : World) :
    Except FileFault Unit → World → Prop where
  /-- The temporary file is not written. -/
  | unwritten
      {fault : FileFault}
      {written : World}
      (isWritten :
        (Storage.write temporary bytes : StateM World _) world = (.error fault, written)) :
      Replacing temporary path bytes world (.error fault)
        ((Storage.remove temporary : StateM World _) written).2
  /-- The temporary file is written, but not moved. -/
  | unmoved
      {fault : FileFault}
      {written moved : World}
      (isWritten : (Storage.write temporary bytes : StateM World _) world = (.ok (), written))
      (isMoved :
        (Storage.rename temporary path : StateM World _) written = (.error fault, moved)) :
      Replacing temporary path bytes world (.error fault)
        ((Storage.remove temporary : StateM World _) moved).2
  /-- The temporary file is written and moved. -/
  | complete
      {written moved : World}
      (isWritten : (Storage.write temporary bytes : StateM World _) world = (.ok (), written))
      (isMoved : (Storage.rename temporary path : StateM World _) written = (.ok (), moved)) :
      Replacing temporary path bytes world (.ok ()) moved

/-- Replacing a file goes in one of the ways. -/
theorem replacing_of_replace
    {temporary path : Path}
    {bytes : Bytes}
    {result : Except FileFault Unit}
    (replaced :
      (replace temporary path bytes : StateM World (Except FileFault Unit)) world =
        (result, after)) :
    Replacing temporary path bytes world result after := by
  rw [replace, writeThrough, World.run_bind, World.run_bind] at replaced
  rcases isWritten : (Storage.write temporary bytes : StateM World _) world with ⟨_ | _, written⟩
  · rw [isWritten] at replaced
    obtain ⟨rfl, rfl⟩ := Prod.mk.inj replaced
    exact .unwritten isWritten
  · rw [isWritten] at replaced
    dsimp only at replaced
    rcases isMoved : (Storage.rename temporary path : StateM World _) written with ⟨_ | _, moved⟩
    · rw [isMoved] at replaced
      obtain ⟨rfl, rfl⟩ := Prod.mk.inj replaced
      exact .unmoved isWritten isMoved
    · rw [isMoved] at replaced
      obtain ⟨rfl, rfl⟩ := Prod.mk.inj replaced
      exact .complete isWritten isMoved

/-- Saving makes the directory, serializes and replaces the store, and stops at the first fault. -/
theorem run_saveWith
    (serialize : Registry → Except FileFault Bytes)
    (registry : Registry)
    (world : World) :
    (registry.saveWith serialize : StateM World (Except FileFault Unit)) world =
      match (makeParent registry.path : StateM World (Except FileFault Unit)) world with
      | (.error fault, prepared) => (.error fault, prepared)
      | (.ok (), prepared) =>
          match serialize registry with
          | .error fault => (.error fault, prepared)
          | .ok bytes =>
              (replace (temporaryPath registry.path "tmp".toList) registry.path bytes :
                StateM World (Except FileFault Unit)) prepared := by
  unfold saveWith
  rw [World.run_bind]
  rcases (makeParent registry.path : StateM World (Except FileFault Unit)) world with
    ⟨_ | _, prepared⟩
  · rfl
  · dsimp only
    cases serialize registry <;> rfl

/-- Saving makes the directory and replaces the store. -/
theorem run_save
    (registry : Registry)
    (world : World) :
    (registry.save : StateM World (Except FileFault Unit)) world =
      match (makeParent registry.path : StateM World (Except FileFault Unit)) world with
      | (.error fault, prepared) => (.error fault, prepared)
      | (.ok (), prepared) =>
          (replace (temporaryPath registry.path "tmp".toList) registry.path registry.toBytes :
            StateM World (Except FileFault Unit)) prepared := by
  exact run_saveWith (fun registry => .ok registry.toBytes) registry world

/-- Loading a registry from what is read at its path. -/
theorem run_load
    (path : Path)
    (world : World) :
    (load path : StateM World (Except Error Registry)) world =
      match world.disk.read path with
      | .ok bytes => (.ok ⟨path, (ofBytes? bytes).getD .empty⟩, world)
      | .error .notFound => (.ok (.empty path), world)
      | .error fault => (.error (.registryUnreadable path fault), world) := by
  unfold load
  rw [World.run_bind]
  change (match world.disk.read path with
    | .ok bytes => pure (.ok ⟨path, (ofBytes? bytes).getD .empty⟩)
    | .error .notFound => pure (.ok (.empty path))
    | .error fault => pure (.error (.registryUnreadable path fault)) :
      StateM World (Except Error Registry)) world = _
  cases world.disk.read path with
  | ok bytes =>
      rfl
  | error fault =>
      cases fault <;> rfl

/-- Loading a registry leaves the world as it is. -/
theorem run_load_world
    (path : Path)
    (world : World) :
    ((load path : StateM World (Except Error Registry)) world).2 = world := by
  rw [run_load]
  cases world.disk.read path with
  | ok bytes =>
      rfl
  | error fault =>
      cases fault <;> rfl

/-! ## Saving -/

/-- Making the directory of a store leaves the world as it is, or makes the parent of the path. -/
theorem makeDirectories_of_makeParent
    {path : Path}
    {result : Except FileFault Unit}
    (made : (makeParent path : StateM World (Except FileFault Unit)) world = (result, after)) :
    (after = world ∧ ∀ parent, path.parent? = some parent → parent.text.isEmpty) ∨
      ∃ parent,
        path.parent? = some parent ∧
          (Storage.makeDirectories parent : StateM World (Except FileFault Unit)) world =
            (result, after) := by
  unfold makeParent at made
  cases isParent : path.parent? with
  | none =>
      rw [isParent] at made
      exact .inl ⟨(Prod.mk.inj made).2.symm, nofun⟩
  | some parent =>
      rw [isParent] at made
      dsimp only at made
      split at made
      · rename_i isEmpty
        refine .inl ⟨(Prod.mk.inj made).2.symm, ?_⟩
        rintro _ ⟨⟩
        exact isEmpty
      · exact .inr ⟨parent, rfl, made⟩

/-- Making the directory of a store keeps the directories. -/
theorem keeps_of_makeParent
    {path : Path}
    {result : Except FileFault Unit}
    (made : (makeParent path : StateM World (Except FileFault Unit)) world = (result, after)) :
    world.disk.Keeps after.disk := by
  obtain ⟨rfl, -⟩ | ⟨parent, -, isMade⟩ := makeDirectories_of_makeParent made
  · exact .refl _
  · exact World.keeps_of_makeDirectories isMade

/-- Replacing keeps the directories. -/
theorem keeps_of_replace
    {temporary path : Path}
    {bytes : Bytes}
    {result : Except FileFault Unit}
    (replaced :
      (replace temporary path bytes : StateM World (Except FileFault Unit)) world =
        (result, after)) :
    world.disk.Keeps after.disk := by
  cases replacing_of_replace replaced with
  | unwritten isWritten =>
      exact (World.keeps_of_write isWritten).trans (World.keeps_of_remove rfl)
  | unmoved isWritten isMoved =>
      exact (World.keeps_of_write isWritten).trans
        ((World.keeps_of_rename isMoved).trans (World.keeps_of_remove rfl))
  | complete isWritten isMoved =>
      exact (World.keeps_of_write isWritten).trans (World.keeps_of_rename isMoved)

/-- Saving fails where the directory of the store is not made; else the store is replaced. -/
theorem replace_of_save
    {registry : Registry}
    {result : Except FileFault Unit}
    (saved : (registry.save : StateM World (Except FileFault Unit)) world = (result, after)) :
    (∃ fault,
      result = .error fault ∧
        (makeParent registry.path : StateM World (Except FileFault Unit)) world =
          (.error fault, after)) ∨
      ∃ prepared,
        (makeParent registry.path : StateM World (Except FileFault Unit)) world =
            (.ok (), prepared) ∧
          (replace (temporaryPath registry.path "tmp".toList) registry.path registry.toBytes :
            StateM World (Except FileFault Unit)) prepared = (result, after) := by
  rw [run_save] at saved
  rcases isMade : (makeParent registry.path : StateM World (Except FileFault Unit)) world with
    ⟨fault | _, prepared⟩
  · rw [isMade] at saved
    obtain ⟨rfl, rfl⟩ := Prod.mk.inj saved
    exact .inl ⟨fault, rfl, rfl⟩
  · rw [isMade] at saved
    exact .inr ⟨prepared, rfl, saved⟩

/-- Saving that succeeds has made the directory of the store, and replaced the store. -/
theorem replace_of_save_ok
    {registry : Registry}
    (saved : (registry.save : StateM World (Except FileFault Unit)) world = (.ok (), after)) :
    ∃ prepared,
      (makeParent registry.path : StateM World (Except FileFault Unit)) world =
          (.ok (), prepared) ∧
        (replace (temporaryPath registry.path "tmp".toList) registry.path registry.toBytes :
          StateM World (Except FileFault Unit)) prepared = (.ok (), after) := by
  obtain ⟨_, ⟨⟩, _⟩ | isReplaced := replace_of_save saved
  exact isReplaced

/-- Saving a registry keeps the directories. -/
theorem keeps_of_save
    {registry : Registry}
    {result : Except FileFault Unit}
    (saved : (registry.save : StateM World (Except FileFault Unit)) world = (result, after)) :
    world.disk.Keeps after.disk := by
  obtain ⟨fault, -, notMade⟩ | ⟨prepared, isMade, isReplaced⟩ := replace_of_save saved
  · exact keeps_of_makeParent notMade
  · exact (keeps_of_makeParent isMade).trans (keeps_of_replace isReplaced)

/-- What a store was replaced with is read at its path. -/
theorem read_of_replace_ok
    {temporary path : Path}
    {bytes : Bytes}
    (isOpen : world.disk.IsOpen)
    (replaced :
      (replace temporary path bytes : StateM World (Except FileFault Unit)) world =
        (.ok (), after)) :
    after.disk.read path = .ok bytes := by
  cases replacing_of_replace replaced with
  | complete isWritten isMoved =>
      have wrote := World.of_write_ok isWritten
      have stillOpen := (Disk.Keeps.of_write wrote).isOpen isOpen
      exact Disk.read_of_rename (stillOpen.stands_startOf path)
        (Disk.read_of_write (isOpen.stands_startOf temporary) wrote) (World.of_rename_ok isMoved)

/-- The bytes of a registry that was saved are read at its path. -/
theorem read_of_save_ok
    {registry : Registry}
    (isOpen : world.disk.IsOpen)
    (saved : (registry.save : StateM World (Except FileFault Unit)) world = (.ok (), after)) :
    after.disk.read registry.path = .ok registry.toBytes := by
  obtain ⟨prepared, isMade, isReplaced⟩ := replace_of_save_ok saved
  exact read_of_replace_ok ((keeps_of_makeParent isMade).isOpen isOpen) isReplaced

/-! ## Loading -/

/-- A registry that was saved is loaded again if its sizes are machine words. -/
theorem load_of_save_ok
    {registry : Registry}
    (sizesFit : SizesFit registry.entries)
    (isOpen : world.disk.IsOpen)
    (saved : (registry.save : StateM World (Except FileFault Unit)) world = (.ok (), after)) :
    (load registry.path : StateM World (Except Error Registry)) after = (.ok registry, after) := by
  rw [run_load, read_of_save_ok isOpen saved]
  simp [ofBytes?_toBytes sizesFit]

/-- A registry that is loaded has its path, and its sizes are machine words. -/
theorem sizesFit_of_load_ok
    {path : Path}
    {registry : Registry}
    (loaded : (load path : StateM World (Except Error Registry)) world = (.ok registry, after)) :
    registry.path = path ∧ SizesFit registry.entries := by
  rw [run_load] at loaded
  split at loaded
  · rename_i bytes _
    obtain rfl := Except.ok.inj (Prod.mk.inj loaded).1
    refine ⟨rfl, ?_⟩
    cases read : ofBytes? bytes with
    | none =>
        exact SizesFit.empty
    | some entries =>
        exact sizesFit_of_ofBytes? read
  · obtain rfl := Except.ok.inj (Prod.mk.inj loaded).1
    exact ⟨rfl, SizesFit.empty⟩
  · cases loaded

/--
The store of a registry is read as exactly its entries, so that a registry that was saved is loaded
again, and what was loaded from any store is loaded again after it was saved.
-/
theorem load_save :
    (∀ registry : Registry,
      SizesFit registry.entries →
        ofBytes? registry.toBytes = some registry.entries ∧
          ∀ world saved : World,
            world.disk.IsOpen →
            (registry.save : StateM World (Except FileFault Unit)) world = (.ok (), saved) →
              (load registry.path : StateM World (Except Error Registry)) saved =
                (.ok registry, saved)) ∧
      (∀ bytes entries path,
        ofBytes? bytes = some entries →
          ofBytes? (Registry.mk path entries).toBytes = some entries) ∧
      ∀ (path : Path) (first world saved : World) (loaded : Registry),
        ((load path : StateM World (Except Error Registry)) first).1 = .ok loaded →
        world.disk.IsOpen →
        (loaded.save : StateM World (Except FileFault Unit)) world = (.ok (), saved) →
          (load path : StateM World (Except Error Registry)) saved = (.ok loaded, saved) := by
  refine ⟨?ofRegistry, ?ofBytes, ?ofLoaded⟩
  case ofRegistry =>
    intro registry sizesFit
    refine ⟨ofBytes?_toBytes sizesFit, ?_⟩
    intro world saved isOpen isSaved
    exact load_of_save_ok sizesFit isOpen isSaved
  case ofBytes =>
    intro bytes entries path read
    exact ofBytes?_toBytes (sizesFit_of_ofBytes? read)
  case ofLoaded =>
    intro path first world saved loaded isLoaded isOpen isSaved
    obtain ⟨rfl, sizesFit⟩ := sizesFit_of_load_ok (Prod.ext isLoaded rfl)
    exact load_of_save_ok sizesFit isOpen isSaved

/-- A registry with quotes, a backslash, a control character and the largest size. -/
def unusual : Registry where
  path := ⟨"registry.json".toList⟩
  entries := Keyed.empty.insert "\"x\"".toList {
    currentVersion := "1.0.0".toList
    lastModified := "ü".toList
    filePath := ⟨"a\\b.tsx".toList⟩
    documentationVersion := []
    lastDocumentationUpdate := []
    contentHash := "\"".toList
    sizeBytes := Text.wordLimit - 1
    exports := ["\n".toList]
    status := .beta
    history := [⟨"1.0.0".toList, "\u0001".toList, .prerelease, true, false, none⟩]
  }

/-- A registry with an unusual entry is saved on an empty disk and loaded again. -/
theorem load_save_unusual :
    ∃ saved : World,
      (unusual.save : StateM World (Except FileFault Unit)) ⟨.empty [], []⟩ = (.ok (), saved) ∧
      (load unusual.path : StateM World (Except Error Registry)) saved = (.ok unusual, saved) := by
  have sizesFit : SizesFit unusual.entries :=
    SizesFit.empty.insert _ (Nat.sub_lt (by decide) Nat.one_pos)
  have succeeds :
      ((unusual.save : StateM World (Except FileFault Unit)) ⟨.empty [], []⟩).1 = .ok () := by
    decide +kernel
  rcases isSaved :
      (unusual.save : StateM World (Except FileFault Unit)) ⟨.empty [], []⟩ with ⟨result, saved⟩
  rw [isSaved] at succeeds
  obtain rfl : result = .ok () := succeeds
  exact ⟨saved, rfl,
    (load_save.1 unusual sizesFit).2 ⟨.empty [], []⟩ saved Disk.stands_root isSaved⟩

end Registry

end ComponentPages
