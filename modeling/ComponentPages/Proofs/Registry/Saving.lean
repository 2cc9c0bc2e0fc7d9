import ComponentPages.Proofs.Registry.Store
import ComponentPages.Proofs.Storage.Places

namespace ComponentPages

/-!
# What saving touches

A registry is written to a temporary file first. Its path never leads to the place of the store, so
whichever step of saving fails, the store keeps the bytes that it had. Saving that succeeds leaves
the bytes of the registry at the place of the store and nothing at that of the temporary file, and
no other file is touched in any case.
-/

namespace Registry

variable {world after : World}

/-- The temporary file is not at the place of the store. -/
theorem ne_temporaryPlace
    {disk other : Disk}
    {path : Path}
    {mark : Text}
    {location place : Location}
    (leads : disk.Leads path location)
    (markWhole : '/' ∉ mark)
    (stands : other.Stands (other.startOf (temporaryPath path mark)))
    (leadsTemporary : other.Leads (temporaryPath path mark) place)
    (noDirectory : other.node? place ≠ some .directory) :
    location ≠ place := by
  cases named : path.fileName? with
  | none =>
      -- Without a file name the temporary path is the path itself, which names a directory.
      have samePath : temporaryPath path mark = path := by
        simp [temporaryPath, Path.withExtension, Path.fileStem?, named]
      rw [samePath] at leadsTemporary stands
      exact absurd (leadsTemporary.isDirectory_of_unnamed stands named) noDirectory
  | some name =>
      have extensionWhole : '/' ∉ "json.tmp-".toList ++ mark := by
        simp [markWhole]
      have temporaryNamed := Path.fileName?_withExtension named (by simp) extensionWhole
      rintro rfl
      have sameName :=
        (leads.getLast?_eq named).symm.trans (leadsTemporary.getLast?_eq temporaryNamed)
      exact Path.ne_stem_append (by simp) name (Option.some.inj sameName)

/-- Replacing that fails touches no file but the temporary one. -/
theorem file?_of_replace_error
    {temporary path : Path}
    {bytes : Bytes}
    {fault : FileFault}
    {location : Location}
    (replaced :
      (replace temporary path bytes : StateM World (Except FileFault Unit)) world =
        (.error fault, after))
    (different : ∀ disk place, world.disk.Keeps disk → disk.Leads temporary place →
      disk.node? place ≠ some .directory → location ≠ place)
    (stands : after.disk.Stands location.dropLast) :
    after.disk.file? location = world.disk.file? location := by
  have wrote : ∀ {result written},
      (Storage.write temporary bytes : StateM World _) world = (result, written) →
        written.disk.file? location = world.disk.file? location := by
    intro result written isWritten
    exact World.file?_of_write isWritten fun place => different _ place (.refl _)
  cases replacing_of_replace replaced with
  | unwritten isWritten =>
      have keeps := World.keeps_of_write isWritten
      have removed := World.file?_of_remove rfl (fun place => different _ place keeps) stands
      exact removed.trans (wrote isWritten)
  | unmoved isWritten isMoved =>
      have keeps := (World.keeps_of_write isWritten).trans (World.keeps_of_rename isMoved)
      have removed := World.file?_of_remove rfl (fun place => different _ place keeps) stands
      have notMoved := World.disk_of_rename_error isMoved
      exact removed.trans ((congrArg (·.file? location) notMoved).trans (wrote isWritten))

/-- Replacing that succeeds leaves the bytes at the one place and nothing at the temporary one. -/
theorem file?_of_replace_ok
    {temporary path : Path}
    {bytes : Bytes}
    (replaced :
      (replace temporary path bytes : StateM World (Except FileFault Unit)) world =
        (.ok (), after))
    (location : Location) :
    after.disk.file? location =
      if location = path.place world.disk.workingDirectory then some bytes
      else if temporary.place world.disk.workingDirectory <+: location then none
      else world.disk.file? location := by
  cases replacing_of_replace replaced with
  | @complete written _ isWritten isMoved =>
      have wrote := World.of_write_ok isWritten
      have sameStart := (Disk.Keeps.of_write wrote).workingDirectory
      have holds :
          written.disk.file? (temporary.place written.disk.workingDirectory) = some bytes := by
        rw [Disk.file?_of_write_ok wrote, sameStart, if_pos rfl]
      rw [Disk.file?_of_rename_ok holds (World.of_rename_ok isMoved), sameStart]
      by_cases inside : temporary.place world.disk.workingDirectory <+: location
      · rw [if_pos inside, if_pos inside]
      · have different : location ≠ temporary.place world.disk.workingDirectory := by
          rintro rfl
          exact inside List.prefix_rfl
        rw [if_neg inside, if_neg inside, Disk.file?_of_write_ok wrote, if_neg different]

/-- Replacing touches no file but the two at the places of the paths. -/
theorem file?_of_replace
    {temporary path : Path}
    {bytes : Bytes}
    {result : Except FileFault Unit}
    {location : Location}
    (replaced :
      (replace temporary path bytes : StateM World (Except FileFault Unit)) world =
        (result, after))
    (stands : world.disk.Stands location.dropLast)
    (notStore : location ≠ path.place world.disk.workingDirectory)
    (notTemporary : location ≠ temporary.place world.disk.workingDirectory) :
    after.disk.file? location = world.disk.file? location := by
  rcases result with fault | _
  · refine file?_of_replace_error replaced ?_ ((keeps_of_replace replaced).stands _ stands)
    rintro disk place keeps leads -
    rw [leads.eq_place, keeps.workingDirectory]
    exact notTemporary
  · have outside : ¬temporary.place world.disk.workingDirectory <+: location := by
      intro inside
      -- A file was written at the temporary place, so no directory below it stands.
      cases replacing_of_replace replaced with
      | complete isWritten _ =>
          obtain ⟨place, leads, -, noDirectory, -⟩ :=
            Disk.put_of_write (World.of_write_ok isWritten)
          rw [← leads.eq_place] at inside notTemporary
          exact noDirectory (stands place (Disk.prefix_dropLast_of_ne inside notTemporary))
    rw [file?_of_replace_ok replaced, if_neg notStore, if_neg outside]

/-- Making the directory of a store touches no file. -/
theorem file?_of_makeParent
    {path : Path}
    {result : Except FileFault Unit}
    (made : (makeParent path : StateM World (Except FileFault Unit)) world = (result, after))
    (location : Location) :
    after.disk.file? location = world.disk.file? location := by
  obtain ⟨rfl, -⟩ | ⟨parent, -, isMade⟩ := makeDirectories_of_makeParent made
  · rfl
  · exact World.file?_of_makeDirectories isMade location

/-- A store that could not be saved has the bytes that it had. -/
theorem file?_of_save_error
    {registry : Registry}
    {fault : FileFault}
    {location : Location}
    (isOpen : world.disk.IsOpen)
    (saved : (registry.save : StateM World (Except FileFault Unit)) world = (.error fault, after))
    (leads : after.disk.Leads registry.path location) :
    after.disk.file? location = world.disk.file? location := by
  have stands := leads.stands_dropLast
    (((keeps_of_save saved).isOpen isOpen).stands_startOf registry.path)
  obtain ⟨fault, -, notMade⟩ | ⟨prepared, isMade, isReplaced⟩ := replace_of_save saved
  · exact file?_of_makeParent notMade location
  · have stillOpen := (keeps_of_makeParent isMade).isOpen isOpen
    have notReplaced := file?_of_replace_error isReplaced
      (fun _ _ keeps =>
        ne_temporaryPlace leads (by decide) ((keeps.isOpen stillOpen).stands_startOf _)) stands
    exact notReplaced.trans (file?_of_makeParent isMade location)

/-- A registry that was saved is at the place of the store, and nothing at the temporary place. -/
theorem file?_of_save_ok
    {registry : Registry}
    (saved : (registry.save : StateM World (Except FileFault Unit)) world = (.ok (), after))
    (location : Location) :
    after.disk.file? location =
      if location = registry.path.place world.disk.workingDirectory then some registry.toBytes
      else if (temporaryPath registry.path "tmp".toList).place world.disk.workingDirectory <+:
          location then none
      else world.disk.file? location := by
  obtain ⟨prepared, isMade, isReplaced⟩ := replace_of_save_ok saved
  rw [file?_of_replace_ok isReplaced, (keeps_of_makeParent isMade).workingDirectory,
    file?_of_makeParent isMade]

/-- Saving touches no file but the store and the temporary file. -/
theorem file?_of_save
    {registry : Registry}
    {result : Except FileFault Unit}
    {location : Location}
    (saved : (registry.save : StateM World (Except FileFault Unit)) world = (result, after))
    (stands : world.disk.Stands location.dropLast)
    (notStore : location ≠ registry.path.place world.disk.workingDirectory)
    (notTemporary :
      location ≠
        (temporaryPath registry.path "tmp".toList).place world.disk.workingDirectory) :
    after.disk.file? location = world.disk.file? location := by
  obtain ⟨fault, -, notMade⟩ | ⟨prepared, isMade, isReplaced⟩ := replace_of_save saved
  · exact file?_of_makeParent notMade location
  · have keeps := keeps_of_makeParent isMade
    rw [← keeps.workingDirectory] at notStore notTemporary
    have notReplaced :=
      file?_of_replace isReplaced (keeps.stands _ stands) notStore notTemporary
    exact notReplaced.trans (file?_of_makeParent isMade location)

end Registry

end ComponentPages
