import ComponentPages.Proofs.Storage.Files

namespace ComponentPages

/-!
# The places of paths

Where a path leads can be told from the path alone: its names are taken one after another, and a
double dot takes the last one back. Whether it leads there at all depends on the directories. With
this, what an operation that succeeds does to files is said place by place, and two paths touch the
same file exactly if they have the same place.
-/

namespace Path

/-- The place one name further on. -/
def placeBehind (location : Location) (name : Text) : Location :=
  if name = ['.', '.'] then location.dropLast else location ++ [name]

/-- The place to which a path leads, if it leads anywhere, when relative paths start at a place. -/
def place (start : Location) (path : Path) : Location :=
  path.countedPieces.foldl placeBehind (if path.isAbsolute then [] else start)

/-- A name behind a directory has its place right below the directory's. -/
theorem place_file
    {name : Text}
    (isCounted : counts name = true)
    (noDots : name ≠ ['.', '.'])
    (isWhole : '/' ∉ name)
    (start : Location)
    (directory : Path) :
    (directory.file name).place start = directory.place start ++ [name] := by
  rw [place, countedPieces_file isCounted isWhole, isAbsolute_file isWhole, List.foldl_append]
  exact if_neg noDots

end Path

namespace Disk

variable {disk before after : Disk} {location : Location}

/-- Names are followed to their place. -/
theorem eq_foldl_of_follow
    {start : Location}
    {names : List Text}
    (followed : disk.follow start names = .ok location) :
    location = (names.filter Path.counts).foldl Path.placeBehind start := by
  induction names using List.reverseRecOn generalizing location with
  | nil =>
      exact (Except.ok.inj followed).symm
  | append_singleton earlier last inductionHypothesis =>
      obtain ⟨directory, followedEarlier, entered⟩ := follow_concat.mp followed
      have isEarlier := inductionHypothesis followedEarlier
      rw [List.filter_append, List.foldl_append, ← isEarlier]
      by_cases isCounted : Path.counts last = true
      · have isName : last ≠ [] ∧ last ≠ ['.'] := by
          simpa [Path.counts] using isCounted
        rw [List.filter_cons_of_pos isCounted]
        by_cases isUp : last = ['.', '.']
        · subst isUp
          exact eq_dropLast_of_enter entered
        · rw [enter_below ⟨isName.1, isName.2, isUp⟩ entered]
          exact (if_neg isUp).symm
      · have isUncounted : Path.counts last = false := by
          simpa using isCounted
        rw [List.filter_cons_of_neg isCounted, eq_of_enter isUncounted entered]
        rfl

/-- A path leads to its place or nowhere. -/
theorem Leads.eq_place
    {path : Path}
    (leads : disk.Leads path location) :
    location = path.place disk.workingDirectory := by
  obtain ⟨names, areNames, followed⟩ := leads
  rw [eq_foldl_of_follow followed, eq_pieces_of_namesOf areNames]
  rfl

/-! ## Operations that succeed -/

private theorem file?_put_self
    (below : location ≠ [])
    (content : Bytes) :
    (disk.put location (.file content)).file? location = some content := by
  rw [file?, node?_put_self below]

/-- Writing replaces the file at the place of the path and touches no other. -/
theorem file?_of_write_ok
    {path : Path}
    {content : Bytes}
    (written : before.write path content = .ok after)
    (location : Location) :
    after.file? location =
      if location = path.place before.workingDirectory then some content
      else before.file? location := by
  obtain ⟨place, leads, below, _, rfl⟩ := put_of_write written
  rw [← leads.eq_place]
  by_cases same : location = place
  · rw [if_pos same, same, file?_put_self below]
  · rw [if_neg same, file?_put_of_ne same]

/-- Moving takes away what is at or below the one place and replaces the file at the other. -/
theorem file?_of_rename_ok
    {source goal : Path}
    {content : Bytes}
    (holds : before.file? (source.place before.workingDirectory) = some content)
    (renamed : before.rename source goal = .ok after)
    (location : Location) :
    after.file? location =
      if location = goal.place before.workingDirectory then some content
      else if source.place before.workingDirectory <+: location then none
      else before.file? location := by
  obtain ⟨place, moved, target, leadsSource, holdsMoved, leadsGoal, below, _, rfl⟩ :=
    put_of_rename renamed
  rw [← leadsSource.eq_place] at holds ⊢
  rw [← leadsGoal.eq_place]
  obtain rfl : moved = content := by
    simpa [file?, holdsMoved] using holds
  have placeBelow : place ≠ [] := by
    rintro rfl
    simp [node?] at holdsMoved
  by_cases same : location = target
  · rw [if_pos same, same, file?_put_self below]
  · rw [if_neg same, file?_put_of_ne same, file?, node?_erase placeBelow]
    by_cases inside : place <+: location
    · rw [if_pos inside, if_pos (List.isPrefixOf_iff_prefix.mpr inside)]
    · rw [if_neg inside, if_neg (mt List.isPrefixOf_iff_prefix.mp inside), file?]

/-- The file at a place is read at a path that leads there. -/
theorem Leads.read_eq_ok
    {path : Path}
    {content : Bytes}
    (leads : disk.Leads path location) :
    disk.read path = .ok content ↔ disk.file? location = some content := by
  rw [Disk.read_eq_ok]
  constructor
  · rintro ⟨other, leadsOther, holds⟩
    obtain rfl := leads.unique leadsOther
    exact file?_eq_some.mpr holds
  · intro holds
    exact ⟨location, leads, file?_eq_some.mp holds⟩

end Disk

end ComponentPages
