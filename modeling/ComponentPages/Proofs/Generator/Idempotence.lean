import ComponentPages.Proofs.Generator.Order
import ComponentPages.Proofs.Registry.Growth
import ComponentPages.Proofs.Registry.SavingAgain

namespace ComponentPages

/-!
# Making a page again

Making the page of a source twice in a row is the same as making it once. The second time the
snapshot is on record already and its page is marked already, so the registry stays as it is, the
page shows the same history, and the same bytes are put at the same places, where nothing has come
in the way.
-/

namespace Registry

variable {registry : Registry} {now : Text} {snapshot : Snapshot}

/-- Marking a component at the same time again has no effect. -/
theorem markDocumented_again
    (registry : Registry)
    (now identity version : Text) :
    let marked := (registry.markDocumented? now identity version).getD registry
    (marked.markDocumented? now identity version).getD marked = marked := by
  intro marked
  refine eq_of_entry? (path_markDocumented marked now identity version) ?_
  intro other
  by_cases same : other = identity
  · rw [same, entry?_markDocumented_self, entry?_markDocumented_self, Option.map_map]
    rfl
  · exact entry?_markDocumented_of_ne same marked now version

/-- A registry in which a snapshot was recorded and its page marked shows the snapshot. -/
theorem shows_documented
    (registry : Registry)
    (now : Text)
    (snapshot : Snapshot) :
    (registry.documented now snapshot).Shows snapshot := by
  have isOther : ¬(Operation.markDocumented now snapshot.identity snapshot.version).Records
      snapshot.identity :=
    id
  exact (Shows.of_upsert registry now snapshot).perform isOther

end Registry

namespace Disk

/-- What is read at a path depends on what stands where. -/
private theorem read_congr
    {before after : Disk}
    (sameStart : after.workingDirectory = before.workingDirectory)
    (sameNodes : ∀ location, after.node? location = before.node? location)
    (path : Path) :
    after.read path = before.read path := by
  have sameEnter : after.enter = before.enter := by
    funext directory name
    rw [enter, sameNodes, enter]
  have sameFollow : after.follow = before.follow := by
    funext start names
    rw [follow, sameEnter, follow]
  have sameStartOf : after.startOf path = before.startOf path := by
    rw [startOf, sameStart, startOf]
  have sameLocate : after.locate path = before.locate path := by
    simp only [locate, sameFollow, sameStartOf, sameNodes]
  rw [read, sameLocate, read]

end Disk

namespace Generator

variable {now source : Text} {generator made : Generator} {world after : World}
variable {snapshot : Snapshot}

/-! ## The registry -/

/-- Recording a snapshot again has no effect once its page is marked. -/
theorem record_again
    (now : Text)
    (generator : Generator)
    (snapshot : Snapshot) :
    ((generator.record now snapshot).mark now snapshot).record now snapshot =
      (generator.record now snapshot).mark now snapshot := by
  have isRecorded := (Registry.shows_documented generator.registry now snapshot).upsert_eq now
  exact congrArg (fun recorded : Registry × Recorded =>
    Generator.mk generator.options recorded.1 generator.template) isRecorded

/-- Marking a page again has no effect. -/
theorem mark_again
    (now : Text)
    (generator : Generator)
    (snapshot : Snapshot) :
    (generator.mark now snapshot).mark now snapshot = generator.mark now snapshot := by
  have isMarked := Registry.markDocumented_again generator.registry now snapshot.identity
    snapshot.version
  exact congrArg (fun marked => Generator.mk generator.options marked generator.template) isMarked

/-! ## The page -/

/-- A page that was written can be written again. -/
theorem places_of_writePage_ok
    {identity page : Text}
    (isTree : world.disk.IsTree)
    (written :
      (generator.writePage identity page : StateM World (Except FileFault Unit)) world =
        (.ok (), after)) :
    ∃ place,
      after.disk.Has generator.options.outputDirectory ∧
      after.disk.writePlace (generator.options.pagePath identity) = .ok place ∧
      after.disk.node? place = some (.file (Utf8.encode page)) ∧
      after.disk.IsTree := by
  obtain ⟨prepared, isMade, isWritten⟩ := write_of_writePage_ok written
  have isTreePrepared := World.isTree_of_makeDirectories isTree isMade
  have wrote := World.of_write_ok isWritten
  have keeps := Disk.Keeps.of_write wrote
  obtain ⟨place, isPlace, isPut⟩ := Disk.write_eq_ok.mp wrote
  obtain ⟨-, below, noDirectory⟩ := Disk.leads_of_writePlace isPlace
  have isThere : after.disk.node? place = some (.file (Utf8.encode page)) := by
    rw [isPut, Disk.node?_put_self below]
  refine ⟨place, ?_, ?_, isThere, isTreePrepared.of_write wrote⟩
  · exact (World.has_of_makeDirectories isTree isMade).of_keeps isTreePrepared keeps
  · exact Disk.writePlace_of_keeps isTreePrepared keeps isPlace (by simp [isThere])

/-- Where nothing is in the way, writing a page that succeeds puts it in its place. -/
theorem disk_of_writePage_ok
    {identity page : Text}
    {place : Location}
    (has : world.disk.Has generator.options.outputDirectory)
    (isPlace : world.disk.writePlace (generator.options.pagePath identity) = .ok place)
    (written :
      (generator.writePage identity page : StateM World (Except FileFault Unit)) world =
        (.ok (), after)) :
    after.disk = world.disk.put place (.file (Utf8.encode page)) := by
  obtain ⟨prepared, isMade, isWritten⟩ := write_of_writePage_ok written
  have regular := World.of_change_ok isMade
  rw [has.makeDirectories] at regular
  obtain ⟨other, isOther, isPut⟩ := Disk.write_eq_ok.mp (World.of_write_ok isWritten)
  rw [← (Prod.mk.inj regular).1] at isOther isPut
  obtain rfl := Except.ok.inj (isOther.symm.trans isPlace)
  exact isPut

/-- Where nothing is in the way, writing a page goes through in a calm world. -/
theorem writePage_of_places
    {identity : Text}
    {place : Location}
    (isCalm : world.IsCalm)
    (has : world.disk.Has generator.options.outputDirectory)
    (isPlace : world.disk.writePlace (generator.options.pagePath identity) = .ok place)
    (page : Text) :
    ∃ after : World,
      (generator.writePage identity page : StateM World (Except FileFault Unit)) world =
          (.ok (), after) ∧
        after.IsCalm := by
  have isCalmPrepared := isCalm.advance world.disk
  have prepared := isCalm.makeDirectories has
  have written := isCalmPrepared.write isPlace (Utf8.encode page)
  have isRun :
      (generator.writePage identity page : StateM World (Except FileFault Unit)) world =
        (Storage.write (generator.options.pagePath identity) (Utf8.encode page) :
          StateM World (Except FileFault Unit)) (world.advance world.disk) := by
    rw [writePage, World.run_bind, prepared]
  exact ⟨_, isRun.trans written, isCalmPrepared.advance _⟩

/-! ## Both -/

/--
Whether the page of a component and the registry of a generator stand on a disk, with nothing in
the way of putting them there again, and putting them there again would leave the disk as it is.
-/
structure Settled
    (generator : Generator)
    (identity page : Text)
    (disk : Disk)
    (place temporary store : Location) : Prop where
  isTree : disk.IsTree
  has : disk.Has generator.options.outputDirectory
  isPlace : disk.writePlace (generator.options.pagePath identity) = .ok place
  takes : Registry.Takes generator.registry.path disk temporary store
  again : ∀ location,
    (Registry.stored (disk.put place (.file (Utf8.encode page))) temporary store
      generator.registry.toBytes).node? location = disk.node? location

namespace Settled

variable
  {identity page : Text}
  {place temporary store : Location}
  (settled : generator.Settled identity page world.disk place temporary store)

include settled

/-- Once the page is written again, nothing is in the way of saving the registry again. -/
theorem takes_written
    {written : World}
    (isWritten :
      (generator.writePage identity page : StateM World (Except FileFault Unit)) world =
        (.ok (), written)) :
    Registry.Takes generator.registry.path written.disk temporary store ∧ written.disk.IsTree := by
  obtain ⟨-, below, noDirectory⟩ := Disk.leads_of_writePlace settled.isPlace
  rw [disk_of_writePage_ok settled.has settled.isPlace isWritten]
  exact ⟨settled.takes.put settled.isTree below noDirectory,
    settled.isTree.put_file settled.isPlace _⟩

/-- If both succeed again, the disk is as before. -/
theorem same_of_ok
    {written : World}
    (isWritten :
      (generator.writePage identity page : StateM World (Except FileFault Unit)) world =
        (.ok (), written))
    (isSaved :
      (generator.registry.save : StateM World (Except FileFault Unit)) written = (.ok (), after)) :
    after.disk.workingDirectory = world.disk.workingDirectory ∧
      ∀ location, after.disk.node? location = world.disk.node? location := by
  obtain ⟨takes, isTree⟩ := settled.takes_written isWritten
  rw [takes.disk_of_save_ok isTree isSaved,
    disk_of_writePage_ok settled.has settled.isPlace isWritten]
  exact ⟨rfl, settled.again⟩

/-- In a calm world both succeed again. -/
theorem exists_of_isCalm
    (isCalm : world.IsCalm) :
    ∃ written after : World,
      (generator.writePage identity page : StateM World (Except FileFault Unit)) world =
          (.ok (), written) ∧
        (generator.registry.save : StateM World (Except FileFault Unit)) written =
          (.ok (), after) := by
  obtain ⟨written, isWritten, isCalmWritten⟩ :=
    writePage_of_places isCalm settled.has settled.isPlace page
  obtain ⟨takes, isTree⟩ := settled.takes_written isWritten
  obtain ⟨after, isSaved⟩ := takes.save isTree isCalmWritten
  exact ⟨written, after, isWritten, isSaved⟩

end Settled

/-- A page that was written and a registry that was saved afterwards are settled. -/
theorem settled_of_ok
    {identity page : Text}
    {written : World}
    (isTree : world.disk.IsTree)
    (isWritten :
      (generator.writePage identity page : StateM World (Except FileFault Unit)) world =
        (.ok (), written))
    (samePlaces : made.options = generator.options)
    (isSaved :
      (made.registry.save : StateM World (Except FileFault Unit)) written = (.ok (), after)) :
    ∃ place temporary store, made.Settled identity page after.disk place temporary store := by
  obtain ⟨place, has, isPlace, isThere, isTreeWritten⟩ := places_of_writePage_ok isTree isWritten
  obtain ⟨prepared, temporary, store, isStored, sameFiles, temporaryBelow, storeBelow, takes⟩ :=
    Registry.takes_of_save_ok isTreeWritten isSaved
  have keeps := Registry.keeps_of_save isSaved
  obtain ⟨-, below, -⟩ := Disk.leads_of_writePlace isPlace
  -- Making the directory of the store leaves the page, so no directory comes in its place.
  have isPrepared : prepared.node? place = some (.file (Utf8.encode page)) := by
    rw [← Disk.file?_eq_some, sameFiles, Disk.file?_eq_some, isThere]
  have noDirectory : after.disk.node? place ≠ some .directory := by
    rw [isStored]
    exact Registry.node?_stored_ne_directory temporaryBelow storeBelow (by simp [isPrepared]) _
  rw [← samePlaces] at has isPlace
  refine ⟨place, temporary, store, ?_⟩
  constructor
  case isTree =>
    exact (Registry.saving_of_saveWith isSaved).isTree isTreeWritten
  case has =>
    exact has.of_keeps isTreeWritten keeps
  case isPlace =>
    exact Disk.writePlace_of_keeps isTreeWritten keeps isPlace noDirectory
  case takes =>
    exact takes
  case again =>
    rw [isStored]
    exact Registry.node?_stored_again temporaryBelow storeBelow below isPrepared _

/-! ## Making the page again -/

/-- A page that was made is settled, and making it again makes the same page and registry. -/
theorem Documenting.settled
    {written : Written}
    (documenting : generator.Documenting now snapshot source world made (.ok written) after)
    (isTree : world.disk.IsTree) :
    (∃ place temporary store,
      made.Settled snapshot.identity (made.pageOf now snapshot source) after.disk place temporary
        store) ∧
      written = ⟨snapshot.identity, made.options.pagePath snapshot.identity⟩ ∧
      made.record now snapshot = made ∧ made.mark now snapshot = made := by
  cases documenting with
  | complete isWritten isSaved =>
      rw [pageOf_mark]
      exact ⟨settled_of_ok isTree isWritten rfl isSaved, rfl,
        record_again now generator snapshot, mark_again now _ snapshot⟩

/-- Making a page again that succeeds changes nothing. -/
theorem Documenting.same_of_again
    {written writtenAgain : Written}
    {madeAgain : Generator}
    {again : World}
    (documenting : generator.Documenting now snapshot source world made (.ok written) after)
    (isTree : world.disk.IsTree)
    (isAgain :
      made.Documenting now snapshot source after madeAgain (.ok writtenAgain) again) :
    madeAgain = made ∧ writtenAgain = written ∧
      again.disk.workingDirectory = after.disk.workingDirectory ∧
        ∀ location, again.disk.node? location = after.disk.node? location := by
  obtain ⟨⟨place, temporary, store, settled⟩, rfl, sameRecord, sameMark⟩ :=
    documenting.settled isTree
  cases isAgain with
  | complete isWritten isSaved =>
      rw [sameRecord] at isWritten isSaved ⊢
      rw [sameMark] at isSaved ⊢
      exact ⟨rfl, rfl, settled.same_of_ok isWritten isSaved⟩

/-- Making a page again succeeds in a calm world. -/
theorem Documenting.exists_again
    {written : Written}
    (documenting : generator.Documenting now snapshot source world made (.ok written) after)
    (isTree : world.disk.IsTree)
    (isCalm : after.IsCalm) :
    ∃ again : World,
      (made.document now snapshot source :
        StateM World (Generator × Except Error Written)) after = ((made, .ok written), again) := by
  obtain ⟨⟨place, temporary, store, settled⟩, rfl, sameRecord, sameMark⟩ :=
    documenting.settled isTree
  obtain ⟨between, again, isWritten, isSaved⟩ := settled.exists_of_isCalm isCalm
  refine ⟨again, ?_⟩
  rw [document, World.run_bind, sameRecord, isWritten]
  dsimp only
  rw [World.run_bind, sameMark, isSaved]
  rfl

/--
Making the page of a source is idempotent. Once it has succeeded, making the page of the same source
again at the same time succeeds unless it is interrupted. When it succeeds, it gives the same result
and leaves the generator with its registry and every directory and file as they were: the registry
has no new history, and the store and all pages are read as the bytes that they were.
-/
theorem generate_again
    {path : Path}
    {result : Option Written}
    (isTree : world.disk.IsTree)
    (generated :
      (generator.generate now source path :
        StateM World (Generator × Except Error (Option Written))) world =
          ((made, .ok result), after)) :
    (∀ madeAgain resultAgain again,
      (made.generate now source path :
        StateM World (Generator × Except Error (Option Written))) after =
          ((madeAgain, .ok resultAgain), again) →
      madeAgain = made ∧ resultAgain = result ∧
        (∀ location, again.disk.node? location = after.disk.node? location) ∧
        ∀ other, again.disk.read other = after.disk.read other) ∧
    (after.IsCalm →
      ∃ again : World,
        (made.generate now source path :
          StateM World (Generator × Except Error (Option Written))) after =
            ((made, .ok result), again)) := by
  cases isSnapshot : Snapshot.ofSource? now source path with
  | none =>
      rw [run_generate, isSnapshot] at generated
      obtain ⟨isMade, rfl⟩ := Prod.mk.inj generated
      obtain ⟨rfl, rfl⟩ : generator = made ∧ none = result := by
        simpa using isMade
      have isRun := run_generate now generator source path world
      rw [isSnapshot] at isRun
      refine ⟨?_, fun _ => ⟨world, isRun⟩⟩
      intro madeAgain resultAgain again isAgain
      rw [isRun] at isAgain
      obtain ⟨isMadeAgain, rfl⟩ := Prod.mk.inj isAgain
      obtain ⟨rfl, rfl⟩ : generator = madeAgain ∧ none = resultAgain := by
        simpa using isMadeAgain
      exact ⟨rfl, rfl, fun _ => rfl, fun _ => rfl⟩
  | some snapshot =>
      obtain ⟨documented, isResult, documenting⟩ := documenting_of_generate isSnapshot generated
      cases documented with
      | error error =>
          cases isResult
      | ok written =>
          obtain rfl : result = some written := Except.ok.inj isResult
          refine ⟨?same, ?succeeds⟩
          case same =>
            intro madeAgain resultAgain again isAgain
            obtain ⟨documentedAgain, isResultAgain, documentingAgain⟩ :=
              documenting_of_generate isSnapshot isAgain
            cases documentedAgain with
            | error error =>
                cases isResultAgain
            | ok writtenAgain =>
                obtain ⟨rfl, rfl, sameStart, sameNodes⟩ :=
                  documenting.same_of_again isTree documentingAgain
                exact ⟨rfl, Except.ok.inj isResultAgain, sameNodes,
                  Disk.read_congr sameStart sameNodes⟩
          case succeeds =>
            intro isCalm
            obtain ⟨again, isMade⟩ := documenting.exists_again isTree isCalm
            refine ⟨again, ?_⟩
            rw [run_generate, isSnapshot]
            dsimp only
            rw [isMade]
            rfl

end Generator

namespace Session.Small

/-- The page of the small project is made twice. -/
theorem generate_again_small :
    ∃ (made : Generator) (result : Option Written) (after again : World),
      result.isSome ∧
      (generator.generate [] latter path :
        StateM World (Generator × Except Error (Option Written))) world =
          ((made, .ok result), after) ∧
      (made.generate [] latter path :
        StateM World (Generator × Except Error (Option Written))) after =
          ((made, .ok result), again) ∧
      ∀ other, again.disk.read other = after.disk.read other := by
  have isTree : world.disk.IsTree := Disk.isTree_of_nodes (by decide)
  have succeeds :
      ((generator.generate [] latter path :
        StateM World (Generator × Except Error (Option Written))) world).1.2.toOption.join.isSome =
          true := by
    decide
  have isCalm :
      ((generator.generate [] latter path :
        StateM World (Generator × Except Error (Option Written))) world).2.schedule = [] := by
    decide
  rcases isRun : (generator.generate [] latter path :
      StateM World (Generator × Except Error (Option Written))) world with ⟨⟨made, result⟩, after⟩
  rw [isRun] at succeeds isCalm
  cases result with
  | error error =>
      contradiction
  | ok result =>
      have isCalmAfter : after.IsCalm := by
        intro planned isPlanned
        rw [isCalm] at isPlanned
        contradiction
      obtain ⟨same, succeedsAgain⟩ := Generator.generate_again isTree isRun
      obtain ⟨again, isAgain⟩ := succeedsAgain isCalmAfter
      exact ⟨made, result, after, again, succeeds, rfl, isAgain, (same _ _ _ isAgain).2.2.2⟩

end Session.Small

end ComponentPages
