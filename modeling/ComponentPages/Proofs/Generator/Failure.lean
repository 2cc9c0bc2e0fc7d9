import ComponentPages.Proofs.Registry.Recording
import ComponentPages.Proofs.Registry.Saving
import ComponentPages.Proofs.Generator.Staleness

namespace ComponentPages

/-!
# Making a page fails

A snapshot is recorded before its page is made, and it stays on record if the page is not written or
the registry is not saved. No other component is touched then, a component is marked only if its
page was written, and the store keeps the bytes that it had, unless the page is written over it.
-/

/-- The entry with the version and time of its page replaced. -/
def Entry.withDocumentation (entry : Entry) (documentation : Text × Text) : Entry :=
  { entry with
    documentationVersion := documentation.1
    lastDocumentationUpdate := documentation.2 }

namespace Generator

variable {generator made : Generator} {world after : World}

/-! ## Entries -/

/-- Whether the page of a snapshot and its source is written. -/
def writesPage
    (now : Text)
    (generator : Generator)
    (snapshot : Snapshot)
    (source : Text)
    (world : World) : Bool :=
  match
    ((generator.record now snapshot).writePage snapshot.identity
      ((generator.record now snapshot).pageOf now snapshot source) :
        StateM World (Except FileFault Unit)) world
  with
  | (.ok (), _) => true
  | (.error _, _) => false

/-- The version and time with which a component is marked after its page was made or failed. -/
def documentationAfter
    (now : Text)
    (generator : Generator)
    (snapshot : Snapshot)
    (source : Text)
    (world : World) : Text × Text :=
  if generator.writesPage now snapshot source world then
    (snapshot.version, now)
  else
    generator.registry.documentationOf snapshot.identity

namespace Documenting

variable {now source : Text} {snapshot : Snapshot} {result : Except Error Written}

private theorem options
    (documenting : generator.Documenting now snapshot source world made result after) :
    made.options = generator.options := by
  cases documenting <;> rfl

private theorem template
    (documenting : generator.Documenting now snapshot source world made result after) :
    made.template = generator.template := by
  cases documenting <;> rfl

private theorem path
    (documenting : generator.Documenting now snapshot source world made result after) :
    made.registry.path = generator.registry.path := by
  cases documenting <;> simp [record, mark]

/-- No other component is touched. -/
theorem entry?_of_ne
    (documenting : generator.Documenting now snapshot source world made result after)
    {identity : Text}
    (different : identity ≠ snapshot.identity) :
    made.registry.entry? identity = generator.registry.entry? identity := by
  have recorded := Registry.entry?_upsert_of_ne different generator.registry now
  have marked :
      Registry.entry? ((generator.record now snapshot).mark now snapshot).registry identity =
        generator.registry.entry? identity :=
    (Registry.entry?_markDocumented_of_ne different _ now _).trans recorded
  cases documenting with
  | unwritten isWritten =>
      exact recorded
  | unsaved isWritten isSaved =>
      exact marked
  | complete isWritten isSaved =>
      exact marked

/-- The snapshot is on record, and its component is marked if the page was written. -/
theorem entry?_self
    (documenting : generator.Documenting now snapshot source world made result after)
    {recorded : Entry}
    (isRecorded :
      Registry.entry? (generator.registry.upsert now snapshot).1 snapshot.identity =
        some recorded) :
    made.registry.entry? snapshot.identity =
      some (recorded.withDocumentation
        (generator.documentationAfter now snapshot source world)) := by
  have marked :=
    Registry.entry?_markDocumented_self (generator.registry.upsert now snapshot).1 now
      snapshot.identity snapshot.version
  rw [isRecorded] at marked
  unfold documentationAfter writesPage
  cases documenting with
  | unwritten isWritten =>
      have former := Registry.documentationOf_eq isRecorded
      rw [Registry.documentationOf_upsert] at former
      rw [isWritten, record, isRecorded]
      simp [former, Entry.withDocumentation]
  | unsaved isWritten isSaved =>
      rw [isWritten]
      exact marked
  | complete isWritten isSaved =>
      rw [isWritten]
      exact marked

end Documenting

/-! ## The store -/

/-- Putting a page in its place touches no file elsewhere. -/
theorem file?_of_writePage
    {identity page : Text}
    {result : Except FileFault Unit}
    {location : Location}
    (isOpen : world.disk.IsOpen)
    (written :
      (generator.writePage identity page : StateM World (Except FileFault Unit)) world =
        (result, after))
    (elsewhere : ¬after.disk.Leads (generator.options.pagePath identity) location) :
    after.disk.file? location = world.disk.file? location := by
  obtain ⟨fault, -, notMade⟩ | ⟨prepared, isMade, isWritten⟩ := write_of_writePage written
  · exact World.file?_of_makeDirectories notMade location
  · have stillOpen := (World.keeps_of_makeDirectories isMade).isOpen isOpen
    have different : ∀ place,
        prepared.disk.Leads (generator.options.pagePath identity) place →
          prepared.disk.node? place ≠ some .directory → location ≠ place := by
      rintro place leads - rfl
      exact elsewhere
        (leads.of_keeps (stillOpen.stands_startOf _) (World.keeps_of_write isWritten))
    exact (World.file?_of_write isWritten different).trans
      (World.file?_of_makeDirectories isMade location)

/-- After a failure the store has the bytes that it had, unless the page is written over it. -/
theorem Documenting.file?_of_error
    {now source : Text}
    {snapshot : Snapshot}
    {error : Error}
    {location : Location}
    (documenting : generator.Documenting now snapshot source world made (.error error) after)
    (isOpen : world.disk.IsOpen)
    (leads : after.disk.Leads generator.registry.path location)
    (elsewhere : ¬after.disk.Leads (generator.options.pagePath snapshot.identity) location) :
    after.disk.file? location = world.disk.file? location := by
  have samePath := documenting.path
  cases documenting with
  | unwritten isWritten =>
      exact file?_of_writePage isOpen isWritten elsewhere
  | @unsaved fault written _ isWritten isSaved =>
      have stillOpen := (keeps_of_writePage isWritten).isOpen isOpen
      have stillElsewhere :
          ¬written.disk.Leads (generator.options.pagePath snapshot.identity) location := by
        intro leadsPage
        exact elsewhere (leadsPage.of_keeps (stillOpen.stands_startOf _)
          (Registry.keeps_of_save isSaved))
      rw [← samePath] at leads
      exact (Registry.file?_of_save_error stillOpen isSaved leads).trans
        (file?_of_writePage isOpen isWritten stillElsewhere)

/--
If making the page of a source fails, the snapshot of the source has been recorded and nothing else:
all other components have the entries that they had, the component is marked as it was unless its
page was written, and the store has the bytes that it had unless the page is written over it.
Nothing is said of the content hash on record, which leads comparisons astray without its page.
-/
theorem recorded_of_generate_error
    {now source : Text}
    {path : Path}
    {error : Error}
    (failed :
      (generator.generate now source path :
        StateM World (Generator × Except Error (Option Written))) world =
          ((made, .error error), after)) :
    ∃ snapshot recorded contentHash,
      Snapshot.ofSource? now source path = some snapshot ∧
      Registry.entry? (generator.registry.upsert now snapshot).1 snapshot.identity =
        some recorded ∧
      made.options = generator.options ∧
      made.template = generator.template ∧
      made.registry.path = generator.registry.path ∧
      (∀ identity, identity ≠ snapshot.identity →
        made.registry.entry? identity = generator.registry.entry? identity) ∧
      made.registry.entry? snapshot.identity =
        some { recorded.withDocumentation
            (generator.documentationAfter now snapshot source world) with
          contentHash := contentHash } ∧
      (world.disk.IsOpen →
        ∀ location,
          after.disk.Leads generator.registry.path location →
          ¬after.disk.Leads (generator.options.pagePath snapshot.identity) location →
            after.disk.file? location = world.disk.file? location) := by
  cases isSnapshot : Snapshot.ofSource? now source path with
  | none =>
      rw [run_generate, isSnapshot] at failed
      cases failed
  | some snapshot =>
      obtain ⟨documented, isResult, documenting⟩ := documenting_of_generate isSnapshot failed
      cases documented with
      | ok written =>
          contradiction
      | error fault =>
          obtain ⟨history, isRecorded⟩ :=
            Registry.entry?_upsert_self generator.registry now snapshot
          refine ⟨snapshot, _, snapshot.contentHash, rfl, isRecorded, documenting.options,
            documenting.template, documenting.path, ?others, ?own, ?store⟩
          case others =>
            intro identity different
            exact documenting.entry?_of_ne different
          case own =>
            have onRecord := documenting.entry?_self isRecorded
            exact onRecord
          case store =>
            intro isOpen location leads elsewhere
            exact documenting.file?_of_error isOpen leads elsewhere

/-! ### A page that cannot be written -/

namespace Blocked

/-- A world in which a file is in the way of the pages. -/
def blockedWorld : World :=
  ⟨⟨[], [(["docs".toList], .file [])]⟩, []⟩

/-- What becomes of making the page of the small project. -/
def outcome : (Generator × Except Error (Option Written)) × World :=
  (Session.Small.generator.generate [] Session.Small.latter Session.Small.path :
    StateM World (Generator × Except Error (Option Written))) blockedWorld

private theorem failed :
    (Session.Small.generator.generate [] Session.Small.latter Session.Small.path :
      StateM World (Generator × Except Error (Option Written))) blockedWorld =
        ((outcome.1.1, .error (.files .alreadyExists)), outcome.2) := by
  have isError : outcome.1.2 = .error (.files .alreadyExists) := by
    decide
  exact Prod.ext (Prod.ext rfl isError) rfl

end Blocked

/-- A component whose first page could not be written is on record without a page. -/
theorem recorded_of_generate_error_blocked :
    ∃ entry,
      Blocked.outcome.1.1.registry.entry? "A".toList = some entry ∧
        entry.currentVersion = "1.0.0".toList ∧ entry.documentationVersion = [] := by
  obtain ⟨snapshot, recorded, contentHash, isSnapshot, isRecorded, -, -, -, -, own, -⟩ :=
    recorded_of_generate_error Blocked.failed
  obtain rfl := Option.some.inj (Session.Small.isSnapshot.symm.trans isSnapshot)
  obtain ⟨history, isUpserted⟩ :=
    Registry.entry?_upsert_self Session.Small.generator.registry [] Session.Small.snapshot
  obtain rfl := Option.some.inj (isUpserted.symm.trans isRecorded)
  have unmarked :
      (Session.Small.generator.documentationAfter [] Session.Small.snapshot Session.Small.latter
        Blocked.blockedWorld).1 = [] := by
    decide
  exact ⟨_, own, rfl, unmarked⟩

namespace Overwritten

/-- A generator that puts the page of the small project where its registry is stored. -/
def overwriting : Generator where
  options := { Session.Small.options with
    outputDirectory := ⟨[]⟩
    extension := "json".toList
    registryPath := ⟨"a.json".toList⟩ }
  registry := .empty ⟨"a.json".toList⟩
  template := DefaultTemplate.template

/-- A world with a store, in which the first write of a file stops before its first byte. -/
def storedWorld : World :=
  ⟨⟨[], [(["a.json".toList], .file [123, 125])]⟩, [none, some ⟨.other [], some 0⟩]⟩

/-- What becomes of making the page over the store. -/
def outcome : (Generator × Except Error (Option Written)) × World :=
  (overwriting.generate [] Session.Small.latter Session.Small.path :
    StateM World (Generator × Except Error (Option Written))) storedWorld

private theorem failed :
    (overwriting.generate [] Session.Small.latter Session.Small.path :
      StateM World (Generator × Except Error (Option Written))) storedWorld =
        ((outcome.1.1, .error (.files (.other []))), outcome.2) := by
  have isError : outcome.1.2 = .error (.files (.other [])) := by
    decide
  exact Prod.ext (Prod.ext rfl isError) rfl

end Overwritten

/-- A failure leaves a snapshot on record, and a page over the store leaves another store. -/
theorem generate_error_changes :
    (∃ (generator made : Generator) (world after : World) (source : Text) (path : Path)
        (error : Error),
      world.disk.IsOpen ∧
      (generator.generate [] source path :
        StateM World (Generator × Except Error (Option Written))) world =
          ((made, .error error), after) ∧
      made.registry ≠ generator.registry) ∧
    ∃ (generator made : Generator) (world after : World) (source : Text) (path : Path)
        (error : Error),
      world.disk.IsOpen ∧
      (generator.generate [] source path :
        StateM World (Generator × Except Error (Option Written))) world =
          ((made, .error error), after) ∧
      after.disk.read generator.registry.path ≠ world.disk.read generator.registry.path := by
  constructor
  · have isOnRecord :
        (Blocked.outcome.1.1.registry.entry? "A".toList).isSome = true := by
      decide
    refine ⟨Session.Small.generator, _, Blocked.blockedWorld, _, Session.Small.latter,
      Session.Small.path, _, Disk.stands_root, Blocked.failed, ?_⟩
    intro same
    rw [same] at isOnRecord
    contradiction
  · have isAnother :
        Overwritten.outcome.2.disk.read Overwritten.overwriting.registry.path ≠
          Overwritten.storedWorld.disk.read Overwritten.overwriting.registry.path := by
      decide
    exact ⟨Overwritten.overwriting, _, Overwritten.storedWorld, _, Session.Small.latter,
      Session.Small.path, _, Disk.stands_root, Overwritten.failed, isAnother⟩

end Generator

end ComponentPages
