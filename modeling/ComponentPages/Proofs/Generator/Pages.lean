import ComponentPages.Proofs.Generator.Failure
import ComponentPages.Proofs.Generator.Isolation
import ComponentPages.Proofs.Snapshot.Identity

namespace ComponentPages

/-!
# Which pages last

A page lasts as long as nothing else is written in its place. In a batch that are the pages of later
components whose identities have the same lower-case form, and besides the store and its temporary
file, if the options put them there. All other steps leave the page, and the history that it shows,
as they are, wherever they fail. Names are registered with their case but pages are named without
it, so two components of one batch can lose a page.
-/

/-- A page shows nothing of an entry but its history. -/
private theorem Page.contextOf_congr
    (now : Text)
    (snapshot : Snapshot)
    (extraction : Extraction)
    {entry other : Option Entry}
    (sameHistory : entry.map (·.history) = other.map (·.history))
    (extension : Text) :
    contextOf now snapshot extraction entry extension =
      contextOf now snapshot extraction other extension := by
  have sameSteps : changelog entry = changelog other := by
    rw [changelog, sameHistory, changelog]
  rw [contextOf, sameSteps, contextOf]

namespace Generator

variable {now source : Text} {view : World → Path → Except FileFault Text}
variable {generator made : Generator} {world after : World} {snapshot : Snapshot}

/-- A page depends on the template, the options and the history that it shows. -/
theorem pageOf_congr
    (sameOptions : made.options = generator.options)
    (sameTemplate : made.template = generator.template)
    (sameHistory :
      made.registry.history? snapshot.identity = generator.registry.history? snapshot.identity)
    (now source : Text) :
    made.pageOf now snapshot source = generator.pageOf now snapshot source := by
  rw [pageOf, pageOf, sameTemplate, sameOptions,
    Page.contextOf_congr now snapshot (extractionOf source) sameHistory]

/-- Marking a component leaves what its page shows. -/
theorem pageOf_mark
    (now : Text)
    (generator : Generator)
    (snapshot : Snapshot)
    (source : Text) :
    (generator.mark now snapshot).pageOf now snapshot source =
      generator.pageOf now snapshot source := by
  have sameHistory :
      (generator.mark now snapshot).registry.history? snapshot.identity =
        generator.registry.history? snapshot.identity :=
    Registry.history?_markDocumented generator.registry now _ _ _
  have sameOptions : (generator.mark now snapshot).options = generator.options :=
    rfl
  have sameTemplate : (generator.mark now snapshot).template = generator.template :=
    rfl
  exact pageOf_congr sameOptions sameTemplate sameHistory now source

/-! ## Settings -/

/-- Whether a generator has the settings of another one and the directories are kept. -/
structure KeepsSettings
    (generator : Generator)
    (world : World)
    (made : Generator)
    (after : World) : Prop where
  options : made.options = generator.options
  template : made.template = generator.template
  registryPath : made.registry.path = generator.registry.path
  directories : world.disk.Keeps after.disk

private theorem KeepsSettings.trans
    {last : World}
    {final : Generator}
    (first : generator.KeepsSettings world made after)
    (second : made.KeepsSettings after final last) :
    generator.KeepsSettings world final last where
  options := second.options.trans first.options
  template := second.template.trans first.template
  registryPath := second.registryPath.trans first.registryPath
  directories := first.directories.trans second.directories

/-- All operations keep the settings. -/
theorem Course.keepsSettings
    {allowed : Snapshot → Prop}
    {deeds : List Deed}
    (course : generator.Course allowed world deeds made after) :
    generator.KeepsSettings world made after := by
  induction course with
  | start =>
      exact ⟨rfl, rfl, rfl, .refl _⟩
  | record course now isAllowed inductionHypothesis =>
      obtain ⟨options, template, registryPath, directories⟩ := inductionHypothesis
      exact ⟨options, template, (Registry.path_upsert _ now _).trans registryPath, directories⟩
  | move course keeps inductionHypothesis =>
      obtain ⟨options, template, registryPath, directories⟩ := inductionHypothesis
      exact ⟨options, template, registryPath, directories.trans keeps⟩
  | mark course now isAllowed isKnown inductionHypothesis =>
      obtain ⟨options, template, registryPath, directories⟩ := inductionHypothesis
      exact ⟨options, template, (Registry.path_markDocumented _ now _ _).trans registryPath,
        directories⟩
  | save course isSaved inductionHypothesis =>
      obtain ⟨options, template, registryPath, directories⟩ := inductionHypothesis
      exact ⟨options, template, registryPath,
        directories.trans (Registry.keeps_of_save isSaved)⟩

/-- Generating for a file keeps the settings. -/
theorem keepsSettings_of_generateFile
    {path : Path}
    {result : Except Error (Option Written)}
    (generated :
      (generator.generateFile now (.ofView view) path :
        StateM World (Generator × Except Error (Option Written))) world =
          ((made, result), after)) :
    generator.KeepsSettings world made after := by
  have course : generator.Course (fun _ => True) world _ made after :=
    course_generateFile (fun _ _ => trivial) generated
  exact course.keepsSettings

/-- Generating for files keeps the settings. -/
theorem keepsSettings_of_generateEach
    {paths : List Path}
    {outcomes : List Outcome}
    (generated :
      (generator.generateEach now (.ofView view) paths :
        StateM World (Generator × List Outcome)) world = ((made, outcomes), after)) :
    generator.KeepsSettings world made after := by
  have course : generator.Course (fun _ => True) world _ made after :=
    course_generateEach (fun _ _ _ _ _ _ => trivial) generated
  exact course.keepsSettings

/-! ## Places -/

/-- The place of the page of a component. -/
def pagePlace (generator : Generator) (world : World) (identity : Text) : Location :=
  (generator.options.pagePath identity).place world.disk.workingDirectory

/-- The place of the store. -/
def storePlace (generator : Generator) (world : World) : Location :=
  generator.registry.path.place world.disk.workingDirectory

/-- The place of the temporary file beside the store. -/
def temporaryPlace (generator : Generator) (world : World) : Location :=
  (Registry.temporaryPath generator.registry.path "tmp".toList).place world.disk.workingDirectory

namespace KeepsSettings

variable (keeps : generator.KeepsSettings world made after)

include keeps

/-- Pages are put where they were put before. -/
theorem pagePlace (identity : Text) :
    made.pagePlace after identity = generator.pagePlace world identity := by
  rw [Generator.pagePlace, keeps.options, keeps.directories.workingDirectory, Generator.pagePlace]

/-- The store is where it was before. -/
theorem storePlace : made.storePlace after = generator.storePlace world := by
  rw [Generator.storePlace, keeps.registryPath, keeps.directories.workingDirectory,
    Generator.storePlace]

/-- The temporary file is put where it was put before. -/
theorem temporaryPlace : made.temporaryPlace after = generator.temporaryPlace world := by
  rw [Generator.temporaryPlace, keeps.registryPath, keeps.directories.workingDirectory,
    Generator.temporaryPlace]

end KeepsSettings

/-- The identity of a snapshot is a name. -/
theorem isName_of_snapshotIn
    {path : Path}
    (isSnapshot : snapshotIn now view world path = .ok snapshot) :
    Identity.IsName snapshot.identity := by
  obtain ⟨source, _, isOfSource⟩ := snapshotIn_eq_ok.mp isSnapshot
  obtain ⟨identity, isIdentity, rfl⟩ := Option.map_eq_some_iff.mp isOfSource
  exact .of_ofSource? isIdentity

/-- Two components share the place of their pages if their names differ in case alone. -/
theorem pagePlace_eq_iff
    (isWhole : '/' ∉ generator.options.extension)
    (world : World)
    {identity other : Text}
    (isName : Identity.IsName identity)
    (isOtherName : Identity.IsName other) :
    generator.pagePlace world identity = generator.pagePlace world other ↔
      identity.toLowerCase = other.toLowerCase := by
  obtain ⟨isCounted, noDots, noSlash⟩ := Page.isFileName_fileName isName isWhole
  obtain ⟨otherIsCounted, otherNoDots, otherNoSlash⟩ :=
    Page.isFileName_fileName isOtherName isWhole
  rw [pagePlace, Options.pagePath, Path.place_file isCounted noDots noSlash, pagePlace,
    Options.pagePath, Path.place_file otherIsCounted otherNoDots otherNoSlash,
    List.append_right_inj, List.singleton_inj, Page.fileName_inj]

/-- Whether two components have names that differ not in case alone, and pages of their own. -/
def AreApart (generator : Generator) (world : World) (former latter : Snapshot) : Prop :=
  former.identity.toLowerCase ≠ latter.identity.toLowerCase ∧
    ('/' ∈ generator.options.extension →
      generator.pagePlace world former.identity ≠ generator.pagePlace world latter.identity)

instance (generator : Generator) (world : World) (former latter : Snapshot) :
    Decidable (generator.AreApart world former latter) :=
  inferInstanceAs (Decidable (_ ∧ _))

namespace AreApart

variable {former latter : Snapshot}

/-- Snapshots whose pages are apart have different identities. -/
theorem identity_ne (areApart : generator.AreApart world former latter) :
    former.identity ≠ latter.identity :=
  fun same => areApart.1 (congrArg Text.toLowerCase same)

/-- Components that are apart have pages at different places. -/
theorem pagePlace_ne
    (areApart : generator.AreApart world former latter)
    (formerName : Identity.IsName former.identity)
    (latterName : Identity.IsName latter.identity) :
    generator.pagePlace world former.identity ≠ generator.pagePlace world latter.identity := by
  by_cases isWhole : '/' ∈ generator.options.extension
  · exact areApart.2 isWhole
  · exact mt (pagePlace_eq_iff isWhole world formerName latterName).mp areApart.1

end AreApart

/-! ## One page -/

/-- A page that was written is at its place, and no other file was touched. -/
theorem of_writePage_ok
    {identity page : Text}
    (isOpen : world.disk.IsOpen)
    (written :
      (generator.writePage identity page : StateM World (Except FileFault Unit)) world =
        (.ok (), after)) :
    after.disk.Leads (generator.options.pagePath identity) (generator.pagePlace world identity) ∧
      ∀ location,
        after.disk.file? location =
          if location = generator.pagePlace world identity then some (Utf8.encode page)
          else world.disk.file? location := by
  obtain ⟨prepared, isMade, isWritten⟩ := write_of_writePage_ok written
  have wrote := World.of_write_ok isWritten
  have keeps := World.keeps_of_makeDirectories isMade
  obtain ⟨place, leads, _⟩ := Disk.put_of_write wrote
  rw [pagePlace, ← keeps.workingDirectory]
  refine ⟨?_, ?_⟩
  · rw [← leads.eq_place]
    exact leads.of_keeps ((keeps.isOpen isOpen).stands_startOf _) (.of_write wrote)
  · intro location
    rw [Disk.file?_of_write_ok wrote, World.file?_of_makeDirectories isMade]

/-- Saving the registry of a marked component touches the store and the temporary file alone. -/
theorem file?_of_save_marked
    {result : Except FileFault Unit}
    {between : World}
    {location : Location}
    (saved :
      (((generator.record now snapshot).mark now snapshot).registry.save :
        StateM World (Except FileFault Unit)) between = (result, after))
    (keeps : world.disk.Keeps between.disk)
    (stands : between.disk.Stands location.dropLast)
    (notStore : location ≠ generator.storePlace world)
    (notTemporary : location ≠ generator.temporaryPlace world) :
    after.disk.file? location = between.disk.file? location := by
  have samePath :
      ((generator.record now snapshot).mark now snapshot).registry.path =
        generator.registry.path := by
    simp [record, mark]
  exact Registry.file?_of_save saved stands (by rwa [samePath, keeps.workingDirectory])
    (by rwa [samePath, keeps.workingDirectory])

/-- A page that was made is at its place, unless the store or its temporary file is put there. -/
theorem Documenting.page
    {written : Written}
    (documenting : generator.Documenting now snapshot source world made (.ok written) after)
    (isOpen : world.disk.IsOpen) :
    written = ⟨snapshot.identity, generator.options.pagePath snapshot.identity⟩ ∧
      after.disk.Leads written.page (generator.pagePlace world snapshot.identity) ∧
      (generator.pagePlace world snapshot.identity ≠ generator.storePlace world →
        generator.pagePlace world snapshot.identity ≠ generator.temporaryPlace world →
          after.disk.file? (generator.pagePlace world snapshot.identity) =
            some (Utf8.encode (made.pageOf now snapshot source))) := by
  cases documenting with
  | complete isWritten isSaved =>
      have keeps := keeps_of_writePage isWritten
      have isOpenBetween := keeps.isOpen isOpen
      obtain ⟨leads, files⟩ := of_writePage_ok isOpen isWritten
      have standsBetween :=
        isOpenBetween.stands_startOf (generator.options.pagePath snapshot.identity)
      refine ⟨rfl, leads.of_keeps standsBetween (Registry.keeps_of_save isSaved), ?_⟩
      intro notStore notTemporary
      have isKept := file?_of_save_marked isSaved keeps (leads.stands_dropLast standsBetween)
        notStore notTemporary
      rw [pageOf_mark]
      exact isKept.trans ((files _).trans (if_pos rfl))

/-- Making a page, wherever it fails, touches no other component and no file elsewhere. -/
theorem Documenting.untouched
    {result : Except Error Written}
    (documenting : generator.Documenting now snapshot source world made result after)
    (isOpen : world.disk.IsOpen)
    {identity : Text}
    {location : Location}
    (stands : world.disk.Stands location.dropLast)
    (otherIdentity : snapshot.identity ≠ identity)
    (notPage : location ≠ generator.pagePlace world snapshot.identity)
    (notStore : location ≠ generator.storePlace world)
    (notTemporary : location ≠ generator.temporaryPlace world) :
    made.registry.entry? identity = generator.registry.entry? identity ∧
      after.disk.file? location = world.disk.file? location := by
  refine ⟨documenting.entry?_of_ne (Ne.symm otherIdentity), ?_⟩
  have pageElsewhere : ∀ {page : Text} {result : Except FileFault Unit} {written : World},
      ((generator.record now snapshot).writePage snapshot.identity page :
        StateM World (Except FileFault Unit)) world = (result, written) →
          written.disk.file? location = world.disk.file? location := by
    intro page result written isWritten
    refine file?_of_writePage isOpen isWritten ?_
    intro leads
    apply notPage
    rw [leads.eq_place, (keeps_of_writePage isWritten).workingDirectory]
    rfl
  cases documenting with
  | unwritten isWritten =>
      exact pageElsewhere isWritten
  | unsaved isWritten isSaved =>
      have keeps := keeps_of_writePage isWritten
      exact (file?_of_save_marked isSaved keeps (keeps.stands _ stands) notStore
        notTemporary).trans (pageElsewhere isWritten)
  | complete isWritten isSaved =>
      have keeps := keeps_of_writePage isWritten
      exact (file?_of_save_marked isSaved keeps (keeps.stands _ stands) notStore
        notTemporary).trans (pageElsewhere isWritten)

/-! ## Batches -/

/-- Generating for other components leaves a page and its entry as they are. -/
theorem untouched_of_generateFile
    {path : Path}
    {result : Except Error (Option Written)}
    (generated :
      (generator.generateFile now (.ofView view) path :
        StateM World (Generator × Except Error (Option Written))) world =
          ((made, result), after))
    (isOpen : world.disk.IsOpen)
    {identity : Text}
    {location : Location}
    (stands : world.disk.Stands location.dropLast)
    (isOther : ∀ snapshot,
      snapshotIn now view world path = .ok snapshot →
        snapshot.identity ≠ identity ∧ location ≠ generator.pagePlace world snapshot.identity)
    (notStore : location ≠ generator.storePlace world)
    (notTemporary : location ≠ generator.temporaryPlace world) :
    made.registry.entry? identity = generator.registry.entry? identity ∧
      after.disk.file? location = world.disk.file? location := by
  rcases problem_or_documenting generated with ⟨_, rfl, rfl⟩ |
    ⟨source, snapshot, documented, isRead, isSnapshot, _, documenting⟩
  · exact ⟨rfl, rfl⟩
  · obtain ⟨otherIdentity, notPage⟩ :=
      isOther snapshot (snapshotIn_eq_ok.mpr ⟨source, isRead, isSnapshot⟩)
    exact documenting.untouched isOpen stands otherIdentity notPage notStore notTemporary

/-- A batch touches no component and no file but those of its paths, wherever it fails. -/
theorem untouched_of_generateEach
    {paths : List Path}
    {outcomes : List Outcome}
    (generated :
      (generator.generateEach now (.ofView view) paths :
        StateM World (Generator × List Outcome)) world = ((made, outcomes), after))
    (isOpen : world.disk.IsOpen)
    {identity : Text}
    {location : Location}
    (stands : world.disk.Stands location.dropLast)
    (areOthers : ∀ done path later,
      paths = done ++ path :: later →
        ∀ snapshot,
          snapshotIn now view (generator.worldAfter now view done world) path = .ok snapshot →
            snapshot.identity ≠ identity ∧
              location ≠ generator.pagePlace world snapshot.identity)
    (notStore : location ≠ generator.storePlace world)
    (notTemporary : location ≠ generator.temporaryPlace world) :
    made.registry.entry? identity = generator.registry.entry? identity ∧
      after.disk.file? location = world.disk.file? location := by
  induction paths generalizing generator world outcomes with
  | nil =>
      obtain ⟨isMade, rfl⟩ := Prod.mk.inj generated
      obtain ⟨rfl, _⟩ := Prod.mk.inj isMade
      exact ⟨rfl, rfl⟩
  | cons path later inductionHypothesis =>
      obtain ⟨between, result, next, others, isFirst, isLater, _⟩ :=
        of_generateEach_cons generated
      have keeps := keepsSettings_of_generateFile isFirst
      obtain ⟨sameEntry, sameFile⟩ :=
        untouched_of_generateFile isFirst isOpen stands (areOthers [] path later rfl) notStore
          notTemporary
      rw [← sameEntry, ← sameFile]
      refine inductionHypothesis isLater (keeps.directories.isOpen isOpen)
        (keeps.directories.stands _ stands) ?_ (keeps.storePlace ▸ notStore)
        (keeps.temporaryPlace ▸ notTemporary)
      intro done other rest isSplit snapshot isSnapshot
      rw [keeps.pagePlace]
      refine areOthers (path :: done) other rest (congrArg _ isSplit) snapshot ?_
      rw [worldAfter_cons, isFirst]
      exact isSnapshot

/-- In a batch over sources that stay, paths that are apart have their turns elsewhere. -/
theorem later_isElsewhere
    {earlier later : List Path}
    {path : Path}
    (isSteady : generator.IsSteady now view (earlier ++ path :: later) world)
    {result : Except Error (Option Written)}
    {next : Generator}
    {between : World}
    (isFirst :
      ((generator.generatorAfter now view earlier world).generateFile now (.ofView view) path :
        StateM World (Generator × Except Error (Option Written)))
          (generator.worldAfter now view earlier world) = ((next, result), between))
    (keeps : generator.KeepsSettings world next between)
    (isName : Identity.IsName snapshot.identity)
    (areOthers : ∀ other ∈ snapshotsIn now view world later,
      generator.AreApart world other snapshot)
    (done : List Path)
    (other : Path)
    (rest : List Path)
    (isSplit : later = done ++ other :: rest)
    (taken : Snapshot)
    (isTaken : snapshotIn now view (next.worldAfter now view done between) other = .ok taken) :
    taken.identity ≠ snapshot.identity ∧
      generator.pagePlace world snapshot.identity ≠ next.pagePlace between taken.identity := by
  have isLaterWorld :
      next.worldAfter now view done between =
        generator.worldAfter now view (earlier ++ path :: done) world := by
    rw [worldAfter_append, worldAfter_cons, isFirst]
  subst isSplit
  have sameSource := isSteady (earlier ++ path :: done) (by simp) other (by simp)
  rw [isLaterWorld, snapshotIn_congr sameSource] at isTaken
  have areApart :=
    areOthers taken (mem_snapshotsIn.mpr ⟨other, by simp, snapshotIn_eq_ok.mp isTaken⟩)
  rw [keeps.pagePlace]
  exact ⟨areApart.identity_ne,
    Ne.symm (areApart.pagePlace_ne (isName_of_snapshotIn isTaken) isName)⟩

/--
A page that was made in a batch over sources that stay is read at its path after the batch as it is
rendered from the registry, whatever else fails. This holds unless a later path is of a component
whose identity has the same lower-case form, or whose page is led to the same place by separators in
the extension, and unless the page is put at the place of the store or of its temporary file.
-/
theorem read_page_after_generateAll
    {earlier later : List Path}
    {path : Path}
    (isOpen : world.disk.IsOpen)
    (isSteady : generator.IsSteady now view (earlier ++ path :: later) world)
    {batch : Batch}
    (generated :
      (generator.generateAll now (.ofView view) (earlier ++ path :: later) :
        StateM World (Generator × Batch)) world = ((made, batch), after))
    {written : Written}
    (isGenerated : batch.outcomes[earlier.length]? = some (.generated written)) :
    ∃ source snapshot,
      view world path = .ok source ∧
        Snapshot.ofSource? now source path = some snapshot ∧
        written = ⟨snapshot.identity, generator.options.pagePath snapshot.identity⟩ ∧
        ((∀ other ∈ snapshotsIn now view world later, generator.AreApart world other snapshot) →
          generator.pagePlace world snapshot.identity ≠ generator.storePlace world →
          generator.pagePlace world snapshot.identity ≠ generator.temporaryPlace world →
          after.disk.read written.page = .ok (Utf8.encode (made.pageOf now snapshot source))) := by
  obtain ⟨next, result, between, others, isFirst, isLater, isOutcome⟩ :=
    parts_of_generateEach (of_generateAll generated)
  have isResult : Outcome.ofResult path result = .generated written :=
    Option.some.inj (isOutcome.symm.trans isGenerated)
  have sourcesBefore :
      view (generator.worldAfter now view earlier world) path = view world path :=
    isSteady earlier (List.prefix_append _ _) path (by simp)
  have keepsBefore :
      generator.KeepsSettings world (generator.generatorAfter now view earlier world)
        (generator.worldAfter now view earlier world) :=
    keepsSettings_of_generateEach rfl
  have keepsFirst := keepsSettings_of_generateFile isFirst
  have keepsLater := keepsSettings_of_generateEach isLater
  have isOpenBefore := keepsBefore.directories.isOpen isOpen
  have isOpenBetween := keepsFirst.directories.isOpen isOpenBefore
  rcases problem_or_documenting isFirst with ⟨isProblem, _, _⟩ |
    ⟨source, snapshot, documented, isRead, isSnapshot, rfl, documenting⟩
  · rw [isResult] at isProblem
    exact absurd isProblem (problemAt?_ne_generated _ _ _ _)
  · cases documented with
    | error error =>
        contradiction
    | ok page =>
        obtain rfl := Outcome.generated.inj isResult
        obtain ⟨isWritten, leads, isHeld⟩ := documenting.page isOpenBefore
        rw [keepsBefore.pagePlace] at leads isHeld
        rw [keepsBefore.storePlace, keepsBefore.temporaryPlace] at isHeld
        rw [keepsBefore.options] at isWritten
        refine ⟨source, snapshot, sourcesBefore.symm.trans isRead, isSnapshot, isWritten, ?_⟩
        intro areOthers notStore notTemporary
        have keeps := keepsBefore.trans keepsFirst
        have standsBetween := isOpenBetween.stands_startOf page.page
        have isName := isName_of_snapshotIn (snapshotIn_eq_ok.mpr ⟨source, isRead, isSnapshot⟩)
        obtain ⟨sameEntry, sameFile⟩ :=
          untouched_of_generateEach isLater isOpenBetween (leads.stands_dropLast standsBetween)
            (later_isElsewhere isSteady isFirst keeps isName areOthers)
            (keeps.storePlace ▸ notStore) (keeps.temporaryPlace ▸ notTemporary)
        have sameHistory :
            made.registry.history? snapshot.identity =
              next.registry.history? snapshot.identity := by
          rw [Registry.history?, sameEntry, Registry.history?]
        rw [(leads.of_keeps standsBetween keepsLater.directories).read_eq_ok, sameFile,
          isHeld notStore notTemporary,
          pageOf_congr keepsLater.options keepsLater.template sameHistory]

end Generator

/-! ## Two components that differ in case -/

namespace Session.Twins

/-- The path of the first source. -/
def first : Path :=
  ⟨"data-table.tsx".toList⟩

/-- The path of the second source. -/
def second : Path :=
  ⟨"datatable.tsx".toList⟩

/-- The source at the first path. -/
def firstSource : Text :=
  "export const DataTable = 1".toList

/-- The identities of the first two sources differ in case alone. -/
def sources : Path → Except FileFault Text :=
  fun path =>
    if path = first then
      .ok firstSource
    else if path = second then
      .ok "export const Datatable = 2".toList
    else
      Small.sources path

/-- The snapshot of the first source. -/
def snapshot : Snapshot where
  identity := "DataTable".toList
  version := "1.0.0".toList
  lastModified := []
  contentHash := Snapshot.hashOf firstSource
  sizeBytes := 26
  exports := ["DataTable".toList]
  status := .stable
  filePath := first

private theorem isSnapshot : Snapshot.ofSource? [] firstSource first = some snapshot := by
  decide +kernel

/-- The generator of the small project, with pages that show nothing but a name. -/
def naming : Generator :=
  { Small.generator with template := Token.source (.variable "name".toList) }

/-- A batch of the first source and of another one. -/
def batchRun (generator : Generator) (other : Path) : (Generator × Batch) × World :=
  (generator.generateAll [] (.ofView fun _ => sources) [first, other] :
    StateM World (Generator × Batch)) Small.world

/-- What was written for the first source. -/
def written : Written :=
  ⟨"DataTable".toList, Small.options.pagePath "DataTable".toList⟩

/-- The page of the first source is made beside that of either other one. -/
theorem isGenerated :
    ∀ run ∈ [batchRun Small.generator Small.path, batchRun naming second],
      run.1.2.outcomes[0]? = some (.generated written) := by
  decide +kernel

end Session.Twins

/-- The page of a component lasts beside that of one with another name. -/
theorem Generator.read_page_after_generateAll_apart :
    ∃ made batch after,
      (Session.Small.generator.generateAll [] (.ofView fun _ => Session.Twins.sources)
          [Session.Twins.first, Session.Small.path] : StateM World (Generator × Batch))
          Session.Small.world = ((made, batch), after) ∧
        after.disk.read Session.Twins.written.page =
          .ok (Utf8.encode
            (made.pageOf [] Session.Twins.snapshot Session.Twins.firstSource)) := by
  have isGenerated := Session.Twins.isGenerated _ List.mem_cons_self
  rcases isRun : Session.Twins.batchRun Session.Small.generator Session.Small.path with
    ⟨⟨made, batch⟩, after⟩
  rw [isRun] at isGenerated
  have isSteady :=
    isSteady_const [] Session.Twins.sources Session.Small.generator
      ([] ++ Session.Twins.first :: [Session.Small.path]) Session.Small.world
  obtain ⟨source, snapshot, isRead, isSnapshot, _, lasts⟩ :=
    read_page_after_generateAll Session.Small.isOpen isSteady isRun isGenerated
  obtain rfl : Session.Twins.firstSource = source := Except.ok.inj isRead
  obtain rfl := Option.some.inj (Session.Twins.isSnapshot.symm.trans isSnapshot)
  refine ⟨made, batch, after, isRun, lasts ?_ (by decide +kernel) (by decide +kernel)⟩
  decide +kernel

/-- A page can be lost to a component of the same batch, though both identities are registered. -/
theorem Generator.lost_page_of_generateAll :
    ∃ (generator made : Generator) (world after : World) (sources : Path → Except FileFault Text)
        (first second : Path) (batch : Batch) (source : Text) (snapshot : Snapshot)
        (written : Written),
      world.disk.IsOpen ∧
      (∀ former ∈ snapshotsIn [] (fun _ => sources) world [first],
        ∀ latter ∈ snapshotsIn [] (fun _ => sources) world [second],
          former.identity ≠ latter.identity) ∧
      (generator.generateAll [] (.ofView fun _ => sources) [first, second] :
        StateM World (Generator × Batch)) world = ((made, batch), after) ∧
      batch.outcomes[0]? = some (.generated written) ∧
      sources first = .ok source ∧
      Snapshot.ofSource? [] source first = some snapshot ∧
      written.identity = snapshot.identity ∧
      after.disk.read written.page ≠ .ok (Utf8.encode (made.pageOf [] snapshot source)) := by
  have isGenerated := Session.Twins.isGenerated
    (Session.Twins.batchRun Session.Twins.naming Session.Twins.second) (by simp)
  -- Where the identities differ in case alone, the page of the first source is replaced.
  have isLost :
      (Session.Twins.batchRun Session.Twins.naming Session.Twins.second).2.disk.read
          Session.Twins.written.page ≠
        .ok (Utf8.encode
          ((Session.Twins.batchRun Session.Twins.naming Session.Twins.second).1.1.pageOf []
            Session.Twins.snapshot Session.Twins.firstSource)) := by
    decide +kernel
  have haveOwnIdentities :
      ∀ former ∈ snapshotsIn [] (fun _ => Session.Twins.sources) Session.Small.world
          [Session.Twins.first],
        ∀ latter ∈ snapshotsIn [] (fun _ => Session.Twins.sources) Session.Small.world
            [Session.Twins.second],
          former.identity ≠ latter.identity := by
    decide +kernel
  rcases isRun : Session.Twins.batchRun Session.Twins.naming Session.Twins.second with
    ⟨⟨made, batch⟩, after⟩
  rw [isRun] at isGenerated isLost
  exact ⟨Session.Twins.naming, made, Session.Small.world, after, Session.Twins.sources,
    Session.Twins.first, Session.Twins.second, batch, Session.Twins.firstSource,
    Session.Twins.snapshot, Session.Twins.written, Session.Small.isOpen, haveOwnIdentities,
    isRun, isGenerated, rfl, Session.Twins.isSnapshot, rfl, isLost⟩

end ComponentPages
