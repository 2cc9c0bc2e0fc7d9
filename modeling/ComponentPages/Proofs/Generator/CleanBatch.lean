import Mathlib.Data.List.Basic
import ComponentPages.Proofs.Generator.Staleness

namespace ComponentPages

/-!
# Comparing after a batch

A page that was made in a batch is reported as current right after it. When the page was written,
its component was recorded and marked with the version and content of its source, and whatever the
batch does later leaves this as it is, as long as the sources stay and no other source claims the
same component.
-/

namespace Snapshot

/-- Whether two snapshots have one version and content if they are of one component. -/
def Agrees (snapshot other : Snapshot) : Prop :=
  snapshot.identity = other.identity →
    snapshot.version = other.version ∧ snapshot.contentHash = other.contentHash

/-- Snapshots of one source have one version and content, whenever and wherever it is read. -/
theorem same_of_ofSource?
    {now time source : Text}
    {path otherPath : Path}
    {snapshot other : Snapshot}
    (isSnapshot : ofSource? now source path = some snapshot)
    (isOther : ofSource? time source otherPath = some other) :
    snapshot.version = other.version ∧ snapshot.contentHash = other.contentHash := by
  obtain ⟨identity, _, rfl⟩ := Option.map_eq_some_iff.mp isSnapshot
  obtain ⟨otherIdentity, _, rfl⟩ := Option.map_eq_some_iff.mp isOther
  exact ⟨rfl, rfl⟩

/-- The time does not matter for the identity, the version and the content of a snapshot. -/
theorem exists_ofSource?
    {now source : Text}
    {path : Path}
    {snapshot : Snapshot}
    (isSnapshot : ofSource? now source path = some snapshot)
    (time : Text) :
    ∃ other,
      ofSource? time source path = some other ∧
        other.identity = snapshot.identity ∧
        other.version = snapshot.version ∧ other.contentHash = snapshot.contentHash := by
  obtain ⟨identity, isIdentity, rfl⟩ := Option.map_eq_some_iff.mp isSnapshot
  exact ⟨_, Option.map_eq_some_iff.mpr ⟨identity, isIdentity, rfl⟩, rfl, rfl, rfl⟩

end Snapshot

/-! ## Entries that are current -/

namespace Registry

variable {registry : Registry} {snapshot : Snapshot}

/-- Whether the page on record has the version, and the entry the content, of a snapshot. -/
def IsCurrentFor (registry : Registry) (snapshot : Snapshot) : Prop :=
  ∃ entry,
    registry.entry? snapshot.identity = some entry ∧
      entry.documentationVersion = snapshot.version ∧
      entry.contentHash = snapshot.contentHash

namespace IsCurrentFor

/-- Recording a snapshot that agrees leaves an entry current. -/
theorem upsert
    (isCurrent : registry.IsCurrentFor snapshot)
    (now : Text)
    {other : Snapshot}
    (agrees : other.Agrees snapshot) :
    (registry.upsert now other).1.IsCurrentFor snapshot := by
  obtain ⟨entry, found, sameVersion, sameContent⟩ := isCurrent
  by_cases same : snapshot.identity = other.identity
  · obtain ⟨history, recorded⟩ := entry?_upsert_self registry now other
    rw [← same, found] at recorded
    exact ⟨_, recorded, sameVersion, (agrees same.symm).2⟩
  · exact ⟨entry, (entry?_upsert_of_ne same registry now).trans found, sameVersion, sameContent⟩

/-- Marking a component for a snapshot that agrees leaves an entry current. -/
theorem mark
    (isCurrent : registry.IsCurrentFor snapshot)
    (now : Text)
    {other : Snapshot}
    (agrees : other.Agrees snapshot) :
    Registry.IsCurrentFor
      ((registry.markDocumented? now other.identity other.version).getD registry) snapshot := by
  obtain ⟨entry, found, sameVersion, sameContent⟩ := isCurrent
  by_cases same : snapshot.identity = other.identity
  · have marked := entry?_markDocumented_self registry now other.identity other.version
    rw [← same, found] at marked
    rw [← same]
    exact ⟨_, marked, (agrees same.symm).1, sameContent⟩
  · exact ⟨entry, (entry?_markDocumented_of_ne same registry now _).trans found, sameVersion,
      sameContent⟩

/-- What an entry is current for depends on identity, version and content alone. -/
theorem congr
    (isCurrent : registry.IsCurrentFor snapshot)
    {other : Snapshot}
    (sameIdentity : other.identity = snapshot.identity)
    (sameVersion : other.version = snapshot.version)
    (sameContent : other.contentHash = snapshot.contentHash) :
    registry.IsCurrentFor other := by
  rw [IsCurrentFor, sameIdentity, sameVersion, sameContent]
  exact isCurrent

/-- An entry that is current is reported so, if its version is not empty. -/
theorem reason_compare
    (isCurrent : registry.IsCurrentFor snapshot)
    (hasVersion : snapshot.version ≠ []) :
    (registry.compare snapshot).reason = .upToDate := by
  obtain ⟨entry, found, sameVersion, sameContent⟩ := isCurrent
  have isDocumented : entry.isDocumented = true := by
    simpa [Entry.isDocumented, sameVersion] using hasVersion
  exact reason_compare_eq_upToDate.mpr ⟨entry, found, isDocumented, sameVersion, sameContent⟩

end IsCurrentFor

/-- A component needs a new page exactly if its page is not reported as current. -/
theorem needsUpdate_compare
    (registry : Registry)
    (snapshot : Snapshot) :
    (registry.compare snapshot).needsUpdate =
      decide ((registry.compare snapshot).reason ≠ .upToDate) := by
  unfold compare
  cases registry.entry? snapshot.identity <;> rfl

end Registry

namespace Generator

variable {generator made : Generator} {world after : World} {now : Text}
variable {view : World → Path → Except FileFault Text}

/-- Entries stay current in a course that records snapshots that agree. -/
theorem isCurrentFor_of_course
    {snapshot : Snapshot}
    (isCurrent : generator.registry.IsCurrentFor snapshot)
    {deeds : List Deed}
    (course : generator.Course (·.Agrees snapshot) world deeds made after) :
    made.registry.IsCurrentFor snapshot := by
  induction course with
  | start =>
      exact isCurrent
  | record course now agrees inductionHypothesis =>
      exact inductionHypothesis.upsert now agrees
  | move course keeps inductionHypothesis =>
      exact inductionHypothesis
  | mark course now agrees isKnown inductionHypothesis =>
      exact inductionHypothesis.mark now agrees
  | save course isSaved inductionHypothesis =>
      exact inductionHypothesis

/-! ## One page -/

/-- A component whose page was made is current. -/
theorem Documenting.isCurrentFor
    {snapshot : Snapshot}
    {source : Text}
    {written : Written}
    (documenting : generator.Documenting now snapshot source world made (.ok written) after) :
    written.identity = snapshot.identity ∧ made.registry.IsCurrentFor snapshot := by
  cases documenting with
  | complete isWritten isSaved =>
      obtain ⟨history, recorded⟩ := Registry.entry?_upsert_self generator.registry now snapshot
      have marked := Registry.entry?_markDocumented_self
        (generator.registry.upsert now snapshot).1 now snapshot.identity snapshot.version
      rw [recorded] at marked
      exact ⟨rfl, _, marked, rfl, rfl⟩

/-- A source whose page was made has a snapshot, and its component is current. -/
theorem isCurrentFor_of_generate
    {source : Text}
    {path : Path}
    {written : Written}
    (generated :
      (generator.generate now source path :
        StateM World (Generator × Except Error (Option Written))) world =
          ((made, .ok (some written)), after)) :
    ∃ snapshot,
      Snapshot.ofSource? now source path = some snapshot ∧
        written.identity = snapshot.identity ∧ made.registry.IsCurrentFor snapshot := by
  cases isSnapshot : Snapshot.ofSource? now source path with
  | none =>
      rw [run_generate, isSnapshot] at generated
      cases generated
  | some snapshot =>
      obtain ⟨documented, isResult, documenting⟩ := documenting_of_generate isSnapshot generated
      cases documented with
      | error error =>
          contradiction
      | ok page =>
          obtain rfl := Option.some.inj (Except.ok.inj isResult)
          exact ⟨snapshot, rfl, documenting.isCurrentFor⟩

/-- A path whose page was made has a snapshot, and its component is current. -/
theorem isCurrentFor_of_generateFile
    {path : Path}
    {written : Written}
    (generated :
      (generator.generateFile now (.ofView view) path :
        StateM World (Generator × Except Error (Option Written))) world =
          ((made, .ok (some written)), after)) :
    ∃ snapshot,
      snapshotIn now view world path = .ok snapshot ∧
        written.identity = snapshot.identity ∧ made.registry.IsCurrentFor snapshot := by
  rw [run_generateFile] at generated
  cases isRead : view world path with
  | error fault =>
      rw [isRead] at generated
      cases generated
  | ok source =>
      rw [isRead] at generated
      obtain ⟨snapshot, isSnapshot, isCurrent⟩ := isCurrentFor_of_generate generated
      exact ⟨snapshot, snapshotIn_eq_ok.mpr ⟨source, isRead, isSnapshot⟩, isCurrent⟩

/-! ## Batches -/

/-- Whether the sources of paths stay as they are while a batch works through the paths. -/
def IsSteady
    (now : Text)
    (view : World → Path → Except FileFault Text)
    (generator : Generator)
    (paths : List Path)
    (world : World) : Prop :=
  ∀ done, done <+: paths →
    ∀ path ∈ paths, view (generator.worldAfter now view done world) path = view world path

/-- Whether two paths of one identity have one source. -/
def HaveOwnIdentities
    (now : Text)
    (view : World → Path → Except FileFault Text)
    (world : World)
    (paths : List Path) : Prop :=
  ∀ first ∈ paths, ∀ second ∈ paths, ∀ former latter,
    snapshotIn now view world first = .ok former →
      snapshotIn now view world second = .ok latter →
        former.identity = latter.identity →
          view world first = view world second

/-- Sources that are looked up in no world stay as they are. -/
theorem isSteady_const
    (now : Text)
    (sources : Path → Except FileFault Text)
    (generator : Generator)
    (paths : List Path)
    (world : World) :
    generator.IsSteady now (fun _ => sources) paths world :=
  fun _ _ _ _ => rfl

/-- Paths have their own identities if different paths have different ones. -/
theorem HaveOwnIdentities.of_ne
    {paths : List Path}
    (areDistinct : ∀ first ∈ paths, ∀ second ∈ paths, first ≠ second →
      ∀ former latter,
        snapshotIn now view world first = .ok former →
          snapshotIn now view world second = .ok latter →
            former.identity ≠ latter.identity) :
    HaveOwnIdentities now view world paths := by
  intro first isFirst second isSecond former latter isFormer isLatter sameIdentity
  by_cases same : first = second
  · rw [same]
  · exact absurd sameIdentity
      (areDistinct first isFirst second isSecond same former latter isFormer isLatter)

/-- The snapshot of a path depends on its source alone. -/
theorem snapshotIn_congr
    {path : Path}
    (same : view after path = view world path) :
    snapshotIn now view after path = snapshotIn now view world path := by
  rw [snapshotIn, snapshotIn, same]

/-- Snapshots of a batch whose sources have identities of their own agree. -/
theorem HaveOwnIdentities.agrees
    {paths : List Path}
    (haveOwnIdentities : HaveOwnIdentities now view world paths)
    {first second : Path}
    (isFirst : first ∈ paths)
    (isSecond : second ∈ paths)
    {former latter : Snapshot}
    (isFormer : snapshotIn now view world first = .ok former)
    (isLatter : snapshotIn now view world second = .ok latter) :
    former.Agrees latter := by
  intro sameIdentity
  have sameSource :=
    haveOwnIdentities first isFirst second isSecond former latter isFormer isLatter sameIdentity
  obtain ⟨source, isRead, ofFirst⟩ := snapshotIn_eq_ok.mp isFormer
  obtain ⟨other, isOtherRead, ofSecond⟩ := snapshotIn_eq_ok.mp isLatter
  obtain rfl := Except.ok.inj (isRead.symm.trans (sameSource.trans isOtherRead))
  exact Snapshot.same_of_ofSource? ofFirst ofSecond

/-- A batch has one outcome for each path. -/
theorem length_generateEach
    (now : Text)
    (reader : SourceReader (StateM World))
    (generator : Generator)
    (paths : List Path)
    (world : World) :
    (generator.generateEach now reader paths :
      StateM World (Generator × List Outcome)) world |>.1.2.length = paths.length := by
  induction paths generalizing generator world with
  | nil =>
      rfl
  | cons path later inductionHypothesis =>
      exact congrArg (· + 1) (inductionHypothesis _ _)

/-- The sources of a batch stay when its first path has had its turn, and so they do later. -/
theorem IsSteady.sources_of_cons
    {first : Path}
    {later : List Path}
    (isSteady : generator.IsSteady now view (first :: later) world)
    {result : Except Error (Option Written)}
    (isFirst :
      (generator.generateFile now (.ofView view) first :
        StateM World (Generator × Except Error (Option Written))) world =
          ((made, result), after)) :
    ∀ done, done <+: later → ∀ path ∈ first :: later,
      view (made.worldAfter now view done after) path = view world path := by
  intro done isDone path isPath
  have same := isSteady (first :: done) (List.prefix_cons_inj first |>.mpr isDone) path isPath
  rw [worldAfter_cons, isFirst] at same
  exact same

/-- The sources of a batch stay while it works through its later paths. -/
theorem IsSteady.of_cons
    {first : Path}
    {later : List Path}
    (isSteady : generator.IsSteady now view (first :: later) world)
    {result : Except Error (Option Written)}
    (isFirst :
      (generator.generateFile now (.ofView view) first :
        StateM World (Generator × Except Error (Option Written))) world =
          ((made, result), after)) :
    (∀ path ∈ later, view after path = view world path) ∧
      made.IsSteady now view later after := by
  have sources := isSteady.sources_of_cons isFirst
  have sourcesNext : ∀ path ∈ later, view after path = view world path :=
    fun path isPath => sources [] List.nil_prefix path (List.mem_cons_of_mem _ isPath)
  refine ⟨sourcesNext, ?_⟩
  intro done isDone path isPath
  rw [sources done isDone path (List.mem_cons_of_mem _ isPath), sourcesNext path isPath]

/-- Every component whose page was made in a batch is current after the batch. -/
theorem isCurrentFor_of_generateEach
    {paths : List Path}
    (isSteady : generator.IsSteady now view paths world)
    (haveOwnIdentities : HaveOwnIdentities now view world paths)
    {outcomes : List Outcome}
    (generated :
      (generator.generateEach now (.ofView view) paths :
        StateM World (Generator × List Outcome)) world = ((made, outcomes), after))
    {path : Path}
    {written : Written}
    (isGenerated : (path, .generated written) ∈ paths.zip outcomes) :
    ∃ snapshot,
      snapshotIn now view world path = .ok snapshot ∧
        written.identity = snapshot.identity ∧ made.registry.IsCurrentFor snapshot := by
  induction paths generalizing generator world outcomes with
  | nil =>
      simp at isGenerated
  | cons first later inductionHypothesis =>
      obtain ⟨between, result, next, others, isFirst, isLater, rfl⟩ :=
        of_generateEach_cons generated
      have sourcesLater := isSteady.sources_of_cons isFirst
      obtain ⟨sourcesNext, isSteadyLater⟩ := isSteady.of_cons isFirst
      rcases List.mem_cons.mp isGenerated with isHead | isOther
      · obtain ⟨rfl, isOutcome⟩ := Prod.mk.inj isHead
        have isResult : result = .ok (some written) := by
          rcases result with _ | _ | page
          · cases isOutcome
          · cases isOutcome
          · obtain rfl := Outcome.generated.inj isOutcome
            rfl
        rw [isResult] at isFirst
        obtain ⟨snapshot, isSnapshot, sameIdentity, isCurrent⟩ :=
          isCurrentFor_of_generateFile isFirst
        refine ⟨snapshot, isSnapshot, sameIdentity, ?_⟩
        -- What the batch records later is of other components or of the same source.
        refine isCurrentFor_of_course isCurrent (course_generateEach ?_ isLater)
        rintro done other rest rfl otherSnapshot isOtherSnapshot
        have isOther : other ∈ path :: (done ++ other :: rest) := by
          simp
        rw [snapshotIn_congr (sourcesLater done (List.prefix_append _ _) other isOther)]
          at isOtherSnapshot
        exact haveOwnIdentities.agrees isOther List.mem_cons_self isOtherSnapshot isSnapshot
      · have haveOwnIdentitiesLater : HaveOwnIdentities now view next later := by
          intro one isOne two isTwo former latter isFormer isLatter sameIdentity
          rw [snapshotIn_congr (sourcesNext one isOne)] at isFormer
          rw [snapshotIn_congr (sourcesNext two isTwo)] at isLatter
          rw [sourcesNext one isOne, sourcesNext two isTwo]
          exact haveOwnIdentities one (List.mem_cons_of_mem _ isOne) two
            (List.mem_cons_of_mem _ isTwo) former latter isFormer isLatter sameIdentity
        obtain ⟨snapshot, isSnapshot, isCurrent⟩ :=
          inductionHypothesis isSteadyLater haveOwnIdentitiesLater isLater isOther
        have isPath := (List.of_mem_zip isOther).1
        rw [snapshotIn_congr (sourcesNext path isPath)] at isSnapshot
        exact ⟨snapshot, isSnapshot, isCurrent⟩

/-! ## Reports -/

/-- The outcome of a path that cannot be read or has no identity. -/
def problemAt? (view : World → Path → Except FileFault Text) (world : World) (path : Path) :
    Option Outcome :=
  match view world path with
  | .error fault => some (.failed path (.sourceUnreadable path fault))
  | .ok source => if Identity.ofSource? source path = none then some (.skipped path) else none

/-- The paths without a snapshot are those that cannot be read or have no identity. -/
theorem problemsIn_eq_filterMap
    (now : Text)
    (view : World → Path → Except FileFault Text)
    (world : World)
    (paths : List Path) :
    problemsIn now view world paths = paths.filterMap (problemAt? view world) := by
  unfold problemsIn
  congr 1
  funext path
  unfold snapshotIn problemAt?
  cases view world path with
  | error fault =>
      rfl
  | ok source =>
      cases isIdentity : Identity.ofSource? source path <;>
        simp [Snapshot.ofSource?, isIdentity]

/--
After a batch over sources that stay as they are, and of which no two claim one component, a
comparison reports every page that was made in the batch as current. It has one result for each
path with a snapshot, and its problems are the paths that cannot be read or have no identity, all in
the order of the paths.
-/
theorem upToDate_after_generateAll
    {paths : List Path}
    (isSteady : generator.IsSteady now view paths world)
    (haveOwnIdentities : HaveOwnIdentities now view world paths)
    (haveVersions : ∀ snapshot ∈ snapshotsIn now view world paths, snapshot.version ≠ [])
    {batch : Batch}
    (generated :
      (generator.generateAll now (.ofView view) paths : StateM World (Generator × Batch)) world =
        ((made, batch), after))
    (time : Text) :
    ∃ report,
      (made.compareFiles time (.ofView view) paths : StateM World Report) after =
          (report, after) ∧
        report.results = (snapshotsIn time view world paths).map made.registry.compare ∧
        report.problems = paths.filterMap (problemAt? view world) ∧
        batch.outcomes.length = paths.length ∧
        ∀ path written,
          (path, .generated written) ∈ paths.zip batch.outcomes →
            ∃ snapshot,
              snapshotIn time view world path = .ok snapshot ∧
                snapshot.identity = written.identity ∧
                (made.registry.compare snapshot).reason = .upToDate ∧
                (made.registry.compare snapshot).needsUpdate = false := by
  have isBatch := of_generateAll generated
  -- The sources that are compared are those of the batch.
  have sameSources : ∀ path ∈ paths, view after path = view world path := by
    intro path isPath
    have same := isSteady paths List.prefix_rfl path isPath
    rw [worldAfter, isBatch] at same
    exact same
  have sameSnapshots : snapshotsIn time view after paths = snapshotsIn time view world paths := by
    refine List.filterMap_congr fun path isPath => ?_
    rw [snapshotIn_congr (sameSources path isPath)]
  have sameProblems :
      paths.filterMap (problemAt? view after) = paths.filterMap (problemAt? view world) := by
    refine List.filterMap_congr fun path isPath => ?_
    rw [problemAt?, problemAt?, sameSources path isPath]
  refine ⟨_, run_compareFiles time view made paths after, ?_, ?_, ?_, ?_⟩
  · rw [sameSnapshots]
  · rw [problemsIn_eq_filterMap, sameProblems]
  · have sameLength := length_generateEach now (.ofView view) generator paths world
    rw [isBatch] at sameLength
    exact sameLength
  · intro path written isGenerated
    obtain ⟨snapshot, isSnapshot, sameIdentity, isCurrent⟩ :=
      isCurrentFor_of_generateEach isSteady haveOwnIdentities isBatch isGenerated
    obtain ⟨source, isRead, isOfSource⟩ := snapshotIn_eq_ok.mp isSnapshot
    obtain ⟨other, isOther, sameOther, sameVersion, sameContent⟩ :=
      Snapshot.exists_ofSource? isOfSource time
    have isPath := (List.of_mem_zip isGenerated).1
    have hasVersion : other.version ≠ [] := by
      rw [sameVersion]
      exact haveVersions snapshot (mem_snapshotsIn.mpr ⟨path, isPath, source, isRead, isOfSource⟩)
    have isUpToDate :=
      (isCurrent.congr sameOther sameVersion sameContent).reason_compare hasVersion
    refine ⟨other, snapshotIn_eq_ok.mpr ⟨source, isRead, isOther⟩,
      sameOther.trans sameIdentity.symm, isUpToDate, ?_⟩
    simp [Registry.needsUpdate_compare, isUpToDate]

end Generator

/-! ## A batch with a path that cannot be read -/

namespace Session.Small

/-- A path at which there is no file. -/
def missing : Path :=
  ⟨"b.tsx".toList⟩

/-- One path has a source. -/
def sources : Path → Except FileFault Text :=
  fun other => if other = path then .ok latter else .error .notFound

/-- The path with a source stands twice among those of the batch. -/
def paths : List Path :=
  [path, missing, path]

/-- The run of a batch in which one source cannot be read. -/
def batchRun : (Generator × Batch) × World :=
  (generator.generateAll [] (.ofView fun _ => sources) paths :
    StateM World (Generator × Batch)) world

/-- The pages of the path with a source are made, and the other path fails. -/
theorem outcomes_batchRun :
    batchRun.1.2.outcomes =
      [.generated ⟨"A".toList, options.pagePath "A".toList⟩,
        .failed missing (.sourceUnreadable missing .notFound),
        .generated ⟨"A".toList, options.pagePath "A".toList⟩] := by
  decide +kernel

private theorem haveOwnIdentities :
    Generator.HaveOwnIdentities [] (fun _ => sources) world paths := by
  have noSnapshot : ∀ snapshot,
      Generator.snapshotIn [] (fun _ => sources) world missing ≠ .ok snapshot := by
    intro snapshot isSnapshot
    obtain ⟨source, isRead, _⟩ := Generator.snapshotIn_eq_ok.mp isSnapshot
    cases isRead
  have isPathOrMissing : ∀ other ∈ paths, other = path ∨ other = missing := by
    simp [paths]
  apply Generator.HaveOwnIdentities.of_ne
  intro first isFirst second isSecond different former latter isFormer isLatter
  rcases isPathOrMissing first isFirst with rfl | rfl
  · rcases isPathOrMissing second isSecond with rfl | rfl
    · contradiction
    · exact absurd isLatter (noSnapshot latter)
  · exact absurd isFormer (noSnapshot former)

private theorem haveVersions :
    ∀ snapshot ∈ Generator.snapshotsIn [] (fun _ => sources) world paths,
      snapshot.version ≠ [] := by
  decide

end Session.Small

/-- A batch in which one path fails is clean for the other one. -/
theorem Generator.upToDate_after_generateAll_small :
    ∃ made batch after report,
      (Session.Small.generator.generateAll [] (.ofView fun _ => Session.Small.sources)
          Session.Small.paths : StateM World (Generator × Batch)) Session.Small.world =
        ((made, batch), after) ∧
      (made.compareFiles "later".toList (.ofView fun _ => Session.Small.sources)
          Session.Small.paths : StateM World Report) after = (report, after) ∧
      report.problems =
        [.failed Session.Small.missing (.sourceUnreadable Session.Small.missing .notFound)] ∧
      ∃ snapshot,
        snapshot.identity = "A".toList ∧ (made.registry.compare snapshot).reason = .upToDate := by
  rcases isRun : Session.Small.batchRun with ⟨⟨made, batch⟩, after⟩
  have isSteady :=
    isSteady_const [] Session.Small.sources Session.Small.generator Session.Small.paths
      Session.Small.world
  obtain ⟨report, isReport, _, problems, _, upToDate⟩ :=
    upToDate_after_generateAll isSteady Session.Small.haveOwnIdentities
      Session.Small.haveVersions isRun "later".toList
  refine ⟨made, batch, after, report, isRun, isReport, ?_, ?_⟩
  · rw [problems]
    decide
  · have outcomes := Session.Small.outcomes_batchRun
    rw [isRun] at outcomes
    have isGenerated :
        (Session.Small.path,
            .generated ⟨"A".toList, Session.Small.options.pagePath "A".toList⟩) ∈
          Session.Small.paths.zip batch.outcomes := by
      rw [outcomes]
      exact List.mem_cons_self
    obtain ⟨snapshot, _, isIdentity, isUpToDate, _⟩ := upToDate _ _ isGenerated
    exact ⟨snapshot, isIdentity, isUpToDate⟩

end ComponentPages
