import ComponentPages.Proofs.Generator.Deeds
import ComponentPages.Proofs.Registry.Recording

namespace ComponentPages

/-!
# The course of an operation

Whatever a generator is asked to do, it takes a course of a few kinds of steps: it records a
snapshot, changes files, marks a component that it knows, or saves the registry. Each step has its
deeds. So what every step keeps is kept by every operation, wherever the operation fails.
-/

namespace Generator

/--
Whether a generator in a world comes to another generator and world by deeds, when it only records
snapshots that are allowed.
-/
inductive Course (allowed : Snapshot → Prop) (generator : Generator) (world : World) :
    List Deed → Generator → World → Prop where
  | start : Course allowed generator world [] generator world
  /-- A snapshot is recorded. -/
  | record
      {deeds : List Deed}
      {made : Generator}
      {after : World}
      (course : Course allowed generator world deeds made after)
      (now : Text)
      {snapshot : Snapshot}
      (isAllowed : allowed snapshot) :
      Course allowed generator world (deeds ++ [.recorded snapshot])
        (made.record now snapshot) after
  /-- Files are changed. -/
  | move
      {deeds : List Deed}
      {made : Generator}
      {after moved : World}
      (course : Course allowed generator world deeds made after)
      (keeps : after.disk.Keeps moved.disk) :
      Course allowed generator world (deeds ++ disturbance made.registry.path after moved)
        made moved
  /-- A component is marked as documented. -/
  | mark
      {deeds : List Deed}
      {made : Generator}
      {after : World}
      (course : Course allowed generator world deeds made after)
      (now : Text)
      {snapshot : Snapshot}
      (isAllowed : allowed snapshot)
      {entry : Entry}
      (isKnown : made.registry.entry? snapshot.identity = some entry) :
      Course allowed generator world (deeds ++ [.written snapshot])
        (made.mark now snapshot) after
  /-- The registry is saved, or saving it fails. -/
  | save
      {deeds : List Deed}
      {made : Generator}
      {after saved : World}
      {result : Except FileFault Unit}
      (course : Course allowed generator world deeds made after)
      (isSaved :
        (made.registry.save : StateM World (Except FileFault Unit)) after = (result, saved)) :
      Course allowed generator world (deeds ++ savingDeeds made.registry after) made saved

variable {allowed : Snapshot → Prop} {generator made : Generator} {world after : World}

/-- One course after another is a course. -/
theorem Course.trans
    {deeds more : List Deed}
    {final : Generator}
    {last : World}
    (first : generator.Course allowed world deeds made after)
    (second : made.Course allowed after more final last) :
    generator.Course allowed world (deeds ++ more) final last := by
  induction second with
  | start =>
      rw [List.append_nil]
      exact first
  | record course now isAllowed inductionHypothesis =>
      rw [← List.append_assoc]
      exact inductionHypothesis.record now isAllowed
  | move course keeps inductionHypothesis =>
      rw [← List.append_assoc]
      exact inductionHypothesis.move keeps
  | mark course now isAllowed isKnown inductionHypothesis =>
      rw [← List.append_assoc]
      exact inductionHypothesis.mark now isAllowed isKnown
  | save course isSaved inductionHypothesis =>
      rw [← List.append_assoc]
      exact inductionHypothesis.save isSaved

/-! ## Pages -/

/-- Making the page of a snapshot is a course, wherever it fails. -/
theorem course_document
    (now source : Text)
    {snapshot : Snapshot}
    (isAllowed : allowed snapshot)
    {result : Except Error Written}
    (documented :
      (generator.document now snapshot source :
        StateM World (Generator × Except Error Written)) world = ((made, result), after)) :
    generator.Course allowed world (generator.documentDeeds now snapshot source world)
      made after := by
  have recorded :
      generator.Course allowed world ([] ++ [.recorded snapshot])
        (generator.record now snapshot) world :=
    .record .start now isAllowed
  have samePath : (generator.record now snapshot).registry.path = generator.registry.path :=
    Registry.path_upsert generator.registry now snapshot
  obtain ⟨history, isKnown⟩ := Registry.entry?_upsert_self generator.registry now snapshot
  unfold documentDeeds
  dsimp only
  cases documenting_of_document documented with
  | unwritten isWritten =>
      -- The page is missing, but the snapshot stays on record.
      have moved := recorded.move (keeps_of_writePage isWritten)
      rw [samePath] at moved
      rw [isWritten]
      exact moved
  | unsaved isWritten isSaved =>
      have moved := recorded.move (keeps_of_writePage isWritten)
      rw [samePath] at moved
      rw [isWritten]
      simpa using (moved.mark now isAllowed isKnown).save isSaved
  | complete isWritten isSaved =>
      have moved := recorded.move (keeps_of_writePage isWritten)
      rw [samePath] at moved
      rw [isWritten]
      simpa using (moved.mark now isAllowed isKnown).save isSaved

/-- Generating takes a course of the deeds that the source calls for. -/
theorem course_generate
    (now : Text)
    {source : Text}
    {path : Path}
    (isAllowed : ∀ snapshot, Snapshot.ofSource? now source path = some snapshot →
      allowed snapshot)
    {result : Except Error (Option Written)}
    (generated :
      (generator.generate now source path :
        StateM World (Generator × Except Error (Option Written))) world =
          ((made, result), after)) :
    generator.Course allowed world (generator.sourceDeeds now source path world) made after := by
  rw [run_generate] at generated
  unfold sourceDeeds
  cases isSnapshot : Snapshot.ofSource? now source path with
  | none =>
      rw [isSnapshot] at generated
      obtain ⟨isMade, rfl⟩ := Prod.mk.inj generated
      obtain ⟨rfl, _⟩ := Prod.mk.inj isMade
      exact .start
  | some snapshot =>
      rw [isSnapshot] at generated
      obtain ⟨isMade, rfl⟩ := Prod.mk.inj generated
      obtain ⟨rfl, _⟩ := Prod.mk.inj isMade
      exact course_document now source (isAllowed snapshot isSnapshot) rfl

/-- Generating for a file takes a course of the deeds that its source calls for. -/
theorem course_generateFile
    {now : Text}
    {view : World → Path → Except FileFault Text}
    {path : Path}
    (isAllowed : ∀ snapshot, snapshotIn now view world path = .ok snapshot → allowed snapshot)
    {result : Except Error (Option Written)}
    (generated :
      (generator.generateFile now (.ofView view) path :
        StateM World (Generator × Except Error (Option Written))) world =
          ((made, result), after)) :
    generator.Course allowed world (generator.fileDeeds now view path world) made after := by
  rw [run_generateFile] at generated
  unfold fileDeeds
  cases isRead : view world path with
  | error fault =>
      rw [isRead] at generated
      obtain ⟨isMade, rfl⟩ := Prod.mk.inj generated
      obtain ⟨rfl, _⟩ := Prod.mk.inj isMade
      exact .start
  | ok source =>
      rw [isRead] at generated
      refine course_generate now ?_ generated
      intro snapshot isSnapshot
      exact isAllowed snapshot (snapshotIn_eq_ok.mpr ⟨source, isRead, isSnapshot⟩)

/-! ## Batches -/

/-- The world that the pages of paths leave. -/
def worldAfter
    (now : Text)
    (view : World → Path → Except FileFault Text)
    (generator : Generator)
    (paths : List Path)
    (world : World) : World :=
  ((generator.generateEach now (.ofView view) paths :
    StateM World (Generator × List Outcome)) world).2

/--
The first page of a batch is made in the world as it is, the others in the world that it leaves.
-/
theorem worldAfter_cons
    (now : Text)
    (view : World → Path → Except FileFault Text)
    (generator : Generator)
    (path : Path)
    (later : List Path)
    (world : World) :
    generator.worldAfter now view (path :: later) world =
      let first :=
        (generator.generateFile now (.ofView view) path :
          StateM World (Generator × Except Error (Option Written))) world
      first.1.1.worldAfter now view later first.2 :=
  rfl

/-- A batch is a course if each path has an allowed snapshot, or none, when its turn comes. -/
theorem course_generateEach
    {now : Text}
    {view : World → Path → Except FileFault Text}
    {paths : List Path}
    (areAllowed : ∀ done path later,
      paths = done ++ path :: later →
        ∀ snapshot,
          snapshotIn now view (generator.worldAfter now view done world) path = .ok snapshot →
            allowed snapshot)
    {outcomes : List Outcome}
    (generated :
      (generator.generateEach now (.ofView view) paths :
        StateM World (Generator × List Outcome)) world = ((made, outcomes), after)) :
    generator.Course allowed world (generator.eachDeeds now view paths world) made after := by
  induction paths generalizing generator world outcomes with
  | nil =>
      obtain ⟨isMade, rfl⟩ := Prod.mk.inj generated
      obtain ⟨rfl, _⟩ := Prod.mk.inj isMade
      exact .start
  | cons path later inductionHypothesis =>
      obtain ⟨between, result, next, others, isFirst, isLater, _⟩ :=
        of_generateEach_cons generated
      unfold eachDeeds
      dsimp only
      rw [isFirst]
      have firstAllowed := areAllowed [] path later rfl
      refine (course_generateFile firstAllowed isFirst).trans (inductionHypothesis ?_ isLater)
      intro done other rest isLaterPath snapshot isSnapshot
      refine areAllowed (path :: done) other rest (congrArg _ isLaterPath) snapshot ?_
      rw [worldAfter_cons, isFirst]
      exact isSnapshot

/-- Recording snapshots takes a course in which each is recorded. -/
theorem course_recordAll
    (now : Text)
    {snapshots : List Snapshot}
    (areAllowed : ∀ snapshot ∈ snapshots, allowed snapshot) :
    generator.Course allowed world (snapshots.map .recorded)
      { generator with registry := generator.registry.upsertAll now snapshots } world := by
  induction snapshots generalizing generator with
  | nil =>
      exact .start
  | cons first rest inductionHypothesis =>
      have recorded :
          generator.Course allowed world ([] ++ [.recorded first])
            (generator.record now first) world :=
        .record .start now (areAllowed first List.mem_cons_self)
      have others : ∀ snapshot ∈ rest, allowed snapshot := by
        intro snapshot member
        exact areAllowed snapshot (List.mem_cons_of_mem _ member)
      exact recorded.trans (inductionHypothesis others)

/-- Recording snapshots of paths and saving the registry is a course. -/
theorem course_refresh
    {now : Text}
    {view : World → Path → Except FileFault Text}
    {paths : List Path}
    (areAllowed : ∀ snapshot ∈ snapshotsIn now view world paths, allowed snapshot)
    {result : Except Error (List Outcome)}
    (refreshed :
      (generator.refresh now (.ofView view) paths :
        StateM World (Generator × Except Error (List Outcome))) world =
          ((made, result), after)) :
    generator.Course allowed world (generator.refreshDeeds now view paths world) made after := by
  have recorded :
      generator.Course allowed world ((snapshotsIn now view world paths).map .recorded)
        { generator with
          registry := generator.registry.upsertAll now (snapshotsIn now view world paths) }
        world :=
    course_recordAll now areAllowed
  rw [run_refresh] at refreshed
  unfold refreshDeeds
  dsimp only at refreshed ⊢
  split at refreshed
  · rename_i isEmpty
    obtain ⟨isMade, rfl⟩ := Prod.mk.inj refreshed
    obtain ⟨rfl, _⟩ := Prod.mk.inj isMade
    rw [if_pos isEmpty]
    rw [List.isEmpty_iff.mp isEmpty] at recorded ⊢
    exact recorded
  · rename_i notEmpty
    rw [if_neg notEmpty]
    rcases isSaved :
        ((generator.registry.upsertAll now (snapshotsIn now view world paths)).save :
          StateM World (Except FileFault Unit)) world with ⟨_ | _, saved⟩
    · rw [isSaved] at refreshed
      obtain ⟨isMade, rfl⟩ := Prod.mk.inj refreshed
      obtain ⟨rfl, _⟩ := Prod.mk.inj isMade
      exact recorded.save isSaved
    · rw [isSaved] at refreshed
      obtain ⟨isMade, rfl⟩ := Prod.mk.inj refreshed
      obtain ⟨rfl, _⟩ := Prod.mk.inj isMade
      exact recorded.save isSaved

end Generator

end ComponentPages
