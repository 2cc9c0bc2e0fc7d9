import ComponentPages.Proofs.Generator.CleanBatch

namespace ComponentPages

/-!
# Batches with failing paths

A batch has one outcome for each path, in the order of the paths, and each outcome counts once. A
path that cannot be read or has no identity leaves the generator and the world as they are, so the
batch without the path takes the same course, and all other outcomes are the same.
-/

namespace Batch

/-- Each outcome of a batch is counted in one of three ways. -/
theorem processed_eq (batch : Batch) :
    batch.processed = batch.updated + batch.skipped + batch.errors := by
  obtain ⟨outcomes⟩ := batch
  unfold processed updated skipped errors
  induction outcomes with
  | nil =>
      rfl
  | cons outcome later inductionHypothesis =>
      dsimp only at inductionHypothesis ⊢
      rw [List.length_cons, inductionHypothesis]
      cases outcome <;>
        simp only [List.countP_cons, Outcome.isGenerated, Outcome.isSkipped, Outcome.isFailed,
          Bool.false_eq_true, ↓reduceIte] <;>
        omega

end Batch

namespace Generator

variable {now : Text} {view : World → Path → Except FileFault Text} {generator : Generator}
variable {world : World}

/-- A batch goes through the later paths from where the earlier ones have brought it. -/
theorem run_generateEach_append
    (now : Text)
    (reader : SourceReader (StateM World))
    (generator : Generator)
    (earlier later : List Path)
    (world : World) :
    (generator.generateEach now reader (earlier ++ later) :
        StateM World (Generator × List Outcome)) world =
      let first :=
        (generator.generateEach now reader earlier :
          StateM World (Generator × List Outcome)) world
      let others :=
        (first.1.1.generateEach now reader later :
          StateM World (Generator × List Outcome)) first.2
      ((others.1.1, first.1.2 ++ others.1.2), others.2) := by
  induction earlier generalizing generator world with
  | nil =>
      rfl
  | cons path rest inductionHypothesis =>
      rw [List.cons_append, run_generateEach_cons, run_generateEach_cons]
      dsimp only
      rw [inductionHypothesis]
      rfl

/-- The generator that the pages of paths leave. -/
def generatorAfter
    (now : Text)
    (view : World → Path → Except FileFault Text)
    (generator : Generator)
    (paths : List Path)
    (world : World) : Generator :=
  ((generator.generateEach now (.ofView view) paths :
    StateM World (Generator × List Outcome)) world).1.1

/-- A path without a snapshot has no page. -/
theorem problemAt?_ne_generated
    (view : World → Path → Except FileFault Text)
    (world : World)
    (path : Path)
    (written : Written) :
    problemAt? view world path ≠ some (.generated written) := by
  unfold problemAt?
  split
  · simp
  · split <;> simp

/-- A path without a snapshot leaves the generator and the world as they are. -/
theorem run_generateFile_of_problem
    {path : Path}
    {problem : Outcome}
    (isProblem : problemAt? view world path = some problem)
    (now : Text)
    (generator : Generator) :
    ∃ result,
      (generator.generateFile now (.ofView view) path :
        StateM World (Generator × Except Error (Option Written))) world =
          ((generator, result), world) ∧
        Outcome.ofResult path result = problem := by
  rw [run_generateFile]
  unfold problemAt? at isProblem
  cases isRead : view world path with
  | error fault =>
      rw [isRead] at isProblem
      exact ⟨_, rfl, Option.some.inj isProblem⟩
  | ok source =>
      rw [isRead] at isProblem
      dsimp only at isProblem ⊢
      cases isIdentity : Identity.ofSource? source path with
      | none =>
          have noSnapshot : Snapshot.ofSource? now source path = none := by
            rw [Snapshot.ofSource?, isIdentity, Option.map_none]
          rw [isIdentity, if_pos rfl] at isProblem
          rw [run_generate, noSnapshot]
          exact ⟨_, rfl, Option.some.inj isProblem⟩
      | some identity =>
          rw [isIdentity, if_neg (by simp)] at isProblem
          contradiction

/-- A problem is what stands in the place of a snapshot. -/
theorem snapshotIn_of_problem
    {path : Path}
    {problem : Outcome}
    (isProblem : problemAt? view world path = some problem)
    (now : Text) :
    snapshotIn now view world path = .error problem := by
  unfold problemAt? at isProblem
  unfold snapshotIn
  cases isRead : view world path with
  | error fault =>
      rw [isRead] at isProblem
      exact congrArg _ (Option.some.inj isProblem)
  | ok source =>
      rw [isRead] at isProblem
      dsimp only at isProblem ⊢
      split at isProblem
      · rename_i noIdentity
        rw [Snapshot.ofSource?, noIdentity]
        exact congrArg _ (Option.some.inj isProblem)
      · contradiction

/-- A path that is no problem has a snapshot. -/
theorem exists_snapshot_of_no_problem
    {path : Path}
    (noProblem : problemAt? view world path = none)
    (now : Text) :
    ∃ source snapshot,
      view world path = .ok source ∧ Snapshot.ofSource? now source path = some snapshot := by
  unfold problemAt? at noProblem
  cases isRead : view world path with
  | error fault =>
      rw [isRead] at noProblem
      contradiction
  | ok source =>
      rw [isRead] at noProblem
      dsimp only at noProblem
      cases isSnapshot : Snapshot.ofSource? now source path with
      | none =>
          rw [if_pos (Option.map_eq_none_iff.mp isSnapshot)] at noProblem
          contradiction
      | some snapshot =>
          exact ⟨source, snapshot, rfl, isSnapshot⟩

/-- A path either has no snapshot and changes nothing, or the page of its snapshot is made. -/
theorem problem_or_documenting
    {path : Path}
    {made : Generator}
    {result : Except Error (Option Written)}
    {after : World}
    (generated :
      (generator.generateFile now (.ofView view) path :
        StateM World (Generator × Except Error (Option Written))) world =
          ((made, result), after)) :
    (problemAt? view world path = some (.ofResult path result) ∧
      made = generator ∧ after = world) ∨
      ∃ source snapshot documented,
        view world path = .ok source ∧
          Snapshot.ofSource? now source path = some snapshot ∧
          result = documented.map some ∧
          generator.Documenting now snapshot source world made documented after := by
  cases isProblem : problemAt? view world path with
  | some problem =>
      obtain ⟨other, isRun, rfl⟩ := run_generateFile_of_problem isProblem now generator
      obtain ⟨isMade, rfl⟩ := Prod.mk.inj (isRun.symm.trans generated)
      obtain ⟨rfl, rfl⟩ := Prod.mk.inj isMade
      exact .inl ⟨rfl, rfl, rfl⟩
  | none =>
      obtain ⟨source, snapshot, isRead, isSnapshot⟩ := exists_snapshot_of_no_problem isProblem now
      rw [run_generateFile, isRead] at generated
      obtain ⟨documented, isResult, documenting⟩ := documenting_of_generate isSnapshot generated
      exact .inr ⟨source, snapshot, documented, isRead, isSnapshot, isResult, documenting⟩

/-- The outcome at a position is that of its path, from where the paths before it have led. -/
theorem outcome_of_generateEach
    (now : Text)
    (view : World → Path → Except FileFault Text)
    (generator : Generator)
    (earlier : List Path)
    (path : Path)
    (later : List Path)
    (world : World) :
    ((generator.generateEach now (.ofView view) (earlier ++ path :: later) :
        StateM World (Generator × List Outcome)) world).1.2[earlier.length]? =
      some (.ofResult path
        ((generator.generatorAfter now view earlier world).generateFile now (.ofView view) path
          (generator.worldAfter now view earlier world)).1.2) := by
  have sameLength := length_generateEach now (.ofView view) generator earlier world
  rw [run_generateEach_append]
  dsimp only
  rw [← sameLength, List.getElem?_append_right le_rfl, Nat.sub_self, run_generateEach_cons]
  rfl

/-- A batch is made in the world that the batch before it leaves. -/
theorem worldAfter_append
    (now : Text)
    (view : World → Path → Except FileFault Text)
    (generator : Generator)
    (earlier later : List Path)
    (world : World) :
    generator.worldAfter now view (earlier ++ later) world =
      (generator.generatorAfter now view earlier world).worldAfter now view later
        (generator.worldAfter now view earlier world) := by
  rw [worldAfter, run_generateEach_append]
  rfl

/-- A batch makes the page of a path between the pages of the paths before and behind it. -/
theorem parts_of_generateEach
    {earlier later : List Path}
    {path : Path}
    {made : Generator}
    {outcomes : List Outcome}
    {after : World}
    (generated :
      (generator.generateEach now (.ofView view) (earlier ++ path :: later) :
        StateM World (Generator × List Outcome)) world = ((made, outcomes), after)) :
    ∃ next result between others,
      ((generator.generatorAfter now view earlier world).generateFile now (.ofView view) path :
        StateM World (Generator × Except Error (Option Written)))
          (generator.worldAfter now view earlier world) = ((next, result), between) ∧
        (next.generateEach now (.ofView view) later :
          StateM World (Generator × List Outcome)) between = ((made, others), after) ∧
        outcomes[earlier.length]? = some (.ofResult path result) := by
  have isOutcome := outcome_of_generateEach now view generator earlier path later world
  rw [generated] at isOutcome
  rw [run_generateEach_append] at generated
  dsimp only at generated
  rw [run_generateEach_cons] at generated
  obtain ⟨isMade, rfl⟩ := Prod.mk.inj generated
  obtain ⟨rfl, _⟩ := Prod.mk.inj isMade
  exact ⟨_, _, _, _, rfl, rfl, isOutcome⟩

/-- Without a path that has no snapshot the batch takes the same course. -/
theorem run_generateEach_of_problem
    (now : Text)
    (generator : Generator)
    {earlier : List Path}
    {path : Path}
    {problem : Outcome}
    (isProblem :
      problemAt? view (generator.worldAfter now view earlier world) path = some problem)
    (later : List Path) :
    let whole :=
      (generator.generateEach now (.ofView view) (earlier ++ path :: later) :
        StateM World (Generator × List Outcome)) world
    whole.1.2[earlier.length]? = some problem ∧
      (generator.generateEach now (.ofView view) (earlier ++ later) :
        StateM World (Generator × List Outcome)) world =
          ((whole.1.1, whole.1.2.eraseIdx earlier.length), whole.2) := by
  have sameLength := length_generateEach now (.ofView view) generator earlier world
  obtain ⟨result, isRun, isOutcome⟩ :=
    run_generateFile_of_problem isProblem now (generator.generatorAfter now view earlier world)
  dsimp only
  constructor
  · rw [outcome_of_generateEach, isRun, isOutcome]
  · rw [run_generateEach_append, run_generateEach_append]
    dsimp only
    rw [← sameLength, List.eraseIdx_append_of_length_le le_rfl, Nat.sub_self,
      run_generateEach_cons]
    unfold generatorAfter worldAfter at isRun
    rw [isRun]
    rfl

/--
A batch has one outcome for each path, at the position of the path and made from where the paths
before it have led, and every outcome is counted once. If the source at a position cannot be read
or has no identity when its turn comes, the batch without this position ends with the same
generator in the same world, and its outcomes are the others.
-/
theorem isolated_generateAll
    (now : Text)
    (view : World → Path → Except FileFault Text)
    (generator : Generator)
    (paths : List Path)
    (world : World) :
    let whole :=
      (generator.generateAll now (.ofView view) paths : StateM World (Generator × Batch)) world
    whole.1.2.processed = paths.length ∧
      whole.1.2.processed = whole.1.2.updated + whole.1.2.skipped + whole.1.2.errors ∧
      ∀ position path,
        paths[position]? = some path →
          let before := generator.worldAfter now view (paths.take position) world
          whole.1.2.outcomes[position]? =
              some (.ofResult path
                ((generator.generatorAfter now view (paths.take position) world).generateFile now
                  (.ofView view) path before).1.2) ∧
            ∀ problem,
              problemAt? view before path = some problem →
                whole.1.2.outcomes[position]? = some problem ∧
                  (generator.generateAll now (.ofView view) (paths.eraseIdx position) :
                    StateM World (Generator × Batch)) world =
                      ((whole.1.1, ⟨whole.1.2.outcomes.eraseIdx position⟩), whole.2) := by
  refine ⟨length_generateEach now (.ofView view) generator paths world, Batch.processed_eq _, ?_⟩
  intro position path isPath
  obtain ⟨earlier, later, rfl, rfl⟩ :
      ∃ earlier later, paths = earlier ++ path :: later ∧ position = earlier.length := by
    obtain ⟨isInside, rfl⟩ := List.getElem?_eq_some_iff.mp isPath
    refine ⟨paths.take position, paths.drop (position + 1), ?_, ?_⟩
    · rw [List.getElem_cons_drop, List.take_append_drop]
    · rw [List.length_take, Nat.min_eq_left (Nat.le_of_lt isInside)]
  rw [List.take_left, List.eraseIdx_append_of_length_le le_rfl, Nat.sub_self,
    List.eraseIdx_cons_zero]
  refine ⟨outcome_of_generateEach now view generator earlier path later world, ?_⟩
  intro problem isProblem
  obtain ⟨isOutcome, isRun⟩ := run_generateEach_of_problem now generator isProblem later
  refine ⟨isOutcome, ?_⟩
  unfold generateAll
  rw [World.run_bind, isRun]
  rfl

/-- The small batch takes the same course without the path that cannot be read. -/
theorem isolated_generateAll_small :
    (Session.Small.generator.generateAll [] (.ofView fun _ => Session.Small.sources)
        [Session.Small.path, Session.Small.path] : StateM World (Generator × Batch))
          Session.Small.world =
      ((Session.Small.batchRun.1.1, ⟨Session.Small.batchRun.1.2.outcomes.eraseIdx 1⟩),
        Session.Small.batchRun.2) := by
  have isProblem : ∀ world,
      problemAt? (fun _ => Session.Small.sources) world Session.Small.missing =
        some (.failed Session.Small.missing (.sourceUnreadable Session.Small.missing .notFound)) :=
    fun _ => rfl
  have isErased : Session.Small.paths.eraseIdx 1 = [Session.Small.path, Session.Small.path] :=
    rfl
  have isolated :=
    ((isolated_generateAll [] (fun _ => Session.Small.sources) Session.Small.generator
      Session.Small.paths Session.Small.world).2.2 1 Session.Small.missing rfl).2 _ (isProblem _)
  rw [← isErased]
  unfold Session.Small.batchRun
  exact isolated.2

end Generator

end ComponentPages
