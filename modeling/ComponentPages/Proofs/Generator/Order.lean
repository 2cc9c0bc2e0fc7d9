import ComponentPages.Proofs.Generator.Pages

namespace ComponentPages

/-!
# The order of a batch

A batch that succeeds leaves the same registry and the same files in whichever order its paths
stand. What making one page does is a function of what the registry and the files hold, and for two
components with different pages the two functions commute: the store is written whole each time,
and a page shows no entry but its own.
-/

namespace Registry

variable {registry other : Registry} {now : Text} {snapshot : Snapshot}

/-- The registry with a snapshot recorded and its page marked as written. -/
def documented (now : Text) (registry : Registry) (snapshot : Snapshot) : Registry :=
  let recorded := (registry.upsert now snapshot).1
  (recorded.markDocumented? now snapshot.identity snapshot.version).getD recorded

/-- What recording makes of an entry depends on this entry alone. -/
private theorem entry?_upsert_congr
    (same : registry.entry? snapshot.identity = other.entry? snapshot.identity)
    (now : Text) :
    Registry.entry? (registry.upsert now snapshot).1 snapshot.identity =
      Registry.entry? (other.upsert now snapshot).1 snapshot.identity := by
  unfold upsert
  rw [same]
  dsimp only
  split <;> rw [entry?_put_self, entry?_put_self]

private theorem entry?_documented_congr
    (same : registry.entry? snapshot.identity = other.entry? snapshot.identity)
    (now : Text) :
    Registry.entry? (registry.documented now snapshot) snapshot.identity =
      Registry.entry? (other.documented now snapshot) snapshot.identity := by
  rw [documented, entry?_markDocumented_self, entry?_upsert_congr same, documented,
    entry?_markDocumented_self]

private theorem entry?_documented_of_ne
    {identity : Text}
    (different : identity ≠ snapshot.identity)
    (registry : Registry)
    (now : Text) :
    Registry.entry? (registry.documented now snapshot) identity = registry.entry? identity :=
  (entry?_markDocumented_of_ne different _ now _).trans (entry?_upsert_of_ne different _ now)

private theorem path_documented
    (registry : Registry)
    (now : Text)
    (snapshot : Snapshot) :
    (registry.documented now snapshot).path = registry.path := by
  rw [documented, path_markDocumented, path_upsert]

/-- Registries are equal if they are stored at one path and have the same entries. -/
theorem eq_of_entry?
    (samePath : registry.path = other.path)
    (sameEntries : ∀ identity, registry.entry? identity = other.entry? identity) :
    registry = other := by
  cases registry
  cases other
  obtain rfl : _ = _ := samePath
  exact congrArg _ (Keyed.eq_of_find? sameEntries)

/-- Different components can be recorded and marked in either order. -/
theorem documented_comm
    {former latter : Snapshot}
    (different : former.identity ≠ latter.identity)
    (registry : Registry)
    (now : Text) :
    (registry.documented now former).documented now latter =
      (registry.documented now latter).documented now former := by
  refine eq_of_entry? (by simp only [path_documented]) ?_
  intro identity
  by_cases isLatter : identity = latter.identity
  · have notFormer : latter.identity ≠ former.identity := Ne.symm different
    rw [isLatter, entry?_documented_of_ne notFormer]
    exact entry?_documented_congr (entry?_documented_of_ne notFormer registry now) now
  · rw [entry?_documented_of_ne isLatter]
    by_cases isFormer : identity = former.identity
    · rw [isFormer]
      exact entry?_documented_congr (entry?_documented_of_ne different registry now).symm now
    · rw [entry?_documented_of_ne isFormer, entry?_documented_of_ne isFormer,
        entry?_documented_of_ne isLatter]

end Registry

namespace Generator

variable {now source : Text} {view : World → Path → Except FileFault Text}
variable {generator made : Generator} {world after : World} {snapshot : Snapshot}

/-- A page that is made for one entry does not depend on the others. -/
private theorem pageOf_record_congr
    {registry other : Registry}
    (same : registry.entry? snapshot.identity = other.entry? snapshot.identity)
    (generator : Generator)
    (now source : Text) :
    (Generator.record now { generator with registry := registry } snapshot).pageOf now snapshot
        source =
      (Generator.record now { generator with registry := other } snapshot).pageOf now snapshot
        source := by
  have sameHistory :
      (Generator.record now { generator with registry := registry } snapshot).registry.history?
          snapshot.identity =
        (Generator.record now { generator with registry := other } snapshot).registry.history?
          snapshot.identity :=
    congrArg (Option.map Entry.history) (Registry.entry?_upsert_congr same now)
  have sameOptions :
      (Generator.record now { generator with registry := registry } snapshot).options =
        (Generator.record now { generator with registry := other } snapshot).options :=
    rfl
  have sameTemplate :
      (Generator.record now { generator with registry := registry } snapshot).template =
        (Generator.record now { generator with registry := other } snapshot).template :=
    rfl
  exact pageOf_congr sameOptions sameTemplate sameHistory now source

/-! ## Holdings -/

/-- What the registry and the files hold. -/
structure Holding where
  registry : Registry
  files : Location → Option Bytes

namespace Holding

/-- What a generator in a world holds. -/
def of (generator : Generator) (world : World) : Holding :=
  ⟨generator.registry, world.disk.file?⟩

/-- What is held once the page of a snapshot was made with the settings of a generator. -/
def document
    (now : Text)
    (generator : Generator)
    (world : World)
    (snapshot : Snapshot)
    (source : Text)
    (held : Holding) : Holding where
  registry := held.registry.documented now snapshot
  files location :=
    if location = generator.storePlace world then
      some (held.registry.documented now snapshot).toBytes
    else if generator.temporaryPlace world <+: location then
      none
    else if location = generator.pagePlace world snapshot.identity then
      some (Utf8.encode
        ((Generator.record now { generator with registry := held.registry } snapshot).pageOf now
          snapshot source))
    else
      held.files location

/-- What is held after the turn of a path. -/
def visit
    (now : Text)
    (view : World → Path → Except FileFault Text)
    (generator : Generator)
    (world : World)
    (held : Holding)
    (path : Path) : Holding :=
  match view world path with
  | .error _ => held
  | .ok source =>
      match Snapshot.ofSource? now source path with
      | none => held
      | some snapshot => held.document now generator world snapshot source

/-- Pages of different components at different places can be made in either order. -/
theorem document_comm
    {former latter : Snapshot}
    (otherIdentity : former.identity ≠ latter.identity)
    (otherPlace :
      generator.pagePlace world former.identity ≠ generator.pagePlace world latter.identity)
    (now formerSource latterSource : Text)
    (held : Holding) :
    (held.document now generator world former formerSource).document now generator world latter
        latterSource =
      (held.document now generator world latter latterSource).document now generator world former
        formerSource := by
  have sameRegistry := Registry.documented_comm otherIdentity held.registry now
  have formerPage := pageOf_record_congr
    (Registry.entry?_documented_of_ne otherIdentity held.registry now) generator now formerSource
  have latterPage := pageOf_record_congr
    (Registry.entry?_documented_of_ne (Ne.symm otherIdentity) held.registry now) generator now
    latterSource
  unfold document
  dsimp only
  rw [sameRegistry, formerPage, latterPage]
  congr 1
  funext location
  -- The store and its temporary file come first, and the places of the pages differ.
  by_cases isStore : location = generator.storePlace world
  · rw [if_pos isStore, if_pos isStore]
  · by_cases isTemporary : generator.temporaryPlace world <+: location
    · simp only [if_neg isStore, if_pos isTemporary]
    · by_cases isLatter : location = generator.pagePlace world latter.identity
      · have notFormer : location ≠ generator.pagePlace world former.identity := by
          rw [isLatter]
          exact Ne.symm otherPlace
        simp only [if_neg isStore, if_neg isTemporary, if_neg notFormer, if_pos isLatter]
      · simp only [if_neg isStore, if_neg isTemporary, if_neg isLatter]

private theorem visit_of_isSnapshot
    {path : Path}
    (isRead : view world path = .ok source)
    (isSnapshot : Snapshot.ofSource? now source path = some snapshot)
    (generator : Generator)
    (held : Holding) :
    held.visit now view generator world path =
      held.document now generator world snapshot source := by
  simp only [visit, isRead, isSnapshot]

/-- A path without a snapshot leaves what is held. -/
theorem visit_of_problem
    {path : Path}
    {problem : Outcome}
    (isProblem : problemAt? view world path = some problem)
    (now : Text)
    (generator : Generator)
    (held : Holding) :
    held.visit now view generator world path = held := by
  unfold visit
  cases isRead : view world path with
  | error fault =>
      rfl
  | ok source =>
      cases isSnapshot : Snapshot.ofSource? now source path with
      | none =>
          simp only [isSnapshot]
      | some snapshot =>
          obtain ⟨identity, isIdentity, _⟩ := Option.map_eq_some_iff.mp isSnapshot
          simp [problemAt?, isRead, isIdentity] at isProblem

/-- Two paths can have their turns in either order if their components are apart. -/
theorem visit_comm
    {first second : Path}
    (areApart : ∀ former latter,
      snapshotIn now view world first = .ok former →
        snapshotIn now view world second = .ok latter →
          generator.AreApart world former latter)
    (held : Holding) :
    (held.visit now view generator world first).visit now view generator world second =
      (held.visit now view generator world second).visit now view generator world first := by
  cases firstProblem : problemAt? view world first with
  | some problem =>
      rw [visit_of_problem firstProblem, visit_of_problem firstProblem]
  | none =>
      cases secondProblem : problemAt? view world second with
      | some problem =>
          rw [visit_of_problem secondProblem, visit_of_problem secondProblem]
      | none =>
          obtain ⟨formerSource, former, formerRead, ofFormer⟩ :=
            exists_snapshot_of_no_problem firstProblem now
          obtain ⟨latterSource, latter, latterRead, ofLatter⟩ :=
            exists_snapshot_of_no_problem secondProblem now
          have isFormer := snapshotIn_eq_ok.mpr ⟨formerSource, formerRead, ofFormer⟩
          have isLatter := snapshotIn_eq_ok.mpr ⟨latterSource, latterRead, ofLatter⟩
          have isApart := areApart former latter isFormer isLatter
          simp only [visit_of_isSnapshot formerRead ofFormer,
            visit_of_isSnapshot latterRead ofLatter]
          exact document_comm isApart.identity_ne
            (isApart.pagePlace_ne (isName_of_snapshotIn isFormer) (isName_of_snapshotIn isLatter))
            now formerSource latterSource held

/-- What a turn does depends on the settings and on the source. -/
theorem visit_congr
    {path : Path}
    (keeps : generator.KeepsSettings world made after)
    (sameSource : view after path = view world path)
    (now : Text)
    (held : Holding) :
    held.visit now view made after path = held.visit now view generator world path := by
  have sameGenerator : ∀ registry : Registry,
      { made with registry := registry } = { generator with registry := registry } := by
    intro registry
    rw [keeps.options, keeps.template]
  simp only [visit, document, sameSource, sameGenerator, keeps.storePlace, keeps.temporaryPlace,
    keeps.pagePlace]

end Holding

/-! ## Pages that succeed -/

/-- A page that was made and stored leaves what the page of the snapshot leaves. -/
theorem Documenting.holding
    {written : Written}
    (documenting : generator.Documenting now snapshot source world made (.ok written) after)
    (isOpen : world.disk.IsOpen) :
    Holding.of made after =
      (Holding.of generator world).document now generator world snapshot source := by
  cases documenting with
  | @complete between _ isWritten isSaved =>
      obtain ⟨_, pageFiles⟩ := of_writePage_ok isOpen isWritten
      have sameStart := (keeps_of_writePage isWritten).workingDirectory
      have samePath :
          ((generator.record now snapshot).mark now snapshot).registry.path =
            generator.registry.path :=
        Registry.path_documented generator.registry now snapshot
      have storeFiles := Registry.file?_of_save_ok isSaved
      rw [samePath, sameStart] at storeFiles
      unfold Holding.of Holding.document
      congr 1
      funext location
      rw [storeFiles location, pageFiles location]
      rfl

/-- Making a page fails because of files alone. -/
theorem Documenting.eq_files
    {error : Error}
    (documenting : generator.Documenting now snapshot source world made (.error error) after) :
    ∃ fault, error = .files fault := by
  cases documenting with
  | unwritten isWritten =>
      exact ⟨_, rfl⟩
  | unsaved isWritten isSaved =>
      exact ⟨_, rfl⟩

/-- What is said of a path with a page if nothing fails but sources. -/
def outcomeAt
    (now : Text)
    (view : World → Path → Except FileFault Text)
    (generator : Generator)
    (world : World)
    (path : Path) : Outcome :=
  match snapshotIn now view world path with
  | .error problem => problem
  | .ok snapshot =>
      .generated ⟨snapshot.identity, generator.options.pagePath snapshot.identity⟩

/-- The turn of a path whose files do not fail. -/
theorem holding_of_generateFile
    {path : Path}
    {result : Except Error (Option Written)}
    (isOpen : world.disk.IsOpen)
    (generated :
      (generator.generateFile now (.ofView view) path :
        StateM World (Generator × Except Error (Option Written))) world =
          ((made, result), after))
    (succeeds : ∀ fault, result ≠ .error (.files fault)) :
    Holding.of made after = (Holding.of generator world).visit now view generator world path ∧
      Outcome.ofResult path result = outcomeAt now view generator world path := by
  rcases problem_or_documenting generated with ⟨isProblem, rfl, rfl⟩ |
    ⟨source, snapshot, documented, isRead, isSnapshot, rfl, documenting⟩
  · refine ⟨(Holding.visit_of_problem isProblem now made _).symm, ?_⟩
    rw [outcomeAt, snapshotIn_of_problem isProblem now]
  · rw [Holding.visit_of_isSnapshot isRead isSnapshot, outcomeAt,
      snapshotIn_eq_ok.mpr ⟨source, isRead, isSnapshot⟩]
    cases documented with
    | error error =>
        obtain ⟨fault, rfl⟩ := documenting.eq_files
        exact absurd rfl (succeeds fault)
    | ok written =>
        refine ⟨documenting.holding isOpen, ?_⟩
        rw [(documenting.page isOpen).1]
        rfl

/-- A batch in which no files fail takes its turns one after another. -/
theorem holding_of_generateEach
    {paths : List Path}
    (isOpen : world.disk.IsOpen)
    (isSteady : generator.IsSteady now view paths world)
    {outcomes : List Outcome}
    (generated :
      (generator.generateEach now (.ofView view) paths :
        StateM World (Generator × List Outcome)) world = ((made, outcomes), after))
    (succeeds : ∀ path fault, .failed path (.files fault) ∉ outcomes) :
    Holding.of made after =
        paths.foldl (Holding.visit now view generator world) (Holding.of generator world) ∧
      outcomes = paths.map (outcomeAt now view generator world) := by
  induction paths generalizing generator world outcomes with
  | nil =>
      obtain ⟨isMade, rfl⟩ := Prod.mk.inj generated
      obtain ⟨rfl, rfl⟩ := Prod.mk.inj isMade
      exact ⟨rfl, rfl⟩
  | cons path later inductionHypothesis =>
      obtain ⟨between, result, next, others, isFirst, isLater, rfl⟩ :=
        of_generateEach_cons generated
      have keeps := keepsSettings_of_generateFile isFirst
      obtain ⟨sourcesNext, isSteadyLater⟩ := isSteady.of_cons isFirst
      have firstSucceeds : ∀ fault, result ≠ .error (.files fault) := by
        rintro fault rfl
        exact succeeds path fault List.mem_cons_self
      obtain ⟨firstHolding, firstOutcome⟩ := holding_of_generateFile isOpen isFirst firstSucceeds
      obtain ⟨laterHolding, laterOutcomes⟩ :=
        inductionHypothesis (keeps.directories.isOpen isOpen) isSteadyLater isLater
          fun other fault isOther => succeeds other fault (List.mem_cons_of_mem _ isOther)
      constructor
      · rw [laterHolding, List.foldl_cons, ← firstHolding]
        refine List.foldl_ext _ _ _ fun held other isOther => ?_
        exact Holding.visit_congr keeps (sourcesNext other isOther) now held
      · rw [firstOutcome, laterOutcomes, List.map_cons]
        refine congrArg _ (List.map_congr_left fun other isOther => ?_)
        rw [outcomeAt, snapshotIn_congr (sourcesNext other isOther), keeps.options, outcomeAt]

/-- The registry of a page that was made and stored is read at its path. -/
theorem Documenting.read_store
    {written : Written}
    (documenting : generator.Documenting now snapshot source world made (.ok written) after)
    (isOpen : world.disk.IsOpen) :
    after.disk.read made.registry.path = .ok made.registry.toBytes := by
  cases documenting with
  | complete isWritten isSaved =>
      exact Registry.read_of_save_ok ((keeps_of_writePage isWritten).isOpen isOpen) isSaved

/-- A batch in which no files fail stores the registry, or makes no page and changes nothing. -/
theorem read_store_of_generateEach
    {paths : List Path}
    (isOpen : world.disk.IsOpen)
    {outcomes : List Outcome}
    (generated :
      (generator.generateEach now (.ofView view) paths :
        StateM World (Generator × List Outcome)) world = ((made, outcomes), after))
    (succeeds : ∀ path fault, .failed path (.files fault) ∉ outcomes) :
    (after = world ∧ made = generator ∧ ∀ written, .generated written ∉ outcomes) ∨
      (∃ written, .generated written ∈ outcomes) ∧
        after.disk.read made.registry.path = .ok made.registry.toBytes := by
  induction paths generalizing generator world outcomes with
  | nil =>
      obtain ⟨isMade, rfl⟩ := Prod.mk.inj generated
      obtain ⟨rfl, rfl⟩ := Prod.mk.inj isMade
      exact .inl ⟨rfl, rfl, fun _ => List.not_mem_nil⟩
  | cons path later inductionHypothesis =>
      obtain ⟨between, result, next, others, isFirst, isLater, rfl⟩ :=
        of_generateEach_cons generated
      have isOpenNext := (keepsSettings_of_generateFile isFirst).directories.isOpen isOpen
      have laterSucceeds : ∀ other fault, .failed other (.files fault) ∉ others :=
        fun other fault isOther => succeeds other fault (List.mem_cons_of_mem _ isOther)
      rcases inductionHypothesis isOpenNext isLater laterSucceeds with
        ⟨rfl, rfl, noPages⟩ | ⟨⟨written, isWritten⟩, isRead⟩
      · rcases problem_or_documenting isFirst with ⟨isProblem, rfl, rfl⟩ |
          ⟨source, snapshot, documented, _, _, rfl, documenting⟩
        · refine .inl ⟨rfl, rfl, fun written isWritten => ?_⟩
          rcases List.mem_cons.mp isWritten with isFirstOutcome | isOther
          · rw [← isFirstOutcome] at isProblem
            exact problemAt?_ne_generated _ _ _ _ isProblem
          · exact noPages written isOther
        · cases documented with
          | error error =>
              obtain ⟨fault, rfl⟩ := documenting.eq_files
              exact absurd List.mem_cons_self (succeeds path fault)
          | ok written =>
              exact .inr ⟨⟨written, List.mem_cons_self⟩, documenting.read_store isOpen⟩
      · exact .inr ⟨⟨written, List.mem_cons_of_mem _ isWritten⟩, isRead⟩

/-- Two batches that make the same pages and the same generator store the same registry. -/
theorem read_store_congr
    {paths others : List Path}
    (isOpen : world.disk.IsOpen)
    {outcomes otherOutcomes : List Outcome}
    (generated :
      (generator.generateEach now (.ofView view) paths :
        StateM World (Generator × List Outcome)) world = ((made, outcomes), after))
    (succeeds : ∀ path fault, .failed path (.files fault) ∉ outcomes)
    {otherAfter : World}
    (generatedOther :
      (generator.generateEach now (.ofView view) others :
        StateM World (Generator × List Outcome)) world = ((made, otherOutcomes), otherAfter))
    (succeedsOther : ∀ path fault, .failed path (.files fault) ∉ otherOutcomes)
    (sameOutcomes : outcomes.Perm otherOutcomes) :
    otherAfter.disk.read made.registry.path = after.disk.read made.registry.path := by
  rcases read_store_of_generateEach isOpen generated succeeds with
    ⟨rfl, _, noPages⟩ | ⟨⟨written, isWritten⟩, isRead⟩
  · rcases read_store_of_generateEach isOpen generatedOther succeedsOther with
      ⟨rfl, _, _⟩ | ⟨⟨written, isWritten⟩, _⟩
    · rfl
    · exact absurd (sameOutcomes.mem_iff.mpr isWritten) (noPages written)
  · rcases read_store_of_generateEach isOpen generatedOther succeedsOther with
      ⟨_, _, noPages⟩ | ⟨_, isOtherRead⟩
    · exact absurd (sameOutcomes.mem_iff.mp isWritten) (noPages written)
    · rw [isRead, isOtherRead]

/-- Two generators with the settings of a third one are equal if their registries are. -/
theorem KeepsSettings.eq_of_registry
    {otherMade : Generator}
    {otherAfter : World}
    (keeps : generator.KeepsSettings world made after)
    (otherKeeps : generator.KeepsSettings world otherMade otherAfter)
    (sameRegistry : otherMade.registry = made.registry) :
    otherMade = made := by
  have sameOptions := otherKeeps.options.trans keeps.options.symm
  have sameTemplate := otherKeeps.template.trans keeps.template.symm
  cases otherMade
  cases made
  simp_all

/--
Two batches of the same paths in different orders, in which no files fail and whose components are
apart, end with the same generator and the same stored registry, and with the same bytes in every
file, pages included. Each path has the same outcome in both.
-/
theorem generateAll_perm
    {paths others : List Path}
    (isOpen : world.disk.IsOpen)
    (isPermutation : paths.Perm others)
    (areApart : ∀ first ∈ paths, ∀ second ∈ paths, first ≠ second → ∀ former latter,
      snapshotIn now view world first = .ok former →
        snapshotIn now view world second = .ok latter → generator.AreApart world former latter)
    (isSteady : generator.IsSteady now view paths world)
    (isSteadyOther : generator.IsSteady now view others world)
    {batch : Batch}
    (generated :
      (generator.generateAll now (.ofView view) paths : StateM World (Generator × Batch)) world =
        ((made, batch), after))
    (succeeds : ∀ path fault, .failed path (.files fault) ∉ batch.outcomes)
    {otherMade : Generator}
    {otherBatch : Batch}
    {otherAfter : World}
    (generatedOther :
      (generator.generateAll now (.ofView view) others : StateM World (Generator × Batch)) world =
        ((otherMade, otherBatch), otherAfter))
    (succeedsOther : ∀ path fault, .failed path (.files fault) ∉ otherBatch.outcomes) :
    otherMade = made ∧
      otherAfter.disk.read generator.registry.path = after.disk.read generator.registry.path ∧
      (∀ location, otherAfter.disk.file? location = after.disk.file? location) ∧
      (paths.zip batch.outcomes).Perm (others.zip otherBatch.outcomes) := by
  have isBatch := of_generateAll generated
  have isOtherBatch := of_generateAll generatedOther
  obtain ⟨holding, outcomes⟩ := holding_of_generateEach isOpen isSteady isBatch succeeds
  obtain ⟨otherHolding, otherOutcomes⟩ :=
    holding_of_generateEach isOpen isSteadyOther isOtherBatch succeedsOther
  have sameHolding : Holding.of otherMade otherAfter = Holding.of made after := by
    rw [holding, otherHolding]
    refine (isPermutation.foldl_eq' ?_ _).symm
    intro first isFirst second isSecond held
    by_cases same : first = second
    · rw [same]
    · exact Holding.visit_comm (areApart first isFirst second isSecond same) held
  have keeps := keepsSettings_of_generateEach isBatch
  have otherKeeps := keepsSettings_of_generateEach isOtherBatch
  obtain rfl : otherMade = made :=
    keeps.eq_of_registry otherKeeps (congrArg Holding.registry sameHolding)
  have samePairs : paths.zip batch.outcomes =
      paths.map fun path => (path, outcomeAt now view generator world path) := by
    rw [outcomes, List.map_prod_left_eq_zip]
  have otherPairs : others.zip otherBatch.outcomes =
      others.map fun path => (path, outcomeAt now view generator world path) := by
    rw [otherOutcomes, List.map_prod_left_eq_zip]
  have sameOutcomes : batch.outcomes.Perm otherBatch.outcomes := by
    rw [outcomes, otherOutcomes]
    exact isPermutation.map _
  refine ⟨rfl, ?_, fun location => congrFun (congrArg Holding.files sameHolding) location, ?_⟩
  · rw [← keeps.registryPath]
    exact read_store_congr isOpen isBatch succeeds isOtherBatch succeedsOther sameOutcomes
  · rw [samePairs, otherPairs]
    exact isPermutation.map _

end Generator

/-! ## Two components in either order -/

namespace Session.Twins

/-- The first source and one with another name. -/
def paths : List Path :=
  [first, Small.path]

/-- The batch in the other order. -/
def reversedRun : (Generator × Batch) × World :=
  (Small.generator.generateAll [] (.ofView fun _ => sources) paths.reverse :
    StateM World (Generator × Batch)) Small.world

/-- In either order all pages are made. -/
theorem areGenerated :
    ∀ run ∈ [batchRun Small.generator Small.path, reversedRun],
      ∀ outcome ∈ run.1.2.outcomes, outcome.isGenerated = true := by
  decide +kernel

private theorem areApart :
    ∀ one ∈ paths, ∀ other ∈ paths, one ≠ other →
      ∀ former ∈ Generator.snapshotsIn [] (fun _ => sources) Small.world [one],
        ∀ latter ∈ Generator.snapshotsIn [] (fun _ => sources) Small.world [other],
          Small.generator.AreApart Small.world former latter := by
  decide +kernel

end Session.Twins

/-- If all pages of a batch are made, no files failed. -/
theorem Batch.succeeds_of_areGenerated
    {batch : Batch}
    (areGenerated : ∀ outcome ∈ batch.outcomes, outcome.isGenerated = true)
    (path : Path)
    (fault : FileFault) :
    .failed path (.files fault) ∉ batch.outcomes := by
  intro isFailed
  have isGenerated := areGenerated _ isFailed
  contradiction

/-- Two components with different names can be given in either order. -/
theorem Generator.generateAll_perm_apart :
    ∃ made batch after otherMade otherBatch otherAfter,
      (Session.Small.generator.generateAll [] (.ofView fun _ => Session.Twins.sources)
          Session.Twins.paths : StateM World (Generator × Batch)) Session.Small.world =
        ((made, batch), after) ∧
      (Session.Small.generator.generateAll [] (.ofView fun _ => Session.Twins.sources)
          Session.Twins.paths.reverse : StateM World (Generator × Batch)) Session.Small.world =
        ((otherMade, otherBatch), otherAfter) ∧
      otherMade = made ∧
      ∀ location, otherAfter.disk.file? location = after.disk.file? location := by
  have areGenerated := Session.Twins.areGenerated _ List.mem_cons_self
  have areOtherGenerated := Session.Twins.areGenerated Session.Twins.reversedRun (by simp)
  rcases isRun : Session.Twins.batchRun Session.Small.generator Session.Small.path with
    ⟨⟨made, batch⟩, after⟩
  rcases isOtherRun : Session.Twins.reversedRun with ⟨⟨otherMade, otherBatch⟩, otherAfter⟩
  rw [isRun] at areGenerated
  rw [isOtherRun] at areOtherGenerated
  have areApart : ∀ first ∈ Session.Twins.paths, ∀ second ∈ Session.Twins.paths, first ≠ second →
      ∀ former latter,
        snapshotIn [] (fun _ => Session.Twins.sources) Session.Small.world first = .ok former →
          snapshotIn [] (fun _ => Session.Twins.sources) Session.Small.world second = .ok latter →
            Session.Small.generator.AreApart Session.Small.world former latter := by
    intro first isFirst second isSecond different former latter isFormer isLatter
    exact Session.Twins.areApart first isFirst second isSecond different former
      (mem_snapshotsIn_singleton.mpr isFormer) latter (mem_snapshotsIn_singleton.mpr isLatter)
  obtain ⟨sameGenerator, _, sameFiles, _⟩ :=
    generateAll_perm Session.Small.isOpen Session.Twins.paths.reverse_perm.symm areApart
      (isSteady_const [] _ _ _ _) (isSteady_const [] _ _ _ _) isRun
      (Batch.succeeds_of_areGenerated areGenerated) isOtherRun
      (Batch.succeeds_of_areGenerated areOtherGenerated)
  exact ⟨made, batch, after, otherMade, otherBatch, otherAfter, isRun, isOtherRun, sameGenerator,
    sameFiles⟩

/-! ## An extension that leads elsewhere -/

namespace Session.Slashed

/-- The extension leads out of a directory that is named like the page. -/
def generator : Generator :=
  { Twins.naming with options := { Small.options with extension := "/../shared.md".toList } }

/-- The directories from which the extension leads out are there. -/
def world : World :=
  ⟨(((Disk.empty []).put ["docs".toList] .directory).put
      ["docs".toList, "a.".toList] .directory).put
      ["docs".toList, "datatable.".toList] .directory, []⟩

/-- The run of a batch in a given order. -/
def batchRun (paths : List Path) : (Generator × Batch) × World :=
  (generator.generateAll [] (.ofView fun _ => Twins.sources) paths :
    StateM World (Generator × Batch)) world

private theorem areGenerated :
    ∀ order ∈ [Twins.paths, Twins.paths.reverse],
      ∀ outcome ∈ (batchRun order).1.2.outcomes, outcome.isGenerated = true := by
  decide +kernel

end Session.Slashed

/-- Names that differ not in case alone do not suffice if the extension holds separators. -/
theorem Generator.order_of_generateAll_matters :
    ∃ (generator made otherMade : Generator) (world after otherAfter : World)
        (sources : Path → Except FileFault Text) (paths others : List Path)
        (batch otherBatch : Batch) (identity : Text),
      world.disk.IsOpen ∧ paths.Perm others ∧
      (∀ first ∈ paths, ∀ second ∈ paths, first ≠ second →
        ∀ former ∈ snapshotsIn [] (fun _ => sources) world [first],
          ∀ latter ∈ snapshotsIn [] (fun _ => sources) world [second],
            former.identity.toLowerCase ≠ latter.identity.toLowerCase) ∧
      (generator.generateAll [] (.ofView fun _ => sources) paths :
        StateM World (Generator × Batch)) world = ((made, batch), after) ∧
      (generator.generateAll [] (.ofView fun _ => sources) others :
        StateM World (Generator × Batch)) world = ((otherMade, otherBatch), otherAfter) ∧
      (∀ outcome ∈ batch.outcomes, outcome.isGenerated = true) ∧
      (∀ outcome ∈ otherBatch.outcomes, outcome.isGenerated = true) ∧
      after.disk.read (generator.options.pagePath identity) ≠
        otherAfter.disk.read (generator.options.pagePath identity) := by
  have areGenerated := Session.Slashed.areGenerated Session.Twins.paths List.mem_cons_self
  have areOtherGenerated := Session.Slashed.areGenerated Session.Twins.paths.reverse (by simp)
  -- Both pages have one place, and the last one stays.
  have isReplaced :
      (Session.Slashed.batchRun Session.Twins.paths).2.disk.read
          (Session.Slashed.generator.options.pagePath "A".toList) ≠
        (Session.Slashed.batchRun Session.Twins.paths.reverse).2.disk.read
          (Session.Slashed.generator.options.pagePath "A".toList) := by
    decide +kernel
  have lowerCase_ne :
      ∀ one ∈ Session.Twins.paths, ∀ other ∈ Session.Twins.paths, one ≠ other →
        ∀ former ∈ snapshotsIn [] (fun _ => Session.Twins.sources) Session.Slashed.world [one],
          ∀ latter ∈ snapshotsIn [] (fun _ => Session.Twins.sources) Session.Slashed.world [other],
            former.identity.toLowerCase ≠ latter.identity.toLowerCase := by
    decide +kernel
  rcases isRun : Session.Slashed.batchRun Session.Twins.paths with ⟨⟨made, batch⟩, after⟩
  rcases isOtherRun : Session.Slashed.batchRun Session.Twins.paths.reverse with
    ⟨⟨otherMade, otherBatch⟩, otherAfter⟩
  rw [isRun] at areGenerated isReplaced
  rw [isOtherRun] at areOtherGenerated isReplaced
  exact ⟨Session.Slashed.generator, made, otherMade, Session.Slashed.world, after, otherAfter,
    Session.Twins.sources, Session.Twins.paths, Session.Twins.paths.reverse, batch, otherBatch,
    "A".toList, Disk.stands_root, Session.Twins.paths.reverse_perm.symm, lowerCase_ne, isRun,
    isOtherRun, areGenerated, areOtherGenerated, isReplaced⟩

end ComponentPages
