import ComponentPages.Proofs.Generator.Course

namespace ComponentPages

/-!
# The ledger of a component

For each component the deeds of a session are summed up in a ledger: the content that the registry
has on record, the content that the store has on record, and the last page that was written. The
ledger of every component agrees with the registry and the store throughout a session. Recording
and writing are separate deeds, so the content on record can be another one than that of the page,
and a comparison only sees the content on record.
-/

/-! ## Ledgers -/

/-- What the deeds of a session come to for one component. -/
structure Ledger where
  /-- The digest on record in the registry. -/
  held : Option Text
  /-- The digest on record in the store. -/
  stored : Option Text
  /-- The snapshot of which the last page was written. -/
  page : Option Snapshot

namespace Ledger

/-- The ledger before all deeds. -/
def initial : Ledger :=
  ⟨none, none, none⟩

/-- The ledger of a component after a deed. -/
def enter (identity : Text) (ledger : Ledger) : Deed → Ledger
  | .recorded snapshot =>
      if snapshot.identity = identity then
        { ledger with held := some snapshot.contentHash }
      else
        ledger
  | .written snapshot =>
      if snapshot.identity = identity then { ledger with page := some snapshot } else ledger
  | .saved => { ledger with stored := ledger.held }
  | .reopened => { ledger with held := ledger.stored }
  | .disturbed entries =>
      { ledger with stored := (entries.find? identity).map (·.contentHash) }

/-- The ledger of a component after deeds in order. -/
def ofDeeds (identity : Text) (deeds : List Deed) : Ledger :=
  deeds.foldl (enter identity) initial

/-- The last deed is entered last. -/
theorem ofDeeds_concat
    (identity : Text)
    (deeds : List Deed)
    (deed : Deed) :
    ofDeeds identity (deeds ++ [deed]) = (ofDeeds identity deeds).enter identity deed := by
  simp [ofDeeds]

/-- Whether the last page has the content on record. -/
def IsCurrent (ledger : Ledger) : Prop :=
  ∃ page, ledger.page = some page ∧ ledger.held = some page.contentHash

end Ledger

/-! ## Sources -/

/-- A snapshot has the digest and the size of its source. -/
theorem Snapshot.of_ofSource?
    {now source : Text}
    {path : Path}
    {snapshot : Snapshot}
    (isSnapshot : Snapshot.ofSource? now source path = some snapshot) :
    snapshot.contentHash = Snapshot.hashOf source ∧ snapshot.sizeBytes = source.byteLength := by
  obtain ⟨identity, _, rfl⟩ := Option.map_eq_some_iff.mp isSnapshot
  exact ⟨rfl, rfl⟩

/-- Whether the sizes of all sources are machine words. -/
def HasWords (view : World → Path → Except FileFault Text) : Prop :=
  ∀ (world : World) (path : Path) (source : Text),
    view world path = .ok source → source.byteLength < Text.wordLimit

/-- The sizes of snapshots of such sources are machine words. -/
theorem HasWords.snapshotIn
    {view : World → Path → Except FileFault Text}
    (areWords : HasWords view)
    {now : Text}
    {world : World}
    {path : Path}
    {snapshot : Snapshot}
    (isSnapshot : Generator.snapshotIn now view world path = .ok snapshot) :
    snapshot.sizeBytes < Text.wordLimit := by
  obtain ⟨source, isRead, isOfSource⟩ := Generator.snapshotIn_eq_ok.mp isSnapshot
  rw [(Snapshot.of_ofSource? isOfSource).2]
  exact areWords world path source isRead

/-! ## Agreement -/

namespace Generator

variable {world after : World}

/-- The entries of a store depend on what is read there only. -/
theorem storedEntries_congr
    {path : Path}
    (same : after.disk.read path = world.disk.read path) :
    storedEntries path after = storedEntries path world := by
  rw [storedEntries, storedEntries, Registry.run_load, Registry.run_load, same]
  cases world.disk.read path with
  | ok bytes =>
      rfl
  | error fault =>
      cases fault <;> rfl

/-- The entries of a registry that is loaded are those of the store. -/
theorem storedEntries_of_load
    {path : Path}
    {registry : Registry}
    (loaded : (Registry.load path : StateM World (Except Error Registry)) world =
      (.ok registry, after)) :
    storedEntries path world = registry.entries := by
  rw [storedEntries, loaded]

/-- What the ledgers of a session's deeds agree with. -/
structure Agrees (generator : Generator) (world : World) (deeds : List Deed) : Prop where
  isOpen : world.disk.IsOpen
  path : generator.registry.path = generator.options.registryPath
  sizesFit : SizesFit generator.registry.entries
  held : ∀ identity,
    (generator.registry.entry? identity).map (·.contentHash) = (Ledger.ofDeeds identity deeds).held
  stored : ∀ identity,
    ((storedEntries generator.registry.path world).find? identity).map (·.contentHash) =
      (Ledger.ofDeeds identity deeds).stored

namespace Agrees

variable {generator : Generator} {deeds : List Deed}

/-- Recording a snapshot keeps the agreement. -/
theorem record
    (agrees : generator.Agrees world deeds)
    (now : Text)
    {snapshot : Snapshot}
    (isWord : snapshot.sizeBytes < Text.wordLimit) :
    (generator.record now snapshot).Agrees world (deeds ++ [.recorded snapshot]) where
  isOpen := agrees.isOpen
  path := (Registry.path_upsert _ now snapshot).trans agrees.path
  sizesFit := Registry.sizesFit_upsert agrees.sizesFit now isWord
  held identity := by
    rw [Ledger.ofDeeds_concat]
    by_cases same : snapshot.identity = identity
    · obtain ⟨history, found⟩ := Registry.entry?_upsert_self generator.registry now snapshot
      simp [Generator.record, Ledger.enter, ← same, found, Entry.ofSnapshot]
    · rw [Generator.record, Registry.entry?_upsert_of_ne (Ne.symm same)]
      simpa [Ledger.enter, same] using agrees.held identity
  stored identity := by
    rw [Ledger.ofDeeds_concat, Generator.record, Registry.path_upsert]
    have stored := agrees.stored identity
    by_cases same : snapshot.identity = identity <;> simpa [Ledger.enter, same] using stored

/-- Marking a page as written keeps the agreement. -/
theorem mark
    (agrees : generator.Agrees world deeds)
    (now : Text)
    (snapshot : Snapshot) :
    (generator.mark now snapshot).Agrees world (deeds ++ [.written snapshot]) := by
  have sameLedger : ∀ identity,
      (Ledger.ofDeeds identity (deeds ++ [.written snapshot])).held =
          (Ledger.ofDeeds identity deeds).held ∧
        (Ledger.ofDeeds identity (deeds ++ [.written snapshot])).stored =
          (Ledger.ofDeeds identity deeds).stored := by
    intro identity
    rw [Ledger.ofDeeds_concat]
    by_cases same : snapshot.identity = identity <;> simp [Ledger.enter, same]
  unfold Generator.mark
  cases isMarked :
      generator.registry.markDocumented? now snapshot.identity snapshot.version with
  | none =>
      -- A component without an entry is not marked, and its page is entered all the same.
      refine ⟨agrees.isOpen, agrees.path, agrees.sizesFit, ?_, ?_⟩
      · intro identity
        exact (agrees.held identity).trans (sameLedger identity).1.symm
      · intro identity
        exact (agrees.stored identity).trans (sameLedger identity).2.symm
  | some marked =>
      have sizesFit := Registry.sizesFit_markDocumented agrees.sizesFit isMarked
      obtain ⟨entry, found, rfl⟩ := Option.map_eq_some_iff.mp isMarked
      refine ⟨agrees.isOpen, agrees.path, sizesFit, ?_, ?_⟩
      · intro identity
        rw [(sameLedger identity).1, ← agrees.held identity, Option.getD_some]
        by_cases same : identity = snapshot.identity
        · rw [same, Registry.entry?_put_self, found]
          rfl
        · rw [Registry.entry?_put_of_ne same]
      · intro identity
        exact (agrees.stored identity).trans (sameLedger identity).2.symm

/-- What happens to the store without saving is entered as it is. -/
theorem disturb
    (agrees : generator.Agrees world deeds)
    (isOpen : after.disk.IsOpen) :
    generator.Agrees after (deeds ++ disturbance generator.registry.path world after) := by
  unfold disturbance
  split
  · rename_i same
    rw [List.append_nil]
    refine ⟨isOpen, agrees.path, agrees.sizesFit, agrees.held, ?_⟩
    intro identity
    rw [storedEntries_congr same]
    exact agrees.stored identity
  · refine ⟨isOpen, agrees.path, agrees.sizesFit, ?_, ?_⟩
    · intro identity
      rw [Ledger.ofDeeds_concat]
      exact agrees.held identity
    · intro identity
      rw [Ledger.ofDeeds_concat]
      rfl

/-- Saving the registry keeps the agreement, whether it succeeds or not. -/
theorem save
    (agrees : generator.Agrees world deeds)
    {result : Except FileFault Unit}
    (saved :
      (generator.registry.save : StateM World (Except FileFault Unit)) world = (result, after)) :
    generator.Agrees after (deeds ++ savingDeeds generator.registry world) := by
  have isOpen := (Registry.keeps_of_save saved).isOpen agrees.isOpen
  unfold savingDeeds
  rw [saved]
  cases result with
  | error fault =>
      -- A failed save can have left anything in the store, so it counts as a disturbance.
      exact agrees.disturb isOpen
  | ok _ =>
      have loaded := Registry.load_of_save_ok agrees.sizesFit agrees.isOpen saved
      refine ⟨isOpen, agrees.path, agrees.sizesFit, ?_, ?_⟩
      · intro identity
        rw [Ledger.ofDeeds_concat]
        exact agrees.held identity
      · intro identity
        rw [Ledger.ofDeeds_concat, storedEntries_of_load loaded]
        exact agrees.held identity

/-- Loading the generator again keeps the agreement. -/
theorem reopen
    (agrees : generator.Agrees world deeds)
    {loaded : Generator}
    (isLoaded :
      (Generator.load generator.options : StateM World (Except Error Generator)) world =
        (.ok loaded, after)) :
    loaded.Agrees after (deeds ++ [.reopened]) := by
  obtain ⟨rfl, sameOptions, isRegistry⟩ := of_load_ok isLoaded
  obtain ⟨isPath, sizesFit⟩ := Registry.sizesFit_of_load_ok isRegistry
  have sameEntries := storedEntries_of_load isRegistry
  have samePath : loaded.registry.path = generator.registry.path :=
    isPath.trans agrees.path.symm
  refine ⟨agrees.isOpen, ?_, sizesFit, ?_, ?_⟩
  · rw [isPath, sameOptions]
  · intro identity
    rw [Ledger.ofDeeds_concat]
    refine Eq.trans ?_ (agrees.stored identity)
    rw [agrees.path, sameEntries]
    rfl
  · intro identity
    rw [Ledger.ofDeeds_concat, samePath]
    exact agrees.stored identity

/-- A course keeps the agreement if the sizes of the snapshots that it records are words. -/
theorem course
    (agrees : generator.Agrees world deeds)
    {more : List Deed}
    {made : Generator}
    (course : generator.Course (·.sizeBytes < Text.wordLimit) world more made after) :
    made.Agrees after (deeds ++ more) := by
  induction course with
  | start =>
      rw [List.append_nil]
      exact agrees
  | record course now isWord inductionHypothesis =>
      rw [← List.append_assoc]
      exact inductionHypothesis.record now isWord
  | move course keeps inductionHypothesis =>
      rw [← List.append_assoc]
      exact inductionHypothesis.disturb (keeps.isOpen inductionHypothesis.isOpen)
  | mark course now isWord isKnown inductionHypothesis =>
      rw [← List.append_assoc]
      exact inductionHypothesis.mark now _
  | save course isSaved inductionHypothesis =>
      rw [← List.append_assoc]
      exact inductionHypothesis.save isSaved

end Agrees

/-- A generator without entries agrees with no deeds. -/
theorem agrees_of_load
    {options : Options}
    {generator : Generator}
    (isOpen : world.disk.IsOpen)
    (loaded :
      (load options : StateM World (Except Error Generator)) world = (.ok generator, after))
    (isEmpty : generator.registry.entries = .empty) :
    generator.Agrees world [] := by
  obtain ⟨rfl, sameOptions, isRegistry⟩ := of_load_ok loaded
  obtain ⟨isPath, sizesFit⟩ := Registry.sizesFit_of_load_ok isRegistry
  have sameEntries := storedEntries_of_load isRegistry
  refine ⟨isOpen, ?_, sizesFit, ?_, ?_⟩
  · rw [isPath, sameOptions]
  · intro identity
    rw [Registry.entry?, isEmpty]
    rfl
  · intro identity
    rw [isPath, sameEntries, isEmpty]
    rfl

end Generator

/-! ## Sessions -/

/-- Whether sizes are machine words, and the working directory stands wherever the world goes. -/
def Request.IsSound : Request → Prop
  | .generate _ source _ => source.byteLength < Text.wordLimit
  | .generateFile _ view _ => HasWords view
  | .generateAll _ view _ => HasWords view
  | .generateOutdated _ view => HasWords view
  | .refresh _ view _ => HasWords view
  | .reopen => True
  | .elsewhere world => world.disk.IsOpen

namespace Session

/-- Every request keeps the agreement. -/
theorem agrees_handle
    {session : Session}
    (agrees : session.generator.Agrees session.world session.deeds)
    {request : Request}
    (isSound : request.IsSound) :
    (session.handle request).generator.Agrees (session.handle request).world
      (session.handle request).deeds := by
  cases request with
  | generate now source path =>
      refine agrees.course (Generator.course_generate now ?_ rfl)
      intro snapshot isSnapshot
      rw [(Snapshot.of_ofSource? isSnapshot).2]
      exact isSound
  | generateFile now view path =>
      exact agrees.course (Generator.course_generateFile (fun _ => isSound.snapshotIn) rfl)
  | generateAll now view paths =>
      exact agrees.course (Generator.course_generateEach (fun _ _ _ _ _ => isSound.snapshotIn) rfl)
  | generateOutdated now view =>
      exact agrees.course (Generator.course_generateEach (fun _ _ _ _ _ => isSound.snapshotIn) rfl)
  | refresh now view paths =>
      refine agrees.course (Generator.course_refresh ?_ rfl)
      intro snapshot member
      obtain ⟨path, _, ofPath⟩ := Generator.mem_snapshotsIn.mp member
      exact isSound.snapshotIn (Generator.snapshotIn_eq_ok.mpr ofPath)
  | reopen =>
      unfold handle
      rcases isLoaded :
          (Generator.load session.generator.options : StateM World (Except Error Generator))
            session.world with ⟨_ | loaded, world⟩
      · have sameWorld := Generator.run_load_world session.generator.options session.world
        rw [isLoaded] at sameWorld
        obtain rfl : world = session.world := sameWorld
        exact agrees
      · exact agrees.reopen isLoaded
  | elsewhere world =>
      exact agrees.disturb isSound

/-- A generator agrees with what was done after every run of sound requests. -/
theorem agrees_run
    {session : Session}
    (agrees : session.generator.Agrees session.world session.deeds)
    {requests : List Request}
    (areSound : ∀ request ∈ requests, request.IsSound) :
    (session.run requests).generator.Agrees (session.run requests).world
      (session.run requests).deeds := by
  induction requests generalizing session with
  | nil =>
      exact agrees
  | cons request later inductionHypothesis =>
      have handled := agrees_handle agrees (areSound request List.mem_cons_self)
      apply inductionHypothesis handled
      intro other member
      exact areSound other (List.mem_cons_of_mem _ member)

end Session

end ComponentPages
