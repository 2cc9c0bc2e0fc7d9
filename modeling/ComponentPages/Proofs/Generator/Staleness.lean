import ComponentPages.Proofs.Generator.Ledger

namespace ComponentPages

/-!
# When a page that is reported as current is stale

A comparison reports a page as current if the version and the content on record are those of the
source. The page itself is not looked at. So the report is right exactly when the last page that
was written has the content on record, which is the case as long as every recording is followed by
its page and by saving. Recording changed sources without making their pages breaks it.
-/

namespace Registry

/-- A page is reported as current if the entry shows the version and content of the snapshot. -/
theorem reason_compare_eq_upToDate
    {registry : Registry}
    {snapshot : Snapshot} :
    (registry.compare snapshot).reason = .upToDate ↔
      ∃ entry,
        registry.entry? snapshot.identity = some entry ∧
          entry.isDocumented = true ∧
          entry.documentationVersion = snapshot.version ∧
          entry.contentHash = snapshot.contentHash := by
  unfold compare
  cases registry.entry? snapshot.identity with
  | none =>
      simp [Comparison.unknown]
  | some entry =>
      by_cases isDocumented : entry.isDocumented = true
      · by_cases sameVersion : entry.documentationVersion = snapshot.version
        · by_cases sameHash : entry.contentHash = snapshot.contentHash <;>
            simp [Comparison.ofVersions, Comparison.reasonFor, isDocumented, sameVersion, sameHash]
        · simp [Comparison.ofVersions, Comparison.reasonFor, isDocumented, sameVersion]
      · simp [Comparison.ofVersions, Comparison.reasonFor, isDocumented]

end Registry

/-- Whether every recording was followed by its page and by saving. -/
inductive Deed.AreComplete : List Deed → Prop where
  | nil : AreComplete []
  | documented
      {deeds : List Deed}
      (areComplete : AreComplete deeds)
      (snapshot : Snapshot) :
      AreComplete (deeds ++ [.recorded snapshot, .written snapshot, .saved])
  | reopened
      {deeds : List Deed}
      (areComplete : AreComplete deeds) :
      AreComplete (deeds ++ [.reopened])

/-- After complete deeds the store has the content on record, and so has the last page. -/
theorem Ledger.isCurrent_of_areComplete
    {deeds : List Deed}
    (areComplete : Deed.AreComplete deeds)
    (identity : Text) :
    (ofDeeds identity deeds).stored = (ofDeeds identity deeds).held ∧
      ((ofDeeds identity deeds).held = none ∨ (ofDeeds identity deeds).IsCurrent) := by
  induction areComplete with
  | nil =>
      exact ⟨rfl, .inl rfl⟩
  | documented areComplete snapshot inductionHypothesis =>
      rw [List.append_cons, List.append_cons, ofDeeds_concat, ofDeeds_concat, ofDeeds_concat]
      by_cases same : snapshot.identity = identity
      · refine ⟨rfl, .inr ⟨snapshot, ?_, ?_⟩⟩ <;> simp [enter, same]
      · simpa [enter, same, IsCurrent] using inductionHypothesis.2
  | reopened areComplete inductionHypothesis =>
      rw [ofDeeds_concat]
      refine ⟨rfl, ?_⟩
      simpa [enter, IsCurrent, inductionHypothesis.1] using inductionHypothesis.2

namespace Session

/--
In every session that starts without entries, a page that is reported as current was made from the
content of the source just read exactly if it has the content on record, and so it was if every
recording was followed by its page and by saving.
-/
theorem upToDate_iff_isCurrent
    {options : Options}
    {start : Generator}
    {world : World}
    (isOpen : world.disk.IsOpen)
    (isLoaded :
      (Generator.load options : StateM World (Except Error Generator)) world =
        (.ok start, world))
    (isEmpty : start.registry.entries = .empty)
    {requests : List Request}
    (areSound : ∀ request ∈ requests, request.IsSound)
    {session : Session}
    (isRun : (Session.mk start world []).run requests = session)
    {now : Text}
    {view : World → Path → Except FileFault Text}
    {paths : List Path}
    {path : Path}
    {source : Text}
    {snapshot : Snapshot}
    (isPath : path ∈ paths)
    (isRead : view session.world path = .ok source)
    (isSnapshot : Snapshot.ofSource? now source path = some snapshot) :
    ∃ comparison ∈
        ((session.generator.compareFiles now (.ofView view) paths : StateM World Report)
          session.world).1.results,
      comparison = session.generator.registry.compare snapshot ∧
        (comparison.reason = .upToDate →
          ((∃ page,
              (Ledger.ofDeeds snapshot.identity session.deeds).page = some page ∧
                page.contentHash = Snapshot.hashOf source) ↔
            (Ledger.ofDeeds snapshot.identity session.deeds).IsCurrent) ∧
          (Deed.AreComplete session.deeds →
            (Ledger.ofDeeds snapshot.identity session.deeds).IsCurrent)) := by
  have isCompared :
      session.generator.registry.compare snapshot ∈
        ((session.generator.compareFiles now (.ofView view) paths : StateM World Report)
          session.world).1.results := by
    rw [Generator.run_compareFiles]
    apply List.mem_map_of_mem
    exact Generator.mem_snapshotsIn.mpr ⟨path, isPath, source, isRead, isSnapshot⟩
  refine ⟨_, isCompared, rfl, ?_⟩
  intro isUpToDate
  have agrees : session.generator.Agrees session.world session.deeds := by
    rw [← isRun]
    exact agrees_run (Generator.agrees_of_load isOpen isLoaded isEmpty) areSound
  obtain ⟨entry, found, _, _, sameHash⟩ := Registry.reason_compare_eq_upToDate.mp isUpToDate
  -- The report only says that the content just read is the one on record.
  have onRecord :
      (Ledger.ofDeeds snapshot.identity session.deeds).held = some (Snapshot.hashOf source) := by
    rw [← agrees.held, found, Option.map_some, sameHash, (Snapshot.of_ofSource? isSnapshot).1]
  constructor
  · constructor
    · rintro ⟨page, isPage, samePage⟩
      exact ⟨page, isPage, by rw [onRecord, samePage]⟩
    · rintro ⟨page, isPage, held⟩
      exact ⟨page, isPage, Option.some.inj (held.symm.trans onRecord)⟩
  · intro areComplete
    rcases (Ledger.isCurrent_of_areComplete areComplete snapshot.identity).2 with absent | isCurrent
    · rw [onRecord] at absent
      contradiction
    · exact isCurrent

/-! ### A component that is recorded without its page -/

namespace Small

/-- Options with short paths. -/
def options : Options where
  outputDirectory := ⟨"docs".toList⟩
  extension := "md".toList
  templatesDirectory := ⟨"templates".toList⟩
  templateName := "component".toList
  registryPath := ⟨"registry.json".toList⟩

/-- A world in which the small project has no files yet. -/
def world : World :=
  ⟨.empty [], []⟩

/-- The working directory stands. -/
theorem isOpen : world.disk.IsOpen :=
  Disk.stands_root

/-- A generator with the built-in template and an empty registry. -/
def generator : Generator :=
  ⟨options, .empty options.registryPath, DefaultTemplate.template⟩

private theorem isLoaded :
    (Generator.load options : StateM World (Except Error Generator)) world =
      (.ok generator, world) :=
  Generator.load_of_absent (by decide) (by decide)

/-- The path of the source. -/
def path : Path :=
  ⟨"a.tsx".toList⟩

/-- The source of which the page is written. -/
def former : Text :=
  "export const A = 1".toList

/-- The source that is recorded without a page. -/
def latter : Text :=
  "export const A = 2".toList

/-- All paths have the latter source. -/
def view : World → Path → Except FileFault Text :=
  fun _ _ => .ok latter

/-- The snapshot of the source that is recorded without a page. -/
def snapshot : Snapshot where
  identity := "A".toList
  version := "1.0.0".toList
  lastModified := []
  contentHash := Snapshot.hashOf latter
  sizeBytes := 18
  exports := ["A".toList]
  status := .stable
  filePath := path

/-- The snapshot is that of the later source. -/
theorem isSnapshot : Snapshot.ofSource? [] latter path = some snapshot := by
  decide +kernel

/-- A page is written, then another source of the same version is recorded. -/
def requests : List Request :=
  [.generate [] former path, .refresh [] view [path]]

private theorem areSound : ∀ request ∈ requests, request.IsSound := by
  have isFormerWord : former.byteLength < Text.wordLimit := by
    decide
  have isLatterWord : latter.byteLength < Text.wordLimit := by
    decide
  intro request member
  rcases List.mem_cons.mp member with rfl | later
  · exact isFormerWord
  · obtain rfl := List.mem_singleton.mp later
    intro _ _ source isRead
    obtain rfl := Except.ok.inj isRead
    exact isLatterWord

/-- The session after the requests. -/
def session : Session :=
  (Session.mk generator world []).run requests

/-- The component is reported as current, but its page was made from the former source. -/
theorem isStale :
    (session.generator.registry.compare snapshot).reason = .upToDate ∧
      (Ledger.ofDeeds snapshot.identity session.deeds).page.map (·.contentHash) ≠
        some (Snapshot.hashOf latter) := by
  decide +kernel

end Small

/-- The page of a small project is current exactly if it has the content on record. -/
theorem upToDate_iff_isCurrent_small :
    ∃ comparison ∈
        ((Small.session.generator.compareFiles [] (.ofView Small.view) [Small.path] :
          StateM World Report) Small.session.world).1.results,
      comparison.reason = .upToDate ∧
        ((∃ page,
            (Ledger.ofDeeds Small.snapshot.identity Small.session.deeds).page = some page ∧
              page.contentHash = Snapshot.hashOf Small.latter) ↔
          (Ledger.ofDeeds Small.snapshot.identity Small.session.deeds).IsCurrent) := by
  have isRun : (Session.mk Small.generator Small.world []).run Small.requests = Small.session :=
    rfl
  have isRead : Small.view Small.session.world Small.path = .ok Small.latter :=
    rfl
  obtain ⟨comparison, isCompared, rfl, isRight⟩ :=
    upToDate_iff_isCurrent Small.isOpen Small.isLoaded rfl Small.areSound isRun
      (List.mem_singleton.mpr rfl) isRead Small.isSnapshot
  exact ⟨_, isCompared, Small.isStale.1, (isRight Small.isStale.1).1⟩

/-- A page can be reported as current although it was made from another content. -/
theorem stale_page_upToDate :
    ∃ (options : Options) (start : Generator) (world : World) (requests : List Request)
        (path : Path) (source : Text) (snapshot : Snapshot),
      world.disk.IsOpen ∧
      (Generator.load options : StateM World (Except Error Generator)) world =
        (.ok start, world) ∧
      start.registry.entries = .empty ∧
      (∀ request ∈ requests, request.IsSound) ∧
      Snapshot.ofSource? [] source path = some snapshot ∧
      (((Session.mk start world []).run requests).generator.registry.compare snapshot).reason =
        .upToDate ∧
      ¬∃ page,
        (Ledger.ofDeeds snapshot.identity ((Session.mk start world []).run requests).deeds).page =
          some page ∧
        page.contentHash = Snapshot.hashOf source := by
  refine ⟨Small.options, Small.generator, Small.world, Small.requests, Small.path, Small.latter,
    Small.snapshot, Small.isOpen, Small.isLoaded, rfl, Small.areSound, Small.isSnapshot,
    Small.isStale.1, ?_⟩
  rintro ⟨page, isPage, samePage⟩
  apply Small.isStale.2
  rw [Small.session, isPage, Option.map_some, samePage]

end Session

end ComponentPages
