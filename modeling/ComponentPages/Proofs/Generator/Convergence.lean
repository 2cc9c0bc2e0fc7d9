import ComponentPages.Proofs.Generator.CleanBatch
import ComponentPages.Proofs.Registry.Growth
import ComponentPages.Proofs.Registry.Outdated

namespace ComponentPages

/-!
# Catching up

Recording the snapshots of all sources and then making the pages of the outdated components brings
the registry and the pages up to date. An entry may name a source that now declares another
component, and such an entry stays outdated; but its source is among those that are recorded, so
making its page once more adds nothing to any history.
-/

namespace Registry

variable {registry : Registry} {snapshot : Snapshot}

/-! ## Histories -/

/-- Recording a version that an entry shows leaves all histories as they are. -/
theorem Shows.history?_upsert
    (isShown : registry.Shows snapshot)
    {other : Snapshot}
    (sameIdentity : snapshot.identity = other.identity)
    (agrees : snapshot.Agrees other)
    (now identity : Text) :
    (registry.upsert now other).1.history? identity = registry.history? identity := by
  obtain ⟨entry, found, isEntry⟩ := isShown
  have sameVersion : entry.currentVersion = other.version :=
    (congrArg Entry.currentVersion isEntry).symm.trans (agrees sameIdentity).1
  rw [sameIdentity] at found
  by_cases same : identity = other.identity
  · have recording := recording_upsert registry now other
    generalize registry.upsert now other = outcome at recording ⊢
    cases recording with
    | fresh absent =>
        simp [absent] at found
    | same existing isExisting isCurrent =>
        rw [same, history?, history?, entry?_put_self, isExisting]
        rfl
    | changed existing change isExisting differs classified =>
        obtain rfl := Option.some.inj (isExisting.symm.trans found)
        contradiction
  · rw [history?, history?, entry?_upsert_of_ne same]

/-! ## Recording many snapshots -/

/-- A snapshot of a component is shown after recording, or none of the component was recorded. -/
theorem shows_upsertAll
    (registry : Registry)
    (now : Text)
    (snapshots : List Snapshot)
    (identity : Text) :
    (∃ snapshot ∈ snapshots,
      snapshot.identity = identity ∧ Shows (registry.upsertAll now snapshots) snapshot) ∨
      (∀ snapshot ∈ snapshots, snapshot.identity ≠ identity) ∧
        Registry.entry? (registry.upsertAll now snapshots) identity =
          registry.entry? identity := by
  induction snapshots generalizing registry with
  | nil =>
      exact .inr ⟨by simp, rfl⟩
  | cons first rest inductionHypothesis =>
      rcases inductionHypothesis (registry.upsert now first).1 with
        ⟨snapshot, isRecorded, isIdentity, isShown⟩ | ⟨others, unchanged⟩
      · exact .inl ⟨snapshot, List.mem_cons_of_mem _ isRecorded, isIdentity, isShown⟩
      · by_cases same : first.identity = identity
        · rw [← same] at unchanged
          exact .inl ⟨first, List.mem_cons_self, same,
            (Shows.of_upsert registry now first).congr unchanged⟩
        · refine .inr ⟨List.forall_mem_cons.mpr ⟨same, others⟩, ?_⟩
          exact unchanged.trans (entry?_upsert_of_ne (Ne.symm same) registry now)

end Registry

namespace Generator

variable {generator made : Generator} {world after : World} {now : Text}
variable {view : World → Path → Except FileFault Text} {paths : List Path}

/-! ## Snapshots of sources that stay -/

/-- Whether a snapshot is one of a source at one of the paths, whenever it was taken. -/
def IsOfPaths
    (view : World → Path → Except FileFault Text)
    (world : World)
    (paths : List Path)
    (snapshot : Snapshot) : Prop :=
  ∃ path ∈ paths, ∃ time, snapshotIn time view world path = .ok snapshot

/-- Whether the sources of paths are the same in another world. -/
def HasSameSources
    (view : World → Path → Except FileFault Text)
    (paths : List Path)
    (world other : World) : Prop :=
  ∀ path ∈ paths, view other path = view world path

/-- A path whose source has a snapshot at one time has one at every time. -/
theorem exists_snapshotIn
    {path : Path}
    {snapshot : Snapshot}
    (isSnapshot : snapshotIn now view world path = .ok snapshot)
    (time : Text) :
    ∃ other,
      snapshotIn time view world path = .ok other ∧
        other.identity = snapshot.identity ∧
        other.version = snapshot.version ∧ other.contentHash = snapshot.contentHash := by
  obtain ⟨source, isRead, isOfSource⟩ := snapshotIn_eq_ok.mp isSnapshot
  obtain ⟨other, isOther, same⟩ := Snapshot.exists_ofSource? isOfSource time
  exact ⟨other, snapshotIn_eq_ok.mpr ⟨source, isRead, isOther⟩, same⟩

/-- A snapshot names the path of its source. -/
theorem filePath_of_snapshotIn
    {path : Path}
    {snapshot : Snapshot}
    (isSnapshot : snapshotIn now view world path = .ok snapshot) :
    snapshot.filePath = path := by
  obtain ⟨source, isRead, isOfSource⟩ := snapshotIn_eq_ok.mp isSnapshot
  obtain ⟨identity, _, rfl⟩ := Option.map_eq_some_iff.mp isOfSource
  rfl

/-- Snapshots of paths with their own identities agree, whenever they were taken. -/
theorem HaveOwnIdentities.agrees_of_isOfPaths
    (haveOwnIdentities : HaveOwnIdentities now view world paths)
    {former latter : Snapshot}
    (isFormer : IsOfPaths view world paths former)
    (isLatter : IsOfPaths view world paths latter) :
    former.Agrees latter := by
  obtain ⟨first, isFirst, firstTime, ofFirst⟩ := isFormer
  obtain ⟨second, isSecond, secondTime, ofSecond⟩ := isLatter
  obtain ⟨one, isOne, oneIdentity, oneVersion, oneContent⟩ := exists_snapshotIn ofFirst now
  obtain ⟨other, isOther, otherIdentity, otherVersion, otherContent⟩ :=
    exists_snapshotIn ofSecond now
  intro sameIdentity
  have agrees := haveOwnIdentities.agrees isFirst isSecond isOne isOther
    (oneIdentity.trans (sameIdentity.trans otherIdentity.symm))
  rw [← oneVersion, ← otherVersion, ← oneContent, ← otherContent]
  exact agrees

/-- Paths that have their own identities have them where their sources are the same. -/
theorem HaveOwnIdentities.of_subset
    (haveOwnIdentities : HaveOwnIdentities now view world paths)
    {some : List Path}
    (areSome : ∀ path ∈ some, path ∈ paths)
    (same : HasSameSources view paths world after)
    (time : Text) :
    HaveOwnIdentities time view after some := by
  intro first isFirst second isSecond former latter isFormer isLatter sameIdentity
  have firstSame := same first (areSome first isFirst)
  have secondSame := same second (areSome second isSecond)
  rw [snapshotIn_congr firstSame] at isFormer
  rw [snapshotIn_congr secondSame] at isLatter
  obtain ⟨one, isOne, oneIdentity, -⟩ := exists_snapshotIn isFormer now
  obtain ⟨other, isOther, otherIdentity, -⟩ := exists_snapshotIn isLatter now
  rw [firstSame, secondSame]
  exact haveOwnIdentities first (areSome first isFirst) second (areSome second isSecond) one other
    isOne isOther (oneIdentity.trans (sameIdentity.trans otherIdentity.symm))

/-! ## Registries that are caught up -/

/-- Whether the entries show the sources of paths and name no other paths. -/
structure IsCaughtUp
    (view : World → Path → Except FileFault Text)
    (world : World)
    (paths : List Path)
    (registry : Registry) : Prop where
  shows : ∀ snapshot,
    IsOfPaths view world paths snapshot →
      ∃ other,
        IsOfPaths view world paths other ∧
          other.identity = snapshot.identity ∧ registry.Shows other
  filePath : ∀ identity entry, registry.entry? identity = some entry → entry.filePath ∈ paths

/-- Recording such a snapshot leaves a registry caught up, and all histories as they are. -/
theorem IsCaughtUp.upsert
    {registry : Registry}
    (isCaughtUp : IsCaughtUp view world paths registry)
    (haveOwnIdentities : HaveOwnIdentities now view world paths)
    (time : Text)
    {snapshot : Snapshot}
    (isOfPaths : IsOfPaths view world paths snapshot) :
    IsCaughtUp view world paths (registry.upsert time snapshot).1 ∧
      ∀ identity,
        (registry.upsert time snapshot).1.history? identity = registry.history? identity := by
  refine ⟨⟨?_, ?_⟩, ?_⟩
  · intro other isOther
    by_cases same : snapshot.identity = other.identity
    · exact ⟨snapshot, isOfPaths, same, Registry.Shows.of_upsert registry time snapshot⟩
    · obtain ⟨shown, isShownOf, shownIdentity, isShown⟩ := isCaughtUp.shows other isOther
      refine ⟨shown, isShownOf, shownIdentity, isShown.congr ?_⟩
      rw [shownIdentity]
      exact Registry.entry?_upsert_of_ne (Ne.symm same) registry time
  · intro identity entry found
    by_cases same : identity = snapshot.identity
    · obtain ⟨history, recorded⟩ := Registry.entry?_upsert_self registry time snapshot
      rw [same, recorded] at found
      obtain rfl := Option.some.inj found
      obtain ⟨path, isPath, moment, isSnapshot⟩ := isOfPaths
      rw [← filePath_of_snapshotIn isSnapshot] at isPath
      exact isPath
    · rw [Registry.entry?_upsert_of_ne same] at found
      exact isCaughtUp.filePath identity entry found
  · obtain ⟨shown, isShownOf, shownIdentity, isShown⟩ := isCaughtUp.shows snapshot isOfPaths
    exact isShown.history?_upsert shownIdentity
      (haveOwnIdentities.agrees_of_isOfPaths isShownOf isOfPaths) time

/-- Marking a component leaves a registry caught up. -/
theorem IsCaughtUp.markDocumented
    {registry : Registry}
    (isCaughtUp : IsCaughtUp view world paths registry)
    (time identity version : Text) :
    IsCaughtUp view world paths
      ((registry.markDocumented? time identity version).getD registry) := by
  refine ⟨?_, ?_⟩
  · intro snapshot isOfPaths
    obtain ⟨shown, isShownOf, shownIdentity, isShown⟩ := isCaughtUp.shows snapshot isOfPaths
    refine ⟨shown, isShownOf, shownIdentity, ?_⟩
    have recordsOther :
        ¬Registry.Operation.Records shown.identity (.markDocumented time identity version) :=
      not_false
    exact isShown.perform recordsOther
  · intro other entry found
    by_cases same : other = identity
    · rw [same, Registry.entry?_markDocumented_self] at found
      obtain ⟨former, isFormer, rfl⟩ := Option.map_eq_some_iff.mp found
      exact isCaughtUp.filePath identity former isFormer
    · rw [Registry.entry?_markDocumented_of_ne same] at found
      exact isCaughtUp.filePath other entry found

/-- Recording and marking such snapshots leaves a registry caught up, and all histories too. -/
theorem IsCaughtUp.of_course
    (isCaughtUp : IsCaughtUp view world paths generator.registry)
    (haveOwnIdentities : HaveOwnIdentities now view world paths)
    {before : World}
    {deeds : List Deed}
    (course : generator.Course (IsOfPaths view world paths) before deeds made after) :
    IsCaughtUp view world paths made.registry ∧
      ∀ identity, made.registry.history? identity = generator.registry.history? identity := by
  induction course with
  | start =>
      exact ⟨isCaughtUp, fun _ => rfl⟩
  | record course time isOfPaths inductionHypothesis =>
      obtain ⟨isCaughtUpBefore, sameBefore⟩ := inductionHypothesis
      obtain ⟨isCaughtUpAfter, sameAfter⟩ :=
        isCaughtUpBefore.upsert haveOwnIdentities time isOfPaths
      exact ⟨isCaughtUpAfter, fun identity => (sameAfter identity).trans (sameBefore identity)⟩
  | move course keeps inductionHypothesis =>
      exact inductionHypothesis
  | mark course time isOfPaths isKnown inductionHypothesis =>
      obtain ⟨isCaughtUpBefore, sameBefore⟩ := inductionHypothesis
      refine ⟨isCaughtUpBefore.markDocumented time _ _, ?_⟩
      intro identity
      exact (Registry.history?_markDocumented _ time _ _ identity).trans (sameBefore identity)
  | save course isSaved inductionHypothesis =>
      exact inductionHypothesis

/-! ## Recording all sources -/

/-- Recording the snapshots of paths leaves them in the registry, even if saving it fails. -/
theorem of_refresh
    {result : Except Error (List Outcome)}
    (refreshed :
      (generator.refresh now (.ofView view) paths :
        StateM World (Generator × Except Error (List Outcome))) world =
          ((made, result), after)) :
    made =
      { generator with
        registry := generator.registry.upsertAll now (snapshotsIn now view world paths) } := by
  rw [run_refresh] at refreshed
  dsimp only at refreshed
  split at refreshed
  · exact (Prod.mk.inj (Prod.mk.inj refreshed).1).1.symm
  · split at refreshed <;> exact (Prod.mk.inj (Prod.mk.inj refreshed).1).1.symm

/-- Recording the snapshots of all paths that the entries name catches up. -/
theorem isCaughtUp_of_refresh
    (areCovered : ∀ identity entry,
      generator.registry.entry? identity = some entry → entry.filePath ∈ paths)
    {result : Except Error (List Outcome)}
    (refreshed :
      (generator.refresh now (.ofView view) paths :
        StateM World (Generator × Except Error (List Outcome))) world =
          ((made, result), after)) :
    IsCaughtUp view world paths made.registry := by
  have isOfPaths : ∀ snapshot ∈ snapshotsIn now view world paths,
      IsOfPaths view world paths snapshot := by
    intro snapshot isRecorded
    obtain ⟨path, isPath, isRead⟩ := mem_snapshotsIn.mp isRecorded
    exact ⟨path, isPath, now, snapshotIn_eq_ok.mpr isRead⟩
  have recorded := Registry.shows_upsertAll generator.registry now
    (snapshotsIn now view world paths)
  rw [of_refresh refreshed]
  constructor
  · rintro snapshot ⟨path, isPath, time, isSnapshot⟩
    obtain ⟨current, isCurrent, sameIdentity, -⟩ := exists_snapshotIn isSnapshot now
    have isRecorded : current ∈ snapshotsIn now view world paths :=
      mem_snapshotsIn.mpr ⟨path, isPath, snapshotIn_eq_ok.mp isCurrent⟩
    rcases recorded snapshot.identity with ⟨other, isOther, otherIdentity, isShown⟩ | ⟨others, _⟩
    · exact ⟨other, isOfPaths other isOther, otherIdentity, isShown⟩
    · exact absurd sameIdentity (others current isRecorded)
  · intro identity entry found
    rcases recorded identity with ⟨other, isOther, rfl, isShown⟩ | ⟨_, unchanged⟩
    · obtain ⟨shown, isFound, isEntry⟩ := isShown
      obtain rfl := Option.some.inj (isFound.symm.trans found)
      obtain ⟨path, isPath, time, isSnapshot⟩ := isOfPaths other isOther
      have sameFile : other.filePath = shown.filePath := congrArg Entry.filePath isEntry
      rw [← sameFile, filePath_of_snapshotIn isSnapshot]
      exact isPath
    · exact areCovered identity entry (unchanged.symm.trans found)

/-! ## Outdated components -/

/-- The paths of outdated components are among those that the entries name. -/
theorem mem_of_mem_outdatedPaths
    (areNamed : ∀ identity entry,
      generator.registry.entry? identity = some entry → entry.filePath ∈ paths)
    {path : Path}
    (isOutdated : path ∈ generator.outdatedPaths) :
    path ∈ paths := by
  obtain ⟨comparison, _, isPath⟩ := List.mem_filterMap.mp isOutdated
  obtain ⟨entry, found, rfl⟩ := Option.map_eq_some_iff.mp isPath
  exact areNamed comparison.identity entry found

/-- The path of an outdated entry is among those of outdated components. -/
theorem mem_outdatedPaths
    {identity : Text}
    {entry : Entry}
    (found : generator.registry.entry? identity = some entry)
    (isOutdated : entry.isOutdated = true) :
    entry.filePath ∈ generator.outdatedPaths := by
  obtain ⟨comparison, isComparison, rfl⟩ :=
    List.mem_map.mp ((Registry.mem_identities_outdated_iff found).mpr isOutdated)
  refine List.mem_filterMap.mpr ⟨comparison, isComparison, ?_⟩
  exact Option.map_eq_some_iff.mpr ⟨entry, found, rfl⟩

/-- Whether the sources of paths stay while the pages of outdated components are made. -/
def StaysWhileOutdated
    (now : Text)
    (view : World → Path → Except FileFault Text)
    (generator : Generator)
    (paths : List Path)
    (world : World) : Prop :=
  ∀ done, done <+: generator.outdatedPaths →
    HasSameSources view paths world (generator.worldAfter now view done world)

/-- Making the pages of outdated components records snapshots of sources that they name. -/
theorem course_generateOutdated
    {start : World}
    (areNamed : ∀ identity entry,
      generator.registry.entry? identity = some entry → entry.filePath ∈ paths)
    (sameSources : HasSameSources view paths start world)
    (stays : generator.StaysWhileOutdated now view paths world)
    {allowed : Snapshot → Prop}
    (areAllowed : ∀ snapshot, IsOfPaths view start paths snapshot → allowed snapshot)
    {outcomes : List Outcome}
    (generated :
      (generator.generateEach now (.ofView view) generator.outdatedPaths :
        StateM World (Generator × List Outcome)) world = ((made, outcomes), after)) :
    ∃ deeds, generator.Course allowed world deeds made after := by
  refine ⟨_, course_generateEach ?_ generated⟩
  intro done path later isSplit snapshot isSnapshot
  have isOutdated : path ∈ generator.outdatedPaths := by
    simp [isSplit]
  have isPath := mem_of_mem_outdatedPaths areNamed isOutdated
  have same := stays done ⟨_, isSplit.symm⟩ path isPath
  rw [snapshotIn_congr (same.trans (sameSources path isPath))] at isSnapshot
  exact areAllowed snapshot ⟨path, isPath, now, isSnapshot⟩

/-- If the pages of all paths of a batch are made, the page of each path is. -/
theorem exists_generated
    {outcomes : List Outcome}
    (generated :
      (generator.generateEach now (.ofView view) paths :
        StateM World (Generator × List Outcome)) world = ((made, outcomes), after))
    (areGenerated : ∀ outcome ∈ outcomes, outcome.isGenerated = true)
    {path : Path}
    (isPath : path ∈ paths) :
    ∃ written, (path, .generated written) ∈ paths.zip outcomes := by
  have sameLength := length_generateEach now (.ofView view) generator paths world
  rw [generated] at sameLength
  have isFirst : path ∈ (paths.zip outcomes).map Prod.fst := by
    rw [List.map_fst_zip (Nat.le_of_eq sameLength.symm)]
    exact isPath
  obtain ⟨⟨_, outcome⟩, isZipped, rfl⟩ := List.mem_map.mp isFirst
  have isGenerated := areGenerated outcome (List.of_mem_zip isZipped).2
  cases outcome with
  | generated written =>
      exact ⟨written, isZipped⟩
  | skipped other =>
      cases isGenerated
  | failed other error =>
      cases isGenerated

/-- If the pages of all outdated components are made, the entry of each source is current. -/
theorem IsCaughtUp.isCurrentFor
    {start : World}
    (isCaughtUp : IsCaughtUp view start paths generator.registry)
    {time : Text}
    (haveOwnIdentities : HaveOwnIdentities time view start paths)
    (sameSources : HasSameSources view paths start world)
    (stays : generator.StaysWhileOutdated now view paths world)
    {outcomes : List Outcome}
    (generated :
      (generator.generateEach now (.ofView view) generator.outdatedPaths :
        StateM World (Generator × List Outcome)) world = ((made, outcomes), after))
    (areGenerated : ∀ outcome ∈ outcomes, outcome.isGenerated = true)
    {snapshot : Snapshot}
    (isOfPaths : IsOfPaths view start paths snapshot) :
    made.registry.IsCurrentFor snapshot := by
  obtain ⟨shown, ⟨path, isPath, moment, isShownOf⟩, shownIdentity, entry, found, isEntry⟩ :=
    isCaughtUp.shows snapshot isOfPaths
  have sameVersion : shown.version = entry.currentVersion := congrArg Entry.currentVersion isEntry
  have sameContent : shown.contentHash = entry.contentHash := congrArg Entry.contentHash isEntry
  have sameFile : shown.filePath = entry.filePath := congrArg Entry.filePath isEntry
  have agrees :=
    haveOwnIdentities.agrees_of_isOfPaths ⟨path, isPath, moment, isShownOf⟩ isOfPaths shownIdentity
  by_cases isOutdated : entry.isOutdated = true
  · -- The entry names a path of its own component, and the page of this path was made.
    have isPending := mem_outdatedPaths found isOutdated
    rw [← sameFile, filePath_of_snapshotIn isShownOf] at isPending
    obtain ⟨written, isGenerated⟩ := exists_generated generated areGenerated isPending
    have areSome : ∀ other ∈ generator.outdatedPaths, other ∈ paths :=
      fun _ => mem_of_mem_outdatedPaths isCaughtUp.filePath
    have isSteady : generator.IsSteady now view generator.outdatedPaths world :=
      fun done isDone other isOther => stays done isDone other (areSome other isOther)
    obtain ⟨current, isRead, _, isCurrent⟩ :=
      isCurrentFor_of_generateEach isSteady
        (haveOwnIdentities.of_subset areSome sameSources now) generated isGenerated
    rw [snapshotIn_congr (sameSources path isPath)] at isRead
    obtain ⟨again, isAgain, sameIdentity, sameOther⟩ := exists_snapshotIn isShownOf now
    obtain rfl := Except.ok.inj (isRead.symm.trans isAgain)
    exact isCurrent.congr (shownIdentity.symm.trans sameIdentity.symm)
      (agrees.1.symm.trans sameOther.1.symm) (agrees.2.symm.trans sameOther.2.symm)
  · have isDocumented : entry.documentationVersion = shown.version := by
      have sameVersions : entry.currentVersion = entry.documentationVersion := by
        simpa [Entry.isOutdated] using isOutdated
      exact sameVersions.symm.trans sameVersion.symm
    have isCurrent : generator.registry.IsCurrentFor shown :=
      ⟨entry, found, isDocumented, sameContent.symm⟩
    obtain ⟨deeds, course⟩ :=
      course_generateOutdated isCaughtUp.filePath sameSources stays
        (fun other isOther => haveOwnIdentities.agrees_of_isOfPaths isOther isOfPaths) generated
    exact isCurrentFor_of_course
      (isCurrent.congr shownIdentity.symm agrees.1.symm agrees.2.symm) course

/-! ## Doing both -/

private theorem HasSameSources.trans
    {between : World}
    (first : HasSameSources view paths world between)
    (second : HasSameSources view paths between after) :
    HasSameSources view paths world after :=
  fun path isPath => (second path isPath).trans (first path isPath)

/-- Recording all sources again leaves a registry caught up, and all histories as they are. -/
theorem IsCaughtUp.of_refresh
    {start : World}
    (isCaughtUp : IsCaughtUp view start paths generator.registry)
    (haveOwnIdentities : HaveOwnIdentities now view start paths)
    (sameSources : HasSameSources view paths start world)
    {time : Text}
    {result : Except Error (List Outcome)}
    (refreshed :
      (generator.refresh time (.ofView view) paths :
        StateM World (Generator × Except Error (List Outcome))) world =
          ((made, result), after)) :
    IsCaughtUp view start paths made.registry ∧
      ∀ identity, made.registry.history? identity = generator.registry.history? identity := by
  refine isCaughtUp.of_course haveOwnIdentities (course_refresh ?_ refreshed)
  intro snapshot isRecorded
  obtain ⟨path, isPath, isRead⟩ := mem_snapshotsIn.mp isRecorded
  have isSnapshot := snapshotIn_eq_ok.mpr isRead
  rw [snapshotIn_congr (sameSources path isPath)] at isSnapshot
  exact ⟨path, isPath, time, isSnapshot⟩

/-- Making the pages of outdated components leaves all histories as they are. -/
theorem IsCaughtUp.of_generateOutdated
    {start : World}
    (isCaughtUp : IsCaughtUp view start paths generator.registry)
    {time : Text}
    (haveOwnIdentities : HaveOwnIdentities time view start paths)
    (sameSources : HasSameSources view paths start world)
    (stays : generator.StaysWhileOutdated now view paths world)
    {outcomes : List Outcome}
    (generated :
      (generator.generateEach now (.ofView view) generator.outdatedPaths :
        StateM World (Generator × List Outcome)) world = ((made, outcomes), after)) :
    IsCaughtUp view start paths made.registry ∧
      ∀ identity, made.registry.history? identity = generator.registry.history? identity := by
  obtain ⟨deeds, course⟩ :=
    course_generateOutdated isCaughtUp.filePath sameSources stays (fun _ isOfPaths => isOfPaths)
      generated
  exact isCaughtUp.of_course haveOwnIdentities course

/-- An entry that is current and shows its source is not outdated. -/
theorem IsCaughtUp.isOutdated_eq_false
    (isCaughtUp : IsCaughtUp view world paths generator.registry)
    (haveOwnIdentities : HaveOwnIdentities now view world paths)
    {snapshot : Snapshot}
    (isOfPaths : IsOfPaths view world paths snapshot)
    (isCurrent : generator.registry.IsCurrentFor snapshot) :
    ∃ entry,
      generator.registry.entry? snapshot.identity = some entry ∧ entry.isOutdated = false := by
  obtain ⟨shown, isShownOf, shownIdentity, entry, found, isEntry⟩ :=
    isCaughtUp.shows snapshot isOfPaths
  obtain ⟨known, isKnown, sameDocumented, _⟩ := isCurrent
  rw [shownIdentity, isKnown] at found
  obtain rfl := Option.some.inj found
  have sameVersion : shown.version = known.currentVersion := congrArg Entry.currentVersion isEntry
  have agrees := haveOwnIdentities.agrees_of_isOfPaths isShownOf isOfPaths shownIdentity
  refine ⟨known, isKnown, ?_⟩
  rw [Entry.isOutdated, ← sameVersion, agrees.1, sameDocumented, bne_self_eq_false]

/--
If the snapshots of all sources that the entries name are recorded, and then the pages of all
outdated components are made, a comparison reports every source as current, and no source has an
outdated entry. Doing both again, at any time and whatever fails, adds nothing to any history.
-/
theorem converges_generateOutdated
    (haveOwnIdentities : HaveOwnIdentities now view world paths)
    (haveVersions : ∀ snapshot ∈ snapshotsIn now view world paths, snapshot.version ≠ [])
    (areCovered : ∀ identity entry,
      generator.registry.entry? identity = some entry → entry.filePath ∈ paths)
    {recorded : Generator}
    {problems : List Outcome}
    {between : World}
    (refreshed :
      (generator.refresh now (.ofView view) paths :
        StateM World (Generator × Except Error (List Outcome))) world =
          ((recorded, .ok problems), between))
    (sameSources : HasSameSources view paths world between)
    {time : Text}
    (stays : recorded.StaysWhileOutdated time view paths between)
    {batch : Batch}
    (generated :
      (recorded.generateOutdated time (.ofView view) : StateM World (Generator × Batch)) between =
        ((made, batch), after))
    (areGenerated : ∀ outcome ∈ batch.outcomes, outcome.isGenerated = true) :
    (∀ moment, ∃ report,
      (made.compareFiles moment (.ofView view) paths : StateM World Report) after =
          (report, after) ∧
        report.results = (snapshotsIn moment view world paths).map made.registry.compare ∧
        ∀ comparison ∈ report.results, comparison.needsUpdate = false) ∧
      (∀ snapshot,
        IsOfPaths view world paths snapshot →
          ∃ entry,
            made.registry.entry? snapshot.identity = some entry ∧ entry.isOutdated = false) ∧
      ∀ moment again result later,
        (made.refresh moment (.ofView view) paths :
          StateM World (Generator × Except Error (List Outcome))) after =
            ((again, result), later) →
        HasSameSources view paths after later →
        ∀ instant,
          again.StaysWhileOutdated instant view paths later →
          ∀ final more last,
            (again.generateOutdated instant (.ofView view) :
              StateM World (Generator × Batch)) later = ((final, more), last) →
            ∀ identity,
              again.registry.history? identity = made.registry.history? identity ∧
                final.registry.history? identity = made.registry.history? identity := by
  have isBatch := of_generateAll generated
  have sameAfter : HasSameSources view paths world after := by
    have sameLast := stays recorded.outdatedPaths List.prefix_rfl
    rw [worldAfter, isBatch] at sameLast
    exact sameSources.trans sameLast
  have isCaughtUp := isCaughtUp_of_refresh areCovered refreshed
  have areCurrent : ∀ snapshot, IsOfPaths view world paths snapshot →
      made.registry.IsCurrentFor snapshot := by
    intro snapshot isOfPaths
    exact isCaughtUp.isCurrentFor haveOwnIdentities sameSources stays isBatch areGenerated isOfPaths
  obtain ⟨isCaughtUpAfter, -⟩ :=
    isCaughtUp.of_generateOutdated haveOwnIdentities sameSources stays isBatch
  refine ⟨?_, ?_, ?_⟩
  · intro moment
    have sameSnapshots :
        snapshotsIn moment view after paths = snapshotsIn moment view world paths := by
      refine List.filterMap_congr fun path isPath => ?_
      rw [snapshotIn_congr (sameAfter path isPath)]
    refine ⟨_, run_compareFiles moment view made paths after, by rw [sameSnapshots], ?_⟩
    intro comparison isCompared
    rw [sameSnapshots] at isCompared
    obtain ⟨snapshot, isTaken, rfl⟩ := List.mem_map.mp isCompared
    obtain ⟨path, isPath, isRead⟩ := mem_snapshotsIn.mp isTaken
    have isSnapshot := snapshotIn_eq_ok.mpr isRead
    have isCurrent := areCurrent snapshot ⟨path, isPath, moment, isSnapshot⟩
    have hasVersion : snapshot.version ≠ [] := by
      obtain ⟨first, isFirst, _, sameVersion, _⟩ := exists_snapshotIn isSnapshot now
      rw [← sameVersion]
      exact haveVersions first (mem_snapshotsIn.mpr ⟨path, isPath, snapshotIn_eq_ok.mp isFirst⟩)
    simp [Registry.needsUpdate_compare, isCurrent.reason_compare hasVersion]
  · intro snapshot isOfPaths
    exact isCaughtUpAfter.isOutdated_eq_false haveOwnIdentities isOfPaths
      (areCurrent snapshot isOfPaths)
  · intro moment again result later refreshedAgain sameLater instant staysAgain final more last
      generatedAgain identity
    obtain ⟨isCaughtUpAgain, sameAgain⟩ :=
      isCaughtUpAfter.of_refresh haveOwnIdentities sameAfter refreshedAgain
    obtain ⟨_, sameFinal⟩ :=
      isCaughtUpAgain.of_generateOutdated haveOwnIdentities (sameAfter.trans sameLater) staysAgain
        (of_generateAll generatedAgain)
    exact ⟨sameAgain identity, (sameFinal identity).trans (sameAgain identity)⟩

end Generator

/-! ## A component that moved away -/

namespace Session.Small

/-- The registry names the path for a component that its source does not declare. -/
def outdated : Generator :=
  { generator with
    registry :=
      generator.registry.put "Old".toList
        (.ofSnapshot none [] { snapshot with identity := "Old".toList }) }

/-- The refresh of the registry that is done first. -/
def refreshRun : (Generator × Except Error (List Outcome)) × World :=
  (outdated.refresh [] (.ofView fun _ => sources) [path] :
    StateM World (Generator × Except Error (List Outcome))) world

/-- The run that makes the outdated pages anew. -/
def outdatedRun : (Generator × Batch) × World :=
  (refreshRun.1.1.generateOutdated "later".toList (.ofView fun _ => sources) :
    StateM World (Generator × Batch)) refreshRun.2

/-- Both the component of the source and the one that moved away are outdated. -/
theorem outcomes_outdatedRun :
    outdatedRun.1.2.outcomes =
      [.generated ⟨"A".toList, options.pagePath "A".toList⟩,
        .generated ⟨"A".toList, options.pagePath "A".toList⟩] := by
  decide +kernel

private theorem result_refreshRun : refreshRun.1.2 = .ok [] := by
  decide

/-- The component that moved away names the path, and no other component is known. -/
theorem areCovered :
    ∀ identity entry,
      outdated.registry.entry? identity = some entry → entry.filePath ∈ [path] := by
  intro identity entry found
  have onlyPath : ∀ binding ∈ outdated.registry.entries.bindings,
      binding.2.filePath ∈ [path] := by
    decide
  exact onlyPath _ (Bindings.mem_of_find? found)

end Session.Small

/-- A component that moved away stays outdated, but the source at its path is up to date. -/
theorem Generator.converges_generateOutdated_small :
    ∃ recorded made batch between after report,
      (Session.Small.outdated.refresh [] (.ofView fun _ => Session.Small.sources)
          [Session.Small.path] : StateM World (Generator × Except Error (List Outcome)))
          Session.Small.world =
        ((recorded, .ok []), between) ∧
      (recorded.generateOutdated "later".toList (.ofView fun _ => Session.Small.sources) :
          StateM World (Generator × Batch)) between = ((made, batch), after) ∧
      (∀ outcome ∈ batch.outcomes, outcome.isGenerated = true) ∧
      (made.compareFiles [] (.ofView fun _ => Session.Small.sources) [Session.Small.path] :
          StateM World Report) after = (report, after) ∧
      (∀ comparison ∈ report.results, comparison.needsUpdate = false) ∧
      ∃ entry,
        made.registry.entry? Session.Small.snapshot.identity = some entry ∧
          entry.isOutdated = false := by
  have haveOwnIdentities :
      HaveOwnIdentities [] (fun _ => Session.Small.sources) Session.Small.world
        [Session.Small.path] := by
    intro first isFirst second isSecond _ _ _ _ _
    rw [List.mem_singleton.mp isFirst, List.mem_singleton.mp isSecond]
  have haveVersions :
      ∀ snapshot ∈ snapshotsIn [] (fun _ => Session.Small.sources) Session.Small.world
        [Session.Small.path], snapshot.version ≠ [] := by
    decide
  have isOfPaths :
      IsOfPaths (fun _ => Session.Small.sources) Session.Small.world [Session.Small.path]
        Session.Small.snapshot := by
    refine ⟨Session.Small.path, List.mem_singleton.mpr rfl, [], ?_⟩
    exact snapshotIn_eq_ok.mpr ⟨Session.Small.latter, rfl, Session.Small.isSnapshot⟩
  have problems := Session.Small.result_refreshRun
  have outcomes := Session.Small.outcomes_outdatedRun
  unfold Session.Small.outdatedRun at outcomes
  rcases isRefreshed : Session.Small.refreshRun with ⟨⟨recorded, result⟩, between⟩
  rw [isRefreshed] at problems outcomes
  obtain rfl : result = .ok [] := problems
  rcases isGenerated :
      (recorded.generateOutdated "later".toList (.ofView fun _ => Session.Small.sources) :
        StateM World (Generator × Batch)) between with ⟨⟨made, batch⟩, after⟩
  rw [isGenerated] at outcomes
  have areGenerated : ∀ outcome ∈ batch.outcomes, outcome.isGenerated = true := by
    rw [outcomes]
    decide
  obtain ⟨areCurrent, noneOutdated, _⟩ :=
    converges_generateOutdated haveOwnIdentities haveVersions Session.Small.areCovered isRefreshed
      (fun _ _ => rfl) (fun _ _ _ _ => rfl) isGenerated areGenerated
  obtain ⟨report, isReport, _, noUpdates⟩ := areCurrent []
  exact ⟨recorded, made, batch, between, after, report, isRefreshed, isGenerated, areGenerated,
    isReport, noUpdates, noneOutdated _ isOfPaths⟩

end ComponentPages
