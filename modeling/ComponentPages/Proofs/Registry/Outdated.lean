import ComponentPages.Registry.Comparison
import ComponentPages.Proofs.Text.Keyed

namespace ComponentPages

/-!
# Outdated components

Whether a component needs a new page is decided in two ways: a fresh snapshot is compared with the
entry of its component, and the entries are scanned on their own. The scan cannot see a source that
changed without a new version. Where the snapshot shows the version and the content on record, both
ways decide the same, for any texts of versions, and ask for the same work. The scan finds every
component once, in the order of the identities, and the statistics count what it finds.
-/

/-! ## What both ways say of a component -/

/-- Whether a reason found by a comparison shows as another one in the scan of the entries. -/
inductive Reason.ShowsAs : Reason → Reason → Prop where
  /-- There is no page. -/
  | missing : ShowsAs .missingDocs .missingDocs
  /-- The page shows another version, that of the snapshot or of the entry. -/
  | stale : ShowsAs .versionMismatch .staleDocs

/-- Whether two results ask for the same work on one component. -/
structure Comparison.AsksForSameWork (comparison outdated : Comparison) : Prop where
  identity : comparison.identity = outdated.identity
  current : comparison.current = outdated.current
  documented : comparison.documented = outdated.documented
  change : comparison.change = outdated.change
  priority : comparison.priority = outdated.priority
  effort : comparison.effort = outdated.effort
  reason : comparison.reason.ShowsAs outdated.reason

/-- Two results for the same versions differ in their reasons alone. -/
theorem Comparison.asksForSameWork_ofVersions
    {reason shown : Reason}
    (showsAs : reason.ShowsAs shown)
    (identity current : Text)
    (documented : Option Text) :
    (ofVersions identity current documented reason).AsksForSameWork
      (ofVersions identity current documented shown) :=
  ⟨rfl, rfl, rfl, rfl, rfl, rfl, showsAs⟩

/-- Whether a snapshot shows the version and the content that an entry has. -/
structure Snapshot.ShowsRecorded (snapshot : Snapshot) (entry : Entry) : Prop where
  version : snapshot.version = entry.currentVersion
  contentHash : snapshot.contentHash = entry.contentHash

namespace Comparison

variable {snapshot : Snapshot} {entry : Entry}

/--
A snapshot of what an entry has on record is found current exactly if the entry is, unless the
entry has no version at all.
-/
theorem reasonFor_eq_upToDate_iff
    (showsRecorded : snapshot.ShowsRecorded entry)
    (hasVersion : entry.currentVersion ≠ []) :
    reasonFor entry snapshot = .upToDate ↔ entry.isOutdated = false := by
  by_cases sameVersion : entry.currentVersion = entry.documentationVersion
  · have isDocumented : entry.isDocumented = true := by
      simpa [Entry.isDocumented, ← sameVersion] using hasVersion
    simp [reasonFor, isDocumented, Entry.isOutdated, showsRecorded.version,
      showsRecorded.contentHash, sameVersion]
  · have differs : entry.documentationVersion ≠ snapshot.version :=
      showsRecorded.version ▸ Ne.symm sameVersion
    by_cases isDocumented : entry.isDocumented = true
    · simp [reasonFor, isDocumented, differs, Entry.isOutdated, sameVersion]
    · simp [reasonFor, isDocumented, Entry.isOutdated, sameVersion]

/-- If the entry is outdated, the reason of the comparison shows as that of the scan. -/
theorem reasonFor_showsAs
    (showsRecorded : snapshot.ShowsRecorded entry)
    (isOutdated : entry.isOutdated = true) :
    (reasonFor entry snapshot).ShowsAs
      (if entry.isDocumented then .staleDocs else .missingDocs) := by
  by_cases isDocumented : entry.isDocumented = true
  · have differs : entry.documentationVersion ≠ snapshot.version := by
      rw [showsRecorded.version]
      exact Ne.symm (bne_iff_ne.mp isOutdated)
    simpa [reasonFor, isDocumented, differs] using Reason.ShowsAs.stale
  · simpa [reasonFor, isDocumented] using Reason.ShowsAs.missing

end Comparison

namespace Registry

variable {registry : Registry} {identity : Text} {entry : Entry}

/-! ## The scan of the entries -/

private theorem outdatedEntry?_identity
    {outdated : Comparison}
    (isOutdated : outdatedEntry? identity entry = some outdated) :
    outdated.identity = identity := by
  unfold outdatedEntry? at isOutdated
  split at isOutdated
  · obtain rfl := Option.some.inj isOutdated
    rfl
  · contradiction

/-- An entry is listed as outdated exactly if it is. -/
theorem exists_outdatedEntry?_iff (identity : Text) (entry : Entry) :
    (∃ outdated, outdatedEntry? identity entry = some outdated) ↔ entry.isOutdated = true := by
  cases isOutdated : entry.isOutdated <;> simp [isOutdated, outdatedEntry?]

/-- The scan finds under an identity what becomes of its entry alone. -/
theorem mem_outdated_iff
    (found : registry.entry? identity = some entry)
    (outdated : Comparison) :
    outdated ∈ registry.outdated ∧ outdated.identity = identity ↔
      outdatedEntry? identity entry = some outdated := by
  rw [Registry.outdated, List.mem_filterMap]
  constructor
  · rintro ⟨⟨⟨other, otherEntry⟩, isBinding, isOutdated⟩, rfl⟩
    obtain rfl := outdatedEntry?_identity isOutdated
    have isEntry := Bindings.find?_of_mem registry.entries.ascending isBinding
    obtain rfl := Option.some.inj (isEntry.symm.trans found)
    exact isOutdated
  · intro isOutdated
    exact ⟨⟨(identity, entry), Bindings.mem_of_find? found, isOutdated⟩,
      outdatedEntry?_identity isOutdated⟩

/-- An identity occurs in the scan exactly if its entry is outdated. -/
theorem mem_identities_outdated_iff (found : registry.entry? identity = some entry) :
    identity ∈ registry.outdated.map (·.identity) ↔ entry.isOutdated = true := by
  rw [List.mem_map, ← exists_outdatedEntry?_iff identity]
  exact exists_congr (mem_outdated_iff found)

/-- The identities of the scan are the names of the outdated entries, in their order. -/
theorem identities_outdated (registry : Registry) :
    registry.outdated.map (·.identity) =
      (registry.entries.bindings.filter (·.2.isOutdated)).map (·.1) := by
  rw [Registry.outdated]
  induction registry.entries.bindings with
  | nil =>
      rfl
  | cons first rest inductionHypothesis =>
      cases isOutdated : first.2.isOutdated with
      | false =>
          simpa [isOutdated, outdatedEntry?] using inductionHypothesis
      | true =>
          simpa [isOutdated, outdatedEntry?, Comparison.ofVersions] using inductionHypothesis

/-- Outdated components are listed in the order of their identities, each once. -/
theorem pairwise_identities_outdated (registry : Registry) :
    (registry.outdated.map (·.identity)).Pairwise (· < ·) := by
  rw [identities_outdated, List.pairwise_map]
  exact registry.entries.ascending.sublist List.filter_sublist

/-- The number of outdated components is the one in the statistics. -/
theorem length_outdated (registry : Registry) :
    registry.outdated.length = registry.statistics.outdated := by
  have counted :
      registry.statistics.outdated =
        (registry.entries.bindings.filter (·.2.isOutdated)).length := by
    rw [← List.countP_eq_length_filter]
    exact List.countP_map
  have sameLength := congrArg List.length (identities_outdated registry)
  rw [List.length_map, List.length_map] at sameLength
  exact sameLength.trans counted.symm

/-! ## Both ways agree -/

/-- The comparison of a snapshot of what an entry has on record. -/
theorem compare_of_showsRecorded
    {snapshot : Snapshot}
    (found : registry.entry? snapshot.identity = some entry)
    (showsRecorded : snapshot.ShowsRecorded entry) :
    registry.compare snapshot =
      .ofVersions snapshot.identity entry.currentVersion entry.documentedVersion?
        (Comparison.reasonFor entry snapshot) := by
  rw [compare, found, ← showsRecorded.version]

/--
A snapshot of what an entry with a version has on record needs a page exactly if the scan finds its
component, and then both ask for the same work. The scan finds the components in strictly ascending
order of their identities, and as many as the statistics count.
-/
theorem compare_agrees_with_outdated (registry : Registry) :
    (∀ (snapshot : Snapshot) (entry : Entry),
      registry.entry? snapshot.identity = some entry → entry.currentVersion ≠ [] →
      snapshot.version = entry.currentVersion → snapshot.contentHash = entry.contentHash →
      ((registry.compare snapshot).needsUpdate = true ↔
          snapshot.identity ∈ registry.outdated.map (·.identity)) ∧
        ∀ outdated ∈ registry.outdated, outdated.identity = snapshot.identity →
          (registry.compare snapshot).AsksForSameWork outdated) ∧
      (registry.outdated.map (·.identity)).Pairwise (· < ·) ∧
      registry.outdated.length = registry.statistics.outdated := by
  refine ⟨?_, pairwise_identities_outdated registry, length_outdated registry⟩
  intro snapshot entry found hasVersion sameVersion sameContent
  have showsRecorded : snapshot.ShowsRecorded entry := ⟨sameVersion, sameContent⟩
  rw [compare_of_showsRecorded found showsRecorded]
  constructor
  · calc
      _ ↔ Comparison.reasonFor entry snapshot ≠ .upToDate := decide_eq_true_iff
      _ ↔ ¬entry.isOutdated = false :=
        not_congr (Comparison.reasonFor_eq_upToDate_iff showsRecorded hasVersion)
      _ ↔ entry.isOutdated = true := by rw [Bool.not_eq_false]
      _ ↔ _ := (mem_identities_outdated_iff found).symm
  · intro outdated isMember sameIdentity
    have isFound := (mem_outdated_iff found outdated).mp ⟨isMember, sameIdentity⟩
    unfold outdatedEntry? at isFound
    split at isFound
    · rename_i isOutdated
      obtain rfl := Option.some.inj isFound
      exact Comparison.asksForSameWork_ofVersions
        (Comparison.reasonFor_showsAs showsRecorded isOutdated) _ _ _
    · contradiction

end Registry

/-! ### A component with a page of an earlier version -/

namespace Registry.Earlier

/-- The snapshot on record, of a component with a page and a later minor version. -/
def snapshot : Snapshot where
  identity := "Button".toList
  version := "1.1.0".toList
  lastModified := []
  contentHash := []
  sizeBytes := 0
  exports := []
  status := .stable
  filePath := ⟨"button.tsx".toList⟩

/-- An entry whose page shows an earlier version. -/
def entry : Entry :=
  { Entry.ofSnapshot none [] snapshot with documentationVersion := "1.0.0".toList }

/-- The entry stands beside one whose page is current. -/
def registry : Registry :=
  ((Registry.empty ⟨[]⟩).put "Button".toList entry).put "Badge".toList
    { entry with documentationVersion := "1.1.0".toList }

end Registry.Earlier

/-- The page of an earlier version is asked for in both ways, with the same urgency. -/
theorem Registry.compare_agrees_with_outdated_earlier :
    ∃ outdated,
      Earlier.registry.outdated = [outdated] ∧
        (Earlier.registry.compare Earlier.snapshot).needsUpdate = true ∧
        (Earlier.registry.compare Earlier.snapshot).AsksForSameWork outdated ∧
        outdated.priority = .high := by
  obtain ⟨agree, _, _⟩ := compare_agrees_with_outdated Earlier.registry
  obtain ⟨isNeeded, sameWork⟩ :=
    agree Earlier.snapshot Earlier.entry (by decide) (by decide) rfl rfl
  refine ⟨_, rfl, isNeeded.mpr (by decide), sameWork _ List.mem_cons_self ?_, ?_⟩
  · rfl
  · decide

end ComponentPages
