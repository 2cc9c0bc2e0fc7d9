import Mathlib.Data.List.Chain
import ComponentPages.Proofs.Page.Context
import ComponentPages.Proofs.Registry.Recording
import ComponentPages.Proofs.Registry.Store

namespace ComponentPages

/-!
# Histories

The history of a component starts with its initial version and goes on with one item for each
change of its version, up to the current one. This holds for every registry that starts empty and
is worked on by recording, marking, and saving and loading.
-/

/-! ## Items -/

namespace HistoryItem

/-- Whether an item can start a history. -/
structure IsInitial (item : HistoryItem) : Prop where
  change : item.change = .major
  notes : item.notes = some "Initial version".toList

/-- Whether an item can come after another one. -/
structure Follows (earlier later : HistoryItem) : Prop where
  differs : later.version ≠ earlier.version
  change : Change.classify (some earlier.version) later.version = some later.change
  notes : later.notes = some ("Updated from ".toList ++ earlier.version)

/-- Whether the flags of an item fit its change. -/
structure IsConsistent (item : HistoryItem) : Prop where
  breaking : item.breaking = decide (item.change = .major)
  migrationRequired : item.migrationRequired = decide (item.change = .major)
  notPrerelease : item.change ≠ .prerelease

private theorem isInitial_ofStep
    (now version : Text) :
    (ofStep now none version .major).IsInitial :=
  ⟨rfl, rfl⟩

private theorem follows_ofStep
    {earlier : HistoryItem}
    {version : Text}
    {change : Change}
    (now : Text)
    (differs : earlier.version ≠ version)
    (classified : Change.classify (some earlier.version) version = some change) :
    earlier.Follows (ofStep now (some earlier.version) version change) :=
  ⟨differs.symm, classified, rfl⟩

private theorem isConsistent_ofStep
    {change : Change}
    (now : Text)
    (previous : Option Text)
    (version : Text)
    (notPrerelease : change ≠ .prerelease) :
    (ofStep now previous version change).IsConsistent :=
  ⟨rfl, rfl, notPrerelease⟩

end HistoryItem

/-! ## Entries -/

namespace Entry

/-- Whether the history of an entry leads step by step to its current version. -/
structure IsTraced (entry : Entry) : Prop where
  current : entry.history.getLast?.map (·.version) = some entry.currentVersion
  initial : ∀ item, entry.history.head? = some item → item.IsInitial
  steps : entry.history.IsChain HistoryItem.Follows
  consistent : ∀ item ∈ entry.history, item.IsConsistent

namespace IsTraced

/-- The entry of a new component is traced. -/
theorem fresh
    (now : Text)
    (snapshot : Snapshot) :
    (ofSnapshot none [.ofStep now none snapshot.version .major] snapshot).IsTraced where
  current := rfl
  initial item isFirst := by
    obtain rfl := Option.some.inj isFirst
    exact HistoryItem.isInitial_ofStep now snapshot.version
  steps := List.isChain_singleton _
  consistent item member := by
    rw [ofSnapshot, List.mem_singleton] at member
    rw [member]
    exact HistoryItem.isConsistent_ofStep now none snapshot.version (by simp)

/-- An entry is still traced when its other fields change. -/
theorem of_eq
    {entry other : Entry}
    (isTraced : entry.IsTraced)
    (sameHistory : other.history = entry.history)
    (sameVersion : other.currentVersion = entry.currentVersion) :
    other.IsTraced where
  current := by
    rw [sameHistory, sameVersion]
    exact isTraced.current
  initial := by
    rw [sameHistory]
    exact isTraced.initial
  steps := by
    rw [sameHistory]
    exact isTraced.steps
  consistent := by
    rw [sameHistory]
    exact isTraced.consistent

/-- An entry is still traced when its version changes and the change is put on record. -/
theorem changed
    {existing : Entry}
    (isTraced : existing.IsTraced)
    (now : Text)
    {snapshot : Snapshot}
    {change : Change}
    (differs : existing.currentVersion ≠ snapshot.version)
    (classified :
      Change.classify (some existing.currentVersion) snapshot.version = some change) :
    (ofSnapshot (some existing)
      (existing.history ++
        [.ofStep now (some existing.currentVersion) snapshot.version change])
      snapshot).IsTraced where
  current := by
    simp [ofSnapshot, HistoryItem.ofStep]
  initial item isFirst := by
    obtain ⟨last, isLast, _⟩ := Option.map_eq_some_iff.mp isTraced.current
    have notEmpty : existing.history ≠ [] := by
      intro isEmpty
      simp [isEmpty] at isLast
    rw [ofSnapshot, List.head?_append_of_ne_nil _ notEmpty] at isFirst
    exact isTraced.initial item isFirst
  steps := by
    refine List.isChain_append.mpr ⟨isTraced.steps, List.isChain_singleton _, ?_⟩
    intro last isLast item isItem
    obtain rfl := Option.some.inj isItem
    -- The change was classified from the current version, which the last item has.
    have isCurrent : last.version = existing.currentVersion := by
      have current := isTraced.current
      rw [Option.mem_def.mp isLast] at current
      exact Option.some.inj current
    rw [← isCurrent] at differs classified ⊢
    exact HistoryItem.follows_ofStep now differs classified
  consistent item member := by
    have notPrerelease : change ≠ .prerelease := by
      rintro rfl
      exact Change.classify_ne_prerelease _ _ classified
    rcases List.mem_append.mp member with isOld | isNew
    · exact isTraced.consistent item isOld
    · rw [List.mem_singleton.mp isNew]
      exact HistoryItem.isConsistent_ofStep now _ _ notPrerelease

end IsTraced

end Entry

/-! ## Registries -/

namespace Registry

variable {registry : Registry}

/-- Whether the histories of all entries lead step by step to their current versions. -/
def IsTraced (registry : Registry) : Prop :=
  ∀ binding ∈ registry.entries.bindings, binding.2.IsTraced

/-- The empty registry is traced. -/
theorem IsTraced.empty (path : Path) : (empty path).IsTraced := by
  intro binding member
  contradiction

/-- Recording a snapshot keeps a registry traced. -/
theorem IsTraced.upsert
    (isTraced : registry.IsTraced)
    (now : Text)
    (snapshot : Snapshot) :
    (registry.upsert now snapshot).1.IsTraced := by
  have recording := recording_upsert registry now snapshot
  generalize registry.upsert now snapshot = outcome at recording
  cases recording with
  | fresh absent =>
      exact forall_put isTraced _ (.fresh now snapshot)
  | same existing found isCurrent =>
      have traced := of_forall_entry isTraced found
      exact forall_put isTraced _ (traced.of_eq rfl isCurrent.symm)
  | changed existing change found differs classified =>
      have traced := of_forall_entry isTraced found
      exact forall_put isTraced _ (traced.changed now differs classified)

/-- Marking a page as written keeps a registry traced. -/
theorem IsTraced.markDocumented
    (isTraced : registry.IsTraced)
    {now identity version : Text}
    {marked : Registry}
    (isMarked : registry.markDocumented? now identity version = some marked) :
    marked.IsTraced := by
  obtain ⟨entry, found, rfl⟩ := Option.map_eq_some_iff.mp isMarked
  exact forall_put isTraced _ ((of_forall_entry isTraced found).of_eq rfl rfl)

/--
The registries that come about from an empty one by recording snapshots, marking pages as written,
and saving to a store and loading from it again.
-/
inductive Reachable : Registry → Prop where
  | empty (path : Path) : Reachable (empty path)
  | upsert
      {registry : Registry}
      (reachable : Reachable registry)
      (now : Text)
      (snapshot : Snapshot)
      (isWord : snapshot.sizeBytes < Text.wordLimit) :
      Reachable (registry.upsert now snapshot).1
  | markDocumented
      {registry marked : Registry}
      {now identity version : Text}
      (reachable : Reachable registry)
      (isMarked : registry.markDocumented? now identity version = some marked) :
      Reachable marked
  | saveAndLoad
      {registry loaded : Registry}
      {world saved after : World}
      (reachable : Reachable registry)
      (isOpen : world.disk.IsOpen)
      (isSaved :
        (registry.save : StateM World (Except FileFault Unit)) world = (.ok (), saved))
      (isLoaded :
        (load registry.path : StateM World (Except Error Registry)) saved = (.ok loaded, after)) :
      Reachable loaded

namespace Reachable

/-- The sizes of the entries of a registry that comes about are machine words. -/
theorem sizesFit (reachable : Reachable registry) : SizesFit registry.entries := by
  induction reachable with
  | empty path =>
      exact SizesFit.empty
  | upsert reachable now snapshot isWord inductionHypothesis =>
      exact sizesFit_upsert inductionHypothesis now isWord
  | markDocumented reachable isMarked inductionHypothesis =>
      exact sizesFit_markDocumented inductionHypothesis isMarked
  | saveAndLoad reachable isOpen isSaved isLoaded inductionHypothesis =>
      exact (sizesFit_of_load_ok isLoaded).2

/-- Every registry that comes about is traced. -/
theorem isTraced (reachable : Reachable registry) : registry.IsTraced := by
  induction reachable with
  | empty path =>
      exact .empty path
  | upsert reachable now snapshot isWord inductionHypothesis =>
      exact inductionHypothesis.upsert now snapshot
  | markDocumented reachable isMarked inductionHypothesis =>
      exact inductionHypothesis.markDocumented isMarked
  | saveAndLoad reachable isOpen isSaved isLoaded inductionHypothesis =>
      -- What is loaded is what was saved, because no size is lost in the store.
      have sameLoaded := load_of_save_ok reachable.sizesFit isOpen isSaved
      rw [isLoaded] at sameLoaded
      obtain rfl := Except.ok.inj (Prod.mk.inj sameLoaded).1
      exact inductionHypothesis

end Reachable

/-- The history of a component; empty if it is unknown. -/
def historyOf (registry : Registry) (identity : Text) : List HistoryItem :=
  ((registry.entry? identity).map (·.history)).getD []

/-- What recording a snapshot reports is what became of the history. -/
theorem historyOf_upsert
    (registry : Registry)
    (now : Text)
    (snapshot : Snapshot) :
    ((registry.upsert now snapshot).2 = ⟨none, false⟩ ∧
      (registry.upsert now snapshot).1.historyOf snapshot.identity =
        registry.historyOf snapshot.identity) ∨
      ∃ item,
        (registry.upsert now snapshot).2 = ⟨some item.change, true⟩ ∧
        item.version = snapshot.version ∧
        (registry.upsert now snapshot).1.historyOf snapshot.identity =
          registry.historyOf snapshot.identity ++ [item] := by
  have recording := recording_upsert registry now snapshot
  generalize registry.upsert now snapshot = outcome at recording
  cases recording with
  | fresh absent =>
      refine .inr ⟨.ofStep now none snapshot.version .major, rfl, rfl, ?_⟩
      simp [historyOf, absent, Entry.ofSnapshot]
  | same existing found isCurrent =>
      exact .inl ⟨rfl, by simp [historyOf, found, Entry.ofSnapshot]⟩
  | changed existing change found differs classified =>
      refine .inr
        ⟨.ofStep now (some existing.currentVersion) snapshot.version change, rfl, rfl, ?_⟩
      simp [historyOf, found, Entry.ofSnapshot]

/-- The history of a traced registry ends with the version that was just recorded. -/
theorem IsTraced.getLast?_upsert
    (isTraced : registry.IsTraced)
    (now : Text)
    (snapshot : Snapshot) :
    ∃ entry,
      Registry.entry? (registry.upsert now snapshot).1 snapshot.identity = some entry ∧
        entry.history.getLast?.map (·.version) = some snapshot.version := by
  obtain ⟨history, found⟩ := entry?_upsert_self registry now snapshot
  have traced := of_forall_entry (isTraced.upsert now snapshot) found
  exact ⟨_, found, traced.current⟩

/--
Histories of a registry that comes about lead step by step to the current versions. Recording a
snapshot reports whether the history grew and by which change, and the context of a page made right
afterwards shows the version of the snapshot first.
-/
theorem Reachable.traced_and_reported
    (reachable : Reachable registry) :
    registry.IsTraced ∧
      ∀ (now : Text) (snapshot : Snapshot) (after : Registry) (recorded : Recorded),
        registry.upsert now snapshot = (after, recorded) →
          (recorded.appended = true ↔
            (registry.historyOf snapshot.identity).length <
              (after.historyOf snapshot.identity).length) ∧
          (recorded.appended = false →
            recorded.change = none ∧
              after.historyOf snapshot.identity = registry.historyOf snapshot.identity) ∧
          (recorded.appended = true →
            ∃ item,
              recorded.change = some item.change ∧
                after.historyOf snapshot.identity =
                  registry.historyOf snapshot.identity ++ [item]) ∧
          ∀ (time extension : Text) (extraction : Extraction),
            (Page.contextOf time snapshot extraction (after.entry? snapshot.identity)
              extension).lookup? "changelog.0.version".toList =
                some (.text snapshot.version) := by
  refine ⟨reachable.isTraced, ?_⟩
  intro now snapshot after recorded isRecorded
  have changelog :
      ∀ (time extension : Text) (extraction : Extraction),
        (Page.contextOf time snapshot extraction (after.entry? snapshot.identity)
          extension).lookup? "changelog.0.version".toList = some (.text snapshot.version) := by
    intro time extension extraction
    obtain ⟨entry, found, isLast⟩ := reachable.isTraced.getLast?_upsert now snapshot
    obtain ⟨item, isItem, isVersion⟩ := Option.map_eq_some_iff.mp isLast
    rw [isRecorded] at found
    rw [found, Page.lookup?_changelog_version, Page.head?_changelog, isItem, Option.map_some,
      isVersion]
  have reported := historyOf_upsert registry now snapshot
  rw [isRecorded] at reported
  rcases reported with ⟨isReport, sameHistory⟩ | ⟨item, isReport, _, grown⟩
  · obtain rfl : recorded = ⟨none, false⟩ := isReport
    have sameLength := congrArg List.length sameHistory
    exact ⟨by simp [sameLength], fun _ => ⟨rfl, sameHistory⟩, by simp, changelog⟩
  · obtain rfl : recorded = ⟨some item.change, true⟩ := isReport
    have longer := congrArg List.length grown
    exact ⟨by simp [longer], by simp, fun _ => ⟨item, rfl, grown⟩, changelog⟩

/-- A release of a component. -/
def release (version : Text) : Snapshot :=
  ⟨"Button".toList, version, [], [], 0, [], .stable, ⟨"button.tsx".toList⟩⟩

/-- The registry after the first release of a component. -/
def firstReleased : Registry :=
  ((empty ⟨"registry.json".toList⟩).upsert [] (release "1.0.0".toList)).1

/-- The registry after a release, its page, and another release. -/
def twiceReleased : Registry :=
  let documented := firstReleased.markDocumented? [] "Button".toList "1.0.0".toList
  ((documented.getD firstReleased).upsert [] (release "1.1.0".toList)).1

/-- The registry comes about in three steps. -/
theorem reachable_twiceReleased : Reachable twiceReleased := by
  have first : Reachable firstReleased := (Reachable.empty _).upsert _ _ (by decide)
  have isMarked : firstReleased.markDocumented? [] "Button".toList "1.0.0".toList =
      some ((firstReleased.markDocumented? [] "Button".toList "1.0.0".toList).getD
        firstReleased) :=
    rfl
  exact (first.markDocumented isMarked).upsert _ _ (by decide)

/-- A third release is reported as a major change and comes first in the page made after it. -/
theorem Reachable.traced_and_reported_releases :
    (twiceReleased.historyOf "Button".toList).map (·.version) =
        ["1.0.0".toList, "1.1.0".toList] ∧
      (twiceReleased.entry? "Button".toList).map (·.documentationVersion) =
        some "1.0.0".toList ∧
      twiceReleased.IsTraced ∧
      ∃ after : Registry,
        twiceReleased.upsert [] (release "2.0.0".toList) = (after, ⟨some .major, true⟩) ∧
        (∃ item : HistoryItem,
          some .major = some item.change ∧
            after.historyOf "Button".toList =
              twiceReleased.historyOf "Button".toList ++ [item]) ∧
        (Page.contextOf [] (release "2.0.0".toList) ⟨[], [], []⟩
          (after.entry? "Button".toList) "md".toList).lookup? "changelog.0.version".toList =
            some (.text "2.0.0".toList) := by
  obtain ⟨isTraced, reported⟩ := reachable_twiceReleased.traced_and_reported
  have isReport : (twiceReleased.upsert [] (release "2.0.0".toList)).2 = ⟨some .major, true⟩ := by
    decide
  rcases isRecorded : twiceReleased.upsert [] (release "2.0.0".toList) with ⟨after, recorded⟩
  rw [isRecorded] at isReport
  obtain rfl : recorded = ⟨some .major, true⟩ := isReport
  obtain ⟨-, -, grown, changelog⟩ := reported _ _ _ _ isRecorded
  exact ⟨by decide, by decide, isTraced, after, rfl, grown rfl, changelog _ _ _⟩

end Registry

end ComponentPages
