import ComponentPages.Proofs.Registry.History

namespace ComponentPages

/-!
# Growing registries

Whatever is done to a registry, its entries stay and their histories only grow at the end. What is
done to one component leaves the entries of all others as they are, and a snapshot that was the
last one to be recorded for its component can be recorded again without any effect. All this holds
from any registry on, however it came about.
-/

namespace Registry

variable {registry : Registry}

/-! ## Operations -/

/-- One thing that is done to a registry. -/
inductive Operation where
  | upsert (now : Text) (snapshot : Snapshot)
  | markDocumented (now identity version : Text)

namespace Operation

/-- The component that an operation is about. -/
def identity : Operation → Text
  | .upsert _ snapshot => snapshot.identity
  | .markDocumented _ identity _ => identity

/-- Whether an operation records a snapshot of a component. -/
def Records (component : Text) : Operation → Prop
  | .upsert _ snapshot => snapshot.identity = component
  | .markDocumented _ _ _ => False

end Operation

/-- The registry after an operation. An unknown component is not marked. -/
def perform (registry : Registry) : Operation → Registry
  | .upsert now snapshot => (registry.upsert now snapshot).1
  | .markDocumented now identity version =>
      (registry.markDocumented? now identity version).getD registry

/-- The registry after operations in order. -/
def performAll (registry : Registry) (operations : List Operation) : Registry :=
  operations.foldl perform registry

/-- An operation touches no entry but that of its component. -/
theorem entry?_perform_of_ne
    {operation : Operation}
    {other : Text}
    (different : other ≠ operation.identity)
    (registry : Registry) :
    Registry.entry? (registry.perform operation) other = registry.entry? other := by
  cases operation with
  | upsert now snapshot =>
      exact entry?_upsert_of_ne different registry now
  | markDocumented now identity version =>
      exact entry?_markDocumented_of_ne different registry now version

/-! ## Growth -/

/-- Whether each entry is still there later, with a history that starts with its own. -/
def GrowsTo (earlier later : Registry) : Prop :=
  ∀ identity entry,
    earlier.entry? identity = some entry →
      ∃ grown, later.entry? identity = some grown ∧ entry.history <+: grown.history

namespace GrowsTo

variable {earlier later last : Registry}

private theorem refl (registry : Registry) : registry.GrowsTo registry :=
  fun _ entry found => ⟨entry, found, List.prefix_rfl⟩

private theorem trans
    (first : earlier.GrowsTo later)
    (second : later.GrowsTo last) :
    earlier.GrowsTo last := by
  intro identity entry found
  obtain ⟨between, foundLater, startsBetween⟩ := first identity entry found
  obtain ⟨grown, foundLast, startsLast⟩ := second identity between foundLater
  exact ⟨grown, foundLast, startsBetween.trans startsLast⟩

/-- A registry grows if one entry is put in that continues the one in its place. -/
theorem put
    {identity : Text}
    {entry : Entry}
    (continues : ∀ former, registry.entry? identity = some former →
      former.history <+: entry.history) :
    registry.GrowsTo (registry.put identity entry) := by
  intro other former found
  by_cases same : other = identity
  · rw [same] at found ⊢
    exact ⟨entry, entry?_put_self registry identity entry, continues former found⟩
  · exact ⟨former, (entry?_put_of_ne same registry entry).trans found, List.prefix_rfl⟩

/-- Recording a snapshot only adds to the history of its component. -/
theorem upsert
    (registry : Registry)
    (now : Text)
    (snapshot : Snapshot) :
    registry.GrowsTo (registry.upsert now snapshot).1 := by
  have recording := recording_upsert registry now snapshot
  generalize registry.upsert now snapshot = outcome at recording
  cases recording with
  | fresh absent =>
      apply put
      intro former found
      simp [absent] at found
  | same existing found isCurrent =>
      apply put
      intro former isFormer
      obtain rfl := Option.some.inj (found.symm.trans isFormer)
      exact List.prefix_rfl
  | changed existing change found differs classified =>
      apply put
      intro former isFormer
      obtain rfl := Option.some.inj (found.symm.trans isFormer)
      exact List.prefix_append _ _

/-- Marking a page as written leaves the histories as they are. -/
theorem markDocumented
    (registry : Registry)
    (now identity version : Text) :
    registry.GrowsTo ((registry.markDocumented? now identity version).getD registry) := by
  unfold markDocumented?
  cases isEntry : registry.entry? identity with
  | none =>
      exact refl registry
  | some entry =>
      apply put
      intro former isFormer
      obtain rfl := Option.some.inj (isEntry.symm.trans isFormer)
      exact List.prefix_rfl

/-- Each operation lets a registry grow. -/
theorem perform
    (registry : Registry)
    (operation : Operation) :
    registry.GrowsTo (registry.perform operation) := by
  cases operation with
  | upsert now snapshot =>
      exact upsert registry now snapshot
  | markDocumented now identity version =>
      exact markDocumented registry now identity version

/-- Every run of operations lets a registry grow. -/
theorem performAll
    (registry : Registry)
    (operations : List Operation) :
    registry.GrowsTo (registry.performAll operations) := by
  induction operations generalizing registry with
  | nil =>
      exact refl registry
  | cons operation later inductionHypothesis =>
      exact (perform registry operation).trans (inductionHypothesis (registry.perform operation))

end GrowsTo

/-! ## Recording again -/

/-- Whether the entry of a component is what recording a snapshot makes of it. -/
def Shows (registry : Registry) (snapshot : Snapshot) : Prop :=
  ∃ entry,
    registry.entry? snapshot.identity = some entry ∧
      Entry.ofSnapshot (some entry) entry.history snapshot = entry

namespace Shows

variable {snapshot : Snapshot}

/-- A registry shows the snapshot that was just recorded. -/
theorem of_upsert
    (registry : Registry)
    (now : Text)
    (snapshot : Snapshot) :
    (registry.upsert now snapshot).1.Shows snapshot := by
  obtain ⟨history, found⟩ := entry?_upsert_self registry now snapshot
  exact ⟨_, found, rfl⟩

/-- What an entry shows depends on the entry alone. -/
theorem congr
    {other : Registry}
    (shows : registry.Shows snapshot)
    (same : other.entry? snapshot.identity = registry.entry? snapshot.identity) :
    other.Shows snapshot := by
  obtain ⟨entry, found, isShown⟩ := shows
  exact ⟨entry, same.trans found, isShown⟩

/-- Until another snapshot of the component is recorded, its entry shows the former one. -/
theorem perform
    (shows : registry.Shows snapshot)
    {operation : Operation}
    (recordsOther : ¬operation.Records snapshot.identity) :
    (registry.perform operation).Shows snapshot := by
  by_cases same : snapshot.identity = operation.identity
  · cases operation with
    | upsert now other =>
        exact absurd same.symm recordsOther
    | markDocumented now identity version =>
        obtain rfl : snapshot.identity = identity := same
        obtain ⟨entry, found, isShown⟩ := shows
        refine ⟨_, (entry?_markDocumented_self registry now _ version).trans
          (congrArg _ found), ?_⟩
        rw [← isShown]
        rfl
  · exact shows.congr (entry?_perform_of_ne same registry)

/-- A registry goes on showing a snapshot while only others are recorded. -/
theorem performAll
    (shows : registry.Shows snapshot)
    {operations : List Operation}
    (recordOthers : ∀ operation ∈ operations, ¬operation.Records snapshot.identity) :
    (registry.performAll operations).Shows snapshot := by
  induction operations generalizing registry with
  | nil =>
      exact shows
  | cons operation later inductionHypothesis =>
      have stillShows := shows.perform (recordOthers operation List.mem_cons_self)
      apply inductionHypothesis stillShows
      intro other member
      exact recordOthers other (List.mem_cons_of_mem _ member)

/-- Recording a snapshot that is shown already has no effect. -/
theorem upsert_eq
    (shows : registry.Shows snapshot)
    (now : Text) :
    registry.upsert now snapshot = (registry, ⟨none, false⟩) := by
  obtain ⟨entry, found, isShown⟩ := shows
  have recording := recording_upsert registry now snapshot
  generalize registry.upsert now snapshot = outcome at recording ⊢
  cases recording with
  | fresh absent =>
      simp [absent] at found
  | same existing isExisting isCurrent =>
      obtain rfl := Option.some.inj (isExisting.symm.trans found)
      rw [isShown, put, Keyed.insert_eq_self found]
  | changed existing change isExisting differs classified =>
      obtain rfl := Option.some.inj (isExisting.symm.trans found)
      exact absurd (congrArg Entry.currentVersion isShown).symm differs

end Shows

/-! ## Runs -/

/--
At any two points of a run the later registry has every entry of the earlier one, with a history
that starts with the earlier one. Each operation leaves the entries of other components as they
are, and recording the snapshot that was the last one to be recorded for its component leaves the
whole registry as it is and reports no growth.
-/
theorem performAll_append_only
    (registry : Registry)
    (earlier later : List Operation) :
    (registry.performAll earlier).GrowsTo (registry.performAll (earlier ++ later)) ∧
      (∀ (operation : Operation) (other : Text),
        other ≠ operation.identity →
          Registry.entry? ((registry.performAll earlier).perform operation) other =
            Registry.entry? (registry.performAll earlier) other) ∧
      ∀ (now again : Text) (snapshot : Snapshot) (others : List Operation),
        (∀ operation ∈ others, ¬operation.Records snapshot.identity) →
          let repeated :=
            registry.performAll (earlier ++ .upsert now snapshot :: others)
          repeated.upsert again snapshot = (repeated, ⟨none, false⟩) := by
  have inTwoParts : ∀ operations : List Operation,
      registry.performAll (earlier ++ operations) =
        (registry.performAll earlier).performAll operations := by
    intro operations
    exact List.foldl_append
  refine ⟨?growth, ?others, ?again⟩
  case growth =>
    rw [inTwoParts]
    exact .performAll _ later
  case others =>
    intro operation other different
    exact entry?_perform_of_ne different _
  case again =>
    intro now again snapshot others recordOthers
    have shows := Shows.of_upsert (registry.performAll earlier) now snapshot
    rw [inTwoParts]
    exact (shows.performAll recordOthers).upsert_eq again

/-- A component of which nothing is known but its name and version. -/
def plainSnapshot (identity version : Text) : Snapshot where
  identity := identity
  version := version
  lastModified := []
  contentHash := []
  sizeBytes := 0
  exports := []
  status := .stable
  filePath := ⟨[]⟩

/-- A component is marked and another one is recorded before its snapshot is recorded again. -/
theorem performAll_append_only_button :
    let others : List Operation :=
      [.markDocumented [] "Button".toList "1.0.0".toList,
        .upsert [] (plainSnapshot "Card".toList "2.0.0".toList)]
    let button := plainSnapshot "Button".toList "1.0.0".toList
    let repeated :=
      (Registry.empty ⟨"registry.json".toList⟩).performAll ([] ++ .upsert [] button :: others)
    (∀ operation ∈ others, ¬operation.Records button.identity) ∧
      repeated.upsert "later".toList button = (repeated, ⟨none, false⟩) := by
  intro others button repeated
  have recordOthers : ∀ operation ∈ others, ¬operation.Records button.identity := by
    simp [others, button, Operation.Records, plainSnapshot]
  refine ⟨recordOthers, ?_⟩
  have unaffected := (performAll_append_only (.empty ⟨"registry.json".toList⟩) [] []).2.2
  exact unaffected [] "later".toList button others recordOthers

end Registry

end ComponentPages
