import ComponentPages.Registry.Basic
import ComponentPages.Proofs.Registry.Stored
import ComponentPages.Proofs.Version.Change

namespace ComponentPages

/-!
# What recording does

Recording a snapshot rebuilds the entry of its component and touches no other entry. There are
three cases: the component is new, its version stays, or its version changes. Marking a page as
written only changes the version and time of the page in the entry.
-/

namespace Registry

variable {registry : Registry}

/-! ## Entries -/

/-- The entry that was put in is found. -/
@[simp]
theorem entry?_put_self
    (registry : Registry)
    (identity : Text)
    (entry : Entry) :
    Registry.entry? (registry.put identity entry) identity = some entry :=
  Keyed.find?_insert_self registry.entries identity entry

/-- Putting in an entry touches no other one. -/
theorem entry?_put_of_ne
    {identity other : Text}
    (different : other ≠ identity)
    (registry : Registry)
    (entry : Entry) :
    Registry.entry? (registry.put identity entry) other = registry.entry? other :=
  Keyed.find?_insert_of_ne different registry.entries entry

/-- What holds of all entries and of one that is put in holds of all entries afterwards. -/
theorem forall_put
    {property : Entry → Prop}
    (ofAll : ∀ binding ∈ registry.entries.bindings, property binding.2)
    (identity : Text)
    {entry : Entry}
    (ofEntry : property entry) :
    ∀ binding ∈ (registry.put identity entry).entries.bindings, property binding.2 := by
  intro binding member
  rcases Bindings.mem_insert member with isNew | isOld
  · rw [isNew]
    exact ofEntry
  · exact ofAll binding isOld

/-- What holds of all entries holds of one that is found. -/
theorem of_forall_entry
    {property : Entry → Prop}
    (ofAll : ∀ binding ∈ registry.entries.bindings, property binding.2)
    {identity : Text}
    {entry : Entry}
    (found : registry.entry? identity = some entry) :
    property entry :=
  ofAll _ (Bindings.mem_of_find? found)

/-! ## Recording -/

/-- The ways in which recording a snapshot can go. -/
inductive Recording (registry : Registry) (now : Text) (snapshot : Snapshot) :
    Registry × Recorded → Prop where
  /-- The component is new. -/
  | fresh
      (absent : registry.entry? snapshot.identity = none) :
      Recording registry now snapshot
        (registry.put snapshot.identity
          (.ofSnapshot none [.ofStep now none snapshot.version .major] snapshot),
          ⟨some .major, true⟩)
  /-- The version stays. -/
  | same
      (existing : Entry)
      (found : registry.entry? snapshot.identity = some existing)
      (isCurrent : existing.currentVersion = snapshot.version) :
      Recording registry now snapshot
        (registry.put snapshot.identity
          (.ofSnapshot (some existing) existing.history snapshot),
          ⟨none, false⟩)
  /-- The version changes. -/
  | changed
      (existing : Entry)
      (change : Change)
      (found : registry.entry? snapshot.identity = some existing)
      (differs : existing.currentVersion ≠ snapshot.version)
      (classified :
        Change.classify (some existing.currentVersion) snapshot.version = some change) :
      Recording registry now snapshot
        (registry.put snapshot.identity
          (.ofSnapshot (some existing)
            (existing.history ++
              [.ofStep now (some existing.currentVersion) snapshot.version change])
            snapshot),
          ⟨some change, true⟩)

/-- Recording a snapshot goes in one of the ways. -/
theorem recording_upsert
    (registry : Registry)
    (now : Text)
    (snapshot : Snapshot) :
    Recording registry now snapshot (registry.upsert now snapshot) := by
  unfold upsert
  cases found : registry.entry? snapshot.identity with
  | none =>
      exact .fresh found
  | some existing =>
      by_cases isCurrent : existing.currentVersion = snapshot.version
      · simp only [Option.map_some, isCurrent, ↓reduceIte, Option.getD_some]
        exact .same existing found isCurrent
      · have differs : some existing.currentVersion ≠ some snapshot.version := by
          simpa using isCurrent
        cases classified :
            Change.classify (some existing.currentVersion) snapshot.version with
        | none =>
            exact absurd (Change.classify_eq_none.mp classified) differs
        | some change =>
            simp only [Option.map_some, if_neg differs, Option.getD_some, classified]
            exact .changed existing change found isCurrent classified

/-- The entry of a component that was just recorded shows the snapshot and the former page. -/
theorem entry?_upsert_self
    (registry : Registry)
    (now : Text)
    (snapshot : Snapshot) :
    ∃ history,
      Registry.entry? (registry.upsert now snapshot).1 snapshot.identity =
        some (.ofSnapshot (registry.entry? snapshot.identity) history snapshot) := by
  have recording := recording_upsert registry now snapshot
  generalize registry.upsert now snapshot = outcome at recording
  cases recording with
  | fresh absent =>
      exact ⟨_, by rw [entry?_put_self, absent]⟩
  | same existing found isCurrent =>
      exact ⟨_, by rw [entry?_put_self, found]⟩
  | changed existing change found differs classified =>
      exact ⟨_, by rw [entry?_put_self, found]⟩

/-- Recording a component touches no other entry. -/
theorem entry?_upsert_of_ne
    {snapshot : Snapshot}
    {other : Text}
    (different : other ≠ snapshot.identity)
    (registry : Registry)
    (now : Text) :
    Registry.entry? (registry.upsert now snapshot).1 other = registry.entry? other := by
  have recording := recording_upsert registry now snapshot
  generalize registry.upsert now snapshot = outcome at recording
  cases recording <;> exact entry?_put_of_ne different registry _

/-- Recording does not change where a registry is stored. -/
@[simp]
theorem path_upsert
    (registry : Registry)
    (now : Text)
    (snapshot : Snapshot) :
    (registry.upsert now snapshot).1.path = registry.path := by
  have recording := recording_upsert registry now snapshot
  generalize registry.upsert now snapshot = outcome at recording
  cases recording <;> rfl

/-- Recording a snapshot whose size is a machine word keeps the sizes machine words. -/
theorem sizesFit_upsert
    (sizesFit : SizesFit registry.entries)
    (now : Text)
    {snapshot : Snapshot}
    (isWord : snapshot.sizeBytes < Text.wordLimit) :
    SizesFit (registry.upsert now snapshot).1.entries := by
  have recording := recording_upsert registry now snapshot
  generalize registry.upsert now snapshot = outcome at recording
  cases recording <;> exact sizesFit.insert _ isWord

/-! ## Marking -/

/-- Marking a component changes the version and time of its page, if it is known. -/
theorem entry?_markDocumented_self
    (registry : Registry)
    (now identity version : Text) :
    Registry.entry? ((registry.markDocumented? now identity version).getD registry) identity =
      (registry.entry? identity).map fun entry =>
        { entry with documentationVersion := version, lastDocumentationUpdate := now } := by
  unfold markDocumented?
  cases found : registry.entry? identity with
  | none =>
      simp [found]
  | some entry =>
      simp

/-- Marking a component touches no other entry. -/
theorem entry?_markDocumented_of_ne
    {identity other : Text}
    (different : other ≠ identity)
    (registry : Registry)
    (now version : Text) :
    Registry.entry? ((registry.markDocumented? now identity version).getD registry) other =
      registry.entry? other := by
  unfold markDocumented?
  cases registry.entry? identity with
  | none =>
      rfl
  | some entry =>
      exact entry?_put_of_ne different registry _

/-- Marking does not change where a registry is stored. -/
@[simp]
theorem path_markDocumented
    (registry : Registry)
    (now identity version : Text) :
    ((registry.markDocumented? now identity version).getD registry).path = registry.path := by
  unfold markDocumented?
  cases registry.entry? identity <;> rfl

/-- Marking a page as written keeps the sizes machine words. -/
theorem sizesFit_markDocumented
    (sizesFit : SizesFit registry.entries)
    {now identity version : Text}
    {marked : Registry}
    (isMarked : registry.markDocumented? now identity version = some marked) :
    SizesFit marked.entries := by
  obtain ⟨entry, found, rfl⟩ := Option.map_eq_some_iff.mp isMarked
  have isWord := sizesFit _ (Bindings.mem_of_find? found)
  exact sizesFit.insert _ isWord

/-! ## Histories -/

/-- The history of a component, if it is known. -/
def history? (registry : Registry) (identity : Text) : Option (List HistoryItem) :=
  (registry.entry? identity).map (·.history)

/-- Marking a component leaves all histories as they are. -/
theorem history?_markDocumented
    (registry : Registry)
    (now identity version other : Text) :
    Registry.history? ((registry.markDocumented? now identity version).getD registry) other =
      registry.history? other := by
  unfold history?
  by_cases same : other = identity
  · rw [same, entry?_markDocumented_self, Option.map_map]
    rfl
  · rw [entry?_markDocumented_of_ne same]

/-! ## Documentation -/

/-- The version and time of a component's page; both are empty if the component is unknown. -/
def documentationOf (registry : Registry) (identity : Text) : Text × Text :=
  ((registry.entry? identity).map fun entry =>
    (entry.documentationVersion, entry.lastDocumentationUpdate)).getD ([], [])

/-- The version and time of a page are those of the entry. -/
theorem documentationOf_eq
    {identity : Text}
    {entry : Entry}
    (found : registry.entry? identity = some entry) :
    registry.documentationOf identity =
      (entry.documentationVersion, entry.lastDocumentationUpdate) := by
  simp [documentationOf, found]

/-- Recording a snapshot leaves the version and time of every page as they are. -/
@[simp]
theorem documentationOf_upsert
    (registry : Registry)
    (now : Text)
    (snapshot : Snapshot)
    (identity : Text) :
    (registry.upsert now snapshot).1.documentationOf identity =
      registry.documentationOf identity := by
  by_cases same : identity = snapshot.identity
  · obtain ⟨history, found⟩ := entry?_upsert_self registry now snapshot
    rw [same, documentationOf_eq found, documentationOf]
    cases registry.entry? snapshot.identity <;> rfl
  · rw [documentationOf, entry?_upsert_of_ne same, documentationOf]

/-- Recording snapshots touches no version and time of a page. -/
@[simp]
theorem documentationOf_upsertAll
    (registry : Registry)
    (now : Text)
    (snapshots : List Snapshot)
    (identity : Text) :
    (registry.upsertAll now snapshots).documentationOf identity =
      registry.documentationOf identity := by
  induction snapshots generalizing registry with
  | nil =>
      rfl
  | cons first rest inductionHypothesis =>
      exact (inductionHypothesis (registry.upsert now first).1).trans
        (documentationOf_upsert registry now first identity)

/-- A known component that is marked has the version and time of the mark. -/
theorem documentationOf_markDocumented_self
    {identity : Text}
    {entry : Entry}
    (found : registry.entry? identity = some entry)
    (now version : Text) :
    Registry.documentationOf ((registry.markDocumented? now identity version).getD registry)
      identity = (version, now) := by
  rw [documentationOf, entry?_markDocumented_self, found]
  rfl

/-- Marking a page touches no version and time of another one. -/
theorem documentationOf_markDocumented_of_ne
    {identity other : Text}
    (different : other ≠ identity)
    (registry : Registry)
    (now version : Text) :
    Registry.documentationOf ((registry.markDocumented? now identity version).getD registry)
      other = registry.documentationOf other := by
  rw [documentationOf, entry?_markDocumented_of_ne different, documentationOf]

end Registry

end ComponentPages
