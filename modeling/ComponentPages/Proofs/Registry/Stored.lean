import ComponentPages.Registry.Stored
import ComponentPages.Proofs.Json.RoundTrip
import ComponentPages.Proofs.Text.Keyed

namespace ComponentPages

/-!
# Reading a stored registry

The stored form of every entry is read as that entry, and the bytes of a store are read as the
entries that it was written for. The only thing a stored number cannot show is a size that is no
machine word, and no entry that is read has such a size.
-/

/-! ## Stored values -/

namespace JsonValue

private theorem isWritten_ofText (content : Text) : (ofText content).IsWritten := by
  simp [ofText, IsWritten]

private theorem isWritten_ofNat (number : Nat) : (ofNat number).IsWritten := by
  refine ⟨JsonToken.isNumber_ofNat number, ?_⟩
  intro character member
  exact JsonToken.belongsToNumber_of_mem_ofNat member

/-- A list is written as a document shows it if its items are. -/
theorem isWritten_list
    {items : List JsonValue}
    (written : ∀ item ∈ items, item.IsWritten) :
    (list items).IsWritten := by
  rw [IsWritten]
  induction items with
  | nil =>
      trivial
  | cons first rest inductionHypothesis =>
      refine ⟨written first List.mem_cons_self, inductionHypothesis ?_⟩
      intro item member
      exact written item (List.mem_cons_of_mem _ member)

/-- An object is written as a document shows it if its fields are. -/
theorem isWritten_object
    {fields : List (Option Text × JsonValue)}
    (written : ∀ field ∈ fields, field.1.isSome ∧ field.2.IsWritten) :
    (object fields).IsWritten := by
  rw [IsWritten]
  induction fields with
  | nil =>
      trivial
  | cons first rest inductionHypothesis =>
      have firstWritten := written first List.mem_cons_self
      refine ⟨firstWritten.1, firstWritten.2, inductionHypothesis ?_⟩
      intro field member
      exact written field (List.mem_cons_of_mem _ member)

/-- An object with texts for names is written as a document shows it if its values are. -/
theorem isWritten_ofFields
    {fields : List (String × JsonValue)}
    (written : ∀ field ∈ fields, field.2.IsWritten) :
    (ofFields fields).IsWritten := by
  apply isWritten_object
  intro field member
  obtain ⟨named, isNamed, rfl⟩ := List.mem_map.mp member
  exact ⟨rfl, written named isNamed⟩

@[simp]
private theorem text?_ofText (content : Text) : (ofText content).text? = some content :=
  rfl

@[simp]
private theorem optionalText?_ofText (content : Text) :
    (ofText content).optionalText? = some (some content) :=
  rfl

@[simp]
private theorem optionalText?_null : optionalText? .null = some none :=
  rfl

/-- A list of values is read as the items that they were written for. -/
theorem mapM_map_of_recovers
    {α β : Type}
    {read : β → Option α}
    {write : α → β}
    {items : List α}
    (recovers : ∀ item ∈ items, read (write item) = some item) :
    (items.map write).mapM read = some items := by
  induction items with
  | nil =>
      rfl
  | cons first rest inductionHypothesis =>
      have restRecovers : ∀ item ∈ rest, read (write item) = some item := by
        intro item member
        exact recovers item (List.mem_cons_of_mem _ member)
      simp [recovers first List.mem_cons_self, inductionHypothesis restRecovers]

/-- Every item that a list of values is read as is read from one of them. -/
private theorem exists_of_mem_mapM
    {α β : Type}
    {read : β → Option α}
    {values : List β}
    {items : List α}
    (areRead : values.mapM read = some items)
    {item : α}
    (member : item ∈ items) :
    ∃ value ∈ values, read value = some item := by
  induction values generalizing items with
  | nil =>
      obtain rfl : [] = items := by simpa using areRead
      contradiction
  | cons first rest inductionHypothesis =>
      simp only [List.mapM_cons, Option.bind_eq_bind, Option.bind_eq_some_iff, Option.pure_def,
        Option.some.injEq] at areRead
      obtain ⟨firstItem, isFirst, others, areOthers, rfl⟩ := areRead
      rcases List.mem_cons.mp member with rfl | later
      · exact ⟨first, List.mem_cons_self, isFirst⟩
      · obtain ⟨value, isValue, isItem⟩ := inductionHypothesis areOthers later
        exact ⟨value, List.mem_cons_of_mem _ isValue, isItem⟩

/-- The fields of an object with texts for names are read with these names. -/
theorem fields?_map_some (fields : List (Text × JsonValue)) :
    fields? (fields.map fun field => (some field.1, field.2)) = some fields := by
  apply mapM_map_of_recovers
  intro field _
  rfl

/-- A natural number that is a machine word is read as that number. -/
theorem natural?_ofNat
    {number : Nat}
    (isWord : number < Text.wordLimit) :
    (ofNat number).natural? = some number := by
  have digits : (Text.ofNat number).all Char.isDigit = true := by
    rw [List.all_eq_true]
    intro character member
    exact Text.isDigit_of_mem_ofNat member
  simp [ofNat, natural?, digits, isWord]

/-- A natural number that is read is a machine word. -/
theorem lt_wordLimit_of_natural?
    {value : JsonValue}
    {number : Nat}
    (read : value.natural? = some number) :
    number < Text.wordLimit := by
  cases value with
  | number written =>
      simp only [natural?] at read
      split at read
      · rename_i isWord
        obtain rfl := Option.some.inj read
        exact of_decide_eq_true (Bool.and_eq_true_iff.mp isWord).2
      · contradiction
  | _ =>
      simp [natural?] at read

/-! ## Records -/

/-- A value is found under its name among values under distinct names. -/
private theorem map_find?_zip
    {names : List Text}
    (distinct : names.Nodup)
    {values : List JsonValue}
    (fits : values.length ≤ names.length) :
    (names.map fun name => ((names.zip values).find? (·.1 == name)).map (·.2)) =
      values.map some ++ List.replicate (names.length - values.length) none := by
  induction names generalizing values with
  | nil =>
      obtain rfl := List.eq_nil_of_length_eq_zero (Nat.le_zero.mp fits)
      rfl
  | cons name later inductionHypothesis =>
      cases values with
      | nil =>
          simp [List.map_const', List.replicate_succ]
      | cons value others =>
          obtain ⟨absent, laterDistinct⟩ := List.nodup_cons.mp distinct
          have othersFit : others.length ≤ later.length := Nat.le_of_succ_le_succ fits
          have skipped :
              (later.map fun other =>
                (((name, value) :: later.zip others).find? (·.1 == other)).map (·.2)) =
              later.map fun other => ((later.zip others).find? (·.1 == other)).map (·.2) := by
            apply List.map_congr_left
            intro other member
            have different : name ≠ other := by
              rintro rfl
              exact absent member
            simp [different]
          rw [List.zip_cons_cons, List.map_cons, skipped,
            inductionHypothesis laterDistinct othersFit]
          simp

private theorem map_fst_zip_sublist
    (names : List Text)
    (values : List JsonValue) :
    ((names.zip values).map Prod.fst).Sublist names := by
  induction names generalizing values with
  | nil =>
      simp
  | cons name later inductionHypothesis =>
      cases values with
      | nil =>
          simp
      | cons value others =>
          exact (inductionHypothesis others).cons_cons name

/-- Under each name there is at most one value among values under distinct names. -/
private theorem countP_zip_le_one
    {names : List Text}
    (distinct : names.Nodup)
    (values : List JsonValue)
    (name : Text) :
    (names.zip values).countP (·.1 == name) ≤ 1 := by
  have distinctNames : ((names.zip values).map Prod.fst).Nodup :=
    distinct.sublist (map_fst_zip_sublist names values)
  have once : ((names.zip values).map Prod.fst).count name ≤ 1 :=
    List.nodup_iff_count.mp distinctNames name
  rw [List.count_eq_countP, List.countP_map] at once
  exact once

/-- An object with the first of a record's names is read as the values under these names. -/
theorem record?_zip
    {names : List Text}
    (distinct : names.Nodup)
    {values : List JsonValue}
    (fits : values.length ≤ names.length) :
    record? names (object ((names.zip values).map fun field => (some field.1, field.2))) =
      some (values.map some ++ List.replicate (names.length - values.length) none) := by
  have once : (names.all fun name => (names.zip values).countP (·.1 == name) ≤ 1) = true := by
    rw [List.all_eq_true]
    intro name _
    exact decide_eq_true (countP_zip_le_one distinct values name)
  rw [record?, fields?_map_some]
  simp only [Option.bind_eq_bind, Option.bind_some, once, ↓reduceIte]
  rw [map_find?_zip distinct fits]
  rfl

end JsonValue

/-! ## Entries -/

/-- A status is read back from its word. -/
theorem Status.stored?_word (status : Status) :
    Status.stored? (.ofText status.word) = some status := by
  cases status <;> decide

/-- A change is read back from its word. -/
theorem Change.stored?_word (change : Change) :
    Change.stored? (.ofText change.word) = some change := by
  cases change <;> decide

namespace HistoryItem

/-- The stored values of a step in the order of their names. -/
def values (item : HistoryItem) : List JsonValue :=
  [.ofText item.version, .ofText item.date, .ofText item.change.word, .boolean item.breaking,
    .boolean item.migrationRequired] ++ (item.notes.map JsonValue.ofText).toList

private theorem toJson_eq (item : HistoryItem) :
    item.toJson =
      .object ((fieldNames.zip item.values).map fun field => (some field.1, field.2)) := by
  rcases item with ⟨version, date, change, breaking, migrationRequired, _ | notes⟩ <;> rfl

private theorem isWritten_toJson (item : HistoryItem) : item.toJson.IsWritten := by
  apply JsonValue.isWritten_ofFields
  rcases item with ⟨version, date, change, breaking, migrationRequired, _ | notes⟩ <;>
    simp [JsonValue.isWritten_ofText, JsonValue.IsWritten]

/-- The stored form of a step is read as that step. -/
theorem stored?_toJson (item : HistoryItem) : stored? item.toJson = some item := by
  have distinct : fieldNames.Nodup := by
    decide
  have fits : item.values.length ≤ fieldNames.length := by
    rcases item with ⟨version, date, change, breaking, migrationRequired, _ | notes⟩ <;>
      simp [values, fieldNames]
  rw [stored?, toJson_eq, JsonValue.record?_zip distinct fits]
  rcases item with ⟨version, date, change, breaking, migrationRequired, _ | notes⟩ <;>
    simp [values, fieldNames, Change.stored?_word, JsonValue.boolean?]

end HistoryItem

namespace Entry

/-- The stored values of an entry in the order of their names. -/
def values (entry : Entry) : List JsonValue :=
  [.ofText entry.currentVersion, .ofText entry.lastModified, .ofText entry.filePath.text,
    .ofText entry.documentationVersion, .ofText entry.lastDocumentationUpdate,
    .ofText entry.contentHash, .ofNat entry.sizeBytes, .list (entry.exports.map .ofText),
    .ofText entry.status.word, .list (entry.history.map HistoryItem.toJson)]

private theorem toJson_eq (entry : Entry) :
    entry.toJson =
      .object ((fieldNames.zip entry.values).map fun field => (some field.1, field.2)) :=
  rfl

private theorem isWritten_toJson (entry : Entry) : entry.toJson.IsWritten := by
  have exports : (JsonValue.list (entry.exports.map .ofText)).IsWritten := by
    apply JsonValue.isWritten_list
    intro item member
    obtain ⟨name, _, rfl⟩ := List.mem_map.mp member
    exact JsonValue.isWritten_ofText name
  have history : (JsonValue.list (entry.history.map HistoryItem.toJson)).IsWritten := by
    apply JsonValue.isWritten_list
    intro item member
    obtain ⟨step, _, rfl⟩ := List.mem_map.mp member
    exact step.isWritten_toJson
  apply JsonValue.isWritten_ofFields
  simp [JsonValue.isWritten_ofText, JsonValue.isWritten_ofNat, exports, history]

/-- The stored form of an entry is read as that entry if its size is a machine word. -/
theorem stored?_toJson
    {entry : Entry}
    (isWord : entry.sizeBytes < Text.wordLimit) :
    stored? entry.toJson = some entry := by
  have distinct : fieldNames.Nodup := by
    decide
  have fits : entry.values.length ≤ fieldNames.length := by
    simp [values, fieldNames]
  have exports :
      (JsonValue.list (entry.exports.map .ofText)).items? JsonValue.text? =
        some entry.exports := by
    apply JsonValue.mapM_map_of_recovers
    intro name _
    rfl
  have history :
      (JsonValue.list (entry.history.map HistoryItem.toJson)).items? HistoryItem.stored? =
        some entry.history := by
    apply JsonValue.mapM_map_of_recovers
    intro item _
    exact item.stored?_toJson
  rw [stored?, toJson_eq, JsonValue.record?_zip distinct fits]
  simp [values, fieldNames, orDefault, exports, history, Status.stored?_word,
    JsonValue.natural?_ofNat isWord]

/-- The size of an entry that is read is a machine word. -/
theorem sizeBytes_lt_of_stored?
    {value : JsonValue}
    {entry : Entry}
    (read : stored? value = some entry) :
    entry.sizeBytes < Text.wordLimit := by
  simp only [stored?, Option.bind_eq_bind, Option.bind_eq_some_iff] at read
  obtain ⟨fields, _, read⟩ := read
  split at read
  · -- Of the ten fields that are read one after another only the size matters here.
    simp only [Option.bind_eq_some_iff, Option.pure_def, Option.some.injEq] at read
    obtain ⟨_, _, _, _, _, _, _, _, _, _, _, _, size, isSize, _, _, _, _, _, _, rfl⟩ := read
    exact JsonValue.lt_wordLimit_of_natural? isSize
  · contradiction

end Entry

/-! ## Stores -/

/-- Whether the sizes of all entries are machine words. -/
def SizesFit (entries : Keyed Entry) : Prop :=
  ∀ binding ∈ entries.bindings, binding.2.sizeBytes < Text.wordLimit

namespace SizesFit

/-- All sizes of an empty store are machine words. -/
theorem empty : SizesFit .empty := by
  simp [SizesFit, Keyed.empty]

/-- Sizes that are machine words stay so when an entry of such a size is put in. -/
theorem insert
    {entries : Keyed Entry}
    (sizesFit : SizesFit entries)
    (identity : Text)
    {entry : Entry}
    (isWord : entry.sizeBytes < Text.wordLimit) :
    SizesFit (entries.insert identity entry) := by
  intro binding member
  rcases Bindings.mem_insert member with isNew | isOld
  · rw [isNew]
    exact isWord
  · exact sizesFit binding isOld

/-- Sizes that are machine words stay so when entries of such sizes are put in. -/
theorem insertAll
    {entries : Keyed Entry}
    (sizesFit : SizesFit entries)
    {more : List (Text × Entry)}
    (areWords : ∀ binding ∈ more, binding.2.sizeBytes < Text.wordLimit) :
    SizesFit (entries.insertAll more) := by
  induction more generalizing entries with
  | nil =>
      exact sizesFit
  | cons first rest inductionHypothesis =>
      have firstPut := sizesFit.insert first.1 (areWords first List.mem_cons_self)
      apply inductionHypothesis firstPut
      intro binding member
      exact areWords binding (List.mem_cons_of_mem _ member)

end SizesFit

namespace Registry

/-- The sizes of the entries that a store is read as are machine words. -/
theorem sizesFit_of_ofBytes?
    {bytes : Bytes}
    {entries : Keyed Entry}
    (read : ofBytes? bytes = some entries) :
    SizesFit entries := by
  obtain ⟨value, _, read⟩ := Option.bind_eq_some_iff.mp read
  unfold storedEntries? at read
  split at read
  · simp only [Option.bind_eq_bind, Option.bind_eq_some_iff, Option.pure_def,
      Option.some.injEq] at read
    obtain ⟨given, _, named, isNamed, rfl⟩ := read
    apply SizesFit.empty.insertAll
    intro binding member
    obtain ⟨field, _, isBinding⟩ := JsonValue.exists_of_mem_mapM isNamed member
    obtain ⟨entry, isEntry, rfl⟩ := Option.map_eq_some_iff.mp isBinding
    exact Entry.sizeBytes_lt_of_stored? isEntry
  · contradiction

/-- A store is printed in the form that is read. -/
theorem isWritten_toJson (registry : Registry) : registry.toJson.IsWritten := by
  apply JsonValue.isWritten_object
  intro field member
  obtain ⟨binding, _, rfl⟩ := List.mem_map.mp member
  exact ⟨rfl, binding.2.isWritten_toJson⟩

/-- The bytes of a store are read as the entries that they were written for. -/
theorem ofBytes?_toBytes
    {registry : Registry}
    (sizesFit : SizesFit registry.entries) :
    ofBytes? registry.toBytes = some registry.entries := by
  have fields :
      JsonValue.fields?
          (registry.entries.bindings.map fun binding => (some binding.1, binding.2.toJson)) =
        some (registry.entries.bindings.map fun binding => (binding.1, binding.2.toJson)) := by
    have given := JsonValue.fields?_map_some
      (registry.entries.bindings.map fun binding => (binding.1, binding.2.toJson))
    rwa [List.map_map] at given
  have entries :
      (registry.entries.bindings.map fun binding => (binding.1, binding.2.toJson)).mapM
          (fun field => (Entry.stored? field.2).map fun entry => (field.1, entry)) =
        some registry.entries.bindings := by
    apply JsonValue.mapM_map_of_recovers
    intro binding member
    simp [Entry.stored?_toJson (sizesFit binding member)]
  rw [ofBytes?, toBytes, JsonValue.read?_encode_toText registry.isWritten_toJson,
    Option.bind_some, toJson, storedEntries?, fields]
  simp only [Option.bind_eq_bind, Option.bind_some]
  rw [entries]
  simp [Keyed.ofList_bindings]

end Registry

end ComponentPages
