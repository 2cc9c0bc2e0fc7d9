import ComponentPages.Json.Printer
import ComponentPages.Json.Reader
import ComponentPages.Registry.Basic

namespace ComponentPages

/-!
# The stored form of a registry

A registry is stored as a JSON object with a field for each component. Reading takes more forms
than writing produces: fields may be missing that have a default, unknown fields do not count, a
record may also be a list of its fields, and the last of two components with one name counts. A
store with anything else in it is refused as a whole.
-/

namespace JsonValue

def text? : JsonValue → Option Text
  | .text content => content
  | _ => none

def boolean? : JsonValue → Option Bool
  | .boolean flag => some flag
  | _ => none

/-- The natural number below 2⁶⁴ that a value is. -/
def natural? : JsonValue → Option Nat
  | .number written =>
      if written.all Char.isDigit && Text.digitsValue written < Text.wordLimit then
        some (Text.digitsValue written)
      else
        none
  | _ => none

def items? {α : Type} (read : JsonValue → Option α) : JsonValue → Option (List α)
  | .list items => items.mapM read
  | _ => none

/-- The text that a value is, or none for a null. -/
def optionalText? : JsonValue → Option (Option Text)
  | .null => some none
  | .text (some content) => some (some content)
  | _ => none

/-- The fields of an object, if all names are texts. -/
def fields? (fields : List (Option Text × JsonValue)) : Option (List (Text × JsonValue)) :=
  fields.mapM fun (name, value) => name.map fun name => (name, value)

/--
The values of a record under the given names, each of which is there at most once. A record is an
object with such fields or a list of the values in order, from which values at the end may be
missing.
-/
def record? (names : List Text) : JsonValue → Option (List (Option JsonValue))
  | .object fields => do
      let given ← fields? fields
      if names.all fun name => given.countP (·.1 == name) ≤ 1 then
        return names.map fun name => (given.find? (·.1 == name)).map (·.2)
      else
        none
  | .list items =>
      if items.length ≤ names.length then
        some (items.map some ++ List.replicate (names.length - items.length) none)
      else
        none
  | _ => none

/-- The word of a value that is one of several: the word itself, or an object of it and null. -/
def word? : JsonValue → Option Text
  | .text content => content
  | .object [(some word, .null)] => some word
  | _ => none

end JsonValue

/-- The status that a stored word stands for. -/
def Status.stored? (value : JsonValue) : Option Status :=
  value.word?.bind fun word => Status.all.find? (·.word == word)

def Change.all : List Change :=
  [.major, .minor, .patch, .prerelease]

/-- The change that a stored word stands for. -/
def Change.stored? (value : JsonValue) : Option Change :=
  value.word?.bind fun word => Change.all.find? (·.word == word)

namespace HistoryItem

/-- The names of the fields in their order. -/
def fieldNames : List Text :=
  ["version".toList, "date".toList, "changeKind".toList, "breaking".toList,
    "migrationRequired".toList, "notes".toList]

/-- The step that a stored value stands for. -/
def stored? (value : JsonValue) : Option HistoryItem := do
  match ← value.record? fieldNames with
  | [some version, some date, some change, some breaking, some migrationRequired, notes] =>
      return {
        version := ← version.text?
        date := ← date.text?
        change := ← Change.stored? change
        breaking := ← breaking.boolean?
        migrationRequired := ← migrationRequired.boolean?
        notes := ← (notes.getD .null).optionalText?
      }
  | _ => none

def toJson (item : HistoryItem) : JsonValue :=
  let notes :=
    match item.notes with
    | some notes => [("notes", .ofText notes)]
    | none => []
  .ofFields ([
    ("version", .ofText item.version),
    ("date", .ofText item.date),
    ("changeKind", .ofText item.change.word),
    ("breaking", .boolean item.breaking),
    ("migrationRequired", .boolean item.migrationRequired)] ++ notes)

end HistoryItem

namespace Entry

/-- The names of the fields in their order. -/
def fieldNames : List Text :=
  ["currentVersion".toList, "lastModified".toList, "filePath".toList,
    "documentationVersion".toList, "lastDocumentationUpdate".toList, "contentHash".toList,
    "sizeBytes".toList, "exports".toList, "status".toList, "history".toList]

/-- A value that may be missing, read or given its default. -/
def orDefault {α : Type} (read : JsonValue → Option α) (default : α) :
    Option JsonValue → Option α
  | none => some default
  | some value => read value

/-- The entry that a stored value stands for. -/
def stored? (value : JsonValue) : Option Entry := do
  match ← value.record? fieldNames with
  | [some currentVersion, some lastModified, some filePath, documentationVersion,
      lastDocumentationUpdate, some contentHash, some sizeBytes, exports, status, history] =>
      return {
        currentVersion := ← currentVersion.text?
        lastModified := ← lastModified.text?
        filePath := ⟨← filePath.text?⟩
        documentationVersion := ← orDefault JsonValue.text? [] documentationVersion
        lastDocumentationUpdate := ← orDefault JsonValue.text? [] lastDocumentationUpdate
        contentHash := ← contentHash.text?
        sizeBytes := ← sizeBytes.natural?
        exports := ← orDefault (JsonValue.items? JsonValue.text?) [] exports
        status := ← orDefault Status.stored? .stable status
        history := ← orDefault (JsonValue.items? HistoryItem.stored?) [] history
      }
  | _ => none

def toJson (entry : Entry) : JsonValue :=
  .ofFields [
    ("currentVersion", .ofText entry.currentVersion),
    ("lastModified", .ofText entry.lastModified),
    ("filePath", .ofText entry.filePath.text),
    ("documentationVersion", .ofText entry.documentationVersion),
    ("lastDocumentationUpdate", .ofText entry.lastDocumentationUpdate),
    ("contentHash", .ofText entry.contentHash),
    ("sizeBytes", .ofNat entry.sizeBytes),
    ("exports", .list (entry.exports.map .ofText)),
    ("status", .ofText entry.status.word),
    ("history", .list (entry.history.map HistoryItem.toJson))]

end Entry

namespace Registry

/-- The entries that a stored value stands for. -/
def storedEntries? : JsonValue → Option (Keyed Entry)
  | .object fields => do
      let given ← JsonValue.fields? fields
      let entries ← given.mapM fun (identity, value) =>
        (Entry.stored? value).map fun entry => (identity, entry)
      return Keyed.ofList entries
  | _ => none

/-- The entries of a store; none if the store is refused. -/
def ofBytes? (bytes : Bytes) : Option (Keyed Entry) :=
  (JsonValue.read? bytes).bind storedEntries?

def toJson (registry : Registry) : JsonValue :=
  .object (registry.entries.bindings.map fun (identity, entry) => (some identity, entry.toJson))

def toBytes (registry : Registry) : Bytes :=
  Utf8.encode registry.toJson.toText

end Registry

end ComponentPages
