import ComponentPages.Snapshot.Basic
import ComponentPages.Version.Change

namespace ComponentPages

/-!
# Registry entries

What the registry keeps of a component: its last snapshot, the version and time of its page, and
the history of its versions. A component whose page has no version was never documented.
-/

/-- One step in the history of a component's versions. -/
structure HistoryItem where
  version : Text
  date : Text
  change : Change
  breaking : Bool
  migrationRequired : Bool
  notes : Option Text
  deriving Repr, DecidableEq

/-- What the registry keeps of a component. -/
structure Entry where
  currentVersion : Text
  lastModified : Text
  filePath : Path
  /-- The version that the page shows; empty if there is no page. -/
  documentationVersion : Text
  lastDocumentationUpdate : Text
  contentHash : Text
  sizeBytes : Nat
  exports : List Text
  status : Status
  /-- The versions so far, the latest at the end. -/
  history : List HistoryItem
  deriving Repr, DecidableEq

namespace HistoryItem

/-- The step from a version, if there was one, to the next. -/
def ofStep (now : Text) (previous : Option Text) (next : Text) (change : Change) : HistoryItem where
  version := next
  date := now
  change := change
  breaking := change = .major
  migrationRequired := change = .major
  notes :=
    match previous with
    | some version => some ("Updated from ".toList ++ version)
    | none => some "Initial version".toList

end HistoryItem

namespace Entry

/-- Whether a page was written for the component. -/
def isDocumented (entry : Entry) : Bool :=
  !entry.documentationVersion.isEmpty

/-- Whether the page shows another version than the current one. -/
def isOutdated (entry : Entry) : Bool :=
  entry.currentVersion != entry.documentationVersion

/-- The version that the page shows, if there is a page. -/
def documentedVersion? (entry : Entry) : Option Text :=
  if entry.isDocumented then some entry.documentationVersion else none

/-- Whether two entries are the same when paths are compared by their components. -/
def isSame (entry other : Entry) : Bool :=
  entry.filePath.isSame other.filePath && entry = { other with filePath := entry.filePath }

/-- The entry of a snapshot that takes over the documentation and history of `existing`. -/
def ofSnapshot (existing : Option Entry) (history : List HistoryItem) (snapshot : Snapshot) :
    Entry where
  currentVersion := snapshot.version
  lastModified := snapshot.lastModified
  filePath := snapshot.filePath
  documentationVersion := (existing.map (·.documentationVersion)).getD []
  lastDocumentationUpdate := (existing.map (·.lastDocumentationUpdate)).getD []
  contentHash := snapshot.contentHash
  sizeBytes := snapshot.sizeBytes
  exports := snapshot.exports
  status := snapshot.status
  history := history

end Entry

end ComponentPages
