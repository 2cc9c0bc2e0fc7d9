import ComponentPages.Registry.Entry
import ComponentPages.Text.Keyed

namespace ComponentPages

/-!
# The registry

The registry keeps an entry for each component, by identity. Recording a snapshot adds to the
history of the component exactly when its version is new; the state of its page stays as it is
until the page is marked as written.
-/

/-- The entries of all components, and where they are stored. -/
structure Registry where
  path : Path
  entries : Keyed Entry
  deriving DecidableEq

/-- What recording a snapshot did. -/
structure Recorded where
  /-- The change of version, if the version changed. -/
  change : Option Change
  /-- Whether the history grew. -/
  appended : Bool
  deriving Repr, DecidableEq

namespace Registry

def empty (path : Path) : Registry :=
  ⟨path, .empty⟩

/-- The entry of a component. -/
def entry? (registry : Registry) (identity : Text) : Option Entry :=
  registry.entries.find? identity

def put (registry : Registry) (identity : Text) (entry : Entry) : Registry :=
  { registry with entries := registry.entries.insert identity entry }

/-- Whether two registries are the same when paths are compared by their components. -/
def isSame (registry other : Registry) : Bool :=
  registry.path.isSame other.path &&
    registry.entries.bindings.length == other.entries.bindings.length &&
    (registry.entries.bindings.zip other.entries.bindings).all
      fun ((identity, entry), (otherIdentity, otherEntry)) =>
        identity == otherIdentity && entry.isSame otherEntry

/-- The registry with a snapshot recorded at a time, and what that did. -/
def upsert (now : Text) (registry : Registry) (snapshot : Snapshot) : Registry × Recorded :=
  let existing := registry.entry? snapshot.identity
  let previous := existing.map (·.currentVersion)
  let history := (existing.map (·.history)).getD []
  if previous = some snapshot.version then
    (registry.put snapshot.identity (.ofSnapshot existing history snapshot), ⟨none, false⟩)
  else
    let change := Change.classify previous snapshot.version
    let item := HistoryItem.ofStep now previous snapshot.version (change.getD .patch)
    (registry.put snapshot.identity (.ofSnapshot existing (history ++ [item]) snapshot),
      ⟨change, true⟩)

/-- The registry with snapshots recorded in order. -/
def upsertAll (now : Text) (registry : Registry) (snapshots : List Snapshot) : Registry :=
  snapshots.foldl (fun registry snapshot => (registry.upsert now snapshot).1) registry

/--
The registry with the page of a component marked as written for a version; none if the component
is unknown.
-/
def markDocumented? (now : Text) (registry : Registry) (identity version : Text) :
    Option Registry :=
  (registry.entry? identity).map fun entry =>
    registry.put identity
      { entry with documentationVersion := version, lastDocumentationUpdate := now }

end Registry

end ComponentPages
