import ComponentPages.Number.Binary64
import ComponentPages.Registry.Basic

namespace ComponentPages

/-!
# Comparisons

Whether a component needs a new page, and why. A fresh snapshot is compared with the entry of the
component; an entry on its own is outdated if its page shows another version than its current
one.
-/

/-- Why a component needs a new page, or that it needs none. -/
inductive Reason where
  /-- There is no page. -/
  | missingDocs
  /-- The page shows another version than the snapshot. -/
  | versionMismatch
  /-- The page was made from another source of the same version. -/
  | hashMismatch
  /-- The page shows another version than the entry. -/
  | staleDocs
  /-- The page is current. -/
  | upToDate
  deriving Repr, DecidableEq

def Reason.word : Reason → Text
  | .missingDocs => "missing_docs".toList
  | .versionMismatch => "version_mismatch".toList
  | .hashMismatch => "hash_mismatch".toList
  | .staleDocs => "stale_docs".toList
  | .upToDate => "up_to_date".toList

/-- The result of a comparison. -/
structure Comparison where
  identity : Text
  needsUpdate : Bool
  /-- The version now. -/
  current : Text
  /-- The version that the page shows. -/
  documented : Option Text
  change : Option Change
  reason : Reason
  priority : Priority
  effort : Effort
  deriving Repr, DecidableEq

/-- How many components there are, and how many have pages. -/
structure Statistics where
  total : Nat
  documented : Nat
  outdated : Nat
  /-- The documented components in percent. -/
  coverage : Binary64
  deriving Repr, DecidableEq

namespace Comparison

/-- The comparison of a component that has no entry. -/
def unknown (identity version : Text) : Comparison where
  identity := identity
  needsUpdate := true
  current := version
  documented := none
  change := some .major
  reason := .missingDocs
  priority := .high
  effort := .moderate

/-- The comparison of a version with the one that a page shows, for a reason. -/
def ofVersions (identity current : Text) (documented : Option Text) (reason : Reason) :
    Comparison :=
  let change := Change.classify documented current
  {
    identity := identity
    needsUpdate := reason ≠ .upToDate
    current := current
    documented := documented
    change := change
    reason := reason
    priority := Change.priority change
    effort := Change.effort change
  }

/-- The first reason for which a snapshot needs a new page. -/
def reasonFor (entry : Entry) (snapshot : Snapshot) : Reason :=
  if !entry.isDocumented then
    .missingDocs
  else if entry.documentationVersion ≠ snapshot.version then
    .versionMismatch
  else if entry.contentHash ≠ snapshot.contentHash then
    .hashMismatch
  else
    .upToDate

end Comparison

namespace Registry

/-- The comparison of a snapshot with its entry. -/
def compare (registry : Registry) (snapshot : Snapshot) : Comparison :=
  match registry.entry? snapshot.identity with
  | none => .unknown snapshot.identity snapshot.version
  | some entry =>
      .ofVersions snapshot.identity snapshot.version entry.documentedVersion?
        (Comparison.reasonFor entry snapshot)

/-- The comparison of an entry whose page shows another version than its current one. -/
def outdatedEntry? (identity : Text) (entry : Entry) : Option Comparison :=
  if entry.isOutdated then
    some (.ofVersions identity entry.currentVersion entry.documentedVersion?
      (if entry.isDocumented then .staleDocs else .missingDocs))
  else
    none

/-- The comparisons of all outdated entries, in the order of their identities. -/
def outdated (registry : Registry) : List Comparison :=
  registry.entries.bindings.filterMap fun (identity, entry) => outdatedEntry? identity entry

/-- The part of a number of things in percent; zero if there are none. -/
def percentage (part total : Nat) : Binary64 :=
  if total = 0 then .zero else (Binary64.ofQuotient false part total).timesNat 100

/-- The statistics of a registry. -/
def statistics (registry : Registry) : Statistics :=
  let entries := registry.entries.bindings.map (·.2)
  let documented := entries.countP Entry.isDocumented
  {
    total := entries.length
    documented := documented
    outdated := entries.countP Entry.isOutdated
    coverage := percentage documented entries.length
  }

end Registry

end ComponentPages
