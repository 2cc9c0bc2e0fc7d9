import ComponentPages.Snapshot.DeclaredVersion
import ComponentPages.Snapshot.Exports
import ComponentPages.Snapshot.Identity
import ComponentPages.Text.Digest

namespace ComponentPages

/-!
# Snapshots

What is known of a component from its source alone.
-/

/-- A component as its source shows it at one moment. -/
structure Snapshot where
  identity : Text
  version : Text
  lastModified : Text
  contentHash : Text
  sizeBytes : Nat
  exports : List Text
  status : Status
  filePath : Path
  deriving Repr, DecidableEq

namespace Snapshot

/-- The digest of a source. -/
def hashOf (source : Text) : Text :=
  Digest.sha256 (Utf8.encode source)

/-- The snapshot of a source; none if the component has no identity. -/
def ofSource? (now source : Text) (path : Path) : Option Snapshot :=
  (Identity.ofSource? source path).map fun identity => {
    identity := identity
    version := DeclaredVersion.ofSource source
    lastModified := DeclaredDate.ofSource now source
    contentHash := hashOf source
    sizeBytes := source.byteLength
    exports := Exports.ofSource source
    status := Status.ofSource source
    filePath := path
  }

end Snapshot

end ComponentPages
