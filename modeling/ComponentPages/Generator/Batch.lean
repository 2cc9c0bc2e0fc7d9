import ComponentPages.Generator.Basic
import ComponentPages.Registry.Comparison

namespace ComponentPages

/-!
# Batches

A batch works through paths in order and keeps going when one of them fails, so that there is one
outcome for each path.
-/

/-- What became of one path. -/
inductive Outcome where
  | generated (written : Written)
  /-- The component has no identity. -/
  | skipped (path : Path)
  | failed (path : Path) (error : Error)
  deriving Repr, DecidableEq

namespace Outcome

/-- Why a path is skipped. -/
def skipReason : Text := "no component identity".toList

def isGenerated : Outcome → Bool
  | .generated _ => true
  | _ => false

def isSkipped : Outcome → Bool
  | .skipped _ => true
  | _ => false

def isFailed : Outcome → Bool
  | .failed _ _ => true
  | _ => false

/-- The outcome of generating a page for a path. -/
def ofResult (path : Path) : Except Error (Option Written) → Outcome
  | .ok (some written) => .generated written
  | .ok none => .skipped path
  | .error error => .failed path error

end Outcome

/-- The outcomes of a batch in order. -/
structure Batch where
  outcomes : List Outcome
  deriving Repr, DecidableEq

namespace Batch

def processed (batch : Batch) : Nat :=
  batch.outcomes.length

def updated (batch : Batch) : Nat :=
  batch.outcomes.countP Outcome.isGenerated

def skipped (batch : Batch) : Nat :=
  batch.outcomes.countP Outcome.isSkipped

def errors (batch : Batch) : Nat :=
  batch.outcomes.countP Outcome.isFailed

def hasErrors (batch : Batch) : Bool :=
  batch.errors > 0

end Batch

/-- Comparisons of sources with the registry, and the outcomes of paths without a snapshot. -/
structure Report where
  results : List Comparison
  problems : List Outcome
  deriving Repr, DecidableEq

namespace Report

/-- The comparisons of components that need a page. -/
def pending (report : Report) : List Comparison :=
  report.results.filter (·.needsUpdate)

def needsUpdate (report : Report) : Bool :=
  report.results.any (·.needsUpdate)

end Report

namespace Generator

variable {m : Type → Type} [Monad m] [Storage m]

def generateOne (now : Text) (reader : SourceReader m) (generator : Generator) (path : Path) :
    m (Generator × Outcome) := do
  let (after, result) ← generator.generateFile now reader path
  return (after, .ofResult path result)

def generateEach (now : Text) (reader : SourceReader m) (generator : Generator) :
    List Path → m (Generator × List Outcome)
  | [] => return (generator, [])
  | path :: later => do
      let (after, outcome) ← generator.generateOne now reader path
      let (final, outcomes) ← generateEach now reader after later
      return (final, outcome :: outcomes)

def generateAll (now : Text) (reader : SourceReader m) (generator : Generator)
    (paths : List Path) : m (Generator × Batch) := do
  let (after, outcomes) ← generator.generateEach now reader paths
  return (after, ⟨outcomes⟩)

/-- The paths of outdated components, in the order of the registry. -/
def outdatedPaths (generator : Generator) : List Path :=
  generator.registry.outdated.filterMap fun comparison =>
    (generator.registry.entry? comparison.identity).map (·.filePath)

/-- Make the pages of all outdated components. -/
def generateOutdated (now : Text) (reader : SourceReader m) (generator : Generator) :
    m (Generator × Batch) :=
  generator.generateAll now reader generator.outdatedPaths

/-- The snapshot of one path, or the outcome if there is none. -/
def snapshotAt (now : Text) (reader : SourceReader m) (path : Path) :
    m (Except Outcome Snapshot) := do
  match ← sourceAt reader path with
  | .error error => return .error (.failed path error)
  | .ok source =>
      match Snapshot.ofSource? now source path with
      | none => return .error (.skipped path)
      | some snapshot => return .ok snapshot

/-- The snapshots of paths in order, and the outcomes of paths without one. -/
def snapshotsOf (now : Text) (reader : SourceReader m) :
    List Path → m (List Snapshot × List Outcome)
  | [] => return ([], [])
  | path :: later => do
      let result ← snapshotAt now reader path
      let (snapshots, problems) ← snapshotsOf now reader later
      match result with
      | .ok snapshot => return (snapshot :: snapshots, problems)
      | .error problem => return (snapshots, problem :: problems)

/-- Record snapshots of paths and store the registry; also the outcomes of paths without one. -/
def refresh (now : Text) (reader : SourceReader m) (generator : Generator) (paths : List Path) :
    m (Generator × Except Error (List Outcome)) := do
  let (snapshots, problems) ← snapshotsOf now reader paths
  let recorded := { generator with registry := generator.registry.upsertAll now snapshots }
  if snapshots.isEmpty then
    return (recorded, .ok problems)
  else
    match ← recorded.registry.save with
    | .error fault => return (recorded, .error (.files fault))
    | .ok () => return (recorded, .ok problems)

/-- Compare snapshots of paths with the registry. -/
def compareFiles (now : Text) (reader : SourceReader m) (generator : Generator)
    (paths : List Path) : m Report := do
  let (snapshots, problems) ← snapshotsOf now reader paths
  return ⟨snapshots.map generator.registry.compare, problems⟩

end Generator

end ComponentPages
