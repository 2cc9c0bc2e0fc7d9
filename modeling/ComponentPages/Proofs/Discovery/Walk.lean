import ComponentPages.Discovery.Walk
import ComponentPages.Proofs.Storage.World

namespace ComponentPages

/-!
# Looking for sources

Looking for the sources of a project reads directories and ignore files and changes nothing, so the
sources are a function of the world.
-/

namespace Discovery

open World

/-- Reading the rules of a directory changes no file. -/
private theorem onlyReads_readRules
    (directory : Location)
    (names : List String) :
    OnlyReads (readRules directory names) := by
  refine .bind (fun _ => rfl) fun read => ?_
  cases read <;> exact .pure _

private theorem onlyReads_rulesOf
    (disableGitignore : Bool)
    (directory : Location) :
    OnlyReads (rulesOf disableGitignore directory) := by
  refine (onlyReads_readRules directory _).bind fun plain => ?_
  cases disableGitignore with
  | true =>
      exact .pure _
  | false =>
      exact (onlyReads_readRules directory _).bind fun _ =>
        (onlyReads_readRules directory _).bind fun _ => .pure _

private theorem onlyReads_rulesOfAll
    (disableGitignore : Bool)
    (directories : List Location) :
    OnlyReads (rulesOfAll disableGitignore directories) := by
  induction directories with
  | nil =>
      exact .pure _
  | cons directory later inductionHypothesis =>
      exact (onlyReads_rulesOf disableGitignore directory).bind fun _ =>
        inductionHypothesis.bind fun _ => .pure _

private theorem onlyReads_filesAt
    (disableGitignore : Bool)
    (root : Path) :
    OnlyReads (filesAt disableGitignore root) := by
  refine .bind (fun _ => rfl) fun isFile => ?_
  cases isFile with
  | true =>
      exact .pure _
  | false =>
      refine .bind (fun _ => rfl) fun located => ?_
      cases located with
      | error fault =>
          exact .pure _
      | ok place =>
          exact .bind (fun _ => rfl) fun _ =>
            (onlyReads_rulesOfAll disableGitignore _).bind fun _ => .pure _

/-- The sources are the files at the absolute root that the selection tracks, in order. -/
theorem run_sources
    (root : Path)
    (settings : SourceSettings)
    (world : World) :
    (sources root settings : StateM World (Except Error (List Path))) world =
      match Path.absolute? world.disk.workingDirectory.path root with
      | none => (.error (.files .emptyPath), world)
      | some root =>
          match Selection.ofSettings root settings with
          | .error fault => (.error (.configuration fault), world)
          | .ok selection =>
              let files :=
                (filesAt settings.disableGitignore root : StateM World (List Path)) world
              (.ok ((files.1.filter selection.tracks).mergeSort Path.precedes), world) := by
  have isAbsolute :
      (Storage.absolute root : StateM World (Except FileFault Path)) world =
        (((Path.absolute? world.disk.workingDirectory.path root).map Except.ok).getD
          (.error .emptyPath), world) := by
    rw [Storage.absolute, run_bind]
    have isDirectory : (Storage.workingDirectory : StateM World Path) world =
        (world.disk.workingDirectory.path, world) :=
      rfl
    rw [isDirectory]
    cases Path.absolute? world.disk.workingDirectory.path root <;> rfl
  rw [sources, run_bind, isAbsolute]
  cases Path.absolute? world.disk.workingDirectory.path root with
  | none =>
      rfl
  | some root =>
      rw [Option.map_some, Option.getD_some]
      dsimp only
      cases Selection.ofSettings root settings with
      | error fault =>
          rfl
      | ok selection =>
          dsimp only
          rw [run_bind, (onlyReads_filesAt settings.disableGitignore root).run_eq]
          rfl

/-- Looking for sources changes no file. -/
theorem onlyReads_sources
    (root : Path)
    (settings : SourceSettings) :
    OnlyReads (sources root settings) := by
  intro world
  rw [run_sources]
  split
  · rfl
  · split <;> rfl

end Discovery

end ComponentPages
