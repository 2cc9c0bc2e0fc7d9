import ComponentPages.Command.Report
import ComponentPages.Configuration.Reader
import ComponentPages.Discovery.Walk

namespace ComponentPages

/-!
# Running commands

A command ends with the code 0 if all went well, 1 if components need pages or failed to get one,
and 2 if an error kept it from its work.
-/

/-- A project: its root, its configuration and the options that follow from it. -/
structure Project where
  root : Path
  configuration : Configuration
  options : Options
  deriving Repr, DecidableEq

namespace Command

def succeed (output : Text) : CommandResult :=
  ⟨0, output, []⟩

/-- The result of an error that kept the command from its work. -/
def fail (error : Error) : CommandResult :=
  ⟨2, [], Report.lines [error.code, [], "  ".toList ++ error.message]⟩

/-- The result of an invocation without a command. -/
def withoutCommand : CommandResult :=
  ⟨1, [], Report.lines
    ["No subcommand specified. Run \x60compdoc --help\x60 for usage.".toList]⟩

/-- The code of a command that may have found something amiss. -/
def codeFor (amiss : Bool) : Nat :=
  if amiss then 1 else 0

variable {m : Type → Type} [Monad m] [Storage m]

/-- The project at a root. -/
def projectAt (root : Path) : m (Except Error Project) := do
  match ← Configuration.load? root with
  | .error error => return .error error
  | .ok loaded =>
      let configuration := loaded.getD {}
      return .ok ⟨root, configuration, .ofConfiguration root configuration⟩

/-- The root of the project of an invocation, as an absolute path. -/
def rootOf (invocation : Invocation) : m Path := do
  let workingDirectory ← Storage.workingDirectory
  let root := invocation.root.getD workingDirectory
  return (Path.absolute? workingDirectory root).getD root

/-- The sources of a project and the generator for it. -/
def sourcesAndGenerator (project : Project) : m (Except Error (List Path × Generator)) := do
  match ← Discovery.sources project.root project.configuration.sources with
  | .error error => return .error error
  | .ok files =>
      match ← Generator.load project.options with
      | .error error => return .error error
      | .ok generator => return .ok (files, generator)

def generateFile (now : Text) (project : Project) (file : Path) : m CommandResult := do
  match ← Storage.absolute file with
  | .error fault => return fail (.files fault)
  | .ok path =>
      match ← Generator.load project.options with
      | .error error => return fail error
      | .ok generator =>
          match (← generator.generateFile now Storage.readText path).2 with
          | .error error => return fail error
          | .ok none => return fail (.missingIdentity (path.relativeTo project.root))
          | .ok (some written) =>
              return succeed (Report.lines
                ["Generated ".toList ++ Report.shown project.root written.page])

/-- The result of a batch, after problems that were found before it. -/
def batchResult (project : Project) (verbose : Bool) (problems : List Outcome) (batch : Batch) :
    CommandResult where
  code := codeFor batch.hasErrors
  output := Report.batchText project.root verbose batch
  errors := Report.problemLines project.root (problems ++ batch.outcomes)

def generatePaths (now : Text) (project : Project) (verbose : Bool) (generator : Generator)
    (paths : List Path) : m (Generator × CommandResult) := do
  let (after, batch) ← generator.generateAll now Storage.readText paths
  return (after, batchResult project verbose [] batch)

def generateAll (now : Text) (project : Project) (verbose : Bool) : m CommandResult := do
  match ← sourcesAndGenerator project with
  | .error error => return fail error
  | .ok (files, generator) =>
      if files.isEmpty then
        return succeed (Report.lines ["No component sources found.".toList])
      else
        return (← generatePaths now project verbose generator files).2

/-- Make the pages of all components that are outdated once the sources have been looked at. -/
def generateOutdated (now : Text) (project : Project) (verbose : Bool) : m CommandResult := do
  match ← sourcesAndGenerator project with
  | .error error => return fail error
  | .ok (files, generator) =>
      match ← generator.refresh now Storage.readText files with
      | (_, .error error) => return fail error
      | (refreshed, .ok problems) =>
          if refreshed.registry.outdated.isEmpty then
            return {
              code := 0
              output := Report.lines ["All documented components are up to date.".toList]
              errors := Report.problemLines project.root problems
            }
          else
            let (_, batch) ← refreshed.generateOutdated now Storage.readText
            return batchResult project verbose problems batch

/-- Compare all sources with the registry. -/
def compareSources (now : Text) (project : Project) (format : Format) : m CommandResult := do
  match ← sourcesAndGenerator project with
  | .error error => return fail error
  | .ok (files, generator) =>
      let report ← generator.compareFiles now Storage.readText files
      let code := codeFor report.needsUpdate
      match format with
      | .text => return ⟨code, report.toText, Report.problemLines project.root report.problems⟩
      | .json => return ⟨code, (report.toJson project.root).toText ++ ['\n'], []⟩

def showStatistics (project : Project) (format : Format) : m CommandResult := do
  match ← Registry.load project.options.registryPath with
  | .error error => return fail error
  | .ok registry =>
      match format with
      | .text => return succeed (Report.statisticsText registry.statistics)
      | .json => return succeed ((Report.statisticsJson registry.statistics).toText ++ ['\n'])

/-- Run a command on a project. -/
def run (now : Text) (project : Project) (verbose : Bool) : Command → m CommandResult
  | .generate (.file path) _ => generateFile now project path
  | .generate .all _ => generateAll now project verbose
  | .generate .outdated _ => generateOutdated now project verbose
  | .compare format => compareSources now project format
  | .stats format => showStatistics project format

end Command

namespace Invocation

variable {m : Type → Type} [Monad m] [Storage m]

/-- Do what an invocation asks for. -/
def run (now : Text) (invocation : Invocation) : m CommandResult := do
  match invocation.command with
  | none => return Command.withoutCommand
  | some command =>
      match ← Command.projectAt (← Command.rootOf invocation) with
      | .error error => return Command.fail error
      | .ok project => command.run now project invocation.verbose

end Invocation

end ComponentPages
