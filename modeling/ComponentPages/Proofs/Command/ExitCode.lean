import ComponentPages.Command.Run
import ComponentPages.Proofs.Discovery.Walk
import ComponentPages.Proofs.Generator.Isolation

namespace ComponentPages

/-!
# Exit codes and sources that cannot be read

A source that cannot be read is a failure in a batch, so making the pages of all sources does not
end with the code 0. Comparing looks at the sources that can be read: its code tells whether one of
these needs a page. Making the outdated pages ends with a code other than 0 if the batch of outdated
components fails. In all three cases the source is named among the problems.
-/

/-! ## What is printed -/

/-- Whether the errors that a command printed hold the line for a path that failed. -/
def CommandResult.Blames (result : CommandResult) (root path : Path) (error : Error) : Prop :=
  ∃ before after,
    result.errors =
      before ++ ("error: ".toList ++ Report.shown root path ++ ": ".toList ++ error.message ++
        '\n' :: after)

/-- A path that failed has its line among those for the problems. -/
theorem Report.exists_problemLines
    {root path : Path}
    {error : Error}
    {outcomes : List Outcome}
    (isOutcome : .failed path error ∈ outcomes) :
    ∃ before after,
      problemLines root outcomes =
        before ++ ("error: ".toList ++ shown root path ++ ": ".toList ++ error.message ++
          '\n' :: after) := by
  obtain ⟨earlier, later, rfl⟩ := List.append_of_mem isOutcome
  refine ⟨problemLines root earlier, problemLines root later, ?_⟩
  simp [problemLines, lines, problemLine?]

namespace Batch

/-- A batch with a failed source has errors. -/
theorem hasErrors_of_mem
    {batch : Batch}
    {path : Path}
    {error : Error}
    (isOutcome : .failed path error ∈ batch.outcomes) :
    batch.hasErrors = true := by
  have isCounted : 0 < batch.outcomes.countP Outcome.isFailed :=
    List.countP_pos_iff.mpr ⟨_, isOutcome, rfl⟩
  simpa [hasErrors, errors] using isCounted

end Batch

/-! ## Outcomes of sources that cannot be read -/

namespace Generator

variable {now : Text} {view : World → Path → Except FileFault Text} {generator : Generator}
variable {world : World} {path : Path} {fault : FileFault}

/-- A source that cannot be read when its turn comes is a failure of the batch. -/
theorem mem_outcomes_of_unreadable
    {earlier : List Path}
    (unreadable : view (generator.worldAfter now view earlier world) path = .error fault)
    (later : List Path) :
    .failed path (.sourceUnreadable path fault) ∈
      ((generator.generateAll now (.ofView view) (earlier ++ path :: later) :
        StateM World (Generator × Batch)) world).1.2.outcomes := by
  have isOutcome := outcome_of_generateEach now view generator earlier path later world
  rw [run_generateFile, unreadable] at isOutcome
  exact List.mem_of_getElem? isOutcome

/-- A source that cannot be read is a problem for those who look at all sources. -/
theorem mem_problemsIn_of_unreadable
    {paths : List Path}
    (isPath : path ∈ paths)
    (unreadable : view world path = .error fault)
    (now : Text) :
    .failed path (.sourceUnreadable path fault) ∈ problemsIn now view world paths := by
  have isProblem :
      snapshotIn now view world path = .error (.failed path (.sourceUnreadable path fault)) := by
    rw [snapshotIn, unreadable]
  exact List.mem_filterMap.mpr ⟨path, isPath, by rw [isProblem]⟩

/-- The problems that remain after looking at all sources are those of the sources. -/
theorem problems_of_refresh_ok
    {paths : List Path}
    {refreshed : Generator}
    {problems : List Outcome}
    {after : World}
    (isRefreshed :
      (generator.refresh now (.ofView view) paths :
        StateM World (Generator × Except Error (List Outcome))) world =
          ((refreshed, .ok problems), after)) :
    problems = problemsIn now view world paths := by
  rw [run_refresh] at isRefreshed
  dsimp only at isRefreshed
  split at isRefreshed
  · exact (Except.ok.inj (Prod.mk.inj (Prod.mk.inj isRefreshed).1).2).symm
  · split at isRefreshed
    · cases isRefreshed
    · exact (Except.ok.inj (Prod.mk.inj (Prod.mk.inj isRefreshed).1).2).symm

/-- Loading a generator changes no file. -/
theorem onlyReads_load (options : Options) :
    World.OnlyReads (Generator.load options) :=
  run_load_world options

end Generator

/-! ## Commands -/

namespace Command

variable {now : Text} {project : Project} {world : World} {files : List Path}

/-- The sources that a project tracks in a world. -/
def sourcesIn (project : Project) (world : World) : Except Error (List Path) :=
  ((Discovery.sources project.root project.configuration.sources :
    StateM World (Except Error (List Path))) world).1

/-- The generator that a project has in a world. -/
def generatorIn (project : Project) (world : World) : Except Error Generator :=
  ((Generator.load project.options : StateM World (Except Error Generator)) world).1

/-- Before a command does its work, it only reads. -/
theorem run_sourcesAndGenerator
    (areFiles : sourcesIn project world = .ok files) :
    (sourcesAndGenerator project :
        StateM World (Except Error (List Path × Generator))) world =
      ((generatorIn project world).map fun generator => (files, generator), world) := by
  have sources := (Discovery.onlyReads_sources project.root project.configuration.sources).run_eq
    world
  have loaded := (Generator.onlyReads_load project.options).run_eq world
  unfold sourcesIn at areFiles
  unfold generatorIn
  rw [areFiles] at sources
  rw [sourcesAndGenerator, World.run_bind, sources]
  dsimp only
  rw [World.run_bind, loaded]
  cases ((Generator.load project.options : StateM World (Except Error Generator)) world).1 <;> rfl

/-- Without a generator all three commands fail. -/
theorem code_of_no_generator
    {error : Error}
    (areFiles : sourcesIn project world = .ok files)
    (notLoaded : generatorIn project world = .error error)
    (now : Text)
    (verbose : Bool)
    (format : Format) :
    ((generateAll now project verbose : StateM World CommandResult) world).1.code = 2 ∧
    ((generateOutdated now project verbose : StateM World CommandResult) world).1.code = 2 ∧
    ((compareSources now project format : StateM World CommandResult) world).1.code = 2 := by
  have prepared := run_sourcesAndGenerator areFiles
  rw [notLoaded] at prepared
  refine ⟨?_, ?_, ?_⟩
  · rw [generateAll, World.run_bind, prepared]
    rfl
  · rw [generateOutdated, World.run_bind, prepared]
    rfl
  · rw [compareSources, World.run_bind, prepared]
    rfl

/-- The result of making the pages of all sources is that of the batch. -/
theorem run_generateAll
    {generator : Generator}
    (areFiles : sourcesIn project world = .ok files)
    (isLoaded : generatorIn project world = .ok generator)
    (areSome : files ≠ [])
    (now : Text)
    (verbose : Bool) :
    ((generateAll now project verbose : StateM World CommandResult) world).1 =
      batchResult project verbose []
        ((generator.generateAll now (.ofView Storage.textIn) files :
          StateM World (Generator × Batch)) world).1.2 := by
  have prepared := run_sourcesAndGenerator areFiles
  rw [isLoaded] at prepared
  rw [generateAll, World.run_bind, prepared, ← Storage.readText_eq_ofView]
  simp only [Except.map, List.isEmpty_iff, areSome, ↓reduceIte]
  rfl

/-- Comparing sources reports on the files that are found, with the generator that is loaded. -/
theorem run_compareSources
    {generator : Generator}
    (areFiles : sourcesIn project world = .ok files)
    (isLoaded : generatorIn project world = .ok generator)
    (now : Text)
    (format : Format) :
    let report : Report :=
      ⟨(Generator.snapshotsIn now Storage.textIn world files).map generator.registry.compare,
        Generator.problemsIn now Storage.textIn world files⟩
    ((compareSources now project format : StateM World CommandResult) world).1 =
      match format with
      | .text => ⟨codeFor report.needsUpdate, report.toText,
          Report.problemLines project.root report.problems⟩
      | .json =>
          ⟨codeFor report.needsUpdate, (report.toJson project.root).toText ++ ['\n'], []⟩ := by
  have prepared := run_sourcesAndGenerator areFiles
  rw [isLoaded] at prepared
  rw [compareSources, World.run_bind, prepared]
  dsimp only [Except.map]
  rw [World.run_bind, Storage.readText_eq_ofView, Generator.run_compareFiles]
  cases format <;> rfl

/--
Bringing pages up to date refreshes the registry first and generates only if something is outdated
then.
-/
theorem run_generateOutdated
    {generator : Generator}
    (areFiles : sourcesIn project world = .ok files)
    (isLoaded : generatorIn project world = .ok generator)
    (now : Text)
    (verbose : Bool) :
    ((generateOutdated now project verbose : StateM World CommandResult) world).1 =
      match (generator.refresh now (.ofView Storage.textIn) files :
          StateM World (Generator × Except Error (List Outcome))) world with
      | ((_, .error error), _) => fail error
      | ((refreshed, .ok problems), after) =>
          if refreshed.registry.outdated.isEmpty then
            ⟨0, Report.lines ["All documented components are up to date.".toList],
              Report.problemLines project.root problems⟩
          else
            batchResult project verbose problems
              ((refreshed.generateAll now (.ofView Storage.textIn) refreshed.outdatedPaths :
                StateM World (Generator × Batch)) after).1.2 := by
  have prepared := run_sourcesAndGenerator areFiles
  rw [isLoaded] at prepared
  rw [generateOutdated, World.run_bind, prepared, ← Storage.readText_eq_ofView]
  dsimp only [Except.map]
  rw [World.run_bind]
  rcases (generator.refresh now Storage.readText files :
      StateM World (Generator × Except Error (List Outcome))) world with
    ⟨⟨refreshed, _ | problems⟩, after⟩
  · rfl
  · dsimp only
    split
    · rfl
    · rfl

/-! ## Sources that cannot be read -/

/-- Making all pages ends with the code 1 if a source cannot be read when its turn comes. -/
theorem generateAll_of_unreadable
    {generator : Generator}
    {earlier later : List Path}
    {path : Path}
    {fault : FileFault}
    (areFiles : sourcesIn project world = .ok (earlier ++ path :: later))
    (isLoaded : generatorIn project world = .ok generator)
    (unreadable :
      Storage.textIn (generator.worldAfter now Storage.textIn earlier world) path = .error fault)
    (verbose : Bool) :
    let result := ((generateAll now project verbose : StateM World CommandResult) world).1
    result.code = 1 ∧ result.Blames project.root path (.sourceUnreadable path fault) := by
  have isOutcome := Generator.mem_outcomes_of_unreadable unreadable later
  dsimp only
  rw [run_generateAll areFiles isLoaded (by simp)]
  refine ⟨?_, Report.exists_problemLines isOutcome⟩
  rw [batchResult, Batch.hasErrors_of_mem isOutcome]
  rfl

/-- Comparing names a source that cannot be read among the problems. -/
theorem compareSources_of_unreadable
    {generator : Generator}
    {path : Path}
    {fault : FileFault}
    (areFiles : sourcesIn project world = .ok files)
    (isLoaded : generatorIn project world = .ok generator)
    (isPath : path ∈ files)
    (unreadable : Storage.textIn world path = .error fault)
    (now : Text)
    (format : Format) :
    let result := ((compareSources now project format : StateM World CommandResult) world).1
    match format with
    | .text => result.Blames project.root path (.sourceUnreadable path fault)
    | .json =>
        ∃ report : Report,
          .failed path (.sourceUnreadable path fault) ∈ report.problems ∧
            result.output = (report.toJson project.root).toText ++ ['\n'] := by
  have isProblem := Generator.mem_problemsIn_of_unreadable isPath unreadable now
  dsimp only
  rw [run_compareSources areFiles isLoaded]
  cases format with
  | text =>
      exact Report.exists_problemLines isProblem
  | json =>
      exact ⟨_, isProblem, rfl⟩

/-- The code of a comparison tells whether a source that can be read needs a page. -/
theorem code_compareSources
    {generator : Generator}
    (areFiles : sourcesIn project world = .ok files)
    (isLoaded : generatorIn project world = .ok generator)
    (now : Text)
    (format : Format) :
    let needsUpdate := ∃ path ∈ files, ∃ snapshot,
      Generator.snapshotIn now Storage.textIn world path = .ok snapshot ∧
        (generator.registry.compare snapshot).needsUpdate = true
    let result := ((compareSources now project format : StateM World CommandResult) world).1
    (result.code = 1 ↔ needsUpdate) ∧ (result.code = 0 ↔ ¬needsUpdate) := by
  intro needsUpdate
  let report : Report :=
    ⟨(Generator.snapshotsIn now Storage.textIn world files).map generator.registry.compare,
      Generator.problemsIn now Storage.textIn world files⟩
  have isNeeded : report.needsUpdate = true ↔ needsUpdate := by
    simp only [report, Report.needsUpdate, List.any_map, List.any_eq_true, Function.comp_apply,
      Generator.mem_snapshotsIn, needsUpdate, Generator.snapshotIn_eq_ok]
    constructor
    · rintro ⟨snapshot, ⟨path, isPath, isSnapshot⟩, isOutdated⟩
      exact ⟨path, isPath, snapshot, isSnapshot, isOutdated⟩
    · rintro ⟨path, isPath, snapshot, isSnapshot, isOutdated⟩
      exact ⟨snapshot, ⟨path, isPath, isSnapshot⟩, isOutdated⟩
  have isCode :
      ((compareSources now project format : StateM World CommandResult) world).1.code =
        codeFor report.needsUpdate := by
    rw [run_compareSources areFiles isLoaded]
    cases format <;> rfl
  dsimp only
  rw [isCode, ← isNeeded]
  cases report.needsUpdate <;> simp [codeFor]

/-- Making the outdated pages names sources that cannot be read and fails with their batch. -/
theorem generateOutdated_of_refresh
    {generator refreshed : Generator}
    {problems : List Outcome}
    {after : World}
    (areFiles : sourcesIn project world = .ok files)
    (isLoaded : generatorIn project world = .ok generator)
    (isRefreshed :
      (generator.refresh now (.ofView Storage.textIn) files :
        StateM World (Generator × Except Error (List Outcome))) world =
          ((refreshed, .ok problems), after))
    (verbose : Bool) :
    let result := ((generateOutdated now project verbose : StateM World CommandResult) world).1
    (∀ path ∈ files, ∀ fault,
      Storage.textIn world path = .error fault →
        result.Blames project.root path (.sourceUnreadable path fault)) ∧
    ∀ earlier path later fault,
      refreshed.outdatedPaths = earlier ++ path :: later →
      Storage.textIn (refreshed.worldAfter now Storage.textIn earlier after) path =
        .error fault →
        result.code = 1 ∧ result.Blames project.root path (.sourceUnreadable path fault) := by
  have areProblems := Generator.problems_of_refresh_ok isRefreshed
  dsimp only
  rw [run_generateOutdated areFiles isLoaded, isRefreshed]
  dsimp only
  constructor
  · intro path isPath fault unreadable
    have isProblem := Generator.mem_problemsIn_of_unreadable isPath unreadable now
    rw [← areProblems] at isProblem
    split
    · exact Report.exists_problemLines isProblem
    · exact Report.exists_problemLines (List.mem_append_left _ isProblem)
  · intro earlier path later fault areOutdated unreadable
    have isOutcome := Generator.mem_outcomes_of_unreadable unreadable later
    have areSome : refreshed.registry.outdated.isEmpty = false := by
      cases isOutdated : refreshed.registry.outdated with
      | nil =>
          simp [Generator.outdatedPaths, isOutdated] at areOutdated
      | cons first others =>
          rfl
    rw [areSome, areOutdated]
    refine ⟨?_, Report.exists_problemLines (List.mem_append_right _ isOutcome)⟩
    simp only [Bool.false_eq_true, ↓reduceIte, batchResult]
    rw [Batch.hasErrors_of_mem isOutcome]
    rfl

/--
What the exit codes tell of sources that cannot be read. Without a generator all three commands end
with the code 2. With one, making all pages ends with the code 1 if a source cannot be read when its
turn comes. The code of a comparison is 1 if a source that can be read needs a page and 0 if none
does. Making the outdated pages ends with the code 2 if the registry is not stored after the sources
were looked at, and with the code 1 if the source of an outdated component cannot be read when its
turn comes. Each source that cannot be read is named, unless the command ends with the code 2.
-/
theorem exitCode_of_unreadable
    (areFiles : sourcesIn project world = .ok files)
    (now : Text)
    (verbose : Bool)
    (format : Format) :
    let all := ((generateAll now project verbose : StateM World CommandResult) world).1
    let outdated := ((generateOutdated now project verbose : StateM World CommandResult) world).1
    let compared := ((compareSources now project format : StateM World CommandResult) world).1
    (∀ error, generatorIn project world = .error error →
      all.code = 2 ∧ outdated.code = 2 ∧ compared.code = 2) ∧
    ∀ generator, generatorIn project world = .ok generator →
      (∀ earlier path later fault,
        files = earlier ++ path :: later →
        Storage.textIn (generator.worldAfter now Storage.textIn earlier world) path =
          .error fault →
          all.code = 1 ∧ all.Blames project.root path (.sourceUnreadable path fault)) ∧
      (let needsUpdate := ∃ path ∈ files, ∃ snapshot,
        Generator.snapshotIn now Storage.textIn world path = .ok snapshot ∧
          (generator.registry.compare snapshot).needsUpdate = true
      (compared.code = 1 ↔ needsUpdate) ∧ (compared.code = 0 ↔ ¬needsUpdate)) ∧
      (∀ path ∈ files, ∀ fault,
        Storage.textIn world path = .error fault →
          match format with
          | .text => compared.Blames project.root path (.sourceUnreadable path fault)
          | .json =>
              ∃ report : Report,
                .failed path (.sourceUnreadable path fault) ∈ report.problems ∧
                  compared.output = (report.toJson project.root).toText ++ ['\n']) ∧
      ∀ refreshed result after,
        (generator.refresh now (.ofView Storage.textIn) files :
          StateM World (Generator × Except Error (List Outcome))) world =
            ((refreshed, result), after) →
          match result with
          | .error _ => outdated.code = 2
          | .ok _ =>
              (∀ path ∈ files, ∀ fault,
                Storage.textIn world path = .error fault →
                  outdated.Blames project.root path (.sourceUnreadable path fault)) ∧
              ∀ earlier path later fault,
                refreshed.outdatedPaths = earlier ++ path :: later →
                Storage.textIn (refreshed.worldAfter now Storage.textIn earlier after) path =
                  .error fault →
                  outdated.code = 1 ∧
                    outdated.Blames project.root path (.sourceUnreadable path fault) := by
  refine ⟨fun error notLoaded => code_of_no_generator areFiles notLoaded now verbose format, ?_⟩
  intro generator isLoaded
  refine ⟨?all, code_compareSources areFiles isLoaded now format, ?compared, ?outdated⟩
  case all =>
    rintro earlier path later fault rfl unreadable
    exact generateAll_of_unreadable areFiles isLoaded unreadable verbose
  case compared =>
    intro path isPath fault unreadable
    exact compareSources_of_unreadable areFiles isLoaded isPath unreadable now format
  case outdated =>
    intro refreshed result after isRefreshed
    cases result with
    | error error =>
        dsimp only
        rw [run_generateOutdated areFiles isLoaded, isRefreshed]
        rfl
    | ok problems =>
        exact generateOutdated_of_refresh areFiles isLoaded isRefreshed verbose

end Command

/-! ## A project with one source that cannot be read -/

namespace Command.Unreadable

private def root : Path :=
  ⟨"/project".toList⟩

/-- The only source of the project; its byte is no text. -/
def source : Path :=
  ⟨"/project/src/components/button.tsx".toList⟩

/-- The project at the root, with the default configuration. -/
def project : Project :=
  ⟨root, {}, .ofConfiguration root {}⟩

/-- The only source is no UTF-8. -/
def world : World :=
  let components := ["project".toList, "src".toList, "components".toList]
  ⟨⟨[], [(components.take 1, .directory), (components.take 2, .directory),
    (components, .directory), (components ++ ["button.tsx".toList], .file [0xff])]⟩, []⟩

/-- The template of the project, which is not there. -/
def template : Path :=
  project.options.templatesDirectory.file (project.options.templateName ++ ".md".toList)

private theorem textsIn :
    Storage.textIn world source = .error .notText ∧
      Storage.textIn world template = .error .notFound := by
  decide +kernel

private theorem areFiles : sourcesIn project world = .ok [source] := by
  unfold sourcesIn
  rw [Discovery.run_sources]
  have isAbsolute : Path.absolute? world.disk.workingDirectory.path project.root = some root := by
    cbv
  have tracked :
      (Selection.ofSettings root project.configuration.sources).toOption.map (fun selection =>
        ((Discovery.filesAt project.configuration.sources.disableGitignore root :
          StateM World (List Path)) world).1.filter selection.tracks) = some [source] := by
    decide +kernel
  rw [isAbsolute]
  dsimp only
  cases isSelection : Selection.ofSettings root project.configuration.sources with
  | error fault =>
      rw [isSelection] at tracked
      contradiction
  | ok selection =>
      rw [isSelection] at tracked
      dsimp only
      have isOnly := Option.some.inj tracked
      dsimp only at isOnly
      rw [isOnly, List.mergeSort_singleton]

/-- The generator of the project, with an empty registry. -/
def generator : Generator :=
  ⟨project.options, .empty project.options.registryPath, DefaultTemplate.template⟩

private theorem isLoaded : generatorIn project world = .ok generator := by
  unfold generatorIn
  rw [Generator.load_of_absent (by decide) textsIn.2]
  rfl

end Command.Unreadable

namespace Command

/-- Making the only page of the project fails because its source cannot be read. -/
theorem exitCode_of_unreadable_button :
    let result :=
      ((generateAll [] Unreadable.project false : StateM World CommandResult) Unreadable.world).1
    result.code = 1 ∧
      result.Blames Unreadable.root Unreadable.source
        (.sourceUnreadable Unreadable.source .notText) :=
  ((exitCode_of_unreadable Unreadable.areFiles [] false .text).2 Unreadable.generator
    Unreadable.isLoaded).1 [] Unreadable.source [] .notText rfl Unreadable.textsIn.1

/-- With a source that cannot be read, comparing and making outdated pages can end with the
code 0. -/
theorem exists_unreadable_code_zero :
    ∃ (project : Project) (world : World) (files : List Path) (path : Path) (fault : FileFault),
      sourcesIn project world = .ok files ∧ path ∈ files ∧
      Storage.textIn world path = .error fault ∧
      ((compareSources [] project .text : StateM World CommandResult) world).1.code = 0 ∧
      ((generateOutdated [] project false : StateM World CommandResult) world).1.code = 0 := by
  refine ⟨Unreadable.project, Unreadable.world, [Unreadable.source], Unreadable.source, .notText,
    Unreadable.areFiles, List.mem_singleton.mpr rfl, Unreadable.textsIn.1, ?_, ?_⟩
  · rw [run_compareSources Unreadable.areFiles Unreadable.isLoaded]
    decide +kernel
  · rw [run_generateOutdated Unreadable.areFiles Unreadable.isLoaded]
    decide +kernel

end Command

end ComponentPages
