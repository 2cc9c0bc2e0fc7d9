import ComponentPages.Generator.Batch
import ComponentPages.Proofs.Registry.Store

namespace ComponentPages

/-!
# A generator in a world

The operations of a generator step by step in a world, with sources that are looked up in it. A
source may be any function of the world as it is when the source is read, so that sources can change
whenever the world does.
-/

/-- The reader of sources that looks them up in the world. -/
def SourceReader.ofView (view : World → Path → Except FileFault Text) :
    SourceReader (StateM World) :=
  fun path world => (view world path, world)

namespace Storage

/-- The text of a file in a world. -/
def textIn (world : World) (path : Path) : Except FileFault Text :=
  (world.disk.read path).bind fun bytes =>
    match Utf8.decode? bytes with
    | some text => .ok text
    | none => .error .notText

/-- Reading the text of a file leaves the world as it is. -/
theorem run_readText
    (path : Path)
    (world : World) :
    (readText path : StateM World (Except FileFault Text)) world = (textIn world path, world) := by
  have isRead :
      (read path : StateM World (Except FileFault Bytes)) world = (world.disk.read path, world) :=
    rfl
  rw [readText, World.run_bind, isRead, textIn]
  cases world.disk.read path with
  | error fault =>
      rfl
  | ok bytes =>
      dsimp only
      cases decoded : Utf8.decode? bytes <;> simp [Except.bind, decoded, World.run_pure]

/-- Files are sources that are looked up in the world. -/
theorem readText_eq_ofView :
    (readText : SourceReader (StateM World)) = SourceReader.ofView textIn := by
  funext path world
  exact run_readText path world

end Storage

/-- Sources in memory are looked up in no world at all. -/
theorem SourceReader.ofMemory_eq_ofView (sources : List (Text × Text)) :
    (ofMemory sources : SourceReader (StateM World)) =
      .ofView fun _ path =>
        match sources.find? (·.1 == path.text) with
        | some (_, source) => .ok source
        | none => .error .notInMemory := by
  funext path world
  simp only [ofMemory, ofView]
  cases sources.find? (·.1 == path.text) <;> rfl

/-- Loading a template leaves the world as it is. -/
theorem Template.run_load
    (directory : Path)
    (name default : Text)
    (world : World) :
    ((load directory name default : StateM World (Except Error Text)) world).2 = world := by
  rw [load, World.run_bind, Storage.run_readText]
  cases Storage.textIn world (directory.file (name ++ ".md".toList)) with
  | ok text =>
      rfl
  | error fault =>
      cases fault <;> rfl

namespace Generator

variable {world after : World}

/-! ## Loading -/

/-- Loading a generator leaves the world as it is. -/
theorem run_load_world
    (options : Options)
    (world : World) :
    ((load options : StateM World (Except Error Generator)) world).2 = world := by
  rw [load, World.run_bind]
  have unchanged := Registry.run_load_world options.registryPath world
  rcases isRead :
      (Registry.load options.registryPath : StateM World (Except Error Registry)) world with
    ⟨_ | registry, between⟩
  · rw [isRead] at unchanged
    exact unchanged
  · rw [isRead] at unchanged
    obtain rfl : between = world := unchanged
    dsimp only
    rw [World.run_bind]
    have stillUnchanged := Template.run_load options.templatesDirectory options.templateName
      DefaultTemplate.template between
    rcases isTemplate :
        (Template.load options.templatesDirectory options.templateName DefaultTemplate.template :
          StateM World (Except Error Text)) between with ⟨_ | _, last⟩
    · rw [isTemplate] at stillUnchanged
      exact stillUnchanged
    · rw [isTemplate] at stillUnchanged
      exact stillUnchanged

/-- A generator that is loaded has the registry of the store. -/
theorem of_load_ok
    {options : Options}
    {generator : Generator}
    (loaded :
      (load options : StateM World (Except Error Generator)) world = (.ok generator, after)) :
    after = world ∧ generator.options = options ∧
      (Registry.load options.registryPath : StateM World (Except Error Registry)) world =
        (.ok generator.registry, world) := by
  have sameWorld : after = world := by
    rw [← run_load_world options world, loaded]
  refine ⟨sameWorld, ?_⟩
  rw [load, World.run_bind] at loaded
  have unchanged := Registry.run_load_world options.registryPath world
  rcases isRead :
      (Registry.load options.registryPath : StateM World (Except Error Registry)) world with
    ⟨_ | registry, between⟩
  · rw [isRead] at loaded
    cases loaded
  · rw [isRead] at loaded unchanged
    obtain rfl : between = world := unchanged
    dsimp only at loaded
    rw [World.run_bind] at loaded
    rcases isTemplate :
        (Template.load options.templatesDirectory options.templateName DefaultTemplate.template :
          StateM World (Except Error Text)) between with ⟨_ | template, last⟩
    · rw [isTemplate] at loaded
      cases loaded
    · rw [isTemplate] at loaded
      obtain rfl := Except.ok.inj (Prod.mk.inj loaded).1
      exact ⟨rfl, rfl⟩

/-- Without a store and a template there are no entries, and the default template is used. -/
theorem load_of_absent
    {options : Options}
    (noStore : world.disk.read options.registryPath = .error .notFound)
    (noTemplate :
      Storage.textIn world
        (options.templatesDirectory.file (options.templateName ++ ".md".toList)) =
          .error .notFound) :
    (load options : StateM World (Except Error Generator)) world =
      (.ok ⟨options, .empty options.registryPath, DefaultTemplate.template⟩, world) := by
  rw [load, World.run_bind, Registry.run_load, noStore]
  dsimp only
  rw [World.run_bind, Template.load, World.run_bind, Storage.run_readText, noTemplate]
  rfl

/-! ## Pages -/

/-- A page is not written where the directory is not made; else it is written at its path. -/
theorem write_of_writePage
    {generator : Generator}
    {identity page : Text}
    {result : Except FileFault Unit}
    (written :
      (generator.writePage identity page : StateM World (Except FileFault Unit)) world =
        (result, after)) :
    (∃ fault,
      result = .error fault ∧
        (Storage.makeDirectories generator.options.outputDirectory :
          StateM World (Except FileFault Unit)) world = (.error fault, after)) ∨
      ∃ prepared,
        (Storage.makeDirectories generator.options.outputDirectory :
          StateM World (Except FileFault Unit)) world = (.ok (), prepared) ∧
          (Storage.write (generator.options.pagePath identity) (Utf8.encode page) :
            StateM World (Except FileFault Unit)) prepared = (result, after) := by
  rw [writePage, World.run_bind] at written
  rcases isMade :
      (Storage.makeDirectories generator.options.outputDirectory :
        StateM World (Except FileFault Unit)) world with ⟨fault | _, prepared⟩
  · rw [isMade] at written
    obtain ⟨rfl, rfl⟩ := Prod.mk.inj written
    exact .inl ⟨fault, rfl, rfl⟩
  · rw [isMade] at written
    exact .inr ⟨prepared, rfl, written⟩

/-- A page that was written has its directory, and was written at its path. -/
theorem write_of_writePage_ok
    {generator : Generator}
    {identity page : Text}
    (written :
      (generator.writePage identity page : StateM World (Except FileFault Unit)) world =
        (.ok (), after)) :
    ∃ prepared,
      (Storage.makeDirectories generator.options.outputDirectory :
        StateM World (Except FileFault Unit)) world = (.ok (), prepared) ∧
        (Storage.write (generator.options.pagePath identity) (Utf8.encode page) :
          StateM World (Except FileFault Unit)) prepared = (.ok (), after) := by
  obtain ⟨_, ⟨⟩, _⟩ | isWritten := write_of_writePage written
  exact isWritten

/-- Putting a page in its place keeps the directories. -/
theorem keeps_of_writePage
    {generator : Generator}
    {identity page : Text}
    {result : Except FileFault Unit}
    (written :
      (generator.writePage identity page : StateM World (Except FileFault Unit)) world =
        (result, after)) :
    world.disk.Keeps after.disk := by
  obtain ⟨fault, -, notMade⟩ | ⟨prepared, isMade, isWritten⟩ := write_of_writePage written
  · exact World.keeps_of_makeDirectories notMade
  · exact (World.keeps_of_makeDirectories isMade).trans (World.keeps_of_write isWritten)

/-- The ways in which making the page of a snapshot can go. -/
inductive Documenting
    (now : Text)
    (generator : Generator)
    (snapshot : Snapshot)
    (source : Text)
    (world : World) : Generator → Except Error Written → World → Prop where
  /-- The page is not written. -/
  | unwritten
      {fault : FileFault}
      {after : World}
      (isWritten :
        ((generator.record now snapshot).writePage snapshot.identity
          ((generator.record now snapshot).pageOf now snapshot source) :
            StateM World (Except FileFault Unit)) world = (.error fault, after)) :
      Documenting now generator snapshot source world
        (generator.record now snapshot) (.error (.files fault)) after
  /-- The page is written, but the registry is not saved. -/
  | unsaved
      {fault : FileFault}
      {written after : World}
      (isWritten :
        ((generator.record now snapshot).writePage snapshot.identity
          ((generator.record now snapshot).pageOf now snapshot source) :
            StateM World (Except FileFault Unit)) world = (.ok (), written))
      (isSaved :
        (((generator.record now snapshot).mark now snapshot).registry.save :
          StateM World (Except FileFault Unit)) written = (.error fault, after)) :
      Documenting now generator snapshot source world
        ((generator.record now snapshot).mark now snapshot) (.error (.files fault)) after
  /-- The page is written and the registry is saved. -/
  | complete
      {written after : World}
      (isWritten :
        ((generator.record now snapshot).writePage snapshot.identity
          ((generator.record now snapshot).pageOf now snapshot source) :
            StateM World (Except FileFault Unit)) world = (.ok (), written))
      (isSaved :
        (((generator.record now snapshot).mark now snapshot).registry.save :
          StateM World (Except FileFault Unit)) written = (.ok (), after)) :
      Documenting now generator snapshot source world
        ((generator.record now snapshot).mark now snapshot)
        (.ok ⟨snapshot.identity, generator.options.pagePath snapshot.identity⟩) after

/-- Making the page of a snapshot goes in one of the ways. -/
theorem documenting_of_document
    {now source : Text}
    {generator made : Generator}
    {snapshot : Snapshot}
    {result : Except Error Written}
    (documented :
      (generator.document now snapshot source :
        StateM World (Generator × Except Error Written)) world = ((made, result), after)) :
    generator.Documenting now snapshot source world made result after := by
  rw [document, World.run_bind] at documented
  rcases isWritten :
      ((generator.record now snapshot).writePage snapshot.identity
        ((generator.record now snapshot).pageOf now snapshot source) :
          StateM World (Except FileFault Unit)) world with ⟨_ | _, written⟩
  · rw [isWritten] at documented
    obtain ⟨isMade, rfl⟩ := Prod.mk.inj documented
    obtain ⟨rfl, rfl⟩ := Prod.mk.inj isMade
    exact .unwritten isWritten
  · rw [isWritten] at documented
    dsimp only at documented
    rw [World.run_bind] at documented
    rcases isSaved :
        (((generator.record now snapshot).mark now snapshot).registry.save :
          StateM World (Except FileFault Unit)) written with ⟨_ | _, saved⟩
    · rw [isSaved] at documented
      obtain ⟨isMade, rfl⟩ := Prod.mk.inj documented
      obtain ⟨rfl, rfl⟩ := Prod.mk.inj isMade
      exact .unsaved isWritten isSaved
    · rw [isSaved] at documented
      obtain ⟨isMade, rfl⟩ := Prod.mk.inj documented
      obtain ⟨rfl, rfl⟩ := Prod.mk.inj isMade
      exact .complete isWritten isSaved

/-- Generating documents the snapshot of a source; without one nothing is done. -/
theorem run_generate
    (now : Text)
    (generator : Generator)
    (source : Text)
    (path : Path)
    (world : World) :
    (generator.generate now source path :
        StateM World (Generator × Except Error (Option Written))) world =
      match Snapshot.ofSource? now source path with
      | none => ((generator, .ok none), world)
      | some snapshot =>
          let outcome :=
            (generator.document now snapshot source :
              StateM World (Generator × Except Error Written)) world
          ((outcome.1.1, outcome.1.2.map some), outcome.2) := by
  unfold generate
  cases Snapshot.ofSource? now source path <;> rfl

/-- Making the page of a source makes the page of its snapshot. -/
theorem documenting_of_generate
    {now source : Text}
    {path : Path}
    {generator made : Generator}
    {snapshot : Snapshot}
    {result : Except Error (Option Written)}
    (isSnapshot : Snapshot.ofSource? now source path = some snapshot)
    (generated :
      (generator.generate now source path :
        StateM World (Generator × Except Error (Option Written))) world =
          ((made, result), after)) :
    ∃ documented,
      result = documented.map some ∧
        generator.Documenting now snapshot source world made documented after := by
  rw [run_generate, isSnapshot] at generated
  obtain ⟨isMade, rfl⟩ := Prod.mk.inj generated
  obtain ⟨rfl, rfl⟩ := Prod.mk.inj isMade
  exact ⟨_, rfl, documenting_of_document rfl⟩

/-- Generating for a file reads the file and generates for its source. -/
theorem run_generateFile
    (now : Text)
    (view : World → Path → Except FileFault Text)
    (generator : Generator)
    (path : Path)
    (world : World) :
    (generator.generateFile now (.ofView view) path :
        StateM World (Generator × Except Error (Option Written))) world =
      match view world path with
      | .error fault => ((generator, .error (.sourceUnreadable path fault)), world)
      | .ok source =>
          (generator.generate now source path :
            StateM World (Generator × Except Error (Option Written))) world := by
  have isRead :
      (sourceAt (.ofView view) path : StateM World (Except Error Text)) world =
        ((view world path).mapError (.sourceUnreadable path), world) :=
    rfl
  rw [generateFile, World.run_bind, isRead]
  cases view world path <;> rfl

/-! ## Batches -/

/-- Making the pages of paths step by step. -/
theorem run_generateEach_cons
    (now : Text)
    (reader : SourceReader (StateM World))
    (generator : Generator)
    (path : Path)
    (later : List Path)
    (world : World) :
    (generator.generateEach now reader (path :: later) :
        StateM World (Generator × List Outcome)) world =
      let first :=
        (generator.generateFile now reader path :
          StateM World (Generator × Except Error (Option Written))) world
      let others :=
        (first.1.1.generateEach now reader later :
          StateM World (Generator × List Outcome)) first.2
      ((others.1.1, .ofResult path first.1.2 :: others.1.2), others.2) :=
  rfl

/-- The pages of paths are those of the first one and, from there on, those of the others. -/
theorem of_generateEach_cons
    {now : Text}
    {reader : SourceReader (StateM World)}
    {generator made : Generator}
    {path : Path}
    {later : List Path}
    {outcomes : List Outcome}
    (generated :
      (generator.generateEach now reader (path :: later) :
        StateM World (Generator × List Outcome)) world = ((made, outcomes), after)) :
    ∃ between result next others,
      (generator.generateFile now reader path :
        StateM World (Generator × Except Error (Option Written))) world =
          ((between, result), next) ∧
      (between.generateEach now reader later :
        StateM World (Generator × List Outcome)) next = ((made, others), after) ∧
      outcomes = .ofResult path result :: others := by
  rw [run_generateEach_cons] at generated
  obtain ⟨isMade, rfl⟩ := Prod.mk.inj generated
  obtain ⟨rfl, rfl⟩ := Prod.mk.inj isMade
  exact ⟨_, _, _, _, rfl, rfl, rfl⟩

/-- A batch makes the pages of its paths and keeps their outcomes. -/
theorem of_generateAll
    {now : Text}
    {reader : SourceReader (StateM World)}
    {generator made : Generator}
    {paths : List Path}
    {batch : Batch}
    (generated :
      (generator.generateAll now reader paths : StateM World (Generator × Batch)) world =
        ((made, batch), after)) :
    (generator.generateEach now reader paths :
      StateM World (Generator × List Outcome)) world = ((made, batch.outcomes), after) := by
  obtain ⟨isMade, isAfter⟩ := Prod.mk.inj generated
  obtain ⟨isFinal, rfl⟩ := Prod.mk.inj isMade
  exact Prod.ext (Prod.ext isFinal rfl) isAfter

/-- The snapshot of one path, or the outcome if there is none. -/
def snapshotIn
    (now : Text)
    (view : World → Path → Except FileFault Text)
    (world : World)
    (path : Path) : Except Outcome Snapshot :=
  match view world path with
  | .error fault => .error (.failed path (.sourceUnreadable path fault))
  | .ok source =>
      match Snapshot.ofSource? now source path with
      | none => .error (.skipped path)
      | some snapshot => .ok snapshot

/-- A path has a snapshot if its source can be read and has an identity. -/
theorem snapshotIn_eq_ok
    {now : Text}
    {view : World → Path → Except FileFault Text}
    {path : Path}
    {snapshot : Snapshot} :
    snapshotIn now view world path = .ok snapshot ↔
      ∃ source,
        view world path = .ok source ∧ Snapshot.ofSource? now source path = some snapshot := by
  unfold snapshotIn
  cases isRead : view world path with
  | error fault =>
      simp
  | ok source =>
      cases isSnapshot : Snapshot.ofSource? now source path <;> simp [isSnapshot]

/-- The snapshots of the paths that have one. -/
def snapshotsIn
    (now : Text)
    (view : World → Path → Except FileFault Text)
    (world : World)
    (paths : List Path) : List Snapshot :=
  paths.filterMap fun path => (snapshotIn now view world path).toOption

/-- A snapshot of paths is one of a source that is read at one of them. -/
theorem mem_snapshotsIn
    {now : Text}
    {view : World → Path → Except FileFault Text}
    {paths : List Path}
    {snapshot : Snapshot} :
    snapshot ∈ snapshotsIn now view world paths ↔
      ∃ path ∈ paths, ∃ source,
        view world path = .ok source ∧ Snapshot.ofSource? now source path = some snapshot := by
  rw [snapshotsIn, List.mem_filterMap]
  refine exists_congr fun path => and_congr_right fun _ => ?_
  rw [← snapshotIn_eq_ok]
  cases snapshotIn now view world path <;> simp [Except.toOption]

/-- The snapshots of one path are the one of its source, if there is one. -/
theorem mem_snapshotsIn_singleton
    {now : Text}
    {view : World → Path → Except FileFault Text}
    {path : Path}
    {snapshot : Snapshot} :
    snapshot ∈ snapshotsIn now view world [path] ↔
      snapshotIn now view world path = .ok snapshot := by
  simp [mem_snapshotsIn, snapshotIn_eq_ok]

/-- The outcomes of the paths whose sources have no snapshot. -/
def problemsIn
    (now : Text)
    (view : World → Path → Except FileFault Text)
    (world : World)
    (paths : List Path) : List Outcome :=
  paths.filterMap fun path =>
    match snapshotIn now view world path with
    | .ok _ => none
    | .error problem => some problem

private theorem run_snapshotAt
    (now : Text)
    (view : World → Path → Except FileFault Text)
    (path : Path)
    (world : World) :
    (snapshotAt now (.ofView view) path : StateM World (Except Outcome Snapshot)) world =
      (snapshotIn now view world path, world) := by
  have isRead :
      (sourceAt (.ofView view) path : StateM World (Except Error Text)) world =
        ((view world path).mapError (.sourceUnreadable path), world) :=
    rfl
  rw [snapshotAt, World.run_bind, isRead, snapshotIn]
  cases view world path with
  | error fault =>
      rfl
  | ok source =>
      change (match Snapshot.ofSource? now source path with
        | none => pure (.error (.skipped path))
        | some snapshot => pure (.ok snapshot) : StateM World (Except Outcome Snapshot)) world = _
      dsimp only
      cases Snapshot.ofSource? now source path <;> rfl

/-- Reading sources for their snapshots leaves the world as it is. -/
theorem run_snapshotsOf
    (now : Text)
    (view : World → Path → Except FileFault Text)
    (paths : List Path)
    (world : World) :
    (snapshotsOf now (.ofView view) paths :
        StateM World (List Snapshot × List Outcome)) world =
      ((snapshotsIn now view world paths, problemsIn now view world paths), world) := by
  induction paths with
  | nil =>
      rfl
  | cons path later inductionHypothesis =>
      rw [snapshotsOf, World.run_bind, run_snapshotAt, World.run_bind, inductionHypothesis]
      dsimp only
      cases isSnapshot : snapshotIn now view world path <;>
        simp [World.run_pure, snapshotsIn, problemsIn, isSnapshot, Except.toOption]

/-- Recording snapshots of paths step by step. -/
theorem run_refresh
    (now : Text)
    (view : World → Path → Except FileFault Text)
    (generator : Generator)
    (paths : List Path)
    (world : World) :
    (generator.refresh now (.ofView view) paths :
        StateM World (Generator × Except Error (List Outcome))) world =
      let snapshots := snapshotsIn now view world paths
      let recorded :=
        { generator with registry := generator.registry.upsertAll now snapshots }
      if snapshots.isEmpty then
        ((recorded, .ok (problemsIn now view world paths)), world)
      else
        match (recorded.registry.save : StateM World (Except FileFault Unit)) world with
        | (.error fault, saved) => ((recorded, .error (.files fault)), saved)
        | (.ok (), saved) => ((recorded, .ok (problemsIn now view world paths)), saved) := by
  rw [refresh, World.run_bind, run_snapshotsOf]
  dsimp only
  split
  · rfl
  · rw [World.run_bind]
    rcases ((generator.registry.upsertAll now (snapshotsIn now view world paths)).save :
        StateM World (Except FileFault Unit)) world with ⟨_ | _, saved⟩ <;> rfl

/-- Comparing paths leaves the world as it is. -/
theorem run_compareFiles
    (now : Text)
    (view : World → Path → Except FileFault Text)
    (generator : Generator)
    (paths : List Path)
    (world : World) :
    (generator.compareFiles now (.ofView view) paths : StateM World Report) world =
      (⟨(snapshotsIn now view world paths).map generator.registry.compare,
        problemsIn now view world paths⟩, world) := by
  rw [compareFiles, World.run_bind, run_snapshotsOf]
  rfl

end Generator

end ComponentPages
