import ComponentPages.Proofs.Generator.Running

namespace ComponentPages

/-!
# The deeds of a generator

What a generator does to its registry, its pages and its store is put down as a list of deeds, next
to the operations themselves. A session is a generator in a world together with the deeds so far,
and it handles one request after another. Sources are read from the world in any way that leaves it
as it is, so that they may change between any two requests.
-/

/-- One thing that a generator did, or that happened to its store. -/
inductive Deed where
  /-- A snapshot was recorded in the registry. -/
  | recorded (snapshot : Snapshot)
  /-- The page of a snapshot was written and marked. -/
  | written (snapshot : Snapshot)
  /-- The registry was saved. -/
  | saved
  /-- The registry was loaded from its store. -/
  | reopened
  /-- Something else than saving has put other entries into the store. -/
  | disturbed (entries : Keyed Entry)

namespace Generator

/-- The entries that are loaded from a store. -/
def storedEntries (path : Path) (world : World) : Keyed Entry :=
  match (Registry.load path : StateM World (Except Error Registry)) world with
  | (.ok registry, _) => registry.entries
  | (.error _, _) => .empty

/-- What happened to a store between two worlds without saving. -/
def disturbance (path : Path) (before after : World) : List Deed :=
  if after.disk.read path = before.disk.read path then
    []
  else
    [.disturbed (storedEntries path after)]

/-- The deeds of saving a registry. -/
def savingDeeds (registry : Registry) (world : World) : List Deed :=
  match (registry.save : StateM World (Except FileFault Unit)) world with
  | (.ok (), _) => [.saved]
  | (.error _, after) => disturbance registry.path world after

/-- The deeds of making the page of a snapshot and its source. -/
def documentDeeds
    (now : Text)
    (generator : Generator)
    (snapshot : Snapshot)
    (source : Text)
    (world : World) : List Deed :=
  let recorded := generator.record now snapshot
  match
    (recorded.writePage snapshot.identity (recorded.pageOf now snapshot source) :
      StateM World (Except FileFault Unit)) world
  with
  | (.error _, after) =>
      .recorded snapshot :: disturbance generator.registry.path world after
  | (.ok (), after) =>
      .recorded snapshot :: disturbance generator.registry.path world after ++
        .written snapshot :: savingDeeds (recorded.mark now snapshot).registry after

/-- The deeds of generating for a source; none if it has no snapshot. -/
def sourceDeeds
    (now : Text)
    (generator : Generator)
    (source : Text)
    (path : Path)
    (world : World) : List Deed :=
  match Snapshot.ofSource? now source path with
  | none => []
  | some snapshot => generator.documentDeeds now snapshot source world

/-- The deeds of generating for a file; none if it is not read. -/
def fileDeeds
    (now : Text)
    (view : World → Path → Except FileFault Text)
    (generator : Generator)
    (path : Path)
    (world : World) : List Deed :=
  match view world path with
  | .error _ => []
  | .ok source => generator.sourceDeeds now source path world

/-- The deeds of making the pages of paths in order. -/
def eachDeeds
    (now : Text)
    (view : World → Path → Except FileFault Text)
    (generator : Generator) :
    List Path → World → List Deed
  | [], _ => []
  | path :: later, world =>
      let outcome :=
        (generator.generateFile now (.ofView view) path :
          StateM World (Generator × Except Error (Option Written))) world
      generator.fileDeeds now view path world ++
        eachDeeds now view outcome.1.1 later outcome.2

/-- The deeds of recording snapshots of paths. -/
def refreshDeeds
    (now : Text)
    (view : World → Path → Except FileFault Text)
    (generator : Generator)
    (paths : List Path)
    (world : World) : List Deed :=
  let snapshots := snapshotsIn now view world paths
  if snapshots.isEmpty then
    []
  else
    snapshots.map .recorded ++
      savingDeeds (generator.registry.upsertAll now snapshots) world

end Generator

/-! ## Sessions -/

/-- What a session is asked to do, or what happens to its world in between. -/
inductive Request where
  | generate (now source : Text) (path : Path)
  | generateFile (now : Text) (view : World → Path → Except FileFault Text) (path : Path)
  | generateAll (now : Text) (view : World → Path → Except FileFault Text) (paths : List Path)
  | generateOutdated (now : Text) (view : World → Path → Except FileFault Text)
  | refresh (now : Text) (view : World → Path → Except FileFault Text) (paths : List Path)
  /-- Load the generator again with the same options. -/
  | reopen
  /-- The world becomes another one. -/
  | elsewhere (world : World)

/-- A generator in a world, and the deeds so far. -/
structure Session where
  generator : Generator
  world : World
  deeds : List Deed

namespace Session

/-- The session after a request. -/
def handle (session : Session) : Request → Session
  | .generate now source path =>
      let outcome :=
        (session.generator.generate now source path :
          StateM World (Generator × Except Error (Option Written))) session.world
      ⟨outcome.1.1, outcome.2,
        session.deeds ++ session.generator.sourceDeeds now source path session.world⟩
  | .generateFile now view path =>
      let outcome :=
        (session.generator.generateFile now (.ofView view) path :
          StateM World (Generator × Except Error (Option Written))) session.world
      ⟨outcome.1.1, outcome.2,
        session.deeds ++ session.generator.fileDeeds now view path session.world⟩
  | .generateAll now view paths =>
      let outcome :=
        (session.generator.generateAll now (.ofView view) paths :
          StateM World (Generator × Batch)) session.world
      ⟨outcome.1.1, outcome.2,
        session.deeds ++ session.generator.eachDeeds now view paths session.world⟩
  | .generateOutdated now view =>
      let outcome :=
        (session.generator.generateOutdated now (.ofView view) :
          StateM World (Generator × Batch)) session.world
      ⟨outcome.1.1, outcome.2,
        session.deeds ++
          session.generator.eachDeeds now view session.generator.outdatedPaths session.world⟩
  | .refresh now view paths =>
      let outcome :=
        (session.generator.refresh now (.ofView view) paths :
          StateM World (Generator × Except Error (List Outcome))) session.world
      ⟨outcome.1.1, outcome.2,
        session.deeds ++ session.generator.refreshDeeds now view paths session.world⟩
  | .reopen =>
      match
        (Generator.load session.generator.options : StateM World (Except Error Generator))
          session.world
      with
      | (.ok generator, world) => ⟨generator, world, session.deeds ++ [.reopened]⟩
      | (.error _, world) => { session with world := world }
  | .elsewhere world =>
      ⟨session.generator, world,
        session.deeds ++
          Generator.disturbance session.generator.registry.path session.world world⟩

/-- The session after requests in order. -/
def run (session : Session) (requests : List Request) : Session :=
  requests.foldl handle session

end Session

end ComponentPages
