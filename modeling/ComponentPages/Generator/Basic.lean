import ComponentPages.Generator.Options
import ComponentPages.Page.DefaultTemplate
import ComponentPages.Registry.Store
import ComponentPages.Template.Render

namespace ComponentPages

/-!
# Generators

A generator writes one page for each component and keeps the registry in step with the pages.
Making a page records the snapshot, writes the page, marks the component as documented and stores
the registry, in this order. A step that fails ends the work, and what was recorded before it
stays in the registry that the generator holds.
-/

/-- What makes pages: its options, its registry and the template of its pages. -/
structure Generator where
  options : Options
  registry : Registry
  template : Text
  deriving DecidableEq

/-- A way to read sources. -/
abbrev SourceReader (m : Type → Type) :=
  Path → m (Except FileFault Text)

/-- A page that was written. -/
structure Written where
  identity : Text
  page : Path
  deriving Repr, DecidableEq

namespace Template

variable {m : Type → Type} [Monad m] [Storage m]

/-- The template of a name in a directory, or the default if there is none. -/
def load (directory : Path) (name default : Text) : m (Except Error Text) := do
  match ← Storage.readText (directory.file (name ++ ".md".toList)) with
  | .ok text => return .ok text
  | .error .notFound => return .ok default
  | .error fault => return .error (.templateUnreadable name fault)

end Template

namespace SourceReader

/-- The reader of sources that are kept in memory under their paths. -/
def ofMemory {m : Type → Type} [Monad m] (sources : List (Text × Text)) : SourceReader m :=
  fun path =>
    match sources.find? (·.1 == path.text) with
    | some (_, source) => return .ok source
    | none => return .error .notInMemory

end SourceReader

namespace Generator

variable {m : Type → Type} [Monad m] [Storage m]

/-- The generator that options describe. -/
def load (options : Options) : m (Except Error Generator) := do
  match ← Registry.load options.registryPath with
  | .error error => return .error error
  | .ok registry =>
      match ← Template.load options.templatesDirectory options.templateName
          DefaultTemplate.template with
      | .error error => return .error error
      | .ok template => return .ok ⟨options, registry, template⟩

/-- What a source declares; nothing if its delimiters do not match up. -/
def extractionOf (source : Text) : Extraction :=
  match Extraction.ofSource source with
  | .ok extraction => extraction
  | .error _ => {}

/-- The generator with a snapshot recorded. -/
def record (now : Text) (generator : Generator) (snapshot : Snapshot) : Generator :=
  { generator with registry := (generator.registry.upsert now snapshot).1 }

def pageOf (now : Text) (generator : Generator) (snapshot : Snapshot) (source : Text) : Text :=
  Template.render generator.template
    (Page.contextOf now snapshot (extractionOf source)
      (generator.registry.entry? snapshot.identity) generator.options.extension)

/-- The generator with a component marked as documented. -/
def mark (now : Text) (generator : Generator) (snapshot : Snapshot) : Generator :=
  { generator with
    registry :=
      (generator.registry.markDocumented? now snapshot.identity snapshot.version).getD
        generator.registry }

def writePage (generator : Generator) (identity page : Text) : m (Except FileFault Unit) := do
  match ← Storage.makeDirectories generator.options.outputDirectory with
  | .error fault => return .error fault
  | .ok () => Storage.write (generator.options.pagePath identity) (Utf8.encode page)

/-- Make the page of a snapshot and its source. -/
def document (now : Text) (generator : Generator) (snapshot : Snapshot) (source : Text) :
    m (Generator × Except Error Written) := do
  let recorded := generator.record now snapshot
  match ← recorded.writePage snapshot.identity (recorded.pageOf now snapshot source) with
  | .error fault => return (recorded, .error (.files fault))
  | .ok () =>
      let marked := recorded.mark now snapshot
      match ← marked.registry.save with
      | .error fault => return (marked, .error (.files fault))
      | .ok () =>
          return (marked, .ok ⟨snapshot.identity, generator.options.pagePath snapshot.identity⟩)

/-- Make the page of a source; none if the component has no identity. -/
def generate (now : Text) (generator : Generator) (source : Text) (path : Path) :
    m (Generator × Except Error (Option Written)) := do
  match Snapshot.ofSource? now source path with
  | none => return (generator, .ok none)
  | some snapshot =>
      let (after, written) ← generator.document now snapshot source
      return (after, written.map some)

def sourceAt (reader : SourceReader m) (path : Path) : m (Except Error Text) := do
  return (← reader path).mapError (.sourceUnreadable path)

/-- Make the page of the source at a path; none if the component has no identity. -/
def generateFile (now : Text) (reader : SourceReader m) (generator : Generator) (path : Path) :
    m (Generator × Except Error (Option Written)) := do
  match ← sourceAt reader path with
  | .error error => return (generator, .error error)
  | .ok source => generator.generate now source path

end Generator

end ComponentPages
