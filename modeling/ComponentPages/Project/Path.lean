import ComponentPages.Text.Basic

namespace ComponentPages

/-!
# Paths

A path is kept as it is written, because that is how it is shown. What it names is given by its
components: repeated separators and inner dots do not count, while a leading dot and every double
dot do.
-/

/-- A path as it is written. -/
structure Path where
  text : Text
  deriving Repr, DecidableEq

namespace Path

/-- One step of a path. -/
inductive Component where
  /-- The root of the file tree. -/
  | root
  /-- A dot in front. -/
  | here
  /-- A double dot. -/
  | up
  /-- A name. -/
  | name (text : Text)
  deriving Repr, DecidableEq

/-- The text of a component that is not the root. -/
def Component.text : Component → Text
  | .root => []
  | .here => ['.']
  | .up => ['.', '.']
  | .name text => text

/-- The name that a component gives, if it is one. -/
def Component.name? : Component → Option Text
  | .name text => some text
  | _ => none

def isSeparator (character : Char) : Bool :=
  character == '/'

/-- Whether the text between two separators counts as a component. -/
def counts (piece : Text) : Bool :=
  piece != [] && piece != ['.']

def ofPiece (piece : Text) : Component :=
  if piece = ['.', '.'] then .up else .name piece

def isAbsolute (path : Path) : Bool :=
  path.text.head? == some '/'

/-- The component that the start of the path gives on its own: the root or a dot in front. -/
def lead (path : Path) : List Component :=
  if path.isAbsolute then
    [.root]
  else if (Text.pieces isSeparator path.text).head? == some ['.'] then
    [.here]
  else
    []

def components (path : Path) : List Component :=
  path.lead ++ ((Text.pieces isSeparator path.text).filter counts).map ofPiece

/-- Whether two paths have the same components. -/
def isSame (path other : Path) : Bool :=
  path.components == other.components

def ofComponents : List Component → Path
  | .root :: rest => ⟨'/' :: Text.joinWith ['/'] (rest.map (·.text))⟩
  | components => ⟨Text.joinWith ['/'] (components.map (·.text))⟩

/-- The path behind this one; an absolute path stands for itself. -/
def join (base path : Path) : Path :=
  if path.isAbsolute || base.text.isEmpty then
    path
  else if base.text.getLast? == some '/' then
    ⟨base.text ++ path.text⟩
  else
    ⟨base.text ++ '/' :: path.text⟩

def file (directory : Path) (name : Text) : Path :=
  directory.join ⟨name⟩

/-- The directory that holds what the path names. -/
def parent? (path : Path) : Option Path :=
  match path.components.getLast? with
  | none => none
  | some .root => none
  | some _ => some (ofComponents path.components.dropLast)

/-- The last component, if it is a name. -/
def fileName? (path : Path) : Option Text :=
  path.components.getLast?.bind Component.name?

/-- A file name without its extension, and the extension, if there is one. -/
def splitExtension (name : Text) : Text × Option Text :=
  let extension := (name.reverse.takeWhile (· != '.')).reverse
  match name.reverse.dropWhile (· != '.') with
  | _ :: stem@(_ :: _) => (stem.reverse, some extension)
  | _ => (name, none)

def fileStem? (path : Path) : Option Text :=
  path.fileName?.map fun name => (splitExtension name).1

/-- The path with another extension, or with none if `extension` is empty. -/
def withExtension (path : Path) (extension : Text) : Path :=
  match path.fileStem? with
  | none => path
  | some stem =>
      let name := if extension.isEmpty then stem else stem ++ '.' :: extension
      (ofComponents path.components.dropLast).file name

/-! ## Relative paths -/

/-- The pieces that follow the first `number` of those that count. -/
def dropCounted : Nat → List Text → List Text
  | 0, pieces => pieces
  | _ + 1, [] => []
  | number + 1, piece :: rest =>
      if counts piece then dropCounted number rest else dropCounted (number + 1) rest

/-- Pieces without those at the end that do not count. -/
def dropLastUncounted (pieces : List Text) : List Text :=
  (pieces.reverse.dropWhile (!counts ·)).reverse

/--
The path as seen from a base, if its components start with those of the base. Inside, it stays as
it is written.
-/
def relativeTo? (path base : Path) : Option Path :=
  let pieces := Text.pieces isSeparator path.text
  let inner :=
    match path.lead with
    | [] => pieces
    | _ :: _ => pieces.drop 1
  let named := base.components.length - base.lead.length
  if !base.components.isPrefixOf path.components then
    none
  else if !base.components.isEmpty then
    some ⟨Text.joinWith ['/']
      (dropLastUncounted ((dropCounted named inner).dropWhile (!counts ·)))⟩
  else if (dropLastUncounted inner).isEmpty then
    some (ofComponents path.lead)
  else
    some ⟨Text.joinWith ['/']
      (pieces.take (pieces.length - inner.length) ++ dropLastUncounted inner)⟩

/-- The path as seen from a base, or the path itself if it does not lie below the base. -/
def relativeTo (path base : Path) : Path :=
  (path.relativeTo? base).getD path

/-- The path from the root, when relative paths start at a working directory; none if empty. -/
def absolute? (workingDirectory path : Path) : Option Path :=
  if path.text.isEmpty then
    none
  else
    let components := path.components.filter (· != .here)
    let start :=
      if !path.isAbsolute then
        workingDirectory
      else if ['/', '/'].isPrefixOf path.text && !(['/', '/', '/'].isPrefixOf path.text) then
        ⟨['/', '/']⟩
      else
        ⟨['/']⟩
    let whole := (components.filter (· != .root)).foldl
      (fun base component => base.file component.text) start
    if path.text.getLast? == some '/' then
      some (whole.file [])
    else
      some whole

/-! ## Order -/

/-- The place of a component among components of other forms. -/
def Component.rank : Component → Nat
  | .root => 0
  | .here => 1
  | .up => 2
  | .name _ => 3

/-- Whether a component comes before another: by form, then by name. -/
def Component.precedes (component other : Component) : Bool :=
  component.rank < other.rank ||
    (component.rank == other.rank && component.text < other.text)

/-- Whether a list of components comes before another or is the same. -/
def componentsPrecede : List Component → List Component → Bool
  | [], _ => true
  | _ :: _, [] => false
  | component :: rest, other :: others =>
      component.precedes other || (component == other && componentsPrecede rest others)

/-- Whether a path comes before another, or names the same: component by component. -/
def precedes (path other : Path) : Bool :=
  componentsPrecede path.components other.components

end Path

end ComponentPages
