import ComponentPages.Toml.Token

namespace ComponentPages

/-!
# Reading TOML

A document is put together token by token. Fields go into the table of the last header. The lists
and tables in brackets and braces that are still open form a stack, and a stage says which token
may come next.
-/

namespace TomlTable

/-- A dotted key that is being read: its parts in reverse, and whether another has to follow. -/
structure KeyPath where
  parts : List Text
  unfinished : Bool
  deriving Repr, DecidableEq

namespace KeyPath

def start : KeyPath := ⟨[], true⟩

/-- Whether a text is a key that needs no quotes. -/
def isBare (part : Text) : Bool :=
  part.all fun character => character.isAlphanum || character == '_' || character == '-'

def addPart? (path : KeyPath) (part : Text) : Option KeyPath :=
  if path.unfinished then some ⟨part :: path.parts, false⟩ else none

def addDot? (path : KeyPath) : Option KeyPath :=
  if path.unfinished then none else some { path with unfinished := true }

/-- The text between two dots of a word, which is empty where the word starts or ends. -/
def addBare? (path : KeyPath) (part : Text) : Option KeyPath :=
  if part.isEmpty then some path else if isBare part then path.addPart? part else none

/-- The parts of a word with dots between them. -/
def addAll? (path : KeyPath) : List Text → Option KeyPath
  | [] => some path
  | [part] => path.addBare? part
  | part :: later => do addAll? (← (← path.addBare? part).addDot?) later

def add? (path : KeyPath) (token : TomlToken) : Option KeyPath :=
  match token with
  | .word written => path.addAll? (Text.pieces (· == '.') written)
  | .text content false => path.addPart? content
  | _ => none

/-- The way to a field and its key, once the key is complete. -/
def split? (path : KeyPath) : Option (List Text × Text) :=
  match path.parts with
  | [] => none
  | key :: earlier => if path.unfinished then none else some (earlier.reverse, key)

end KeyPath

/-- What is still open around a value. -/
inductive Opened where
  /-- A field of the current table that waits for its value. -/
  | pair (path : List Text) (key : Text)
  /-- A list, its items in reverse order. -/
  | list (items : List TomlValue)
  /-- A table in braces. -/
  | braces (table : TomlTable)
  /-- A table in braces with a field that waits for its value. -/
  | field (table : TomlTable) (path : List Text) (key : Text)
  deriving Repr

/-- What may come next. -/
inductive Stage where
  /-- A line of the document. -/
  | line
  /-- The end of a line. -/
  | lineEnd
  /-- The first token of a header behind its bracket. -/
  | headerStart
  /-- The key of a header. -/
  | header (ofList : Bool) (path : KeyPath)
  /-- The second bracket at the end of a header. -/
  | headerEnd (path : KeyPath)
  /-- The key of a field. -/
  | key (path : KeyPath)
  /-- A value. -/
  | value
  /-- An item of a list, or its end. -/
  | itemOrEnd
  /-- A comma behind an item, or the end of the list. -/
  | itemEnd
  /-- A field of a table in braces, or its end. -/
  | fieldOrEnd
  /-- A comma behind a field in braces, or the end of the table. -/
  | fieldEnd
  deriving Repr

/-- The header whose table is being filled. -/
structure Header where
  ofList : Bool
  path : List Text
  key : Text
  deriving Repr

/-- A document of which some tokens were read. -/
structure Assembly where
  /-- The document without the table that is being filled. -/
  root : TomlTable
  /-- The table that is being filled. -/
  current : TomlTable
  /-- Its header; none for the root itself. -/
  header : Option Header
  stack : List Opened
  stage : Stage
  deriving Repr

namespace Assembly

/-- The number of lists and tables that may be open inside each other. -/
def depthLimit : Nat := 80

def start : Assembly where
  root := ⟨.header, []⟩
  current := ⟨.header, []⟩
  header := none
  stack := []
  stage := .line

/-- A table put at the end of a list of tables, which is made if it is missing. -/
def append? (key : Text) (value : TomlValue) (table : TomlTable) : Option TomlTable :=
  match table.field? key with
  | none => some (table.put key (.list true [value]))
  | some (.list true items) => some (table.put key (.list true (items ++ [value])))
  | some _ => none

/-- The document with the table that was filled put in its place. -/
def finished? (assembly : Assembly) : Option TomlTable :=
  match assembly.header with
  | none => some assembly.current
  | some header =>
      let value := assembly.current.toValue
      changeAt? false
        (if header.ofList then append? header.key value
          else fun parent => some (parent.put header.key value))
        header.path assembly.root

/-- The table that a header starts to fill: what its tables inside have made of it so far. -/
def reopened? (root : TomlTable) (path : List Text) (key : Text) : Option TomlTable := do
  let parent ← parentAt? root path
  match parent.field? key with
  | none => return ⟨.header, []⟩
  | some (.table .implied fields) => return ⟨.header, fields⟩
  | some _ => none
where
  /-- The table at the end of a header's path; an empty one if it is missing. -/
  parentAt? : TomlTable → List Text → Option TomlTable
    | table, [] => some table
    | table, key :: path =>
        match table.field? key with
        | none => some ⟨.implied, []⟩
        | some (.table form fields) =>
            if isOpen false form then parentAt? ⟨form, fields⟩ path else none
        | some (.list true items) =>
            match items.getLast? with
            | some (.table form fields) => parentAt? ⟨form, fields⟩ path
            | _ => none
        | some _ => none

def open? (assembly : Assembly) (ofList : Bool) (path : List Text) (key : Text) :
    Option Assembly := do
  let current ← if ofList then some ⟨.header, []⟩ else reopened? assembly.root path key
  return { assembly with
    current := current
    header := some ⟨ofList, path, key⟩
    stage := .lineEnd }

/-- A complete value put where it belongs. -/
def deliver? (assembly : Assembly) (stack : List Opened) (value : TomlValue) : Option Assembly :=
  match stack with
  | .pair path key :: outer => do
      let current ← assembly.current.add? path key value
      return { assembly with current := current, stack := outer, stage := .lineEnd }
  | .list items :: outer =>
      some { assembly with stack := .list (value :: items) :: outer, stage := .itemEnd }
  | .field table path key :: outer => do
      let table ← table.add? path key value
      return { assembly with stack := .braces table :: outer, stage := .fieldEnd }
  | _ => none

/-- Something opened, unless too much is open already. -/
def push? (assembly : Assembly) (opened : Opened) (stage : Stage) : Option Assembly :=
  if assembly.stack.length ≤ depthLimit then
    some { assembly with stack := opened :: assembly.stack, stage := stage }
  else
    none

/-- The start of a value. -/
def value? (assembly : Assembly) (token : TomlToken) : Option Assembly :=
  match token with
  | .word written => do assembly.deliver? assembly.stack (← TomlValue.ofWord? written)
  | .text content _ => assembly.deliver? assembly.stack (.text content)
  | .openBracket _ => assembly.push? (.list []) .itemOrEnd
  | .openBrace => assembly.push? (.braces ⟨.inline, []⟩) .fieldOrEnd
  | _ => none

/-- The end of the innermost list or table in braces. -/
def end? (assembly : Assembly) (token : TomlToken) : Option Assembly :=
  match assembly.stack, token with
  | .list items :: outer, .closeBracket _ => assembly.deliver? outer (.list false items.reverse)
  | .braces table :: outer, .closeBrace => assembly.deliver? outer table.toValue
  | _, _ => none

def equals? (assembly : Assembly) (path : KeyPath) : Option Assembly := do
  let (way, key) ← path.split?
  match assembly.stack with
  | [] => return { assembly with stack := [.pair way key], stage := .value }
  | .braces table :: outer =>
      return { assembly with stack := .field table way key :: outer, stage := .value }
  | _ => none

/-- A token that belongs to a key, or the equals sign behind the key. -/
def key? (assembly : Assembly) (path : KeyPath) (token : TomlToken) : Option Assembly :=
  if token = .equals then
    assembly.equals? path
  else
    (path.add? token).map fun path => { assembly with stage := .key path }

def header? (assembly : Assembly) (ofList : Bool) (path : KeyPath) (token : TomlToken) :
    Option Assembly :=
  match token with
  | .closeBracket _ =>
      if ofList then
        some { assembly with stage := .headerEnd path }
      else do
        let (way, key) ← path.split?
        assembly.open? false way key
  | _ => (path.add? token).map fun path => { assembly with stage := .header ofList path }

def headerStart? (assembly : Assembly) (token : TomlToken) : Option Assembly :=
  if token = .openBracket true then
    some { assembly with stage := .header true .start }
  else
    assembly.header? false .start token

/-- The second bracket at the end of a header. -/
def headerEnd? (assembly : Assembly) (path : KeyPath) (token : TomlToken) : Option Assembly :=
  if token = .closeBracket true then do
    let (way, key) ← path.split?
    assembly.open? true way key
  else
    none

def line? (assembly : Assembly) (token : TomlToken) : Option Assembly :=
  match token with
  | .lineEnd => some assembly
  | .openBracket _ => do
      let root ← assembly.finished?
      return { assembly with root := root, stage := .headerStart }
  | _ => assembly.key? .start token

/-- A token between brackets or braces, where line breaks do not count. -/
def between? (assembly : Assembly) (token : TomlToken) (step? : Unit → Option Assembly) :
    Option Assembly :=
  if token = .lineEnd then some assembly else step? ()

def step? (assembly : Assembly) (token : TomlToken) : Option Assembly :=
  match assembly.stage with
  | .line => assembly.line? token
  | .lineEnd => if token = .lineEnd then some { assembly with stage := .line } else none
  | .headerStart => assembly.headerStart? token
  | .header ofList path => assembly.header? ofList path token
  | .headerEnd path => assembly.headerEnd? path token
  | .key path => assembly.key? path token
  | .value => assembly.value? token
  | .itemOrEnd => assembly.between? token fun _ =>
      (assembly.end? token).or (assembly.value? token)
  | .itemEnd => assembly.between? token fun _ =>
      if token = .comma then some { assembly with stage := .itemOrEnd } else assembly.end? token
  | .fieldOrEnd => assembly.between? token fun _ =>
      (assembly.end? token).or (assembly.key? .start token)
  | .fieldEnd => assembly.between? token fun _ =>
      if token = .comma then some { assembly with stage := .fieldOrEnd } else assembly.end? token

/-- The document, if it is complete. -/
def document? (assembly : Assembly) : Option TomlTable :=
  match assembly.stage with
  | .line => assembly.finished?
  | _ => none

end Assembly

def read? (text : Text) : Option TomlTable := do
  let tokens ← TomlToken.ofText? text
  let assembly ← tokens.foldlM Assembly.step? .start
  assembly.document?

end TomlTable

end ComponentPages
