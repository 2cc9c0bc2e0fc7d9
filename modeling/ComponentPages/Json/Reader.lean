import ComponentPages.Json.Token
import ComponentPages.Json.Value

namespace ComponentPages

/-!
# Reading JSON

A value is put together token by token. The lists and objects that are still open form a stack,
and a stage says which token may come next. There is no limit to the depth.
-/

namespace JsonValue

/-- A list or object that is still open, its parts in reverse order. -/
inductive Frame where
  | list (items : List JsonValue)
  | object (fields : List (Option Text × JsonValue))
  /-- An object in which a name waits for its value. -/
  | field (name : Option Text) (fields : List (Option Text × JsonValue))
  deriving Repr

/-- What may come next. -/
inductive Stage where
  /-- A value. -/
  | value
  /-- A value, or the end of a list that is still empty. -/
  | itemOrEnd
  /-- A name. -/
  | name
  /-- A name, or the end of an object that is still empty. -/
  | nameOrEnd
  /-- The colon behind a name. -/
  | colon
  /-- A comma, or the end of the innermost list or object. -/
  | commaOrEnd
  /-- Nothing, because the document is complete. -/
  | nothing (document : JsonValue)
  deriving Repr

/-- A document of which some tokens were read. -/
structure Assembly where
  stack : List Frame
  stage : Stage
  deriving Repr

namespace Assembly

def start : Assembly := ⟨[], .value⟩

/-- A complete value put where it belongs. -/
def deliver? (stack : List Frame) (value : JsonValue) : Option Assembly :=
  match stack with
  | [] => some ⟨[], .nothing value⟩
  | .list items :: outer => some ⟨.list (value :: items) :: outer, .commaOrEnd⟩
  | .field name fields :: outer => some ⟨.object ((name, value) :: fields) :: outer, .commaOrEnd⟩
  | .object _ :: _ => none

/-- The start of a value. -/
def value? (stack : List Frame) (token : JsonToken) : Option Assembly :=
  match token with
  | .null => deliver? stack .null
  | .boolean flag => deliver? stack (.boolean flag)
  | .number written => deliver? stack (.number written)
  | .text content => deliver? stack (.text content)
  | .openList => some ⟨.list [] :: stack, .itemOrEnd⟩
  | .openObject => some ⟨.object [] :: stack, .nameOrEnd⟩
  | _ => none

/-- The end of the innermost list or object. -/
def end? (stack : List Frame) (token : JsonToken) : Option Assembly :=
  match stack, token with
  | .list items :: outer, .closeList => deliver? outer (.list items.reverse)
  | .object fields :: outer, .closeObject => deliver? outer (.object fields.reverse)
  | _, _ => none

/-- The name of a field. -/
def name? (stack : List Frame) (token : JsonToken) : Option Assembly :=
  match stack, token with
  | .object fields :: outer, .text name => some ⟨.field name fields :: outer, .colon⟩
  | _, _ => none

def comma? (stack : List Frame) : Option Assembly :=
  match stack with
  | .list _ :: _ => some ⟨stack, .value⟩
  | .object _ :: _ => some ⟨stack, .name⟩
  | _ => none

def step? (assembly : Assembly) (token : JsonToken) : Option Assembly :=
  match assembly.stage with
  | .value => value? assembly.stack token
  | .itemOrEnd =>
      if token = .closeList then end? assembly.stack token else value? assembly.stack token
  | .name => name? assembly.stack token
  | .nameOrEnd =>
      if token = .closeObject then end? assembly.stack token else name? assembly.stack token
  | .colon => if token = .colon then some { assembly with stage := .value } else none
  | .commaOrEnd => if token = .comma then comma? assembly.stack else end? assembly.stack token
  | .nothing _ => none

/-- The document, if it is complete. -/
def document? (assembly : Assembly) : Option JsonValue :=
  match assembly.stage with
  | .nothing document => some document
  | _ => none

end Assembly

def ofTokens? (tokens : List JsonToken) : Option JsonValue :=
  (tokens.foldlM Assembly.step? .start).bind Assembly.document?

def read? (bytes : Bytes) : Option JsonValue :=
  (JsonToken.ofBytes? bytes).bind ofTokens?

end JsonValue

end ComponentPages
