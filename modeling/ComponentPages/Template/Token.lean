import ComponentPages.Text.Basic

namespace ComponentPages

/-!
# Template tokens

A template is text with tags in double braces: openers and closers of sections, and variables.
Whatever is no tag is text, except that a brace which starts no tag is a token of its own. The
sources of a template's tokens, one after another, give the template.
-/

/-- A piece of a template. -/
inductive Token where
  /-- The opener of a section. -/
  | opener (name : Text)
  /-- The closer of a section. -/
  | closer (name : Text)
  /-- A variable. -/
  | variable (path : Text)
  /-- Text without an opening brace. -/
  | text (content : Text)
  /-- An opening brace that starts no tag. -/
  | brace
  deriving Repr, DecidableEq

namespace Token

def isNameCharacter (character : Char) : Bool :=
  character.isAlphanum || character == '_' || character == '.'

/-- A tag with the given text between its double braces. -/
def tagSource (inside : Text) : Text :=
  '{' :: '{' :: inside ++ ['}', '}']

def source : Token → Text
  | .opener name => tagSource ('#' :: name)
  | .closer name => tagSource ('/' :: name)
  | .variable path => tagSource path
  | .text content => content
  | .brace => ['{']

def sourceOf (tokens : List Token) : Text :=
  tokens.flatMap source

@[simp] theorem sourceOf_nil : sourceOf [] = [] :=
  rfl

@[simp] theorem sourceOf_cons
    (token : Token)
    (tokens : List Token) :
    sourceOf (token :: tokens) = token.source ++ sourceOf tokens :=
  rfl

@[simp] theorem sourceOf_append
    (tokens others : List Token) :
    sourceOf (tokens ++ others) = sourceOf tokens ++ sourceOf others :=
  List.flatMap_append

/-- The tag of an opener has five characters besides the name. -/
@[simp] theorem length_source_opener
    (name : Text) :
    (source (.opener name)).length = name.length + 5 := by
  simp [source, tagSource]

/-- The tag of a closer has five characters besides the name. -/
@[simp] theorem length_source_closer
    (name : Text) :
    (source (.closer name)).length = name.length + 5 := by
  simp [source, tagSource]

/-- A name and the two braces that close its tag. -/
def nameAndClose? (text : Text) : Option (Text × Text) :=
  match text.takeWhile isNameCharacter, text.dropWhile isNameCharacter with
  | first :: name, '}' :: '}' :: rest => some (first :: name, rest)
  | _, _ => none

/-- The tag that a text starts with, behind its first brace. -/
def tag? : Text → Option (Token × Text)
  | '{' :: '#' :: rest => (nameAndClose? rest).map fun (name, after) => (.opener name, after)
  | '{' :: '/' :: rest => (nameAndClose? rest).map fun (name, after) => (.closer name, after)
  | '{' :: rest => (nameAndClose? rest).map fun (name, after) => (.variable name, after)
  | _ => none

/-- A name and its closing braces are what was read. -/
theorem nameAndClose?_source
    {text name rest : Text}
    (found : nameAndClose? text = some (name, rest)) :
    text = name ++ '}' :: '}' :: rest := by
  unfold nameAndClose? at found
  split at found
  · rename_i first name' rest' taken dropped
    simp only [Option.some.injEq, Prod.mk.injEq] at found
    rw [← found.1, ← found.2, ← taken, ← dropped]
    exact (List.takeWhile_append_dropWhile).symm
  · simp at found

/-- A tag is what stands between the text before it was read and the text after. -/
theorem tag?_source
    {text rest : Text}
    {token : Token}
    (found : tag? text = some (token, rest)) :
    '{' :: text = token.source ++ rest := by
  unfold tag? at found
  split at found
  · obtain ⟨⟨name, after⟩, read, same⟩ := Option.map_eq_some_iff.mp found
    cases same
    simp [nameAndClose?_source read, source, tagSource]
  · obtain ⟨⟨name, after⟩, read, same⟩ := Option.map_eq_some_iff.mp found
    cases same
    simp [nameAndClose?_source read, source, tagSource]
  · obtain ⟨⟨name, after⟩, read, same⟩ := Option.map_eq_some_iff.mp found
    cases same
    simp [nameAndClose?_source read, source, tagSource]
  · simp at found

/-- A token that was read as a tag has at least two characters. -/
theorem tag?_length
    {text rest : Text}
    {token : Token}
    (found : tag? text = some (token, rest)) :
    rest.length < text.length := by
  have whole := congrArg List.length (tag?_source found)
  unfold tag? at found
  split at found
  · obtain ⟨⟨name, after⟩, read, same⟩ := Option.map_eq_some_iff.mp found
    cases same
    simp [source, tagSource] at whole
    simp
    omega
  · obtain ⟨⟨name, after⟩, read, same⟩ := Option.map_eq_some_iff.mp found
    cases same
    simp [source, tagSource] at whole
    simp
    omega
  · obtain ⟨⟨name, after⟩, read, same⟩ := Option.map_eq_some_iff.mp found
    cases same
    simp [source, tagSource] at whole
    simp
    omega
  · simp at found

/-- The tokens of a template. -/
def ofTemplate (template : Text) : List Token :=
  match template with
  | [] => []
  | '{' :: rest =>
      match _found : tag? rest with
      | some (token, after) => token :: ofTemplate after
      | none => .brace :: ofTemplate rest
  | character :: rest =>
      .text (character :: rest.takeWhile (· != '{')) :: ofTemplate (rest.dropWhile (· != '{'))
  termination_by template.length
  decreasing_by
    · have shorter := tag?_length _found
      simp only [List.length_cons]
      omega
    · simp
    · have shorter := (List.dropWhile_sublist (· != '{') (l := rest)).length_le
      simp only [List.length_cons]
      omega

end Token

end ComponentPages
