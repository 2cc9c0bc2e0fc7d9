import ComponentPages.Text.Basic

namespace ComponentPages

/-!
# TOML values

Numbers and moments are kept as they are written. A table remembers how it came to be, because
that decides whether later lines may add to it. A list remembers whether it was put together from
the headers of its tables.
-/

/-- How a table came to be. -/
inductive TableForm where
  /-- By a header of its own. -/
  | header
  /-- By a header of a table inside it. -/
  | implied
  /-- By a dotted key. -/
  | dotted
  /-- In braces. -/
  | inline
  deriving Repr, DecidableEq

/-- A value of a TOML document. -/
inductive TomlValue where
  | text (content : Text)
  | boolean (value : Bool)
  | number (written : Text)
  | moment (written : Text)
  | list (ofTables : Bool) (items : List TomlValue)
  | table (form : TableForm) (fields : List (Text × TomlValue))
  deriving Repr

/-- A table: how it came to be, and its fields. -/
structure TomlTable where
  form : TableForm
  fields : List (Text × TomlValue)
  deriving Repr

namespace TomlTable

def toValue (table : TomlTable) : TomlValue :=
  .table table.form table.fields

def field? (table : TomlTable) (key : Text) : Option TomlValue :=
  table.fields.lookup key

def erase (table : TomlTable) (key : Text) : TomlTable :=
  { table with fields := table.fields.filter (·.1 != key) }

/-- The table with a field put in the place of the one it has, if it has one. -/
def put (table : TomlTable) (key : Text) (value : TomlValue) : TomlTable :=
  { table with fields := (key, value) :: (table.erase key).fields }

/-- Whether the path of a field may lead through a table, or a header's path if not `dotted`. -/
def isOpen (dotted : Bool) (form : TableForm) : Bool :=
  form != .inline && !(dotted && form == .header)

/--
The table with the one at the end of a path changed. Tables that are missing on the way are made;
in a list of tables the way leads through the last.
-/
def changeAt? (dotted : Bool) (change : TomlTable → Option TomlTable) :
    (path : List Text) → TomlTable → Option TomlTable
  | [], table => change table
  | key :: path, table =>
      match table.field? key with
      | none => do
          let made ← changeAt? dotted change path ⟨if dotted then .dotted else .implied, []⟩
          return table.put key made.toValue
      | some (.table form fields) =>
          if isOpen dotted form then do
            let changed ← changeAt? dotted change path ⟨form, fields⟩
            return table.put key changed.toValue
          else
            none
      | some (.list true items) =>
          match items.getLast? with
          | some (.table form fields) => do
              let changed ← changeAt? dotted change path ⟨form, fields⟩
              return table.put key (.list true (items.dropLast ++ [changed.toValue]))
          | _ => none
      | some _ => none

/--
The table with a field added behind a path. No field is given twice, and a table that was made by
dotted keys is added to by dotted keys only, all others directly only.
-/
def add? (table : TomlTable) (path : List Text) (key : Text) (value : TomlValue) :
    Option TomlTable :=
  changeAt? (!path.isEmpty) (fun inner =>
    if (inner.form == .dotted) == path.isEmpty || (inner.field? key).isSome then
      none
    else
      some (inner.put key value)) path table

end TomlTable

end ComponentPages
