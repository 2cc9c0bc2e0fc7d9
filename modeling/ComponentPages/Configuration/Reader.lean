import ComponentPages.Configuration.Basic
import ComponentPages.Error
import ComponentPages.Storage.Basic
import ComponentPages.Toml.Reader

namespace ComponentPages

/-!
# Reading configurations

A configuration is a TOML document with a table for each section. Sections and settings may be
missing, and unknown ones do not count. A section may also be a list of its settings in order, or
a moment, which has no settings.
-/

namespace TomlValue

def text? : TomlValue → Option Text
  | .text content => some content
  | _ => none

def path? (value : TomlValue) : Option Path :=
  value.text?.map Path.mk

def boolean? : TomlValue → Option Bool
  | .boolean value => some value
  | _ => none

def texts? : TomlValue → Option (List Text)
  | .list _ items => items.mapM text?
  | _ => none

/-- The settings of a section under the given names. -/
def section? (names : List String) : TomlValue → Option (List (Option TomlValue))
  | .table _ fields => some (names.map fun name => fields.lookup name.toList)
  | .list _ items => some ((List.range names.length).map fun position => items[position]?)
  | .moment _ => some (names.map fun _ => none)
  | _ => none

/-- A setting that may be missing, read or given its default. -/
def orDefault {α : Type} (read : TomlValue → Option α) (default : α) :
    Option TomlValue → Option α
  | none => some default
  | some value => read value

end TomlValue

namespace Configuration

open TomlValue

def output? (value : TomlValue) : Option OutputSettings := do
  match ← value.section? ["dir", "extension"] with
  | [directory, extension] =>
      let default : OutputSettings := {}
      return {
        directory := ← orDefault path? default.directory directory
        extension := ← orDefault text? default.extension extension
      }
  | _ => none

def templates? (value : TomlValue) : Option TemplateSettings := do
  match ← value.section? ["dir", "name"] with
  | [directory, name] =>
      let default : TemplateSettings := {}
      return {
        directory := ← orDefault path? default.directory directory
        name := ← orDefault text? default.name name
      }
  | _ => none

def registry? (value : TomlValue) : Option RegistrySettings := do
  match ← value.section? ["path"] with
  | [path] =>
      let default : RegistrySettings := {}
      return { path := ← orDefault path? default.path path }
  | _ => none

def sources? (value : TomlValue) : Option SourceSettings := do
  match ← value.section? ["include", "exclude", "disable_gitignore"] with
  | [includes, excludes, disableGitignore] =>
      let default : SourceSettings := {}
      return {
        includes := ← orDefault texts? default.includes includes
        excludes := ← orDefault texts? default.excludes excludes
        disableGitignore := ← orDefault boolean? default.disableGitignore disableGitignore
      }
  | _ => none

def ofTable? (table : TomlTable) : Option Configuration := do
  return {
    output := ← orDefault output? {} (table.field? "output".toList)
    templates := ← orDefault templates? {} (table.field? "templates".toList)
    registry := ← orDefault registry? {} (table.field? "registry".toList)
    sources := ← orDefault sources? {} (table.field? "sources".toList)
  }

def ofText (text : Text) : Except ConfigurationFault Configuration :=
  match (TomlTable.read? text).bind ofTable? with
  | some configuration => .ok configuration
  | none => .error .malformed

variable {m : Type → Type} [Monad m] [Storage m]

/-- The first of some paths that names a file. -/
def firstFile? : List Path → m (Option Path)
  | [] => return none
  | path :: later => do
      if ← Storage.isFile path then
        return some path
      else
        firstFile? later

/-- The file that holds the configuration of a project, if there is one. -/
def locate? (root : Path) : m (Option Path) :=
  firstFile? (candidates.map root.join)

/-- The configuration of a project; none if there is no file that holds one. -/
def load? (root : Path) : m (Except Error (Option Configuration)) := do
  match ← locate? root with
  | none => return .ok none
  | some path =>
      match ← Storage.readText path with
      | .error fault => return .error (.files fault)
      | .ok content => return ((ofText content).mapError .configuration).map some

end Configuration

end ComponentPages
