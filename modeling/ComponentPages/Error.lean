import ComponentPages.Declaration.Variant
import ComponentPages.Project.Path

namespace ComponentPages

/-!
# Failures

Everything that can go wrong, by cause, and the words for it.
-/

/-- Why an operation on files failed. -/
inductive FileFault where
  | notFound
  | alreadyExists
  | notADirectory
  | isADirectory
  | busy
  | nameTooLong
  /-- The content is not UTF-8. -/
  | notText
  /-- A path holds a NUL character. -/
  | nulInPath
  /-- The empty path has no absolute form. -/
  | emptyPath
  /-- The path is not among the sources that are kept in memory. -/
  | notInMemory
  /-- Any other cause, in the words of the system. -/
  | other (words : Text)
  deriving Repr, DecidableEq

/-- The cause in words. -/
def FileFault.message : FileFault → Text
  | .notFound => "No such file or directory (os error 2)".toList
  | .alreadyExists => "File exists (os error 17)".toList
  | .notADirectory => "Not a directory (os error 20)".toList
  | .isADirectory => "Is a directory (os error 21)".toList
  | .busy => "Device or resource busy (os error 16)".toList
  | .nameTooLong => "File name too long (os error 36)".toList
  | .notText => "stream did not contain valid UTF-8".toList
  | .nulInPath => "file name contained an unexpected NUL byte".toList
  | .emptyPath => "cannot make an empty path absolute".toList
  | .notInMemory => "not in memory".toList
  | .other words => words

/-- Why a glob cannot be read. -/
inductive GlobFault where
  /-- A character class is not closed. -/
  | unclosedClass
  /-- A range whose first character comes after its last. -/
  | invalidRange (first last : Char)
  /-- A group of alternates is closed that was not opened. -/
  | unopenedAlternates
  /-- A group of alternates is not closed. -/
  | unclosedAlternates
  /-- A backslash stands at the end. -/
  | danglingEscape
  deriving Repr, DecidableEq

/-- The fault of a glob in words. -/
def GlobFault.message : GlobFault → Text
  | .unclosedClass => "unclosed character class; missing ']'".toList
  | .invalidRange first last =>
      "invalid range; '".toList ++ first :: "' > '".toList ++ last :: "'".toList
  | .unopenedAlternates =>
      "unopened alternate group; missing '\x7b' (maybe escape '\x7d' with '[\x7d]'?)".toList
  | .unclosedAlternates =>
      "unclosed alternate group; missing '\x7d' (maybe escape '\x7b' with '[\x7b]'?)".toList
  | .danglingEscape => "dangling '\\'".toList

/-- Why a configuration is refused. -/
inductive ConfigurationFault where
  /-- The file cannot be read as a configuration. -/
  | malformed
  /-- A source pattern is no glob. -/
  | badPattern (pattern : Text) (fault : GlobFault)
  deriving Repr, DecidableEq

/-- The fault of a configuration in words. -/
def ConfigurationFault.message : ConfigurationFault → Text
  | .malformed => "malformed document".toList
  | .badPattern pattern fault =>
      "invalid source pattern `".toList ++ pattern ++ "`: error parsing glob '".toList ++
        pattern ++ "': ".toList ++ fault.message

/-- Everything that can go wrong. -/
inductive Error where
  /-- Files could not be read or written. -/
  | files (fault : FileFault)
  /-- The configuration is refused. -/
  | configuration (fault : ConfigurationFault)
  /-- The stored registry cannot be read. -/
  | registryUnreadable (path : Path) (fault : FileFault)
  /-- Delimiters do not match up. -/
  | unbalancedScope (fault : UnbalancedScope)
  /-- A template cannot be read. -/
  | templateUnreadable (name : Text) (fault : FileFault)
  /-- A component has no name. -/
  | missingIdentity (path : Path)
  /-- A source cannot be read. -/
  | sourceUnreadable (path : Path) (fault : FileFault)
  deriving Repr, DecidableEq

namespace Error

/-- What went wrong, in words. -/
def message : Error → Text
  | .files fault => fault.message
  | .configuration fault => "failed to parse config file: ".toList ++ fault.message
  | .registryUnreadable path fault =>
      "failed to initialize registry store `".toList ++ path.text ++ "`: ".toList ++ fault.message
  | .unbalancedScope fault =>
      "unbalanced delimiters in `".toList ++ fault.anchor ++ "` starting at byte ".toList ++
        Text.ofNat fault.offset
  | .templateUnreadable name fault =>
      "failed to read template `".toList ++ name ++ "`: ".toList ++ fault.message
  | .missingIdentity path =>
      "could not determine a component name for `".toList ++ path.text ++ "`".toList
  | .sourceUnreadable path fault =>
      "failed to read source file `".toList ++ path.text ++ "`: ".toList ++ fault.message

/-- The code under which a failure ends the command. -/
def code : Error → Text
  | .files _ => "compdoc::io_error".toList
  | .configuration _ => "compdoc::config_parse".toList
  | .registryUnreadable _ _ => "compdoc::registry_init".toList
  | .unbalancedScope _ => "compdoc::unbalanced_scope".toList
  | .templateUnreadable _ _ => "compdoc::template_read".toList
  | .missingIdentity _ => "compdoc::missing_identity".toList
  | .sourceUnreadable _ _ => "compdoc::source_read".toList

end Error

end ComponentPages
