import ComponentPages.Configuration.Basic
import ComponentPages.Page.Context

namespace ComponentPages

/-!
# Options of a generator

A configuration with its paths joined to the root of the project.
-/

/-- Where a generator finds and puts things. -/
structure Options where
  outputDirectory : Path
  extension : Text
  templatesDirectory : Path
  templateName : Text
  registryPath : Path
  deriving Repr, DecidableEq

namespace Options

/-- The options of a configuration. The extension is given without leading dots. -/
def ofConfiguration (root : Path) (configuration : Configuration) : Options where
  outputDirectory := root.join configuration.output.directory
  extension := Text.trimStartWhile (· == '.') configuration.output.extension
  templatesDirectory := root.join configuration.templates.directory
  templateName := configuration.templates.name
  registryPath := root.join configuration.registry.path

def pagePath (options : Options) (identity : Text) : Path :=
  options.outputDirectory.file (Page.fileName identity options.extension)

end Options

end ComponentPages
