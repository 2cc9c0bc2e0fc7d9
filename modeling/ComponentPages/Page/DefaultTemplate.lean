import ComponentPages.Template.Token

namespace ComponentPages

/-!
# The built-in page

The template of a page for projects that bring none of their own.
-/

namespace DefaultTemplate

/-- Text between tags. -/
def text (content : String) : List Token :=
  [.text content.toList]

def value (path : String) : List Token :=
  [.variable path.toList]

/-- A section around tokens. -/
def block (name : String) (inside : List Token) : List Token :=
  .opener name.toList :: inside ++ [.closer name.toList]

/-- The title, the description and the table of facts. -/
def header : List Token :=
  text "# " ++ value "name" ++ text "\n\n" ++ value "description" ++
    text "\n\n| | |\n| --- | --- |\n| Version | `" ++ value "version" ++
    text "` |\n| Status | " ++ value "status" ++
    text " |\n| Category | " ++ value "category" ++
    text " |\n| Import | `" ++ value "importPath" ++
    text "` |\n| Source | `" ++ value "filePath" ++ text "` |\n\n"

/-- Warnings about components that are deprecated or experimental. -/
def warnings : List Token :=
  block "isDeprecated"
      (text "> **Deprecated.** Plan a migration away from this component.\n\n") ++
    block "isExperimental"
      (text "> **Experimental.** The API may change in any release.\n\n")

def propertyRow : List Token :=
  text "| `" ++ value "name" ++ text "` | `" ++ value "tableType" ++ text "` | " ++
    value "required" ++ text " | " ++ value "defaultValue" ++ text " | " ++
    value "description" ++ text " |\n"

def properties : List Token :=
  block "hasProps"
    (text ("## Props\n\n| Name | Type | Required | Default | Description |\n" ++
        "| --- | --- | --- | --- | --- |\n") ++
      block "props" propertyRow ++ text "\n")

def variants : List Token :=
  block "hasVariants"
    (text "## Variants\n\n" ++
      block "variants"
        (text "### " ++ value "name" ++ text "\n\n" ++
          block "options"
            (text "- `" ++ value "value" ++ text "`: " ++ value "description" ++
              text "\n") ++
          text "\n"))

/-- Accessibility, tags and related components. -/
def surroundings : List Token :=
  text "## Accessibility\n\n" ++
    block "accessibility" (text "- " ++ value "note" ++ text "\n") ++ text "\n" ++
    block "tags" (text "`" ++ value "name" ++ text "` ") ++ text "\n\n" ++
    block "related"
      (text "- [" ++ value "name" ++ text "](./" ++ value "file" ++ text ")\n") ++
    text "\n"

def changelogItem : List Token :=
  text "- **" ++ value "version" ++ text "** (" ++ value "date" ++ text "): " ++
    value "changeKind" ++ block "breaking" (text ", breaking") ++ text ". " ++
    value "notes" ++ text "\n"

def changelog : List Token :=
  block "hasChangelog"
    (text "## Changelog\n\n" ++ block "changelog" changelogItem ++ text "\n")

def footer : List Token :=
  text "_Generated on " ++ value "generatedAt" ++ text "._\n"

def tokens : List Token :=
  header ++ warnings ++ properties ++ variants ++ surroundings ++ changelog ++ footer

def template : Text :=
  Token.sourceOf tokens

end DefaultTemplate

end ComponentPages
