import ComponentPages.Declaration.Extraction
import ComponentPages.Page.Catalogue
import ComponentPages.Page.ImportPath
import ComponentPages.Registry.Entry
import ComponentPages.Template.Value

namespace ComponentPages

/-!
# The context of a page

What a template can show of a component: its snapshot, its properties and style variants, what
the catalogue says about it, and the latest steps of its history.
-/

namespace Page

/-- The number of steps of the history that a page shows. -/
def changelogLength : Nat := 5

def fileName (identity extension : Text) : Text :=
  identity.toLowerCase ++ '.' :: extension

/-- A map from names to values. -/
def mapOf (fields : List (String × Value)) : Value :=
  .map (Keyed.ofList (fields.map fun (name, value) => (name.toList, value))).bindings

def optionalText : Option Text → Value
  | none => .null
  | some text => .text text

/-- What a template can show of a property. -/
def propertyValue (property : Property) : Value :=
  mapOf [
    ("name", .text property.name),
    ("rawType", .text property.typeText),
    ("tableType", .text (property.typeText.replaceCharacter '|' ['\\', '|'])),
    ("required", .boolean property.required),
    ("defaultValue", optionalText property.defaultValue),
    ("description", .text property.description)]

def optionValue (option : VariantOption) : Value :=
  mapOf [("value", .text option.value), ("description", .text option.description)]

/-- What a template can show of a style variant. -/
def variantValue (variant : Variant) : Value :=
  mapOf [
    ("name", .text variant.name),
    ("options", .list (variant.options.map optionValue)),
    ("defaultValue", optionalText variant.defaultValue)]

/-- What a template can show of a step of the history. -/
def historyValue (item : HistoryItem) : Value :=
  mapOf [
    ("version", .text item.version),
    ("date", .text item.date),
    ("changeKind", .text item.change.word),
    ("breaking", .boolean item.breaking),
    ("migrationRequired", .boolean item.migrationRequired),
    ("notes", optionalText item.notes)]

/-- What a template can show of the component itself. -/
def componentValue (snapshot : Snapshot) : Value :=
  mapOf [
    ("name", .text snapshot.identity),
    ("version", .text snapshot.version),
    ("status", .text snapshot.status.word),
    ("lastModified", .text snapshot.lastModified),
    ("contentHash", .text snapshot.contentHash),
    ("sizeBytes", .number (.ofNat snapshot.sizeBytes)),
    ("filePath", .text snapshot.filePath.text),
    ("category", .text (Catalogue.categoryOf snapshot.filePath)),
    ("description", .text (Catalogue.descriptionOf snapshot.identity)),
    ("importPath", .text (ImportPath.ofPath snapshot.filePath)),
    ("exports", .list (snapshot.exports.map .text))]

/-- The latest steps of the history of an entry, the latest first. -/
def changelog (entry : Option Entry) : List HistoryItem :=
  ((entry.map (·.history)).getD []).reverse.take changelogLength

def contextOf
    (now : Text)
    (snapshot : Snapshot)
    (extraction : Extraction)
    (entry : Option Entry)
    (extension : Text) : Context :=
  let name := snapshot.identity
  let related := (Catalogue.relatedTo name).map fun other =>
    mapOf [("name", .text other), ("file", .text (fileName other extension))]
  Keyed.ofList [
    ("component".toList, componentValue snapshot),
    ("hasProps".toList, .boolean (!extraction.properties.isEmpty)),
    ("props".toList, .list (extraction.properties.map propertyValue)),
    ("hasVariants".toList, .boolean (!extraction.variants.isEmpty)),
    ("variants".toList, .list (extraction.variants.map variantValue)),
    ("tags".toList, .list ((Catalogue.tagsOf name).map fun tag => mapOf [("name", .text tag)])),
    ("related".toList, .list related),
    ("accessibility".toList,
      .list ((Catalogue.accessibilityOf name).map fun note => mapOf [("note", .text note)])),
    ("hasChangelog".toList, .boolean (!(changelog entry).isEmpty)),
    ("changelog".toList, .list ((changelog entry).map historyValue)),
    ("isDeprecated".toList, .boolean (snapshot.status = .deprecated)),
    ("isExperimental".toList, .boolean (snapshot.status = .experimental)),
    ("generatedAt".toList, .text now)]

end Page

end ComponentPages
