import ComponentPages.Page.Context
import ComponentPages.Proofs.Template.Sections

namespace ComponentPages

/-!
# The page of the built-in template

What the built-in template makes of a component, written down piece by piece: fixed text and the
values of the component. No value is ever read as a tag, and no section shows a value of another one
that has the same name.
-/

namespace BuiltInPage

/-! ## The pieces of the page -/

/-- The title, the description and the table of facts. -/
def header (snapshot : Snapshot) : List Piece :=
  [.fixed "# ".toList, .bound snapshot.identity,
    .fixed "\n\n".toList, .bound (Catalogue.descriptionOf snapshot.identity),
    .fixed "\n\n| | |\n| --- | --- |\n| Version | `".toList, .bound snapshot.version,
    .fixed "` |\n| Status | ".toList, .bound snapshot.status.word,
    .fixed " |\n| Category | ".toList, .bound (Catalogue.categoryOf snapshot.filePath),
    .fixed " |\n| Import | `".toList, .bound (ImportPath.ofPath snapshot.filePath),
    .fixed "` |\n| Source | `".toList, .bound snapshot.filePath.text,
    .fixed "` |\n\n".toList]

/-- What warns of a component that is deprecated or experimental. -/
def warnings : Status → List Piece
  | .deprecated =>
      [.fixed "> **Deprecated.** Plan a migration away from this component.\n\n".toList]
  | .experimental =>
      [.fixed "> **Experimental.** The API may change in any release.\n\n".toList]
  | _ => []

/-- A section that stands only if there is something to list. -/
def listing
    {α : Type}
    (heading : String)
    (entry : α → List Piece)
    (ending : List Piece)
    (items : List α) :
    List Piece :=
  if items.isEmpty then [] else .fixed heading.toList :: (items.flatMap entry ++ ending)

private theorem textOf_listing
    {α : Type}
    (heading : String)
    (entry : α → List Piece)
    (ending : List Piece)
    (items : List α) :
    Piece.textOf (listing heading entry ending items) =
      if !items.isEmpty then
        heading.toList ++ (items.flatMap (fun item => Piece.textOf (entry item)) ++
          Piece.textOf ending)
      else
        [] := by
  cases items with
  | nil =>
      rfl
  | cons item others =>
      simp [listing]

/-- The row of a property. A bar in its type has a backslash before it. -/
def propertyRow (property : Property) : List Piece :=
  [.fixed "| `".toList, .bound property.name,
    .fixed "` | `".toList, .bound (property.typeText.replaceCharacter '|' ['\\', '|']),
    .fixed "` | ".toList, .fixed (if property.required then "true" else "false").toList,
    .fixed " | ".toList, .bound (property.defaultValue.getD []),
    .fixed " | ".toList, .bound property.description,
    .fixed " |\n".toList]

/-- The table of the properties. -/
def properties : List Property → List Piece :=
  listing
    ("## Props\n\n| Name | Type | Required | Default | Description |\n" ++
      "| --- | --- | --- | --- | --- |\n")
    propertyRow [.fixed "\n".toList]

/-- The line of an option. -/
def optionBullet (option : VariantOption) : List Piece :=
  [.fixed "- `".toList, .bound option.value,
    .fixed "`: ".toList, .bound option.description,
    .fixed "\n".toList]

/-- The heading of a style variant and its options. -/
def variantBlock (variant : Variant) : List Piece :=
  [.fixed "### ".toList, .bound variant.name, .fixed "\n\n".toList] ++
    variant.options.flatMap optionBullet ++ [.fixed "\n".toList]

/-- The section of the style variants. -/
def variants : List Variant → List Piece :=
  listing "## Variants\n\n" variantBlock []

/-- The line of a note on accessibility. -/
def noteBullet (note : Text) : List Piece :=
  [.fixed "- ".toList, .bound note, .fixed "\n".toList]

/-- A tag in the line of tags. -/
def tagWord (tag : Text) : List Piece :=
  [.fixed "`".toList, .bound tag, .fixed "` ".toList]

/-- The link to the page of a related component. -/
def relatedLink (extension other : Text) : List Piece :=
  [.fixed "- [".toList, .bound other,
    .fixed "](./".toList, .bound (Page.fileName other extension),
    .fixed ")\n".toList]

/-- What the catalogue says about a component. -/
def surroundings (identity extension : Text) : List Piece :=
  [.fixed "## Accessibility\n\n".toList] ++
    (Catalogue.accessibilityOf identity).flatMap noteBullet ++ [.fixed "\n".toList] ++
      (Catalogue.tagsOf identity).flatMap tagWord ++ [.fixed "\n\n".toList] ++
        (Catalogue.relatedTo identity).flatMap (relatedLink extension) ++ [.fixed "\n".toList]

/-- The bullet of a step of the history. -/
def stepBullet (item : HistoryItem) : List Piece :=
  [.fixed "- **".toList, .bound item.version,
    .fixed "** (".toList, .bound item.date,
    .fixed "): ".toList, .bound item.change.word] ++
    (if item.breaking then [.fixed ", breaking".toList] else []) ++
    [.fixed ". ".toList, .bound (item.notes.getD []),
      .fixed "\n".toList]

/-- The last steps of a history, at most five, the last one first. -/
def latest (history : List HistoryItem) : List HistoryItem :=
  history.reverse.take 5

/-- The history of an entry; empty without one. -/
def historyOf (entry : Option Entry) : List HistoryItem :=
  (entry.map Entry.history).getD []

/-- The section of the latest steps of a history. -/
def changelog (history : List HistoryItem) : List Piece :=
  listing "## Changelog\n\n" stepBullet [.fixed "\n".toList] (latest history)

/-- The line that says when the page was made. -/
def footer (now : Text) : List Piece :=
  [.fixed "_Generated on ".toList, .bound now, .fixed "._\n".toList]

/-- The page of a component. -/
def pieces
    (now : Text)
    (snapshot : Snapshot)
    (extraction : Extraction)
    (history : List HistoryItem)
    (extension : Text) :
    List Piece :=
  header snapshot ++ warnings snapshot.status ++ properties extraction.properties ++
    variants extraction.variants ++ surroundings snapshot.identity extension ++
      changelog history ++ footer now

end BuiltInPage

/-! ## Looking up -/

namespace Page

open Template

private theorem display_optionalText (text : Option Text) :
    (optionalText text).display = text.getD [] := by
  cases text with
  | none =>
      rfl
  | some content =>
      exact Value.display_text content

private theorem child?_mapOf
    (fields : List (String × Value))
    (name : Text) :
    (mapOf fields).child? name =
      Bindings.findLast name none (fields.map fun (name, value) => (name.toList, value)) :=
  Keyed.find?_ofList_eq_findLast _ name

/-- In a loop a name leads to the field of the item, if that has one. -/
theorem lookup?_itemContext_mapOf
    {name : Text}
    (plain : Context.segments name = [name])
    (context : Context)
    (fields : List (String × Value)) :
    (itemContext context (mapOf fields)).lookup? name =
      Bindings.findLast name (context.lookup? name)
        (fields.map fun (name, value) => (name.toList, value)) := by
  rw [Context.lookup?_of_plain plain, Context.lookup?_of_plain plain, ← Keyed.find?_ofList_or]
  exact Keyed.find?_overlay context _ name

variable
  (now : Text)
  (snapshot : Snapshot)
  (extraction : Extraction)
  (entry : Option Entry)
  (extension : Text)

private theorem find?_component :
    (contextOf now snapshot extraction entry extension).find? "component".toList =
      some (componentValue snapshot) := by
  rw [contextOf, Keyed.find?_ofList_eq_findLast]
  simp only [Bindings.findLast, String.toList_inj, String.reduceEq, reduceIte]

/-- What a template finds under a name on a page. -/
private theorem lookup?_flatten_contextOf
    {name : Text}
    (plain : Context.segments name = [name]) :
    (contextOf now snapshot extraction entry extension).flatten.lookup? name =
      ((contextOf now snapshot extraction entry extension).find? name).or
        ((componentValue snapshot).child? name) :=
  Context.lookup?_flatten plain (find?_component now snapshot extraction entry extension)

/-- What the built-in template finds in the context of a page. -/
structure Finds (context : Context) : Prop where
  name : context.lookup? "name".toList = some (.text snapshot.identity)
  description : context.lookup? "description".toList =
    some (.text (Catalogue.descriptionOf snapshot.identity))
  version : context.lookup? "version".toList = some (.text snapshot.version)
  status : context.lookup? "status".toList = some (.text snapshot.status.word)
  category : context.lookup? "category".toList =
    some (.text (Catalogue.categoryOf snapshot.filePath))
  importPath : context.lookup? "importPath".toList =
    some (.text (ImportPath.ofPath snapshot.filePath))
  filePath : context.lookup? "filePath".toList = some (.text snapshot.filePath.text)
  isDeprecated : context.lookup? "isDeprecated".toList =
    some (.boolean (snapshot.status = .deprecated))
  isExperimental : context.lookup? "isExperimental".toList =
    some (.boolean (snapshot.status = .experimental))
  hasProps : context.lookup? "hasProps".toList =
    some (.boolean (!extraction.properties.isEmpty))
  props : context.lookup? "props".toList =
    some (.list (extraction.properties.map propertyValue))
  hasVariants : context.lookup? "hasVariants".toList =
    some (.boolean (!extraction.variants.isEmpty))
  variants : context.lookup? "variants".toList =
    some (.list (extraction.variants.map variantValue))
  accessibility : context.lookup? "accessibility".toList =
    some (.list ((Catalogue.accessibilityOf snapshot.identity).map fun note =>
      mapOf [("note", .text note)]))
  tags : context.lookup? "tags".toList =
    some (.list ((Catalogue.tagsOf snapshot.identity).map fun tag => mapOf [("name", .text tag)]))
  related : context.lookup? "related".toList =
    some (.list ((Catalogue.relatedTo snapshot.identity).map fun other =>
      mapOf [("name", .text other), ("file", .text (fileName other extension))]))
  hasChangelog : context.lookup? "hasChangelog".toList =
    some (.boolean (!(changelog entry).isEmpty))
  changelog : context.lookup? "changelog".toList =
    some (.list ((changelog entry).map historyValue))
  generatedAt : context.lookup? "generatedAt".toList = some (.text now)

/-- The built-in template finds in the context of a page what it names. -/
theorem finds_contextOf :
    Finds now snapshot extraction entry extension
      (contextOf now snapshot extraction entry extension).flatten := by
  constructor
  all_goals
    rw [lookup?_flatten_contextOf _ _ _ _ _ (by decide), contextOf, Keyed.find?_ofList_or,
      componentValue, child?_mapOf]
    simp only [Bindings.findLast, List.map_cons, List.map_nil, String.toList_inj, String.reduceEq,
      reduceIte]

/-! ## The parts of the template -/

/-- The row of a property is made of its own fields. -/
theorem interpret_propertyRow
    (context : Context)
    (property : Property) :
    interpret (itemContext context (propertyValue property)) DefaultTemplate.propertyRow =
      Piece.textOf (BuiltInPage.propertyRow property) := by
  simp (disch := decide) only [DefaultTemplate.propertyRow, interpret_append, interpret_text,
    interpret_value, propertyValue, lookup?_itemContext_mapOf, Bindings.findLast, List.map_cons,
    List.map_nil, String.toList_inj, String.reduceEq, reduceIte, Option.map_some, Option.getD_some,
    Value.display_text, Value.display_boolean, display_optionalText, BuiltInPage.propertyRow,
    Piece.textOf_fixed, Piece.textOf_bound, Piece.textOf_nil, List.append_assoc, List.append_nil]

variable
  {now : Text}
  {snapshot : Snapshot}
  {extraction : Extraction}
  {entry : Option Entry}
  {extension : Text}
  {context : Context}

/-- The header of a page shows the snapshot. -/
theorem interpret_header
    (finds : Finds now snapshot extraction entry extension context) :
    interpret context DefaultTemplate.header = Piece.textOf (BuiltInPage.header snapshot) := by
  simp (disch := decide) only [DefaultTemplate.header, interpret_append, interpret_text,
    interpret_value, finds.name, finds.description, finds.version, finds.status, finds.category,
    finds.importPath, finds.filePath, Option.map_some, Option.getD_some, Value.display_text,
    BuiltInPage.header, Piece.textOf_fixed, Piece.textOf_bound, Piece.textOf_nil,
    List.append_assoc, List.append_nil]

/-- The warnings of a page are those of the status. -/
theorem interpret_warnings
    (finds : Finds now snapshot extraction entry extension context) :
    interpret context DefaultTemplate.warnings =
      Piece.textOf (BuiltInPage.warnings snapshot.status) := by
  simp (disch := decide) only [DefaultTemplate.warnings, interpret_append, interpret_block,
    finds.isDeprecated, finds.isExperimental, sectionText_boolean, interpret_text]
  cases snapshot.status <;> rfl

/-- The properties of a page are those that were extracted. -/
theorem interpret_properties
    (finds : Finds now snapshot extraction entry extension context) :
    interpret context DefaultTemplate.properties =
      Piece.textOf (BuiltInPage.properties extraction.properties) := by
  simp (disch := decide) only [DefaultTemplate.properties, interpret_append, interpret_block,
    finds.hasProps, finds.props, sectionText_boolean, sectionText_list, interpret_text,
    List.flatMap_map, interpret_propertyRow, BuiltInPage.properties, BuiltInPage.textOf_listing,
    Piece.textOf_fixed, Piece.textOf_nil, List.append_assoc, List.append_nil]

/-- The variants of a page are those that were extracted. -/
theorem interpret_variants
    (finds : Finds now snapshot extraction entry extension context) :
    interpret context DefaultTemplate.variants =
      Piece.textOf (BuiltInPage.variants extraction.variants) := by
  simp (disch := decide) only [DefaultTemplate.variants, interpret_append, interpret_text,
    interpret_value, interpret_block, finds.hasVariants, finds.variants, sectionText_boolean,
    sectionText_list, List.flatMap_map, variantValue, optionValue, lookup?_itemContext_mapOf,
    Bindings.findLast, List.map_cons, List.map_nil, String.toList_inj, String.reduceEq, reduceIte,
    Option.map_some, Option.getD_some, Value.display_text, BuiltInPage.variants,
    BuiltInPage.textOf_listing, BuiltInPage.variantBlock, BuiltInPage.optionBullet,
    Piece.textOf_append, Piece.textOf_flatMap, Piece.textOf_fixed, Piece.textOf_bound,
    Piece.textOf_nil, List.append_assoc, List.append_nil]

/-- Tags, notes and links of a page are those of the catalogue. -/
theorem interpret_surroundings
    (finds : Finds now snapshot extraction entry extension context) :
    interpret context DefaultTemplate.surroundings =
      Piece.textOf (BuiltInPage.surroundings snapshot.identity extension) := by
  simp (disch := decide) only [DefaultTemplate.surroundings, interpret_append, interpret_text,
    interpret_value, interpret_block, finds.accessibility, finds.tags, finds.related,
    sectionText_list, List.flatMap_map, lookup?_itemContext_mapOf, Bindings.findLast,
    List.map_cons, List.map_nil, String.toList_inj, String.reduceEq, reduceIte, Option.map_some,
    Option.getD_some, Value.display_text, BuiltInPage.surroundings, BuiltInPage.noteBullet,
    BuiltInPage.tagWord, BuiltInPage.relatedLink, Piece.textOf_append, Piece.textOf_flatMap,
    Piece.textOf_fixed, Piece.textOf_bound, Piece.textOf_nil, List.append_assoc, List.append_nil]

/-- The bullet of a step of the history is made of its own fields. -/
theorem interpret_changelogItem
    (context : Context)
    (item : HistoryItem) :
    interpret (itemContext context (historyValue item)) DefaultTemplate.changelogItem =
      Piece.textOf (BuiltInPage.stepBullet item) := by
  simp (disch := decide) only [DefaultTemplate.changelogItem, interpret_append, interpret_text,
    interpret_value, interpret_block, historyValue, lookup?_itemContext_mapOf, Bindings.findLast,
    List.map_cons, List.map_nil, String.toList_inj, String.reduceEq, reduceIte, Option.map_some,
    Option.getD_some, sectionText_boolean, Value.display_text, display_optionalText,
    BuiltInPage.stepBullet, Piece.textOf_append, Piece.textOf_fixed, Piece.textOf_bound,
    Piece.textOf_nil, List.append_assoc, List.append_nil]
  cases item.breaking <;> rfl

/-- The changelog of a page shows the history of the entry. -/
theorem interpret_changelog
    (finds : Finds now snapshot extraction entry extension context) :
    interpret context DefaultTemplate.changelog =
      Piece.textOf (BuiltInPage.changelog (BuiltInPage.historyOf entry)) := by
  simp (disch := decide) only [DefaultTemplate.changelog, interpret_append, interpret_block,
    finds.hasChangelog, finds.changelog, sectionText_boolean, sectionText_list, interpret_text,
    List.flatMap_map, interpret_changelogItem, BuiltInPage.changelog, BuiltInPage.textOf_listing,
    Piece.textOf_fixed, Piece.textOf_nil, List.append_assoc, List.append_nil]
  rfl

/-- The footer of a page shows the time. -/
theorem interpret_footer
    (finds : Finds now snapshot extraction entry extension context) :
    interpret context DefaultTemplate.footer = Piece.textOf (BuiltInPage.footer now) := by
  simp (disch := decide) only [DefaultTemplate.footer, interpret_append, interpret_text,
    interpret_value, finds.generatedAt, Option.map_some, Option.getD_some, Value.display_text,
    BuiltInPage.footer, Piece.textOf_fixed, Piece.textOf_bound, Piece.textOf_nil,
    List.append_assoc, List.append_nil]

open DefaultTemplate in
private theorem isReadable_tokens : Token.isReadable DefaultTemplate.tokens = true := by
  simp only [tokens, header, warnings, properties, propertyRow, variants, surroundings,
    DefaultTemplate.changelog, changelogItem, footer, text, value, block, String.toList_append,
    Text.toList_literal]
  decide +kernel

/-- The built-in template shows the pieces of the page. -/
theorem render_eq_textOf_pieces
    (now : Text)
    (snapshot : Snapshot)
    (extraction : Extraction)
    (entry : Option Entry)
    (extension : Text) :
    render DefaultTemplate.template (contextOf now snapshot extraction entry extension) =
      Piece.textOf
        (BuiltInPage.pieces now snapshot extraction (BuiltInPage.historyOf entry) extension) := by
  have finds := finds_contextOf now snapshot extraction entry extension
  have lexed := Token.lexed_of_isReadable isReadable_tokens
  rw [render, DefaultTemplate.template, renderFlat_sourceOf lexed]
  simp (disch := decide) only [DefaultTemplate.tokens, interpret_append, interpret_header finds,
    interpret_warnings finds, interpret_properties finds, interpret_variants finds,
    interpret_surroundings finds, interpret_changelog finds, interpret_footer finds,
    BuiltInPage.pieces, Piece.textOf_append]

end Page

end ComponentPages
