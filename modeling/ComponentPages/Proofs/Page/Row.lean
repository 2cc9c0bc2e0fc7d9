import ComponentPages.Proofs.Declaration.Grouping
import ComponentPages.Proofs.Declaration.MarkedField
import ComponentPages.Proofs.Page.BuiltIn

namespace ComponentPages

/-!
# Rows of the table of properties

A row of a table has a bar at its start and one behind each cell, and ends with its line. It keeps
that form if no cell has a line break, and no bar without a backslash before it. The cells of a
property come from its declaration by different ways. Bars in the type are escaped, and the short
form of a type has no line break; but the name and the default value are shown as they are written.
-/

/-! ## Bars -/

namespace TableRow

/-- The number of bars without a backslash before them in a text that a character precedes. -/
def unescapedBars : Option Char → Text → Nat
  | _, [] => 0
  | previous, character :: rest =>
      (if character = '|' ∧ previous ≠ some '\\' then 1 else 0) +
        unescapedBars (some character) rest

/-- Whether a text can stand in a cell: it has no line break and no bar that is not escaped. -/
structure IsCell (text : Text) : Prop where
  noLineBreak : '\n' ∉ text
  noBar : unescapedBars none text = 0

private theorem isCell_iff {text : Text} :
    IsCell text ↔ '\n' ∉ text ∧ unescapedBars none text = 0 :=
  ⟨fun isCell => ⟨isCell.noLineBreak, isCell.noBar⟩, fun both => ⟨both.1, both.2⟩⟩

instance (text : Text) : Decidable (IsCell text) :=
  decidable_of_iff' _ isCell_iff

/-- Whether a text is one line with as many cells as there are columns. -/
def IsRow (columns : Nat) (text : Text) : Prop :=
  ∃ line, text = line ++ ['\n'] ∧ '\n' ∉ line ∧ unescapedBars none line = columns + 1

/-- Bars are counted piece by piece, with the last character of the piece before. -/
theorem unescapedBars_append
    (previous : Option Char)
    (text more : Text) :
    unescapedBars previous (text ++ more) =
      unescapedBars previous text + unescapedBars (text.getLast?.or previous) more := by
  induction text generalizing previous with
  | nil =>
      simp [unescapedBars]
  | cons character rest inductionHypothesis =>
      rw [List.cons_append, unescapedBars, unescapedBars, inductionHypothesis, Nat.add_assoc,
        List.getLast?_cons]
      cases rest.getLast? <;> rfl

/-- What precedes a text matters only if it is a backslash. -/
private theorem unescapedBars_of_ne
    {previous : Option Char}
    (notEscape : previous ≠ some '\\')
    (text : Text) :
    unescapedBars previous text = unescapedBars none text := by
  cases text with
  | nil =>
      rfl
  | cons character rest =>
      simp [unescapedBars, notEscape]

/-- A backslash in front can only escape a bar. -/
private theorem unescapedBars_le
    (previous : Option Char)
    (text : Text) :
    unescapedBars previous text ≤ unescapedBars none text := by
  cases text with
  | nil =>
      exact Nat.le_refl _
  | cons character rest =>
      simp only [unescapedBars]
      refine Nat.add_le_add_right ?_ _
      split_ifs <;> simp_all

/-! ## Cells -/

/-- Texts that can stand in a cell can do so one behind another. -/
theorem IsCell.append
    {text more : Text}
    (isCell : IsCell text)
    (moreIsCell : IsCell more) :
    IsCell (text ++ more) where
  noLineBreak member :=
    (List.mem_append.mp member).elim isCell.noLineBreak moreIsCell.noLineBreak
  noBar := by
    rw [unescapedBars_append, isCell.noBar, Nat.zero_add]
    exact Nat.eq_zero_of_le_zero (moreIsCell.noBar ▸ unescapedBars_le _ more)

/-- Text in backquotes can stand in a cell if it can do so without them. -/
theorem isCell_quoted {text : Text} : IsCell ('`' :: (text ++ ['`'])) ↔ IsCell text := by
  have sameBars : unescapedBars none ('`' :: (text ++ ['`'])) = unescapedBars none text := by
    rw [unescapedBars, unescapedBars_append, unescapedBars_of_ne (by decide)]
    simp [unescapedBars]
  constructor
  · rintro ⟨noLineBreak, noBar⟩
    exact ⟨by simpa using noLineBreak, sameBars ▸ noBar⟩
  · rintro ⟨noLineBreak, noBar⟩
    exact ⟨by simpa using noLineBreak, sameBars.trans noBar⟩

/-- A text in which the bars are escaped can stand in a cell unless it has a line break. -/
theorem isCell_replaceCharacter
    {text : Text}
    (noLineBreak : '\n' ∉ text) :
    IsCell (text.replaceCharacter '|' ['\\', '|']) where
  noLineBreak member := by
    obtain ⟨character, inText, isReplaced⟩ := List.mem_flatMap.mp member
    split at isReplaced
    · exact absurd isReplaced (by decide)
    · obtain rfl := List.mem_singleton.mp isReplaced
      exact noLineBreak inText
  noBar := by
    have noneBehind (previous : Option Char) :
        unescapedBars previous (text.replaceCharacter '|' ['\\', '|']) = 0 := by
      clear noLineBreak
      rw [Text.replaceCharacter]
      induction text generalizing previous with
      | nil =>
          rfl
      | cons character rest inductionHypothesis =>
          rw [List.flatMap_cons, unescapedBars_append, inductionHypothesis]
          split
          · simp [unescapedBars]
          · rename_i noBar
            simp [unescapedBars, noBar]
    exact noneBehind none

/-! ## Rows -/

/-- A line with a bar in front of the first cell and one behind each. -/
def line (cells : List Text) : Text :=
  '|' :: cells.flatMap fun cell => ' ' :: (cell ++ [' ', '|'])

/-- A cell brings the bar behind it besides its own bars. -/
private theorem unescapedBars_cells_cons
    (cell : Text)
    (later : List Text) :
    unescapedBars (some '|') ((cell :: later).flatMap fun cell => ' ' :: (cell ++ [' ', '|'])) =
      unescapedBars none cell + 1 +
        unescapedBars (some '|') (later.flatMap fun cell => ' ' :: (cell ++ [' ', '|'])) := by
  have ofCell : unescapedBars (some '|') (' ' :: (cell ++ [' ', '|'])) =
      unescapedBars none cell + 1 := by
    rw [unescapedBars, unescapedBars_append, unescapedBars_of_ne (by decide)]
    simp [unescapedBars]
  have endsInBar : (' ' :: (cell ++ [' ', '|'])).getLast?.or (some '|') = some '|' := by
    rw [List.append_cons cell, ← List.cons_append, List.getLast?_concat]
    rfl
  rw [List.flatMap_cons, unescapedBars_append, ofCell, endsInBar]

/-- A line has at least one bar for each cell, and no more only if no cell has a bar. -/
private theorem unescapedBars_cells (cells : List Text) :
    let bars := unescapedBars (some '|') (cells.flatMap fun cell => ' ' :: (cell ++ [' ', '|']))
    cells.length ≤ bars ∧
      (bars = cells.length ↔ ∀ cell ∈ cells, unescapedBars none cell = 0) := by
  induction cells with
  | nil =>
      simp [unescapedBars]
  | cons cell later inductionHypothesis =>
      obtain ⟨atLeast, noMoreIff⟩ := inductionHypothesis
      rw [unescapedBars_cells_cons, List.length_cons, List.forall_mem_cons, ← noMoreIff]
      omega

/-- A line of cells is a row if nothing in a cell breaks it. -/
theorem isRow_line_iff {cells : List Text} :
    IsRow cells.length (line cells ++ ['\n']) ↔ ∀ cell ∈ cells, IsCell cell := by
  have oneLine : '\n' ∉ line cells ↔ ∀ cell ∈ cells, '\n' ∉ cell := by
    simp [line]
  have noBars : unescapedBars none (line cells) = cells.length + 1 ↔
      ∀ cell ∈ cells, unescapedBars none cell = 0 := by
    rw [← (unescapedBars_cells cells).2, line, unescapedBars]
    simp
    omega
  constructor
  · rintro ⟨other, sameText, noLineBreak, sameBars⟩ cell isCell
    obtain rfl := List.append_cancel_right sameText
    exact ⟨oneLine.mp noLineBreak cell isCell, noBars.mp sameBars cell isCell⟩
  · intro areCells
    exact ⟨line cells, rfl, oneLine.mpr fun cell isCell => (areCells cell isCell).noLineBreak,
      noBars.mpr fun cell isCell => (areCells cell isCell).noBar⟩

end TableRow

/-! ## The row of a property -/

namespace Property

open TableRow

/-- Every description in the table is a cell. -/
theorem isCell_descriptions : ∀ entry ∈ descriptions, IsCell entry.2.toList := by
  simp only [descriptions, List.forall_mem_cons, Text.toList_literal]
  decide

/-- The description by type of a name that is a cell is one. -/
theorem isCell_describeByType
    {name : Text}
    (isCell : IsCell name)
    (typeText : Text) :
    IsCell (describeByType name typeText) := by
  have quoted : IsCell ("`".toList ++ name ++ "`".toList) := isCell_quoted.mpr isCell
  have leadsThe : IsCell "The ".toList := by
    decide
  rw [describeByType]
  split_ifs
  · exact .append (by decide) quoted
  · exact (leadsThe.append quoted).append (by decide)
  · exact (leadsThe.append quoted).append (by decide)
  · exact .append (by decide) quoted
  · exact (leadsThe.append quoted).append (by decide)

/-- A description can stand in a cell if the name that it tells can do so. -/
theorem isCell_describe
    {name : Text}
    (isCell : IsCell name)
    (typeText : Text) :
    IsCell (describe name typeText) := by
  rw [describe]
  split
  · rename_i found
    exact isCell_descriptions _ (List.mem_of_find?_eq_some found)
  · exact isCell_describeByType isCell typeText

/-- The cells of the row of a property. -/
def cells (property : Property) : List Text :=
  ['`' :: (property.name ++ ['`']),
    '`' :: (property.typeText.replaceCharacter '|' ['\\', '|'] ++ ['`']),
    (if property.required then "true" else "false").toList,
    property.defaultValue.getD [],
    property.description]

/-- The row of a property is the line of its cells. -/
theorem textOf_propertyRow
    (property : Property) :
    Piece.textOf (BuiltInPage.propertyRow property) = line property.cells ++ ['\n'] := by
  simp [BuiltInPage.propertyRow, line, cells]

/-- What a field that is read as a property has of it besides its name and default value. -/
theorem eq_of_toProperty
    {field : Text}
    {property : Property}
    (isRead : Field.toProperty field = .ok property) :
    (∃ written, property.typeText = TypeText.normalize written) ∧
      property.description = describe property.name property.typeText := by
  rw [Field.toProperty] at isRead
  split at isRead
  · contradiction
  · rename_i shape _
    dsimp only at isRead
    split_ifs at isRead
    obtain rfl := Except.ok.inj isRead
    dsimp only
    exact ⟨⟨(Field.separateDefault shape.typeText).1, rfl⟩, rfl⟩

/-- Whether the row of a property is well formed is told by its name and its default value. -/
theorem isRow_propertyRow_iff
    {field : Text}
    {property : Property}
    (isRead : Field.toProperty field = .ok property) :
    IsRow 5 (Piece.textOf (BuiltInPage.propertyRow property)) ↔
      IsCell property.name ∧ IsCell (property.defaultValue.getD []) := by
  obtain ⟨⟨written, isShort⟩, isDescribed⟩ := eq_of_toProperty isRead
  have noLineBreak : '\n' ∉ property.typeText := by
    intro member
    rw [isShort] at member
    exact absurd ((TypeText.isSpaced_normalize _).onlySpaces '\n' member (by decide)) (by decide)
  have typeIsCell := isCell_replaceCharacter noLineBreak
  have requiredIsCell : IsCell (if property.required then "true" else "false").toList := by
    cases property.required <;> decide
  have areCells : IsRow 5 (Piece.textOf (BuiltInPage.propertyRow property)) ↔
      ∀ cell ∈ property.cells, IsCell cell := by
    rw [textOf_propertyRow]
    exact isRow_line_iff
  rw [areCells]
  simp only [cells, List.forall_mem_cons, isCell_quoted]
  constructor
  · rintro ⟨nameIsCell, -, -, defaultIsCell, -⟩
    exact ⟨nameIsCell, defaultIsCell⟩
  · rintro ⟨nameIsCell, defaultIsCell⟩
    refine ⟨nameIsCell, typeIsCell, requiredIsCell, defaultIsCell, ?_, List.forall_mem_nil _⟩
    rw [isDescribed]
    exact isCell_describe nameIsCell property.typeText

end Property

/-! ## The rows of a page -/

namespace TableRow

/-- The row of each property stands on the page. -/
theorem isInfix_page
    {extraction : Extraction}
    {property : Property}
    (member : property ∈ extraction.properties)
    (now : Text)
    (snapshot : Snapshot)
    (history : List HistoryItem)
    (extension : Text) :
    Piece.textOf (BuiltInPage.propertyRow property) <:+:
      Piece.textOf (BuiltInPage.pieces now snapshot extraction history extension) := by
  obtain ⟨before, after, isSplit⟩ := List.append_of_mem member
  have inTable : BuiltInPage.propertyRow property <:+:
      BuiltInPage.properties extraction.properties := by
    rw [BuiltInPage.properties, BuiltInPage.listing, isSplit, if_neg (by simp),
      List.flatMap_append, List.flatMap_cons, List.append_assoc, List.append_assoc]
    exact (List.prefix_append _ _).isInfix.trans
      ((List.suffix_append _ _).trans (List.suffix_cons _ _)).isInfix
  have onPage : BuiltInPage.properties extraction.properties <:+:
      BuiltInPage.pieces now snapshot extraction history extension := by
    simp only [BuiltInPage.pieces, List.append_assoc]
    exact (List.prefix_append _ _).isInfix.trans
      ((List.suffix_append _ _).trans (List.suffix_append _ _)).isInfix
  obtain ⟨front, back, isWhole⟩ := inTable.trans onPage
  rw [← isWhole, Piece.textOf_append, Piece.textOf_append]
  exact ⟨_, _, rfl⟩

/--
The page of a source has a row for each of its properties, in their order. A row is one line of five
cells exactly if no line break and no bar without a backslash before it stands in the property's
name or default value.
-/
theorem isRow_of_ofSource
    {source : Text}
    {extraction : Extraction}
    (extracted : Extraction.ofSource source = .ok extraction)
    (now : Text)
    (snapshot : Snapshot)
    (entry : Option Entry)
    (extension : Text) :
    Template.render DefaultTemplate.template
          (Page.contextOf now snapshot extraction entry extension) =
        Piece.textOf
          (BuiltInPage.pieces now snapshot extraction (BuiltInPage.historyOf entry) extension) ∧
      ∀ property ∈ extraction.properties,
        (IsRow 5 (Piece.textOf (BuiltInPage.propertyRow property)) ↔
          IsCell property.name ∧ IsCell (property.defaultValue.getD [])) := by
  refine ⟨Page.render_eq_textOf_pieces now snapshot extraction entry extension, ?_⟩
  intro property member
  obtain ⟨field, isRead⟩ := Extraction.exists_field extracted member
  exact Property.isRow_propertyRow_iff isRead

/-- A source whose one field has a default marker is read as that field. -/
theorem ofSource_of_markedField
    {owner lead value : Text}
    {property : Property}
    (isOwner : Text.IsIdentifier owner)
    (leadOrdinary : ∀ character ∈ lead, isOrdinary character = true)
    (isValue : IsDefaultValue value)
    (isScope : Scope.content?
      ('{' :: (lead ++ (Comment.defaultMarker value ++ ['\n']) ++ ['}'])) =
        some (lead ++ (Comment.defaultMarker value ++ ['\n'])))
    (lacksBrace : '{' ∉ lead ++ (Comment.defaultMarker value ++ ['\n']))
    (lacksParenthesis : '(' ∉ lead ++ (Comment.defaultMarker value ++ ['\n']))
    (isList : PropertyList.ofBody (propertiesName owner)
      (lead ++ (Comment.defaultMarker value ++ ['\n'])) = ⟨[property], []⟩) :
    Extraction.ofSource (Anchor.Form.interface.declaration (propertiesName owner)
        (lead ++ (Comment.defaultMarker value ++ ['\n']))) =
      .ok ⟨[property], [], []⟩ := by
  have isRead := Extraction.ofSource_of_marker isOwner (.of_ordinary leadOrdinary) isValue
    (.of_ordinary (by decide)) (Scope.balanced_of_content? isScope)
    (.of_lacks lacksBrace lacksParenthesis) .interface
  simp only [isList] at isRead
  exact isRead

/-- The snapshot of a small component. -/
def fileSnapshot : Snapshot where
  identity := "File".toList
  version := "1.0.0".toList
  lastModified := "2024-01-01T00:00:00+00:00".toList
  contentHash := "aaa".toList
  sizeBytes := 128
  exports := []
  status := .stable
  filePath := ⟨"src/components/file.tsx".toList⟩

/-- A property with a bar in its type. -/
def unionProperty : Property :=
  ⟨"mode".toList, "Read | Write".toList, false, some "Read".toList, "The `mode` prop".toList⟩

/-- A property with a bar in its default value. -/
def flagsProperty : Property :=
  ⟨"mode".toList, "number".toList, true, some "READ | WRITE".toList, "The `mode` value".toList⟩

/-- Bars in a type are escaped. -/
theorem isRow_of_barInType :
    Extraction.ofSource
        "interface FileProps \x7b\n  mode?: Read | Write /* @default Read */\n\x7d".toList =
      .ok ⟨[unionProperty], [], []⟩ ∧
    Piece.textOf (BuiltInPage.propertyRow unionProperty) =
      "| `mode` | `Read \\| Write` | false | Read | The `mode` prop |\n".toList ∧
    IsRow 5 (Piece.textOf (BuiltInPage.propertyRow unionProperty)) := by
  have extracted : Extraction.ofSource
      "interface FileProps \x7b\n  mode?: Read | Write /* @default Read */\n\x7d".toList =
        .ok ⟨[unionProperty], [], []⟩ := by
    refine Eq.trans (congrArg Extraction.ofSource ?_)
      (ofSource_of_markedField (show Text.IsIdentifier "File".toList by decide)
        (show ∀ character ∈ "\n  mode?: Read | Write ".toList,
          isOrdinary character = true by decide)
        (show IsDefaultValue "Read".toList by decide) (by decide) (by decide) (by decide)
        (by decide))
    simp only [Text.toList_literal]
    decide
  obtain ⟨-, areRows⟩ := isRow_of_ofSource extracted [] fileSnapshot none "md".toList
  refine ⟨extracted, by decide, ?_⟩
  exact (areRows unionProperty List.mem_cons_self).mpr ⟨by decide, by decide⟩

/-- Bars in a default value are not escaped: the row has one cell too many. -/
theorem not_isRow_of_barInDefault :
    Extraction.ofSource
        "interface FileProps \x7b\n  mode: number /* @default READ | WRITE */\n\x7d".toList =
      .ok ⟨[flagsProperty], [], []⟩ ∧
    Piece.textOf (BuiltInPage.propertyRow flagsProperty) <:+:
      Template.render DefaultTemplate.template
        (Page.contextOf [] fileSnapshot ⟨[flagsProperty], [], []⟩ none "md".toList) ∧
    Piece.textOf (BuiltInPage.propertyRow flagsProperty) =
      "| `mode` | `number` | true | READ | WRITE | The `mode` value |\n".toList ∧
    unescapedBars none (Piece.textOf (BuiltInPage.propertyRow flagsProperty)) = 7 ∧
    ¬ IsRow 5 (Piece.textOf (BuiltInPage.propertyRow flagsProperty)) := by
  have sevenBars :
      unescapedBars none (Piece.textOf (BuiltInPage.propertyRow flagsProperty)) = 7 := by
    decide
  refine ⟨?_, ?_, by decide, sevenBars, ?_⟩
  · refine Eq.trans (congrArg Extraction.ofSource ?_)
      (ofSource_of_markedField (show Text.IsIdentifier "File".toList by decide)
        (show ∀ character ∈ "\n  mode: number ".toList, isOrdinary character = true by decide)
        (show IsDefaultValue "READ | WRITE".toList by decide) (by decide) (by decide) (by decide)
        (by decide))
    simp only [Text.toList_literal]
    decide
  · rw [Page.render_eq_textOf_pieces]
    have isListed : flagsProperty ∈ (⟨[flagsProperty], [], []⟩ : Extraction).properties :=
      List.mem_cons_self
    exact isInfix_page isListed _ _ _ _
  · rintro ⟨line, isLine, -, sixBars⟩
    rw [isLine, unescapedBars_append, sixBars] at sevenBars
    simp [unescapedBars] at sevenBars

end TableRow

end ComponentPages
