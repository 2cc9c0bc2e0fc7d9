import ComponentPages.Proofs.Page.BuiltIn

namespace ComponentPages

/-!
# What stands on a page

The fixed text of a page has no braces, so no tag of the template is left. Its headings tell which
sections there are: one for each list that is not empty.
-/

namespace BuiltInPage

/-! ## Fixed text -/

/-- The headings of the sections that may be missing. -/
def headings : List String :=
  ["## Props\n", "## Variants\n", "## Changelog\n"]

/-- Whether fixed text starts with a heading. -/
def HasHeading (heading : String) (pieces : List Piece) : Prop :=
  ∃ content, .fixed content ∈ pieces ∧ heading.toList <+: content

/-- Whether a piece, if it is fixed text, has no brace. -/
def isBraceless : Piece → Bool
  | .fixed content => content.all (· != '{')
  | .bound _ => true

/-- Whether a piece, if it is fixed text, starts with no heading. -/
def headsNothing : Piece → Bool
  | .fixed content => headings.all fun heading => !heading.toList.isPrefixOf content
  | .bound _ => true

/-- Whether a piece has no brace and starts with no heading, if it is fixed text. -/
def isPlain (piece : Piece) : Bool :=
  isBraceless piece && headsNothing piece

private theorem hasHeading_append
    (heading : String)
    (pieces others : List Piece) :
    HasHeading heading (pieces ++ others) ↔
      HasHeading heading pieces ∨ HasHeading heading others := by
  simp [HasHeading, or_and_right, exists_or]

private theorem hasHeading_cons_fixed
    (heading : String)
    (content : Text)
    (rest : List Piece) :
    HasHeading heading (.fixed content :: rest) ↔
      heading.toList <+: content ∨ HasHeading heading rest := by
  simp [HasHeading, or_and_right, exists_or]

/-- Plain pieces have no heading. -/
theorem not_hasHeading
    {heading : String}
    {pieces : List Piece}
    (isHeading : heading ∈ headings)
    (arePlain : pieces.all isPlain = true) :
    ¬ HasHeading heading pieces := by
  rintro ⟨content, member, isPrefix⟩
  have plain := (Bool.and_eq_true_iff.mp (List.all_eq_true.mp arePlain _ member)).2
  have headsNot := List.all_eq_true.mp plain heading isHeading
  rw [List.isPrefixOf_iff_prefix.mpr isPrefix] at headsNot
  contradiction

private theorem all_isBraceless
    {pieces : List Piece}
    (arePlain : pieces.all isPlain = true) :
    pieces.all isBraceless = true := by
  refine List.all_eq_true.mpr fun piece member => ?_
  exact (Bool.and_eq_true_iff.mp (List.all_eq_true.mp arePlain piece member)).1

section Listing

variable
  {α : Type}
  {heading : String}
  {entry : α → List Piece}
  {ending : List Piece}

private theorem isPlain_flatMap
    (entriesPlain : ∀ item, (entry item).all isPlain = true)
    (items : List α) :
    (items.flatMap entry).all isPlain = true := by
  rw [List.all_flatMap]
  exact List.all_eq_true.mpr fun item _ => entriesPlain item

private theorem isPlain_listed
    (entriesPlain : ∀ item, (entry item).all isPlain = true)
    (endingPlain : ending.all isPlain = true)
    (items : List α) :
    (items.flatMap entry ++ ending).all isPlain = true := by
  rw [List.all_append, isPlain_flatMap entriesPlain, endingPlain]
  rfl

/-- A section that may be missing has its heading if there is something to list. -/
theorem hasHeading_listing
    {other : String}
    (isHeading : other ∈ headings)
    (entriesPlain : ∀ item, (entry item).all isPlain = true)
    (endingPlain : ending.all isPlain = true)
    (items : List α) :
    HasHeading other (listing heading entry ending items) ↔
      items ≠ [] ∧ other.toList <+: heading.toList := by
  cases items with
  | nil =>
      simp [listing, HasHeading]
  | cons item rest =>
      have plain := isPlain_listed entriesPlain endingPlain (item :: rest)
      have isList : listing heading entry ending (item :: rest) =
          .fixed heading.toList :: ((item :: rest).flatMap entry ++ ending) :=
        rfl
      rw [isList, hasHeading_cons_fixed, or_iff_left (not_hasHeading isHeading plain)]
      simp

private theorem all_isBraceless_listing
    (headingBraceless : heading.toList.all (· != '{') = true)
    (entriesPlain : ∀ item, (entry item).all isPlain = true)
    (endingPlain : ending.all isPlain = true)
    (items : List α) :
    (listing heading entry ending items).all isBraceless = true := by
  cases items with
  | nil =>
      rfl
  | cons item rest =>
      have plain := isPlain_listed entriesPlain endingPlain (item :: rest)
      exact Bool.and_eq_true_iff.mpr ⟨headingBraceless, all_isBraceless plain⟩

end Listing

/-! ## The parts of the page -/

private theorem isPlain_header (snapshot : Snapshot) : (header snapshot).all isPlain = true := by
  simp only [header, Text.toList_literal]
  rfl

private theorem isPlain_warnings (status : Status) : (warnings status).all isPlain = true := by
  cases status
  all_goals
    simp only [warnings, Text.toList_literal]
    rfl

private theorem isPlain_propertyRow
    (property : Property) :
    (propertyRow property).all isPlain = true := by
  rw [propertyRow]
  cases property.required <;> rfl

private theorem isPlain_variantBlock (variant : Variant) :
    (variantBlock variant).all isPlain = true := by
  have optionsPlain : ∀ option, (optionBullet option).all isPlain = true :=
    fun _ => rfl
  rw [variantBlock, List.all_append, List.all_append, isPlain_flatMap optionsPlain]
  rfl

private theorem isPlain_surroundings
    (identity extension : Text) :
    (surroundings identity extension).all isPlain = true := by
  have notesPlain : ∀ note, (noteBullet note).all isPlain = true :=
    fun _ => rfl
  have tagsPlain : ∀ tag, (tagWord tag).all isPlain = true :=
    fun _ => rfl
  have relatedPlain : ∀ other, (relatedLink extension other).all isPlain = true :=
    fun _ => rfl
  simp only [surroundings, List.all_append, isPlain_flatMap notesPlain, isPlain_flatMap tagsPlain,
    isPlain_flatMap relatedPlain, Bool.and_true]
  rfl

private theorem isPlain_stepBullet (item : HistoryItem) : (stepBullet item).all isPlain = true := by
  rw [stepBullet]
  cases item.breaking <;> rfl

private theorem isPlain_footer (now : Text) : (footer now).all isPlain = true := by
  rfl

private theorem isPlain_lineBreak : [Piece.fixed "\n".toList].all isPlain = true := by
  rfl

/-! ## The history -/

/-- A history shows no steps only if it has none. -/
theorem latest_eq_nil_iff {history : List HistoryItem} : latest history = [] ↔ history = [] := by
  simp [latest]

/-- The steps that a page shows are the last ones, the last one first. -/
theorem getElem?_latest
    {history : List HistoryItem}
    {position : Nat}
    (isShown : position < (latest history).length) :
    (latest history)[position]? = history[history.length - 1 - position]? := by
  simp only [latest, List.length_take, List.length_reverse] at isShown ⊢
  rw [List.getElem?_take_of_lt (by omega), List.getElem?_reverse (by omega)]

/-- A step of the history is marked as breaking if it is. -/
theorem mem_stepBullet_iff (item : HistoryItem) :
    .fixed ", breaking".toList ∈ stepBullet item ↔ item.breaking = true := by
  cases breaks : item.breaking <;> simp [stepBullet, breaks]

/-! ## The whole page -/

variable
  (now : Text)
  (snapshot : Snapshot)
  (extraction : Extraction)
  (history : List HistoryItem)
  (extension : Text)

/-- Of the template no brace is left. -/
theorem all_isBraceless_pieces :
    (pieces now snapshot extraction history extension).all isBraceless = true := by
  simp only [pieces, List.all_append, Bool.and_eq_true]
  refine ⟨⟨⟨⟨⟨⟨?_, ?_⟩, ?_⟩, ?_⟩, ?_⟩, ?_⟩, ?_⟩
  · exact all_isBraceless (isPlain_header snapshot)
  · exact all_isBraceless (isPlain_warnings snapshot.status)
  · refine all_isBraceless_listing ?_ isPlain_propertyRow isPlain_lineBreak _
    simp only [String.toList_append, Text.toList_literal]
    rfl
  · exact all_isBraceless_listing rfl isPlain_variantBlock rfl _
  · exact all_isBraceless (isPlain_surroundings snapshot.identity extension)
  · exact all_isBraceless_listing rfl isPlain_stepBullet isPlain_lineBreak _
  · exact all_isBraceless (isPlain_footer now)

/-- The headings of a page are those of the lists that are not empty. -/
theorem hasHeading_pieces
    {heading : String}
    (isHeading : heading ∈ headings) :
    HasHeading heading (pieces now snapshot extraction history extension) ↔
      (extraction.properties ≠ [] ∧ heading = "## Props\n") ∨
        (extraction.variants ≠ [] ∧ heading = "## Variants\n") ∨
          (history ≠ [] ∧ heading = "## Changelog\n") := by
  have notHeader := not_hasHeading isHeading (isPlain_header snapshot)
  have notWarnings := not_hasHeading isHeading (isPlain_warnings snapshot.status)
  have notSurroundings :=
    not_hasHeading isHeading (isPlain_surroundings snapshot.identity extension)
  have notFooter := not_hasHeading isHeading (isPlain_footer now)
  simp only [pieces, properties, variants, changelog, hasHeading_append, notHeader, notWarnings,
    notSurroundings, notFooter, false_or, or_false,
    hasHeading_listing isHeading isPlain_propertyRow isPlain_lineBreak,
    hasHeading_listing isHeading isPlain_variantBlock List.all_nil,
    hasHeading_listing isHeading isPlain_stepBullet isPlain_lineBreak, Ne, latest_eq_nil_iff,
    or_assoc]
  simp only [headings, List.mem_cons, List.not_mem_nil, or_false] at isHeading
  rcases isHeading with rfl | rfl | rfl
  all_goals
    simp only [String.toList_append, Text.toList_literal]
    exact or_congr (and_congr_right' (by decide))
      (or_congr (and_congr_right' (by decide)) (and_congr_right' (by decide)))

/--
The page of the built-in template: the header, then a row for each property, a block for each style
variant, what the catalogue says, and a bullet for each of the last five steps of the history, the
last one first. Of the template's tags nothing is left, and a list that is empty has no heading.
-/
theorem render_defaultTemplate
    (now : Text)
    (snapshot : Snapshot)
    (extraction : Extraction)
    (entry : Option Entry)
    (extension : Text) :
    Template.render DefaultTemplate.template
          (Page.contextOf now snapshot extraction entry extension) =
        Piece.textOf (pieces now snapshot extraction (historyOf entry) extension) ∧
      (∀ content, .fixed content ∈ pieces now snapshot extraction (historyOf entry) extension →
        '{' ∉ content) ∧
      (HasHeading "## Props\n" (pieces now snapshot extraction (historyOf entry) extension) ↔
        extraction.properties ≠ []) ∧
      (HasHeading "## Variants\n" (pieces now snapshot extraction (historyOf entry) extension) ↔
        extraction.variants ≠ []) ∧
      (HasHeading "## Changelog\n" (pieces now snapshot extraction (historyOf entry) extension) ↔
        historyOf entry ≠ []) ∧
      (latest (historyOf entry)).length = min 5 (historyOf entry).length ∧
      (∀ position < (latest (historyOf entry)).length,
        (latest (historyOf entry))[position]? =
          (historyOf entry)[(historyOf entry).length - 1 - position]?) ∧
      ∀ item, .fixed ", breaking".toList ∈ stepBullet item ↔ item.breaking = true := by
  refine ⟨Page.render_eq_textOf_pieces now snapshot extraction entry extension, ?_, ?_, ?_, ?_, ?_,
    fun position => getElem?_latest, mem_stepBullet_iff⟩
  · intro content isFixed hasBrace
    have braceless := List.all_eq_true.mp
      (all_isBraceless_pieces now snapshot extraction (historyOf entry) extension) _ isFixed
    simpa using List.all_eq_true.mp braceless '{' hasBrace
  · rw [hasHeading_pieces now snapshot extraction (historyOf entry) extension (by decide)]
    simp
  · rw [hasHeading_pieces now snapshot extraction (historyOf entry) extension (by decide)]
    simp
  · rw [hasHeading_pieces now snapshot extraction (historyOf entry) extension (by decide)]
    simp
  · rw [latest, List.length_take, List.length_reverse]

end BuiltInPage

end ComponentPages
