import ComponentPages.Proofs.Declaration.PlainField
import ComponentPages.Proofs.Declaration.WrittenDeclaration

namespace ComponentPages

/-!
# Marked fields

A default marker behind the type of one field of a declaration is captured whole and disturbs
nothing else, if the marker is inert. A marker that is not may end the field, or the declaration.
-/

namespace PlainField

/-- The fields one after another. -/
def sourceOf (fields : List PlainField) : Text :=
  fields.flatMap source

private theorem sourceOf_append
    (before after : List PlainField) :
    sourceOf (before ++ after) = sourceOf before ++ sourceOf after :=
  List.flatMap_append

/-! ## Text without markers -/

/-- The characters of fields without markers, and of what stands between them. -/
def isPlain (character : Char) : Bool :=
  WrittenField.isLead character || Field.isGap character

private theorem isPlain_of_mem_gap
    {gap : Text}
    (areGap : ∀ character ∈ gap, Field.isGap character = true) :
    ∀ character ∈ gap, isPlain character = true := by
  intro character member
  simp [isPlain, areGap character member]

private theorem isPlain_of_mem_front
    (field : PlainField) :
    ∀ character ∈ field.front ++ [' '], isPlain character = true := by
  intro character member
  simp [isPlain, field.isLead_of_mem character member]

/-- Fields without markers hold plain characters only. -/
private theorem isPlain_of_mem_sourceOf
    {fields : List PlainField}
    (unmarked : ∀ field ∈ fields, field.value = none) :
    ∀ character ∈ sourceOf fields, isPlain character = true := by
  intro character member
  obtain ⟨field, isField, inSource⟩ := List.mem_flatMap.mp member
  rw [source, trimmed, note, unmarked field isField, List.append_nil] at inSource
  rcases List.mem_append.mp inSource with inFront | inBehind
  · exact field.isPlain_of_mem_front character (List.mem_append_left _ inFront)
  · exact isPlain_of_mem_gap field.isGap character inBehind

section Plain

variable {text : Text} (arePlain : ∀ character ∈ text, isPlain character = true)

include arePlain

private theorem isClosed_of_plain : IsClosed text :=
  .of_ordinary fun character member => isOrdinary_of_kind (by decide) (arePlain character member)

private theorem not_mem_of_plain
    {other : Char}
    (isOther : isPlain other = false) :
    other ∉ text := by
  intro member
  rw [arePlain other member] at isOther
  contradiction

end Plain

/-! ## The properties of a body -/

/-- A body gives back the properties that are meant, in order. -/
theorem ofBody_properties
    {gap : Text}
    {fields : List PlainField}
    (areGap : ∀ character ∈ gap, Field.isGap character = true)
    (areEnded : ∀ ending ∈ (fields.map behind).dropLast,
      ∃ character ∈ ending, Field.isTerminator character = true)
    (distinct : (fields.map name).Nodup)
    (declaration : Text) :
    PropertyList.ofBody declaration (gap ++ sourceOf fields) = ⟨fields.map property, []⟩ := by
  have isBody : Field.ofBody (gap ++ layout.sourceOf fields) = fields.map layout.trimmed := by
    refine Field.Layout.ofBody_sourceOf areGap fun field member => ends (areEnded field.behind ?_)
    rw [← List.map_dropLast]
    exact List.mem_map_of_mem member
  rw [PropertyList.ofBody]
  exact (congrArg (PropertyList.ofFieldsFrom declaration []) isBody).trans
    (PropertyList.ofFieldsFrom_eq (fun field _ => field.toProperty_trimmed) distinct (by simp))

/-! ## In front of a marker -/

section Keyword

variable {α : Type} {pattern : Text.Pattern α} {keyword : Text}

private theorem misses_lead
    (isPattern : IsKeywordPattern pattern keyword)
    (field : PlainField) :
    pattern.Misses (field.lead ++ [':', ' ']) :=
  field.named.misses_lead isPattern

/-- No keyword starts in a field without a marker, unless its type ends in one. -/
theorem misses_source
    {field : PlainField}
    (isPattern : IsKeywordPattern pattern keyword)
    (terminates : ∃ character ∈ field.behind, Field.isTerminator character = true)
    (unmarked : field.value = none)
    (noKeyword : ¬ keyword <:+ field.typeName) :
    pattern.Misses field.source := by
  obtain ⟨stop, more, isBehind⟩ := List.exists_cons_of_ne_nil
    (show field.behind ≠ [] by
      obtain ⟨character, member, -⟩ := terminates
      exact List.ne_nil_of_mem member)
  have isStop := field.isGap stop (by rw [isBehind]; exact List.mem_cons_self)
  intro rest
  have typeAbsent : pattern.Absent field.typeName (field.behind ++ rest) := by
    rw [isBehind]
    exact isPattern.absent_name field.isTypeName (WrittenField.not_mem_keyword_of_isGap isStop)
      (.inr noKeyword) (more ++ rest)
  have isSplit : field.source =
      (field.lead ++ [':', ' ']) ++ (field.typeName ++ field.behind) := by
    simp [source, trimmed, note, unmarked, front]
  rw [isSplit]
  exact (misses_lead isPattern field _).append
    (typeAbsent.append (WrittenField.misses_gap isPattern field.isGap rest))

/-- No keyword starts in fields without markers unless a type ends in it. -/
theorem misses_sourceOf
    {fields : List PlainField}
    (isPattern : IsKeywordPattern pattern keyword)
    (areEnded : ∀ field ∈ fields,
      ∃ character ∈ field.behind, Field.isTerminator character = true)
    (unmarked : ∀ field ∈ fields, field.value = none)
    (noKeyword : ∀ field ∈ fields, ¬ keyword <:+ field.typeName) :
    pattern.Misses (sourceOf fields) := by
  induction fields with
  | nil =>
      intro rest
      trivial
  | cons field later inductionHypothesis =>
      obtain ⟨isEnded, laterEnded⟩ := List.forall_mem_cons.mp areEnded
      obtain ⟨isUnmarked, laterUnmarked⟩ := List.forall_mem_cons.mp unmarked
      obtain ⟨noneHere, noneLater⟩ := List.forall_mem_cons.mp noKeyword
      exact (misses_source isPattern isEnded isUnmarked noneHere).append
        (inductionHypothesis laterEnded laterUnmarked noneLater)

end Keyword

/-- The type in front of a marker is no keyword with a name behind it. -/
private theorem absent_typeName
    (field : PlainField)
    (form : Anchor.Form)
    (rest : Text) :
    form.head.Absent (field.typeName ++ [' ']) ('/' :: rest) := by
  refine (form.head_readsUpTo (by decide)).absent fun place isPlace _ previous => ?_
  refine Option.eq_none_iff_forall_ne_some.mpr fun result isMatch => ?_
  obtain ⟨-, -, afterKeyword, afterBlanks, afterName, rfl, isAfterBlanks, isName, -⟩ :=
    Anchor.Form.of_head isMatch
  obtain ⟨first, later, rfl, isBlank, rfl⟩ := Text.afterBlanks?_eq_some_iff.mp isAfterBlanks
  obtain ⟨before, whole⟩ := isPlace
  rcases List.eq_nil_or_concat later with rfl | ⟨others, last, rfl⟩
  · contradiction
  · -- Behind the blank there is more, so the blank stands in the name of the type.
    have inType := congrArg List.dropLast whole
    simp only [List.concat_eq_append, List.dropLast_concat, ← List.append_assoc,
      ← List.cons_append] at inType
    have isFirst : first ∈ field.typeName := by
      rw [← inType]
      simp
    rw [field.isTypeName.isBlank_eq_false first isFirst] at isBlank
    contradiction

/-- What stands in front of the marker. -/
def beforeMarker (gap : Text) (before : List PlainField) (field : PlainField) : Text :=
  gap ++ (sourceOf before ++ (field.front ++ [' ']))

/-- In front of a marker stands no head that would look for its body in the marker. -/
private theorem absent_beforeMarker
    {gap : Text}
    {before : List PlainField}
    {form : Anchor.Form}
    (areGap : ∀ character ∈ gap, Field.isGap character = true)
    (areEnded : ∀ other ∈ before, ∃ character ∈ other.behind, Field.isTerminator character = true)
    (unmarked : ∀ other ∈ before, other.value = none)
    (noKeyword : ∀ other ∈ before, ¬ form.keyword <:+ other.typeName)
    (field : PlainField)
    (rest : Text) :
    form.head.Absent (beforeMarker gap before field) ('/' :: rest) := by
  have isPattern := form.isKeywordPattern_head
  have isSplit : field.front ++ [' '] =
      (field.lead ++ [':', ' ']) ++ (field.typeName ++ [' ']) := by
    simp [front]
  rw [beforeMarker, isSplit]
  exact (WrittenField.misses_gap isPattern areGap _).append
    ((misses_sourceOf isPattern areEnded unmarked noKeyword _).append
      ((misses_lead isPattern field _).append (field.absent_typeName form rest)))

/-! ## The body of a marked field -/

/-- What stands behind the marker. -/
def behindMarker (field : PlainField) (after : List PlainField) : Text :=
  field.behind ++ sourceOf after

section Marked

variable {gap value : Text} {before after : List PlainField} {field : PlainField}

/-- Fields of which one is marked are what stands before the marker, the marker, and the rest. -/
theorem sourceOf_mark
    (isValue : IsDefaultValue value)
    (isInert : IsInert (Comment.defaultMarker value)) :
    gap ++ sourceOf (before ++ field.mark isValue isInert :: after) =
      beforeMarker gap before field ++
        (Comment.defaultMarker value ++ behindMarker field after) := by
  have isSplit : sourceOf (field.mark isValue isInert :: after) =
      field.front ++ ' ' :: Comment.defaultMarker value ++ field.behind ++ sourceOf after :=
    rfl
  rw [sourceOf_append, isSplit, beforeMarker, behindMarker]
  simp

variable (areGap : ∀ character ∈ gap, Field.isGap character = true)
  (unmarked : ∀ other ∈ before ++ field :: after, other.value = none)

include areGap unmarked

/-- The text on both sides of a marker is plain. -/
private theorem isPlain_of_mem_sides :
    ∀ character ∈ beforeMarker gap before field ++ behindMarker field after,
      isPlain character = true := by
  obtain ⟨beforeUnmarked, behindUnmarked⟩ := List.forall_mem_append.mp unmarked
  have afterUnmarked := (List.forall_mem_cons.mp behindUnmarked).2
  rw [beforeMarker, behindMarker]
  simp only [List.forall_mem_append]
  exact ⟨⟨isPlain_of_mem_gap areGap, isPlain_of_mem_sourceOf beforeUnmarked,
    List.forall_mem_append.mp field.isPlain_of_mem_front⟩, isPlain_of_mem_gap field.isGap,
    isPlain_of_mem_sourceOf afterUnmarked⟩

/-- What stands before a marker is closed, and so is what stands behind it. -/
theorem isClosed_sides :
    IsClosed (beforeMarker gap before field) ∧ IsClosed (behindMarker field after) := by
  obtain ⟨beforePlain, behindPlain⟩ :=
    List.forall_mem_append.mp (isPlain_of_mem_sides areGap unmarked)
  exact ⟨isClosed_of_plain beforePlain, isClosed_of_plain behindPlain⟩

/-- Fields with an inert marker are balanced. -/
theorem balanced_mark
    (isInert : IsInert (Comment.defaultMarker value)) :
    Balanced 0 false (beforeMarker gap before field ++
      (Comment.defaultMarker value ++ behindMarker field after)) := by
  obtain ⟨beforeClosed, behindClosed⟩ := isClosed_sides areGap unmarked
  have notEscaped :
      (Reading.after ⟨0 + (0 : Nat), none, false⟩ (Comment.defaultMarker value)).escaped = false :=
    congrArg Reading.escaped (isInert.after 0)
  exact beforeClosed.balanced.append beforeClosed.noBackslash
    (isInert.balanced.append_of_after notEscaped behindClosed.balanced)

/-- Fields with an inert marker hold no declaration and no call. -/
theorem declaresNothing_mark
    (beforeEnded : ∀ other ∈ before,
      ∃ character ∈ other.behind, Field.isTerminator character = true)
    (isInert : IsInert (Comment.defaultMarker value))
    (isApart : '{' ∉ value ∨
      ∀ other ∈ before, ¬ Anchor.Form.interface.keyword <:+ other.typeName) :
    DeclaresNothing (beforeMarker gap before field ++
      (Comment.defaultMarker value ++ behindMarker field after)) := by
  have arePlain := isPlain_of_mem_sides areGap unmarked
  have isMarker : Comment.defaultMarker value =
      '/' :: (('*' :: Comment.saysDefault value) ++ "*/".toList) :=
    rfl
  have noAnchor := isInert.noAnchor
  have noCall := isInert.noCall
  rw [isMarker] at noAnchor noCall ⊢
  refine .of_comment (not_mem_of_plain arePlain (by decide)) (not_mem_of_plain arePlain (by decide))
    noAnchor noCall ?_
  rcases isApart with lacksBrace | noInterface
  · refine .inl fun member => ?_
    rcases List.mem_cons.mp member with isStar | inSaid
    · exact absurd isStar (by decide)
    · rcases List.mem_append.mp inSaid with inLead | inRest
      · exact absurd inLead (by decide)
      · exact (List.mem_append.mp inRest).elim lacksBrace (absurd · (by decide))
  · have beforeUnmarked := (List.forall_mem_append.mp unmarked).1
    exact .inr (absent_beforeMarker areGap beforeEnded beforeUnmarked noInterface field)

end Marked

end PlainField

namespace Extraction

open PlainField (sourceOf)

/-- Extraction reads the body of a declaration with a marker, and nothing else. -/
theorem ofSource_of_marker
    {owner before value after : Text}
    (isOwner : Text.IsIdentifier owner)
    (beforeClosed : IsClosed before)
    (isValue : IsDefaultValue value)
    (afterClosed : IsClosed after)
    (balanced : Balanced 0 false (before ++ (Comment.defaultMarker value ++ after)))
    (declaresNothing : DeclaresNothing (before ++ (Comment.defaultMarker value ++ after)))
    (form : Anchor.Form) :
    let body := before ++ (Comment.defaultMarker value ++ after)
    let fields := PropertyList.ofBody (propertiesName owner) body
    ofSource (form.declaration (propertiesName owner) body) =
      .ok ⟨fields.properties, [], fields.diagnostics⟩ := by
  have isWhole : form.declaration (propertiesName owner)
      (before ++ (Comment.defaultMarker value ++ after)) =
        (form.beforeBrace (propertiesName owner) ++ ['{']) ++
          (before ++ (Comment.defaultMarker value ++ (after ++ ['}']))) := by
    rw [form.declaration_eq, List.append_assoc before,
      List.append_assoc (Comment.defaultMarker value)]
  have isKept := Comment.strip_defaultMarker (form.isClosed_beforeBrace isOwner) beforeClosed
    afterClosed isValue
  rw [← isWhole] at isKept
  intro body fields
  rw [ofSource, isKept]
  exact ofStripped_of_body isOwner balanced declaresNothing form

/--
A default marker behind the type of one field becomes the default value of that field, and nothing
else that is extracted changes, if the marker by itself is closed, one field and no declaration or
call. Behind a type that ends in the word `interface` its value must not hold a brace.
-/
theorem ofSource_mark
    {owner gap value : Text}
    {before after : List PlainField}
    {field : PlainField}
    (isOwner : Text.IsIdentifier owner)
    (areGap : ∀ character ∈ gap, Field.isGap character = true)
    (areEnded : ∀ ending ∈ ((before ++ field :: after).map PlainField.behind).dropLast,
      ∃ character ∈ ending, Field.isTerminator character = true)
    (distinct : ((before ++ field :: after).map PlainField.name).Nodup)
    (unmarked : ∀ other ∈ before ++ field :: after, other.value = none)
    (isValue : IsDefaultValue value)
    (isInert : IsInert (Comment.defaultMarker value))
    (isApart : '{' ∉ value ∨
      ∀ other ∈ before, ¬ Anchor.Form.interface.keyword <:+ other.typeName)
    (form : Anchor.Form) :
    ofSource (form.declaration (propertiesName owner)
          (gap ++ sourceOf (before ++ field :: after))) =
        .ok ⟨before.map PlainField.property ++ field.property :: after.map PlainField.property,
          [], []⟩ ∧
      ofSource (form.declaration (propertiesName owner)
          (gap ++ sourceOf (before ++ field.mark isValue isInert :: after))) =
        .ok ⟨before.map PlainField.property ++
            { field.property with defaultValue := some value } ::
              after.map PlainField.property,
          [], []⟩ := by
  constructor
  · have arePlain : ∀ character ∈ gap ++ sourceOf (before ++ field :: after),
        PlainField.isPlain character = true :=
      List.forall_mem_append.mpr
        ⟨PlainField.isPlain_of_mem_gap areGap, PlainField.isPlain_of_mem_sourceOf unmarked⟩
    have declaresNothing : DeclaresNothing (gap ++ sourceOf (before ++ field :: after)) :=
      .of_lacks (PlainField.not_mem_of_plain arePlain (by decide))
        (PlainField.not_mem_of_plain arePlain (by decide))
    rw [ofSource_of_closed isOwner (PlainField.isClosed_of_plain arePlain) declaresNothing,
      PlainField.ofBody_properties areGap areEnded distinct, List.map_append, List.map_cons]
  · have beforeEnded : ∀ other ∈ before,
        ∃ character ∈ other.behind, Field.isTerminator character = true := by
      intro other member
      refine areEnded other.behind ?_
      rw [List.map_append, List.map_cons, List.dropLast_append_cons]
      exact List.mem_append_left _ (List.mem_map_of_mem member)
    have sameEndings : (before ++ field.mark isValue isInert :: after).map PlainField.behind =
        (before ++ field :: after).map PlainField.behind := by
      rw [List.map_append, List.map_append]
      rfl
    have sameNames : (before ++ field.mark isValue isInert :: after).map PlainField.name =
        (before ++ field :: after).map PlainField.name := by
      rw [List.map_append, List.map_append]
      rfl
    have properties := PlainField.ofBody_properties areGap (sameEndings ▸ areEnded)
      (sameNames ▸ distinct) (propertiesName owner)
    obtain ⟨beforeClosed, behindClosed⟩ := PlainField.isClosed_sides areGap unmarked
    rw [PlainField.sourceOf_mark] at properties ⊢
    rw [ofSource_of_marker isOwner beforeClosed isValue behindClosed
      (PlainField.balanced_mark areGap unmarked isInert)
      (PlainField.declaresNothing_mark areGap unmarked beforeEnded isInert isApart), properties,
      List.map_append, List.map_cons]
    rfl

private theorem isIdentifier_kind : Text.IsIdentifier "kind".toList := by
  decide

private theorem isIdentifier_type : Text.IsIdentifier "type".toList := by
  decide

private theorem isIdentifier_items : Text.IsIdentifier "items".toList := by
  decide

private theorem isIdentifier_itemsType : Text.IsIdentifier "Items".toList := by
  decide

private theorem isGap_nextLine : ∀ character ∈ ";\n  ".toList, Field.isGap character = true := by
  decide

private theorem isGap_lineBreak : ∀ character ∈ "\n".toList, Field.isGap character = true := by
  decide

private theorem isMarker_none :
    ∀ text ∈ (none : Option Text),
      IsDefaultValue text ∧ IsInert (Comment.defaultMarker text) :=
  nofun

/-- A field with a type that is called like a keyword. -/
def kindField : PlainField :=
  ⟨"kind".toList, false, "type".toList, none, ";\n  ".toList, isIdentifier_kind,
    isIdentifier_type, isMarker_none, isGap_nextLine⟩

/-- The field behind it, whose type is a name of its own. -/
def itemsField : PlainField :=
  ⟨"items".toList, true, "Items".toList, none, "\n".toList, isIdentifier_items,
    isIdentifier_itemsType, isMarker_none, isGap_lineBreak⟩

/-- A value whose comma stands between angles. -/
def itemsValue : Text :=
  "new Map<string, number>()".toList

private theorem isDefaultValue_itemsValue : IsDefaultValue itemsValue := by
  decide

private theorem isInert_itemsValue : IsInert (Comment.defaultMarker itemsValue) := by
  decide +kernel

private theorem isDefaultValue_submit : IsDefaultValue "submit".toList := by
  decide

private theorem isInert_submit : IsInert (Comment.defaultMarker "submit".toList) :=
  .of_quiet (by decide) (by decide) (by decide)

/--
The comma cuts the marker of `items`, and its pieces are put together again. The marker of `kind`
has nothing to cut.
-/
theorem ofSource_mark_items :
    ((([kindField] ++ [itemsField]).map PlainField.name).Nodup ∧
        (IsDefaultValue itemsValue ∧ IsInert (Comment.defaultMarker itemsValue)) ∧
        IsDefaultValue "submit".toList ∧ IsInert (Comment.defaultMarker "submit".toList)) ∧
      ofSource "interface ListProps \x7b\n  kind: type;\n  items?: Items\n\x7d".toList =
        .ok ⟨
          [⟨"kind".toList, "type".toList, true, none, "The `kind` prop".toList⟩,
            ⟨"items".toList, "Items".toList, false, none, "The `items` prop".toList⟩],
          [], []⟩ ∧
      ofSource ("interface ListProps \x7b\n  kind: type;\n  " ++
          "items?: Items /* @default new Map<string, number>() */\n\x7d").toList =
        .ok ⟨
          [⟨"kind".toList, "type".toList, true, none, "The `kind` prop".toList⟩,
            ⟨"items".toList, "Items".toList, false, some "new Map<string, number>()".toList,
              "The `items` prop".toList⟩],
          [], []⟩ ∧
      ofSource ("interface ListProps \x7b\n  kind: type /* @default submit */;\n  " ++
          "items?: Items\n\x7d").toList =
        .ok ⟨
          [⟨"kind".toList, "type".toList, true, some "submit".toList,
              "The `kind` prop".toList⟩,
            ⟨"items".toList, "Items".toList, false, none, "The `items` prop".toList⟩],
          [], []⟩ := by
  have isOwner : Text.IsIdentifier "List".toList := by
    decide
  have areGap : ∀ character ∈ "\n  ".toList, Field.isGap character = true := by
    decide
  have areEnded : ∀ ending ∈ (([kindField] ++ [itemsField]).map PlainField.behind).dropLast,
      ∃ character ∈ ending, Field.isTerminator character = true := by
    decide
  -- The same, with the first field as the one that is marked.
  have areEndedKind :
      ∀ ending ∈ (([] ++ kindField :: [itemsField]).map PlainField.behind).dropLast,
        ∃ character ∈ ending, Field.isTerminator character = true :=
    areEnded
  have distinct : (([kindField] ++ [itemsField]).map PlainField.name).Nodup := by
    decide
  have unmarked : ∀ other ∈ [kindField] ++ [itemsField], other.value = none := by
    decide
  obtain ⟨extracted, extractedItems⟩ :=
    ofSource_mark isOwner areGap areEnded distinct unmarked isDefaultValue_itemsValue
      isInert_itemsValue (.inl (by decide)) .interface
  obtain ⟨-, extractedKind⟩ :=
    ofSource_mark isOwner areGap areEndedKind distinct unmarked isDefaultValue_submit
      isInert_submit (.inl (by decide)) .interface
  refine ⟨⟨distinct, ⟨isDefaultValue_itemsValue, isInert_itemsValue⟩, isDefaultValue_submit,
    isInert_submit⟩, ?_, ?_, ?_⟩
  · refine Eq.trans (congrArg ofSource ?_) (extracted.trans ?_)
    · decide
    · decide
  · refine Eq.trans (congrArg ofSource ?_) (extractedItems.trans ?_)
    · decide
    · decide
  · refine Eq.trans (congrArg ofSource ?_) (extractedKind.trans ?_)
    · decide
    · decide

/--
A semicolon in a marker ends the field in the middle of the marker: the default value is lost, the
first half of the marker becomes part of the type, and the second half is reported.
-/
theorem ofSource_mark_cut :
    (IsDefaultValue "x;y".toList ∧ '\n' ∉ "x;y".toList) ∧
      ofSource "interface BoxProps \x7b\n  a: string\n  b: number\n\x7d".toList =
        .ok ⟨
          [⟨"a".toList, "string".toList, true, none, "The `a` text".toList⟩,
            ⟨"b".toList, "number".toList, true, none, "The `b` value".toList⟩],
          [], []⟩ ∧
      ofSource ("interface BoxProps \x7b\n  a: string /* @default x;y */\n  " ++
          "b: number\n\x7d").toList =
        .ok ⟨
          [⟨"a".toList, "string /* @default x".toList, true, none, "The `a` text".toList⟩,
            ⟨"b".toList, "number".toList, true, none, "The `b` value".toList⟩],
          [], [⟨"BoxProps".toList, "y */".toList, .noShape⟩]⟩ := by
  have isOwner : Text.IsIdentifier "Box".toList := by
    decide
  have isValue : IsDefaultValue "x;y".toList := by
    decide
  refine ⟨⟨isValue, by decide⟩, ?_, ?_⟩
  · have closed : IsClosed "\n  a: string\n  b: number\n".toList := .of_ordinary (by decide)
    have isRead := ofSource_of_closed isOwner closed (.of_lacks (by decide) (by decide)) .interface
    refine Eq.trans (congrArg ofSource ?_) (isRead.trans ?_)
    · decide
    · decide
  · have beforeClosed : IsClosed "\n  a: string ".toList := .of_ordinary (by decide)
    have afterClosed : IsClosed "\n  b: number\n".toList := .of_ordinary (by decide)
    have isScope : Scope.content? ('{' :: ("\n  a: string ".toList ++
        (Comment.defaultMarker "x;y".toList ++ "\n  b: number\n".toList) ++ ['}'])) =
          some ("\n  a: string ".toList ++
            (Comment.defaultMarker "x;y".toList ++ "\n  b: number\n".toList)) := by
      decide
    have isRead := ofSource_of_marker isOwner beforeClosed isValue afterClosed
      (Scope.balanced_of_content? isScope) (.of_lacks (by decide) (by decide))
      .interface
    refine Eq.trans (congrArg ofSource ?_) (isRead.trans ?_)
    · decide
    · decide

end Extraction

end ComponentPages
