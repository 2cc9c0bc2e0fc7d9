import ComponentPages.Declaration.Extraction
import ComponentPages.Proofs.Declaration.AnchorPlace
import ComponentPages.Proofs.Declaration.WrittenField
import ComponentPages.Proofs.Source.Scope

namespace ComponentPages

/-!
# Written declarations

A list of fields is written into an interface or into an alias of an object type. Extraction finds
this one declaration and no call, and gives back the properties that are meant.
-/

/-! ## What is written -/

/-- The name of the property list of a component. -/
def propertiesName (owner : Text) : Text :=
  owner ++ "Props".toList

namespace Anchor.Form

/-- What stands between the name and the body. -/
def beforeBody : Form → Text
  | .interface => []
  | .alias => "= ".toList

/-- A declaration from its body's brace on. -/
def rest (form : Form) (body : Text) : Text :=
  form.beforeBody ++ '{' :: (body ++ ['}'])

/-- A declaration with a name and a body. -/
def declaration (form : Form) (name body : Text) : Text :=
  form.keyword ++ ' ' :: (name ++ ' ' :: form.rest body)

end Anchor.Form

/-- Whether no keyword with a blank or a parenthesis behind it starts in a body. -/
def HoldsNoKeyword (body : Text) : Prop :=
  ∀ {α : Type} {pattern : Text.Pattern α} {keyword : Text},
    IsKeywordPattern pattern keyword → ∀ rest, pattern.Absent body ('}' :: rest)

/-- A body without keywords holds no declaration and no call. -/
theorem HoldsNoKeyword.declaresNothing
    {body : Text}
    (holdsNoKeyword : HoldsNoKeyword body) :
    DeclaresNothing body := by
  have absent {α : Type} {pattern : Text.Pattern α} {keyword : Text}
      (isPattern : IsKeywordPattern pattern keyword) :
      pattern.Absent (body ++ ['}']) [] := by
    have missesCloser : pattern.Misses ['}'] := isPattern.misses (by decide)
    exact (holdsNoKeyword isPattern []).append (missesCloser [])
  exact ⟨fun form => (absent form.isKeywordPattern_head).passesOver _,
    (absent BuilderCall.isKeywordPattern).passesOver _⟩

/-! ## The body -/

namespace WrittenField

variable {α : Type} {pattern : Text.Pattern α} {keyword : Text}

/-- No keyword starts in what stands in front of a type. -/
theorem misses_lead
    (isPattern : IsKeywordPattern pattern keyword)
    (field : WrittenField) :
    pattern.Misses (field.lead ++ [':', ' ']) := by
  have missesReadonly : pattern.Misses (if field.isReadonly then "readonly ".toList else []) := by
    refine isPattern.misses ?_
    split <;> decide
  have missesAfter : pattern.Misses (field.afterName [' ']) := by
    refine isPattern.misses ?_
    unfold afterName
    split <;> decide
  obtain ⟨mark, after, isAfter, isMark⟩ := field.exists_afterName_cons [' ']
  obtain ⟨-, notBlank, notParenthesis, -, notInKeyword⟩ := kind_of_mem_marks mark isMark
  have isSplit : field.lead ++ [':', ' '] =
      (if field.isReadonly then "readonly ".toList else []) ++
        (field.name ++ field.afterName [' ']) := by
    rw [lead, List.append_assoc, List.append_assoc]
    rfl
  intro rest
  have noneInName : pattern.Absent field.name (field.afterName [' '] ++ rest) := by
    rw [isAfter]
    exact isPattern.absent_name field.isIdentifier notInKeyword (.inl ⟨notBlank, notParenthesis⟩)
      (after ++ rest)
  rw [isSplit]
  exact (missesReadonly _).append (noneInName.append (missesAfter rest))

/-- No keyword starts in a type, whatever follows behind a character that no keyword has. -/
private theorem absent_type
    {stop : Char}
    (isPattern : IsKeywordPattern pattern keyword)
    (isStop : ∀ keyword ∈ keywords, stop ∉ keyword)
    (field : WrittenField)
    (rest : Text) :
    pattern.Absent field.typeText (stop :: rest) :=
  isPattern.begins.absent_of_not_infix
    (field.isFieldType.noKeyword keyword isPattern.isKeyword)
    (isPattern.not_mem_keyword isStop) rest

/-- No keyword starts in a gap between fields. -/
theorem misses_gap
    {gap : Text}
    (isPattern : IsKeywordPattern pattern keyword)
    (isGap : ∀ character ∈ gap, Field.isGap character = true) :
    pattern.Misses gap :=
  isPattern.misses_of_kind (by decide) isGap

/-- What stands between fields is in no keyword. -/
theorem not_mem_keyword_of_isGap
    {character : Char}
    (isGap : Field.isGap character = true) :
    ∀ keyword ∈ keywords, character ∉ keyword := by
  have noLetter : ∀ keyword ∈ keywords, ∀ letter ∈ keyword, Field.isGap letter = false := by
    decide
  intro keyword isKeyword member
  have notGap := noLetter keyword isKeyword character member
  rw [isGap] at notGap
  contradiction

/-- Fields hold no keyword that starts a declaration or a call. -/
theorem holdsNoKeyword_sourceOf
    {fields : List WrittenField}
    (areFinished : ∀ field ∈ fields.dropLast, field.IsFinished) :
    HoldsNoKeyword (sourceOf fields) := by
  intro α pattern keyword isPattern rest
  induction fields with
  | nil =>
      trivial
  | cons field later inductionHypothesis =>
      obtain ⟨isFinished, laterFinished⟩ := Field.forall_mem_dropLast_cons areFinished
      have laterAbsent := inductionHypothesis laterFinished
      have isSplit : sourceOf (field :: later) =
          (field.lead ++ [':', ' ']) ++ (field.typeText ++ (field.behind ++ sourceOf later)) := by
        simp [sourceOf, source]
      have typeAbsent : pattern.Absent field.typeText
          (field.behind ++ sourceOf later ++ '}' :: rest) := by
        cases isBehind : field.behind with
        | nil =>
            -- Without a terminator no other field follows, and the body ends here.
            have isLast : later = [] := by
              by_contra notLast
              obtain ⟨terminator, member, -⟩ := (isFinished notLast).1
              rw [isBehind] at member
              contradiction
            rw [isLast]
            exact absent_type isPattern (by decide) field rest
        | cons stop more =>
            have isStop := field.isGap stop (by simp [isBehind])
            exact absent_type isPattern (not_mem_keyword_of_isGap isStop) field _
      rw [isSplit]
      exact (misses_lead isPattern field _).append
        (typeAbsent.append ((misses_gap isPattern field.isGap _).append laterAbsent))

end WrittenField

/-! ## The declaration -/

private theorem isIdentifier_propertiesName
    {owner : Text}
    (isOwner : Text.IsIdentifier owner) :
    Text.IsIdentifier (propertiesName owner) where
  notEmpty := by
    simp [propertiesName]
  starts := by
    obtain ⟨first, later, rfl⟩ := List.exists_cons_of_ne_nil isOwner.notEmpty
    intro character isFirst
    exact isOwner.starts character isFirst
  continues := by
    have partContinues : ∀ character ∈ "Props".toList,
        Text.continuesIdentifier character = true := by
      decide
    intro character member
    exact (List.mem_append.mp member).elim (isOwner.continues character) (partContinues character)

/-- The name of a property list does not end in a keyword. -/
private theorem not_keyword_suffix
    {keyword : Text}
    (isKeyword : keyword ∈ keywords)
    (owner : Text) :
    ¬ keyword <:+ propertiesName owner := by
  rintro ⟨before, whole⟩
  have endsInS : (propertiesName owner).getLast? = some 's' := by
    simp [propertiesName]
  have endsOther : ∀ keyword ∈ keywords, keyword.getLast? ≠ some 's' ∧ keyword ≠ [] := by
    decide
  obtain ⟨notS, notEmpty⟩ := endsOther keyword isKeyword
  rw [← whole, List.getLast?_append_of_ne_nil _ notEmpty] at endsInS
  exact notS endsInS

private theorem namesProperties_propertiesName
    {owner : Text}
    (isOwner : Text.IsIdentifier owner) :
    Anchor.namesProperties (propertiesName owner) = true := by
  rw [Anchor.namesProperties, Bool.and_eq_true, List.isSuffixOf_iff_suffix, bne_iff_ne]
  refine ⟨List.suffix_append owner _, fun isShort => isOwner.notEmpty ?_⟩
  exact List.append_left_eq_self.mp isShort

namespace Anchor.Form

variable {owner body : Text}

/-- What stands in front of the body's brace. -/
def beforeBrace (form : Form) (name : Text) : Text :=
  form.keyword ++ ' ' :: (name ++ ' ' :: form.beforeBody)

/-- A declaration is what stands before its brace, the brace, the body and the closing brace. -/
theorem declaration_eq
    (form : Form)
    (name body : Text) :
    form.declaration name body = (form.beforeBrace name ++ ['{']) ++ (body ++ ['}']) := by
  simp [declaration, beforeBrace, rest]

/-- A keyword that a declaration does not start with does not start in front of its body. -/
theorem absent_beforeBrace
    {α : Type}
    {pattern : Text.Pattern α}
    {keyword : Text}
    {form : Form}
    (isPattern : IsKeywordPattern pattern keyword)
    (isOwner : Text.IsIdentifier owner)
    (isOther : ¬ keyword <:+: form.keyword)
    (rest : Text) :
    pattern.Absent (form.beforeBrace (propertiesName owner) ++ ['{']) rest := by
  have noSpace : ∀ keyword ∈ keywords, ' ' ∉ keyword := by
    decide
  have missesSpace : pattern.Misses [' '] := isPattern.misses (by decide)
  have missesBefore : pattern.Misses (form.beforeBody ++ ['{']) := by
    refine isPattern.misses ?_
    cases form <;> decide
  have behindName : pattern.Absent ([' '] ++ (form.beforeBody ++ ['{'])) rest :=
    (missesSpace _).append (missesBefore rest)
  have nameAbsent : pattern.Absent (propertiesName owner)
      ([' '] ++ (form.beforeBody ++ ['{']) ++ rest) :=
    isPattern.absent_name (isIdentifier_propertiesName isOwner) noSpace
      (.inr (not_keyword_suffix isPattern.isKeyword owner)) _
  have behindKeyword : pattern.Absent
      ([' '] ++ (propertiesName owner ++ ([' '] ++ (form.beforeBody ++ ['{'])))) rest :=
    (missesSpace _).append (nameAbsent.append behindName)
  have keywordAbsent : pattern.Absent form.keyword
      ([' '] ++ (propertiesName owner ++ ([' '] ++ (form.beforeBody ++ ['{']))) ++ rest) :=
    isPattern.begins.absent_of_not_infix isOther (isPattern.not_mem_keyword noSpace) _
  have isSplit : form.beforeBrace (propertiesName owner) ++ ['{'] = form.keyword ++
      ([' '] ++ (propertiesName owner ++ ([' '] ++ (form.beforeBody ++ ['{'])))) := by
    simp [beforeBrace]
  rw [isSplit]
  exact keywordAbsent.append behindKeyword

/-- A search that passes over the body keeps nothing of a declaration of another keyword. -/
theorem filterMap_occurrences_declaration
    {α β : Type}
    {pattern : Text.Pattern α}
    {keyword : Text}
    {keep : Text.Occurrence α → Option β}
    {form : Form}
    (isPattern : IsKeywordPattern pattern keyword)
    (isOwner : Text.IsIdentifier owner)
    (isOther : ¬ keyword <:+: form.keyword)
    (passesBody : pattern.PassesOver keep (some '{') 0 (body ++ ['}']) []) :
    (pattern.occurrences (form.declaration (propertiesName owner) body)).filterMap keep = [] := by
  rw [form.declaration_eq]
  refine Text.Pattern.PassesOver.filterMap_occurrencesFrom_eq_nil ?_ 0
  refine .append ((absent_beforeBrace isPattern isOwner isOther _).passesOver none) ?_
  rw [List.getLast?_concat]
  exact passesBody

/-- The head of a declaration is read up to its body. -/
theorem head_declaration
    (isOwner : Text.IsIdentifier owner)
    (form : Form)
    (body : Text) :
    form.head none (form.declaration (propertiesName owner) body) =
      some (⟨propertiesName owner, false, form.rest body⟩, form.rest body) := by
  have restKept : Text.trimStart (' ' :: form.rest body) = form.rest body := by
    cases form <;> rfl
  refine head_eq_some_iff.mpr ⟨[' '], ' ' :: form.rest body, rfl, rfl, List.cons_ne_nil _ _, ?_,
    isIdentifier_propertiesName isOwner, ?_, ?_, restKept.symm, restKept.symm⟩
  · exact List.forall_mem_singleton.mpr Text.isBlank_space
  · intro character isFirst
    obtain rfl := Option.some.inj isFirst
    decide
  · rw [restKept]
    intro character isFirst
    cases form <;>
      · obtain rfl := Option.some.inj isFirst
        decide

private theorem gap?_rest
    (form : Form)
    (body : Text) :
    form.gap? (form.rest body) = some form.beforeBody.byteLength := by
  refine gap?_eq_some_iff.mpr ⟨form.beforeBody, body ++ ['}'], rfl, ?_, rfl⟩
  match form with
  | .interface =>
      exact List.forall_mem_nil _
  | .alias =>
      exact ⟨[], [' '], rfl, List.forall_mem_nil _, List.forall_mem_singleton.mpr Text.isBlank_space⟩

/-- A declaration of a property list is the only one of its form in its text. -/
theorem ofForm_declaration
    (isOwner : Text.IsIdentifier owner)
    (declaresNothing : DeclaresNothing body)
    (form : Form) :
    ofForm form (form.declaration (propertiesName owner) body) =
      [⟨form, propertiesName owner, 0, (form.beforeBrace (propertiesName owner)).byteLength⟩] := by
  have isMatch := form.head_declaration isOwner body
  have namesProperties := namesProperties_propertiesName isOwner
  obtain ⟨first, read, isRead⟩ : ∃ first read,
      form.keyword ++ ' ' :: (propertiesName owner ++ [' ']) = first :: read := by
    cases form <;> exact ⟨_, _, rfl⟩
  have isSplit : form.declaration (propertiesName owner) body =
      first :: (read ++ form.rest body) := by
    rw [← List.cons_append, ← isRead]
    simp [declaration]
  rw [isSplit] at isMatch ⊢
  have isOffset : (form.beforeBrace (propertiesName owner)).byteLength =
      Text.byteLength (first :: read) + form.beforeBody.byteLength := by
    rw [← isRead, ← Text.byteLength_append]
    simp [beforeBrace]
  have missesBefore : form.head.Misses (form.beforeBody ++ ['{']) := by
    refine form.isKeywordPattern_head.misses ?_
    cases form <;> decide
  have restSplit : form.rest body = (form.beforeBody ++ ['{']) ++ (body ++ ['}']) := by
    simp [rest]
  have passes : form.head.PassesOver (ofHead? form) (some first) read.length
      (read ++ form.rest body) [] := by
    refine .append (.of_passing _ _ _) ?_
    rw [restSplit]
    refine .append ((missesBefore _).passesOver _) ?_
    rw [List.getLast?_concat]
    exact declaresNothing.noAnchor form
  have noOther := passes.filterMap_occurrencesFrom_eq_nil first.utf8Size
  rw [ofForm, Text.Pattern.occurrences_eq_cons isMatch, List.filterMap_cons, noOther, isOffset]
  simp [ofHead?, namesProperties, gap?_rest]

end Anchor.Form

/-- The declaration is the only anchor of its text. -/
theorem Anchor.allOf_declaration
    {owner body : Text}
    (isOwner : Text.IsIdentifier owner)
    (declaresNothing : DeclaresNothing body)
    (form : Form) :
    allOf (form.declaration (propertiesName owner) body) =
      [⟨form, propertiesName owner, 0, (form.beforeBrace (propertiesName owner)).byteLength⟩] := by
  have own := Form.ofForm_declaration isOwner declaresNothing form
  have noOther : ∀ other : Form, ¬ other.keyword <:+: form.keyword →
      ofForm other (form.declaration (propertiesName owner) body) = [] := by
    intro other isOther
    exact Form.filterMap_occurrences_declaration other.isKeywordPattern_head isOwner isOther
      (declaresNothing.noAnchor other)
  match form with
  | .interface =>
      rw [allOf, own, noOther .alias (by decide), List.append_nil, List.mergeSort_singleton]
  | .alias =>
      rw [allOf, own, noOther .interface (by decide), List.nil_append, List.mergeSort_singleton]

/-- What stands before the brace of a declaration is closed. -/
theorem Anchor.Form.isClosed_beforeBrace
    {owner : Text}
    (isOwner : Text.IsIdentifier owner)
    (form : Form) :
    IsClosed (form.beforeBrace (propertiesName owner)) := by
  have nameClosed := (isIdentifier_propertiesName isOwner).isClosed
  have spaceClosed : IsClosed [' '] := .of_ordinary (by decide)
  have keywordClosed : IsClosed form.keyword :=
    .of_ordinary (by cases form <;> decide)
  have beforeBodyClosed : IsClosed form.beforeBody :=
    .of_ordinary (by cases form <;> decide)
  exact keywordClosed.append (spaceClosed.append
    (nameClosed.append (spaceClosed.append beforeBodyClosed)))

/-- A declaration with a closed body is closed. -/
theorem Anchor.Form.isClosed_declaration
    {owner body : Text}
    (isOwner : Text.IsIdentifier owner)
    (closed : IsClosed body)
    (form : Form) :
    IsClosed (form.declaration (propertiesName owner) body) := by
  have bodyClosed : IsClosed ('{' :: (body ++ ['}'])) := .scope (by decide) closed (by decide)
  rw [form.declaration_eq, List.append_assoc]
  exact (form.isClosed_beforeBrace isOwner).append bodyClosed

namespace Extraction

/-- Of a declaration without comments the body is read, and nothing else. -/
theorem ofStripped_of_body
    {owner body : Text}
    (isOwner : Text.IsIdentifier owner)
    (balanced : Balanced 0 false body)
    (declaresNothing : DeclaresNothing body)
    (form : Anchor.Form) :
    let fields := PropertyList.ofBody (propertiesName owner) body
    ofStripped (form.declaration (propertiesName owner) body) =
      .ok ⟨fields.properties, [], fields.diagnostics⟩ := by
  have noCall : BuilderCall.allOf (form.declaration (propertiesName owner) body) = [] := by
    have noOccurrence := Anchor.Form.filterMap_occurrences_declaration
      BuilderCall.isKeywordPattern isOwner
      (show ¬ BuilderCall.builder <:+: form.keyword by cases form <;> decide)
      declaresNothing.noCall
    rw [List.filterMap_some] at noOccurrence
    rw [BuilderCall.allOf, noOccurrence]
    rfl
  have content : Scope.contentAt? (form.declaration (propertiesName owner) body)
      (form.beforeBrace (propertiesName owner)).byteLength = some body := by
    rw [form.declaration_eq, List.append_assoc]
    exact Scope.contentAt?_of_balanced (by decide) balanced (by decide) _ []
  rw [ofStripped, Anchor.allOf_declaration isOwner declaresNothing, Variant.allOf, noCall,
    ofAnchors]
  simp only [content]
  simp [ofAnchors, Variant.ofCallsFrom, pure, Except.pure, bind, Except.bind]

/-- Extraction reads the body of a declaration in which no comment starts, and nothing else. -/
theorem ofSource_of_closed
    {owner body : Text}
    (isOwner : Text.IsIdentifier owner)
    (closed : IsClosed body)
    (declaresNothing : DeclaresNothing body)
    (form : Anchor.Form) :
    let fields := PropertyList.ofBody (propertiesName owner) body
    ofSource (form.declaration (propertiesName owner) body) =
      .ok ⟨fields.properties, [], fields.diagnostics⟩ := by
  have startsNoComment := (form.isClosed_declaration isOwner closed).startsNoComment
  rw [ofSource, Comment.strip_eq_self startsNoComment]
  exact ofStripped_of_body isOwner closed.balanced declaresNothing form

/-- What is extracted from a declaration alone is what its body lists. -/
theorem ofSource_of_body
    {owner body : Text}
    (isOwner : Text.IsIdentifier owner)
    (closed : IsClosed body)
    (holdsNoKeyword : HoldsNoKeyword body)
    (form : Anchor.Form) :
    let fields := PropertyList.ofBody (propertiesName owner) body
    ofSource (form.declaration (propertiesName owner) body) =
      .ok ⟨fields.properties, [], fields.diagnostics⟩ :=
  ofSource_of_closed isOwner closed holdsNoKeyword.declaresNothing form

/-- What stands in front of the first field and what stands behind each is not told apart. -/
private theorem holdsNoKeyword_body
    {gap : Text}
    {fields : List WrittenField}
    (isGap : ∀ character ∈ gap, Field.isGap character = true)
    (areFinished : ∀ field ∈ fields.dropLast, field.IsFinished) :
    HoldsNoKeyword (gap ++ WrittenField.sourceOf fields) := by
  intro α pattern keyword isPattern rest
  exact (WrittenField.misses_gap isPattern isGap _).append
    (WrittenField.holdsNoKeyword_sourceOf areFinished isPattern rest)

/--
A declaration of fields with different names gives back exactly the properties that are meant, in
order, with no variant and no diagnostic. `gap` stands in front of the first field.
-/
theorem ofSource_declaration
    {owner gap : Text}
    {fields : List WrittenField}
    (isOwner : Text.IsIdentifier owner)
    (isGap : ∀ character ∈ gap, Field.isGap character = true)
    (areFinished : ∀ field ∈ fields.dropLast, field.IsFinished)
    (distinct : (fields.map WrittenField.name).Nodup)
    (form : Anchor.Form) :
    ofSource
        (form.declaration (propertiesName owner) (gap ++ WrittenField.sourceOf fields)) =
      .ok ⟨fields.map WrittenField.property, [], []⟩ := by
  have closed : IsClosed (gap ++ WrittenField.sourceOf fields) :=
    (WrittenField.isClosed_gap isGap).append (WrittenField.isClosed_sourceOf fields)
  rw [ofSource_of_body isOwner closed (holdsNoKeyword_body isGap areFinished),
    WrittenField.ofBody_properties isGap areFinished distinct]

/-- A field whose type is cut by terminators, and one whose type holds an arrow. -/
def handlerFields : List WrittenField :=
  [{
      isReadonly := true
      name := "items".toList
      optional := true
      typeText := "Map<string, \x7b a: b; c, d \x7d>".toList
      behind := ";\n  ".toList
      isIdentifier := by decide
      isFieldType := by decide
      isGap := by decide
    },
    {
      isReadonly := false
      name := "onChange".toList
      optional := false
      typeText := "(key: number) => void".toList
      behind := "\n".toList
      isIdentifier := by decide
      isFieldType := by decide
      isGap := by decide
    }]

/-- An alias whose fields hold delimiters, commas and arrows in their types. -/
theorem ofSource_declaration_handlers :
    Anchor.Form.alias.declaration (propertiesName "List".toList)
          ("\n  ".toList ++ WrittenField.sourceOf handlerFields) =
        ("type ListProps = \x7b\n  readonly items?: Map<string, \x7b a: b; c, d \x7d>;\n" ++
          "  onChange: (key: number) => void\n\x7d").toList ∧
      (handlerFields.map WrittenField.name).Nodup ∧
        ofSource (Anchor.Form.alias.declaration (propertiesName "List".toList)
            ("\n  ".toList ++ WrittenField.sourceOf handlerFields)) =
          .ok ⟨
            [⟨"items".toList, "Map<string, \x7b a: b; c, d \x7d>".toList, false, none,
                "The `items` text".toList⟩,
              ⟨"onChange".toList, "(key: number) => void".toList, true, none,
                "Handler called when the value changes".toList⟩],
            [], []⟩ := by
  have distinct : (handlerFields.map WrittenField.name).Nodup := by
    decide
  have properties : handlerFields.map WrittenField.property =
      [⟨"items".toList, "Map<string, \x7b a: b; c, d \x7d>".toList, false, none,
          "The `items` text".toList⟩,
        ⟨"onChange".toList, "(key: number) => void".toList, true, none,
          "Handler called when the value changes".toList⟩] := by
    decide
  rw [← properties]
  exact ⟨by decide, distinct,
    ofSource_declaration (by decide) (by decide) (by decide) distinct .alias⟩

/-- Two fields of which the first has a type that ends in a bar with a blank behind it. -/
def unionFields : List WrittenField :=
  [{
      isReadonly := false
      name := "a".toList
      optional := false
      typeText := "string | ".toList
      behind := "\n  ".toList
      isIdentifier := by decide
      isFieldType := by decide
      isGap := by decide
    },
    {
      isReadonly := false
      name := "b".toList
      optional := false
      typeText := "number".toList
      behind := "\n".toList
      isIdentifier := by decide
      isFieldType := by decide
      isGap := by decide
    }]

/--
The blank behind a bar does not keep a union from going on in the next line: the fields are read as
one, though no type ends in a bar and there is a line break behind each.
-/
theorem ofSource_declaration_union :
    Anchor.Form.interface.declaration (propertiesName "Box".toList)
          ("\n  ".toList ++ WrittenField.sourceOf unionFields) =
        "interface BoxProps \x7b\n  a: string | \n  b: number\n\x7d".toList ∧
      (∀ field ∈ unionFields, '\n' ∈ field.behind ∧
        ∀ ending ∈ ["|".toList, "&".toList, "=>".toList], ¬ ending <:+ field.typeText) ∧
        (unionFields.map WrittenField.name).Nodup ∧
          ofSource (Anchor.Form.interface.declaration (propertiesName "Box".toList)
              ("\n  ".toList ++ WrittenField.sourceOf unionFields)) =
            .ok ⟨[⟨"a".toList, "string | b: number".toList, true, none,
              "The `a` text".toList⟩], [], []⟩ ∧
          ofSource (Anchor.Form.interface.declaration (propertiesName "Box".toList)
              ("\n  ".toList ++ WrittenField.sourceOf unionFields)) ≠
            .ok ⟨unionFields.map WrittenField.property, [], []⟩ := by
  have closed : IsClosed ("\n  ".toList ++ WrittenField.sourceOf unionFields) :=
    .of_ordinary (by decide)
  have holdsNoKeyword : HoldsNoKeyword ("\n  ".toList ++ WrittenField.sourceOf unionFields) := by
    intro α pattern keyword isPattern rest
    have lacksKeyword : ∀ keyword ∈ keywords,
        ¬ keyword <:+: "\n  ".toList ++ WrittenField.sourceOf unionFields := by
      decide
    exact isPattern.begins.absent_of_not_infix (lacksKeyword keyword isPattern.isKeyword)
      (isPattern.not_mem_keyword (by decide)) rest
  have isRead := ofSource_of_body (show Text.IsIdentifier "Box".toList by decide) closed
    holdsNoKeyword .interface
  have merged : PropertyList.ofBody (propertiesName "Box".toList)
      ("\n  ".toList ++ WrittenField.sourceOf unionFields) =
        ⟨[⟨"a".toList, "string | b: number".toList, true, none, "The `a` text".toList⟩], []⟩ := by
    decide
  simp only [merged] at isRead
  refine ⟨by decide, by decide +kernel, by decide, isRead, ?_⟩
  rw [isRead]
  simp [unionFields]

end Extraction

end ComponentPages
