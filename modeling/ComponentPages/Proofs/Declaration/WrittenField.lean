import ComponentPages.Proofs.Declaration.Gathering
import ComponentPages.Proofs.Declaration.ShortForm

namespace ComponentPages

/-!
# Written fields

A field is written as its name with the type behind a colon, with `readonly` in front if it is
read-only and with a question mark if it is optional. A body of such fields, with blanks and
terminators between them, gives back the properties that are meant.
-/

/-- A field of a declaration, and the blanks and terminators behind it. -/
structure WrittenField where
  isReadonly : Bool
  name : Text
  optional : Bool
  typeText : Text
  behind : Text
  isIdentifier : Text.IsIdentifier name
  isFieldType : IsFieldType typeText
  isGap : ∀ character ∈ behind, Field.isGap character = true

namespace WrittenField

/-- What stands in front of the colon. -/
def lead (field : WrittenField) : Text :=
  (if field.isReadonly then "readonly ".toList else []) ++
    (field.name ++ if field.optional then ['?'] else [])

/-- The field with what stands behind it. -/
def source (field : WrittenField) : Text :=
  field.lead ++ ':' :: ' ' :: (field.typeText ++ field.behind)

/-- The property that is meant. -/
def property (field : WrittenField) : Property where
  name := field.name
  typeText := TypeText.normalize field.typeText
  required := !field.optional
  defaultValue := none
  description := Property.describe field.name (TypeText.normalize field.typeText)

/--
Whether another field can follow: a terminator stands behind the field, and its type ends in
nothing that would go on in the next one.
-/
def IsFinished (field : WrittenField) : Prop :=
  (∃ character ∈ field.behind, Field.isTerminator character = true) ∧
    ∀ ending ∈ ["|".toList, "&".toList, "=>".toList],
      ¬ ending <:+ Text.trimEnd field.typeText

instance (field : WrittenField) : Decidable field.IsFinished :=
  inferInstanceAs (Decidable (_ ∧ _))

/-! ## In front of the colon -/

/-- The characters in front of a type. -/
def isLead (character : Char) : Bool :=
  Text.continuesIdentifier character || character == ' ' || character == '?' || character == ':'

/-- What stands in front of a type is of the characters of leads. -/
theorem isLead_of_mem
    (field : WrittenField) :
    ∀ character ∈ field.lead ++ [':', ' '], isLead character = true := by
  have nameIsLead : ∀ character ∈ field.name, isLead character = true := by
    intro character member
    simp [isLead, field.isIdentifier.continues character member]
  have readonlyIsLead : ∀ character ∈ (if field.isReadonly then "readonly ".toList else []),
      isLead character = true := by
    split <;> decide
  have markIsLead : ∀ character ∈ (if field.optional then ['?'] else []),
      isLead character = true := by
    split <;> decide
  have endIsLead : ∀ character ∈ [':', ' '], isLead character = true := by
    decide
  intro character member
  rw [lead] at member
  rcases List.mem_append.mp member with inLead | inEnd
  · rcases List.mem_append.mp inLead with inReadonly | inRest
    · exact readonlyIsLead character inReadonly
    · exact (List.mem_append.mp inRest).elim (nameIsLead character) (markIsLead character)
  · exact endIsLead character inEnd

/-- A character that is of no such kind does not stand in front of a type. -/
private theorem ne_of_mem_lead
    {field : WrittenField}
    {character other : Char}
    (member : character ∈ field.lead ++ [':', ' '])
    (notLead : isLead other = false) :
    character ≠ other := by
  rintro rfl
  rw [field.isLead_of_mem character member] at notLead
  contradiction

private theorem isClosed_lead (field : WrittenField) : IsClosed (field.lead ++ [':', ' ']) :=
  .of_ordinary fun character member =>
    isOrdinary_of_kind (by decide) (field.isLead_of_mem character member)

private theorem undivided_lead
    (field : WrittenField) :
    Division.Undivided Field.isTerminator {} (field.lead ++ [':', ' ']) := by
  refine .of_forall (fun character member => ?_) {}
  simp [Field.isTerminator, ne_of_mem_lead member (show isLead ';' = false by decide),
    ne_of_mem_lead member (show isLead ',' = false by decide),
    ne_of_mem_lead member (show isLead '\n' = false by decide)]

/-- The text in front of a type does not change the balance of its angles. -/
private theorem keepsAngles_lead
    {blanks : Text}
    (areBlank : ∀ character ∈ blanks, Text.isBlank character = true)
    (field : WrittenField)
    (text : Text) :
    TypeText.angleBalance (blanks ++ (field.lead ++ [':', ' ']) ++ text) =
      TypeText.angleBalance text := by
  apply TypeText.angleBalance_append_left
  · intro character member
    rcases List.mem_append.mp member with isBlank | inLead
    · exact TypeText.ne_angle_of_isBlank (areBlank character isBlank)
    · exact ⟨ne_of_mem_lead inLead (by decide), ne_of_mem_lead inLead (by decide)⟩
  · simp

/-- A field starts with a character of an identifier. -/
theorem exists_lead_cons
    (field : WrittenField) :
    ∃ first rest, field.lead = first :: rest ∧ Text.continuesIdentifier first = true := by
  obtain ⟨first, later, isName⟩ := List.exists_cons_of_ne_nil field.isIdentifier.notEmpty
  have continues := field.isIdentifier.continues first (by simp [isName])
  cases isReadonly : field.isReadonly with
  | false =>
      exact ⟨first, later ++ if field.optional then ['?'] else [],
        by simp [lead, isReadonly, isName], continues⟩
  | true =>
      refine ⟨'r', "eadonly ".toList ++ (field.name ++ if field.optional then ['?'] else []), ?_,
        by decide⟩
      rw [lead, isReadonly]
      rfl

/-- Only the type of a field is trimmed. -/
private theorem trim_lead
    {blanks : Text}
    (areBlank : ∀ character ∈ blanks, Text.isBlank character = true)
    (field : WrittenField)
    (text : Text) :
    Text.trim (blanks ++ (field.lead ++ ':' :: text)) =
      field.lead ++ ':' :: Text.trimEnd text := by
  obtain ⟨first, rest, isLead, continues⟩ := field.exists_lead_cons
  have notBlank := Text.isBlank_eq_false_of_continuesIdentifier continues
  have colonNotBlank : Text.isBlank ':' = false := by
    decide
  have colonLeft : Text.trimEnd (':' :: text) ≠ [] := by
    rw [Text.trimEnd_cons_of_not_blank colonNotBlank]
    exact List.cons_ne_nil _ _
  rw [Text.trim_append areBlank, isLead, List.cons_append, Text.trim_cons_of_not_blank notBlank,
    ← List.cons_append, Text.trimEnd_append_of_ne_nil _ colonLeft,
    Text.trimEnd_cons_of_not_blank colonNotBlank]

/-! ## The shape of a field -/

/-- What stands between a name and the type. -/
def afterName (field : WrittenField) (typeText : Text) : Text :=
  (if field.optional then ['?'] else []) ++ ':' :: typeText

/-- The marks that may stand right behind a name. -/
def marks : List Char := [':', '?']

/-- Behind the name of a field comes a mark that is in no name. -/
theorem exists_afterName_cons
    (field : WrittenField)
    (typeText : Text) :
    ∃ mark rest, field.afterName typeText = mark :: rest ∧ mark ∈ marks := by
  cases isOptional : field.optional with
  | false =>
      exact ⟨':', typeText, by simp [afterName, isOptional], by decide⟩
  | true =>
      exact ⟨'?', ':' :: typeText, by simp [afterName, isOptional], by decide⟩

/-- A mark is no part of a name and no blank. -/
theorem kind_of_mem_marks :
    ∀ mark ∈ marks, Text.continuesIdentifier mark = false ∧ Text.isBlank mark = false ∧
      mark ≠ '(' ∧ mark ∉ "readonly".toList ∧ ∀ keyword ∈ keywords, mark ∉ keyword := by
  decide

private theorem shapeFromName?_name
    (field : WrittenField)
    (typeText : Text) :
    Field.shapeFromName? (field.name ++ field.afterName typeText) =
      some ⟨field.name, field.optional, typeText⟩ := by
  have isRead : Field.name? (field.name ++ field.afterName typeText) =
      some (field.name, field.afterName typeText) := by
    obtain ⟨mark, rest, isAfter, isMark⟩ := field.exists_afterName_cons typeText
    obtain ⟨isStop, -⟩ := kind_of_mem_marks mark isMark
    rw [isAfter, Field.name?, field.isIdentifier.identifier?_append isStop]
    rfl
  have isType : Text.after? (':' :: typeText) [':'] = some typeText :=
    Text.after?_append [':'] typeText
  have colonKept : Text.trimStart (':' :: typeText) = ':' :: typeText := rfl
  have markKept : Text.trimStart ('?' :: ':' :: typeText) = '?' :: ':' :: typeText := rfl
  rw [Field.shapeFromName?, isRead, afterName]
  cases field.optional with
  | false =>
      simp only [Bool.false_eq_true, if_false, List.nil_append, Option.bind_eq_bind,
        Option.bind_some, colonKept]
      exact congrArg (Option.bind · _) isType
  | true =>
      simp only [if_true, List.singleton_append, Option.bind_eq_bind, Option.bind_some, markKept,
        colonKept, isType]
      rfl

/-- A name that starts with `readonly` has no blank behind it, so that it is read as a name. -/
private theorem afterWordAndBlanks?_name
    (field : WrittenField)
    (typeText : Text) :
    Text.afterWordAndBlanks? "readonly".toList (field.name ++ field.afterName typeText) = none := by
  obtain ⟨mark, rest, isAfter, isMark⟩ := field.exists_afterName_cons typeText
  obtain ⟨-, markNotBlank, -, lacksMark, -⟩ := kind_of_mem_marks mark isMark
  rw [isAfter, Text.afterWordAndBlanks?]
  cases found : Text.after? (field.name ++ mark :: rest) "readonly".toList with
  | none =>
      rfl
  | some behind =>
      obtain ⟨between, isName, rfl⟩ :=
        Text.exists_between lacksMark (Text.after?_eq_some_iff.mp found)
      have notBlank : ∀ character ∈ between, Text.isBlank character = false := by
        intro character member
        exact field.isIdentifier.isBlank_eq_false character (by simp [isName, member])
      cases between with
      | nil =>
          simp [Text.afterBlanks?, markNotBlank]
      | cons character later =>
          simp [Text.afterBlanks?, notBlank]

/-- A field in front of any type has the shape that is meant. -/
theorem shape?_lead
    (field : WrittenField)
    (typeText : Text) :
    Field.shape? (field.lead ++ ':' :: typeText) =
      some ⟨field.name, field.optional, typeText⟩ := by
  have isRead := field.shapeFromName?_name typeText
  cases isReadonly : field.isReadonly with
  | false =>
      have isSplit : field.lead ++ ':' :: typeText = field.name ++ field.afterName typeText := by
        rw [lead, isReadonly, afterName, List.append_assoc, List.append_assoc]
        rfl
      rw [isSplit, Field.shape?, field.afterWordAndBlanks?_name typeText, isRead]
      rfl
  | true =>
      have isSplit : field.lead ++ ':' :: typeText =
          "readonly".toList ++ ' ' :: (field.name ++ field.afterName typeText) := by
        rw [lead, isReadonly, afterName, List.append_assoc, List.append_assoc]
        rfl
      obtain ⟨first, later, isName⟩ := List.exists_cons_of_ne_nil field.isIdentifier.notEmpty
      have firstNotBlank : Text.isBlank first = false :=
        field.isIdentifier.isBlank_eq_false first (by simp [isName])
      have isBehind : Text.afterWordAndBlanks? "readonly".toList
          ("readonly".toList ++ ' ' :: (field.name ++ field.afterName typeText)) =
            some (field.name ++ field.afterName typeText) := by
        rw [Text.afterWordAndBlanks?_append Text.isBlank_space, isName, List.cons_append,
          Text.trimStart_cons_of_not_blank firstNotBlank]
      rw [isSplit, Field.shape?, isBehind, Option.bind_some, isRead]
      rfl

/-! ## The property of a field -/

/-- The field as it is gathered, without the blanks at its ends. -/
def trimmed (field : WrittenField) : Text :=
  field.lead ++ ':' :: Text.trimEnd (' ' :: field.typeText)

/-- A field is read as the property that is meant. -/
theorem toProperty_trimmed
    (field : WrittenField) :
    Field.toProperty field.trimmed = .ok field.property := by
  have sameType : TypeText.normalize (Text.trimEnd (' ' :: field.typeText)) =
      TypeText.normalize field.typeText := by
    apply TypeText.normalize_congr
    rw [Text.words_trimEnd, Text.words_cons Text.isBlank_space]
  have noSlash : '/' ∉ Text.trimEnd (' ' :: field.typeText) := by
    intro member
    have inWhole := (List.rdropWhile_prefix Text.isBlank _).subset member
    rcases List.mem_cons.mp inWhole with isSpace | inType
    · exact absurd isSpace (by decide)
    · exact field.isFieldType.noSlash inType
  have sameName : unquote field.name = field.name := by
    refine unquote_eq_self fun character member => ?_
    exact Text.isQuote_eq_false_of_continuesIdentifier
      (field.isIdentifier.continues character member)
  have notEmpty : ¬ (TypeText.normalize field.typeText).isEmpty = true := by
    simpa using field.isFieldType.normalized
  rw [Field.toProperty, trimmed, field.shape?_lead]
  simp only [Field.separateDefault_of_noSlash noSlash, sameType]
  rw [if_neg notEmpty, if_neg (by simp [field.isFieldType.anglesBalanced]), sameName]
  rfl

/-! ## The fields of a body -/

/-- The text of fields one behind another. -/
def sourceOf (fields : List WrittenField) : Text :=
  fields.flatMap source

/-- The first piece of a field starts with its name and its colon. -/
theorem ofText_source
    (field : WrittenField)
    (more : Text) :
    let pieces := Field.typePieces field.typeText
      (Division.ofText Field.isTerminator (field.behind ++ more))
    Division.ofText Field.isTerminator (field.source ++ more) =
      ⟨(field.lead ++ [':', ' ']) ++ pieces.first, pieces.later⟩ := by
  have isSplit : field.source ++ more =
      (field.lead ++ [':', ' ']) ++ (field.typeText ++ (field.behind ++ more)) := by
    simp [source]
  have typeSplit : Division.ofText Field.isTerminator (field.typeText ++ (field.behind ++ more)) =
      Field.typePieces field.typeText
        (Division.ofText Field.isTerminator (field.behind ++ more)) := by
    have closed : Reading.after {} field.typeText = {} := field.isFieldType.isClosed.after 0
    have divided := Division.ofTextFrom_append Field.isTerminator {} field.typeText
      (field.behind ++ more)
    rwa [closed] at divided
  rw [isSplit, Field.ofText_append field.isClosed_lead field.undivided_lead, typeSplit]

/-- No field starts with a mark that continues a type. -/
theorem isPrefixOf_lead_eq_false
    {mark : Char}
    (field : WrittenField)
    (isMark : Text.continuesIdentifier mark = false)
    (more rest : Text) :
    (mark :: more).isPrefixOf (field.lead ++ rest) = false := by
  obtain ⟨first, later, isLead, continues⟩ := field.exists_lead_cons
  have isOther : (mark == first) = false := by
    rw [beq_eq_false_iff_ne]
    rintro rfl
    rw [continues] at isMark
    contradiction
  rw [isLead, List.cons_append, List.isPrefixOf, isOther, Bool.false_and]

/-- A field ends in what its type ends in. -/
theorem isSuffixOf_trimmed_eq_false
    {field : WrittenField}
    {ending : Text}
    (lacksSpace : ' ' ∉ ending)
    (notEnding : ¬ ending <:+ Text.trimEnd field.typeText) :
    ending.isSuffixOf field.trimmed = false := by
  have typeLeft : Text.trimEnd field.typeText ≠ [] := by
    intro isNothing
    exact field.isFieldType.notBlank
      (Text.trim_eq_nil_iff.mpr (Text.trimEnd_eq_nil_iff.mp isNothing))
  have spaceKept : Text.trimEnd (' ' :: field.typeText) = ' ' :: Text.trimEnd field.typeText :=
    Text.trimEnd_append_of_ne_nil [' '] typeLeft
  have isSplit : field.trimmed = (field.lead ++ [':']) ++ ' ' :: Text.trimEnd field.typeText := by
    rw [trimmed, spaceKept, List.append_cons]
  refine Bool.eq_false_iff.mpr fun isSuffix => notEnding ?_
  rw [List.isSuffixOf_iff_suffix, isSplit] at isSuffix
  exact Text.suffix_of_suffix_append_cons lacksSpace isSuffix

/-- No field continues the type of a finished one. -/
theorem continuesType_trimmed
    {field : WrittenField}
    (finished : field.IsFinished)
    (other : WrittenField)
    (typeText : Text) :
    Field.continuesType field.trimmed (other.lead ++ ':' :: typeText) = false := by
  have noStart : (["|", "&", "=>"].any
      (·.toList.isPrefixOf (other.lead ++ ':' :: typeText))) = false := by
    simp only [List.any_cons, List.any_nil, Bool.or_false, Bool.or_eq_false_iff]
    exact ⟨other.isPrefixOf_lead_eq_false (by decide) [] _,
      other.isPrefixOf_lead_eq_false (by decide) [] _,
      other.isPrefixOf_lead_eq_false (by decide) ['>'] _⟩
  have noEnd : (["|", "&", ":", "=>"].any (·.toList.isSuffixOf field.trimmed)) = false := by
    simp only [List.any_cons, List.any_nil, Bool.or_false, Bool.or_eq_false_iff]
    exact ⟨isSuffixOf_trimmed_eq_false (by decide) (finished.2 _ (by decide)),
      isSuffixOf_trimmed_eq_false (by decide) (finished.2 _ (by decide)),
      isSuffixOf_trimmed_eq_false (by decide) field.isFieldType.not_colon_suffix,
      isSuffixOf_trimmed_eq_false (by decide) (finished.2 _ (by decide))⟩
  have hasShape : (Field.shape? (other.lead ++ ':' :: typeText)).isNone = false := by
    rw [other.shape?_lead]
    rfl
  rw [Field.continuesType, noStart, noEnd, hasShape]
  simp

/-- The first piece of a field starts with its name, also behind blanks. -/
theorem trim_first
    {blanks : Text}
    (areBlank : ∀ character ∈ blanks, Text.isBlank character = true)
    (field : WrittenField)
    (text : Text) :
    Text.trim (blanks ++ ((field.lead ++ [':', ' ']) ++ text)) =
      field.lead ++ ':' :: Text.trimEnd (' ' :: text) := by
  rw [List.append_assoc]
  exact field.trim_lead areBlank (' ' :: text)

/-- A field is gathered up to where no segment behind it continues its type. -/
theorem gatherAll_source
    {field : WrittenField}
    {blanks : Text}
    {next : Division}
    (areBlank : ∀ character ∈ blanks, Text.isBlank character = true)
    (nextBlank : ∀ character ∈ next.first, Text.isBlank character = true)
    (endsThere : ∀ segment ∈ (Division.segments next).head?,
      Field.continuesType field.trimmed segment = false) :
    let pieces := Field.typePieces field.typeText next
    (Field.gatherAll (blanks ++ ((field.lead ++ [':', ' ']) ++ pieces.first)) pieces.later).map
        Text.trim =
      field.trimmed :: (Field.gatherAll next.first next.later).map Text.trim := by
  have isNothing : Text.trim next.first = [] := Text.trim_eq_nil_iff.mpr nextBlank
  have isTrimmed : Text.trim
      (blanks ++ (field.lead ++ [':', ' ']) ++ (field.typeText ++ next.first)) = field.trimmed := by
    have typeTrimmed : Text.trimEnd (' ' :: field.typeText ++ next.first) =
        Text.trimEnd (' ' :: field.typeText) :=
      Text.trimEnd_append nextBlank _
    rw [List.append_assoc, field.trim_first areBlank, ← List.cons_append, typeTrimmed, trimmed]
  have notBlank : Text.trim (blanks ++ ((field.lead ++ [':', ' ']) ++
      (Field.typePieces field.typeText next).first)) ≠ [] := by
    rw [field.trim_first areBlank]
    simp
  intro pieces
  rw [Field.gatherAll_of_notBlank notBlank, ← List.append_assoc,
    Field.gather_type field.isFieldType (field.keepsAngles_lead areBlank) nextBlank,
    Field.gather_eq_cons isNothing (by rwa [isTrimmed]), Field.gatherAll_of_blank isNothing,
    List.map_cons, isTrimmed]

/-- How the fields are written. -/
def layout : Field.Layout WrittenField where
  source := source
  behind := behind
  trimmed := trimmed
  isGap := isGap
  notBlank field _ areBlank more := by
    rw [ofText_source, field.trim_first areBlank]
    simp
  gathers field _ more areBlank := by
    intro whole next nextBlank endsThere
    have isWhole : whole = _ := field.ofText_source more
    rw [isWhole]
    exact gatherAll_source areBlank nextBlank endsThere

/-- No field goes on in the type of a finished one. -/
theorem IsFinished.ends
    {field : WrittenField}
    (finished : field.IsFinished) :
    layout.Ends field := by
  refine ⟨finished.1, fun other blanks areBlank more => ?_⟩
  have isSplit : Division.ofText Field.isTerminator (layout.source other ++ more) = _ :=
    other.ofText_source more
  rw [isSplit, other.trim_first areBlank]
  exact continuesType_trimmed finished other _

/-- A body gives back the properties that are meant, in order. -/
theorem ofBody_properties
    {gap : Text}
    {fields : List WrittenField}
    (isGap : ∀ character ∈ gap, Field.isGap character = true)
    (areFinished : ∀ field ∈ fields.dropLast, field.IsFinished)
    (distinct : (fields.map name).Nodup)
    (declaration : Text) :
    PropertyList.ofBody declaration (gap ++ sourceOf fields) = ⟨fields.map property, []⟩ := by
  have isBody : Field.ofBody (gap ++ sourceOf fields) = fields.map trimmed :=
    Field.Layout.ofBody_sourceOf isGap fun field member => (areFinished field member).ends
  rw [PropertyList.ofBody, isBody]
  exact PropertyList.ofFieldsFrom_eq (fun field _ => field.toProperty_trimmed) distinct (by simp)

/-! ## Closed bodies -/

/-- A gap between fields is closed. -/
theorem isClosed_gap
    {gap : Text}
    (isGap : ∀ character ∈ gap, Field.isGap character = true) :
    IsClosed gap :=
  .of_ordinary fun character member => isOrdinary_of_kind (by decide) (isGap character member)

/-- Fields one after another are closed. -/
theorem isClosed_sourceOf (fields : List WrittenField) : IsClosed (sourceOf fields) := by
  induction fields with
  | nil =>
      exact .of_ordinary (List.forall_mem_nil _)
  | cons field later inductionHypothesis =>
      have sourceClosed :
          IsClosed ((field.lead ++ [':', ' ']) ++ (field.typeText ++ field.behind)) :=
        field.isClosed_lead.append (field.isFieldType.isClosed.append (isClosed_gap field.isGap))
      have isSplit : sourceOf (field :: later) =
          ((field.lead ++ [':', ' ']) ++ (field.typeText ++ field.behind)) ++ sourceOf later := by
        simp [sourceOf, source]
      rw [isSplit]
      exact sourceClosed.append inductionHypothesis

end WrittenField

end ComponentPages
