import ComponentPages.Proofs.Declaration.Declaring
import ComponentPages.Proofs.Declaration.WrittenField
import ComponentPages.Proofs.Source.DefaultMarker
import ComponentPages.Proofs.Source.Scope

namespace ComponentPages

/-!
# Plain fields

The type of a plain field is a name, and a default marker may stand behind it. The marker may be cut
by terminators like any other text, so it has to be a field of its own if it is to stay in one
piece; then the pieces are put together again behind the type as well.
-/

/--
Whether a comment that stays in the text disturbs nothing: all its delimiters and literals are
closed, it is one field, and it holds no declaration and no call.
-/
structure IsInert (comment : Text) : Prop where
  isScope : Scope.content? ('{' :: (comment ++ ['}'])) = some comment
  isField : Field.ofBody comment = [comment]
  noAnchor : Anchor.allOf comment = []
  noCall : BuilderCall.allOf comment = []

instance (comment : Text) : Decidable (IsInert comment) :=
  decidable_of_iff
    (Scope.content? ('{' :: (comment ++ ['}'])) = some comment ∧
      Field.ofBody comment = [comment] ∧ Anchor.allOf comment = [] ∧
        BuilderCall.allOf comment = [])
    ⟨fun ⟨isScope, isField, noAnchor, noCall⟩ => ⟨isScope, isField, noAnchor, noCall⟩,
      fun ⟨isScope, isField, noAnchor, noCall⟩ => ⟨isScope, isField, noAnchor, noCall⟩⟩

namespace IsInert

variable {comment value : Text}

/-- An inert comment is balanced. -/
theorem balanced
    (isInert : IsInert comment) :
    Balanced 0 false comment :=
  Scope.balanced_of_content? isInert.isScope

/-- A reading is behind an inert marker what it was in front of it. -/
theorem after
    (isInert : IsInert (Comment.defaultMarker value))
    (depth : Int) :
    Reading.after ⟨depth, none, false⟩ (Comment.defaultMarker value) = ⟨depth, none, false⟩ := by
  obtain ⟨escaped, isAfter⟩ := isInert.balanced.exists_after depth
  have notEscaped :
      (Reading.after ⟨depth, none, false⟩ (Comment.defaultMarker value)).escaped = false := by
    have isSplit : Comment.defaultMarker value =
        ("/*".toList ++ (Comment.saysDefault value ++ ['*'])) ++ ['/'] := by
      rw [Comment.defaultMarker, List.append_assoc, List.append_assoc]
      rfl
    rw [isSplit, Reading.after_append]
    rfl
  rw [Int.natCast_zero, Int.add_zero] at isAfter
  rw [isAfter] at notEscaped ⊢
  rw [show escaped = false from notEscaped]

/-- Whether a character has no part in delimiters and literals and ends no field. -/
def isQuiet (character : Char) : Bool :=
  !(isOpener character || isCloser character || isQuote character || Field.isTerminator character)

private theorem balanced_of_quiet
    (areQuiet : ∀ character ∈ comment, isQuiet character = true)
    (escaped : Bool) :
    Balanced 0 escaped comment := by
  induction comment generalizing escaped with
  | nil =>
      exact .nil
  | cons character later inductionHypothesis =>
      obtain ⟨isFirst, areLater⟩ := List.forall_mem_cons.mp areQuiet
      simp only [isQuiet, Bool.not_eq_true', Bool.or_eq_false_iff] at isFirst
      obtain ⟨⟨⟨notOpener, notCloser⟩, notQuote⟩, -⟩ := isFirst
      exact .plain notOpener notCloser (by simp [notQuote]) (inductionHypothesis areLater _)

/-- A trimmed comment without delimiters, quotes and terminators is inert. -/
theorem of_quiet
    (notEmpty : comment ≠ [])
    (trimmed : Text.trim comment = comment)
    (areQuiet : ∀ character ∈ comment, isQuiet character = true) :
    IsInert comment where
  isScope :=
    Scope.content?_of_balanced (by decide) (balanced_of_quiet areQuiet false) (by decide) []
  isField := by
    have noTerminator : ∀ character ∈ comment, Field.isTerminator character = false := by
      intro character member
      have isQuietCharacter := areQuiet character member
      simp only [isQuiet, Bool.not_eq_true', Bool.or_eq_false_iff] at isQuietCharacter
      exact isQuietCharacter.2
    have isOnePiece : Division.ofText Field.isTerminator comment = ⟨comment, []⟩ :=
      Division.ofTextFrom_of_undivided (.of_forall noTerminator {})
    rw [Field.ofBody, isOnePiece]
    simp [Field.gatherAll, trimmed, notEmpty]
  noAnchor := by
    have noneOf (form : Anchor.Form) : Anchor.ofForm form comment = [] := by
      have lacksBrace : '{' ∉ comment := fun member =>
        absurd (areQuiet '{' member) (by decide)
      exact (form.isDeclaringSearch.passesOver_of_lacks
        lacksBrace).filterMap_occurrencesFrom_eq_nil 0
    rw [Anchor.allOf, noneOf, noneOf, List.append_nil, List.mergeSort_nil]
  noCall := by
    have lacksParenthesis : '(' ∉ comment := fun member =>
      absurd (areQuiet '(' member) (by decide)
    have noOccurrence : (BuilderCall.pattern.occurrences comment).filterMap some = [] :=
      (BuilderCall.isDeclaringSearch.passesOver_of_lacks
        lacksParenthesis).filterMap_occurrencesFrom_eq_nil 0
    rw [List.filterMap_some] at noOccurrence
    rw [BuilderCall.allOf, noOccurrence, List.map_nil]

end IsInert

/--
A field whose type is a name. It may have a default marker, and blanks and terminators stand behind
it.
-/
structure PlainField where
  name : Text
  optional : Bool
  typeName : Text
  /-- What the default marker says. -/
  value : Option Text
  behind : Text
  isIdentifier : Text.IsIdentifier name
  isTypeName : Text.IsIdentifier typeName
  isMarker : ∀ text ∈ value, IsDefaultValue text ∧ IsInert (Comment.defaultMarker text)
  isGap : ∀ character ∈ behind, Field.isGap character = true

namespace PlainField

/-- What stands in front of the colon. -/
def lead (field : PlainField) : Text :=
  field.name ++ if field.optional then ['?'] else []

/-- What stands in front of a marker, or in front of the end of the field. -/
def front (field : PlainField) : Text :=
  field.lead ++ ':' :: ' ' :: field.typeName

/-- The marker, with a blank in front. -/
def note (field : PlainField) : Text :=
  match field.value with
  | none => []
  | some value => ' ' :: Comment.defaultMarker value

/-- The field without the blanks at its ends. -/
def trimmed (field : PlainField) : Text :=
  field.front ++ field.note

/-- The field with what stands behind it. -/
def source (field : PlainField) : Text :=
  field.trimmed ++ field.behind

/-- The property that is meant. -/
def property (field : PlainField) : Property where
  name := field.name
  typeText := field.typeName
  required := !field.optional
  defaultValue := field.value
  description := Property.describe field.name field.typeName

/-- The same field with a default marker. -/
def mark
    {value : Text}
    (isValue : IsDefaultValue value)
    (isInert : IsInert (Comment.defaultMarker value))
    (field : PlainField) :
    PlainField :=
  { field with
    value := some value
    isMarker := by
      rintro text ⟨rfl⟩
      exact ⟨isValue, isInert⟩ }

/-- A field of the same name, for what does not depend on the type. -/
def named (field : PlainField) : WrittenField where
  isReadonly := false
  name := field.name
  optional := field.optional
  typeText := "T".toList
  behind := []
  isIdentifier := field.isIdentifier
  isFieldType := by decide
  isGap := List.forall_mem_nil _

private theorem lead_named (field : PlainField) : field.named.lead = field.lead :=
  rfl

/-! ## In front of a marker -/

open WrittenField (isLead)

/-- In front of a marker stand names, blanks, a colon and perhaps a question mark. -/
theorem isLead_of_mem
    (field : PlainField) :
    ∀ character ∈ field.front ++ [' '], isLead character = true := by
  have typeIsLead : ∀ character ∈ field.typeName ++ [' '], isLead character = true := by
    intro character member
    rcases List.mem_append.mp member with inType | isSpace
    · simp [isLead, field.isTypeName.continues character inType]
    · rw [List.mem_singleton.mp isSpace]
      rfl
  have isSplit : field.front ++ [' '] =
      (field.named.lead ++ [':', ' ']) ++ (field.typeName ++ [' ']) := by
    simp [front, lead_named]
  intro character member
  rw [isSplit] at member
  exact (List.mem_append.mp member).elim (field.named.isLead_of_mem character)
    (typeIsLead character)

/-- What ends in a text with a slash ends in it behind the slash. -/
private theorem isSuffixOf_behind
    {ending : Text}
    (lacksSlash : '/' ∉ ending)
    (lead rest : Text) :
    ending.isSuffixOf (lead ++ '/' :: rest) = ending.isSuffixOf ('/' :: rest) := by
  rw [Bool.eq_iff_iff, List.isSuffixOf_iff_suffix, List.isSuffixOf_iff_suffix]
  constructor
  · intro isSuffix
    have inRest := Text.suffix_of_suffix_append_cons lacksSlash isSuffix
    exact inRest.trans (List.suffix_cons '/' rest)
  · intro isSuffix
    exact isSuffix.trans (List.suffix_append lead _)

/-- Whether a piece continues a type in front of it is told from the marker alone. -/
private theorem continuesType_behind
    {blanks lead : Text}
    {first : Char}
    (areBlank : ∀ character ∈ blanks, Text.isBlank character = true)
    (notBlank : Text.isBlank first = false)
    (areLead : ∀ character ∈ first :: lead, isLead character = true)
    (more piece : Text) :
    Field.continuesType (Text.trim ((blanks ++ first :: lead) ++ '/' :: more)) piece =
      Field.continuesType (Text.trim ('/' :: more)) piece := by
  have slashNotBlank : Text.isBlank '/' = false := by
    decide
  have isTrimmed : Text.trim ('/' :: more) = '/' :: Text.trimEnd more := by
    rw [Text.trim_cons_of_not_blank slashNotBlank, Text.trimEnd_cons_of_not_blank slashNotBlank]
  have isTrimmedBehind : Text.trim ((blanks ++ first :: lead) ++ '/' :: more) =
      (first :: lead) ++ '/' :: Text.trimEnd more := by
    have slashLeft : Text.trimEnd ('/' :: more) ≠ [] := by
      rw [Text.trimEnd_cons_of_not_blank slashNotBlank]
      exact List.cons_ne_nil _ _
    rw [List.append_assoc, Text.trim_append areBlank, List.cons_append,
      Text.trim_cons_of_not_blank notBlank, ← List.cons_append,
      Text.trimEnd_append_of_ne_nil _ slashLeft, Text.trimEnd_cons_of_not_blank slashNotBlank]
  have sameAngles : TypeText.angleBalance ((first :: lead) ++ '/' :: Text.trimEnd more) =
      TypeText.angleBalance ('/' :: Text.trimEnd more) := by
    have notLead (character : Char) (member : character ∈ first :: lead) (other : Char)
        (isOther : isLead other = false) : character ≠ other := by
      rintro rfl
      rw [areLead character member] at isOther
      contradiction
    apply TypeText.angleBalance_append_left
    · intro character member
      exact ⟨notLead character member '<' (by decide), notLead character member '>' (by decide)⟩
    · intro isLast
      exact notLead '=' (List.mem_of_getLast? isLast) '=' (by decide) rfl
  rw [isTrimmed, isTrimmedBehind, Field.continuesType, Field.continuesType, sameAngles]
  simp only [List.any_cons, List.any_nil]
  rw [isSuffixOf_behind (by decide), isSuffixOf_behind (by decide), isSuffixOf_behind (by decide),
    isSuffixOf_behind (by decide)]

/-! ## The pieces of a field -/

/-- A reading is behind a marker what it was in front of it. -/
theorem after_note (field : PlainField) : Reading.after {} field.note = {} := by
  cases isValue : field.value with
  | none =>
      rw [note, isValue]
      rfl
  | some value =>
      obtain ⟨-, isInert⟩ := field.isMarker value isValue
      have spaceRead : Reading.next {} ' ' = {} :=
        rfl
      rw [note, isValue]
      simp only
      rw [Reading.after, List.foldl_cons, spaceRead]
      exact isInert.after 0

/-- What stands in front of a marker is closed. -/
theorem isClosed_front (field : PlainField) : IsClosed field.front :=
  .of_ordinary fun character member => isOrdinary_of_kind (by decide)
    (field.isLead_of_mem character (List.mem_append_left _ member))

/-- A field in front of more text is cut where its marker and its end are. -/
theorem ofText_source
    (field : PlainField)
    (more : Text) :
    let pieces := Field.typePieces field.note
      (Division.ofText Field.isTerminator (field.behind ++ more))
    Division.ofText Field.isTerminator (field.source ++ more) =
      ⟨field.front ++ pieces.first, pieces.later⟩ := by
  have isSplit : field.source ++ more = field.front ++ (field.note ++ (field.behind ++ more)) := by
    simp [source, trimmed]
  have undivided : Division.Undivided Field.isTerminator {} field.front := by
    refine .of_forall (fun character member => ?_) {}
    have areLead := field.isLead_of_mem character (List.mem_append_left _ member)
    refine Bool.eq_false_iff.mpr fun terminates => ?_
    simp only [Field.isTerminator, Bool.or_eq_true, beq_iff_eq] at terminates
    rcases terminates with (rfl | rfl) | rfl <;> exact absurd areLead (by decide)
  have divided := Division.ofTextFrom_append Field.isTerminator {} field.note
    (field.behind ++ more)
  rw [field.after_note] at divided
  rw [isSplit, Field.ofText_append field.isClosed_front undivided]
  intro pieces
  have isPieces : Division.ofText Field.isTerminator (field.note ++ (field.behind ++ more)) =
      pieces :=
    divided
  rw [isPieces]

private theorem exists_front_cons
    (field : PlainField) :
    ∃ first rest, field.front = first :: rest ∧ Text.isBlank first = false := by
  obtain ⟨first, rest, isLead, continues⟩ := field.named.exists_lead_cons
  rw [lead_named] at isLead
  exact ⟨first, rest ++ ':' :: ' ' :: field.typeName, by simp [front, isLead],
    Text.isBlank_eq_false_of_continuesIdentifier continues⟩

/-- The pieces of an inert marker are one field. -/
theorem gather_defaultMarker
    {value : Text}
    (isInert : IsInert (Comment.defaultMarker value)) :
    let division := Division.ofText Field.isTerminator (Comment.defaultMarker value)
    ∃ rest field, division.first = '/' :: rest ∧
      Field.gather ('/' :: rest) [] division.later = [field] ∧
        Text.trim field = Comment.defaultMarker value := by
  have undivided : Division.Undivided Field.isTerminator {} ['/'] := .of_forall (by decide) {}
  have divided := Division.ofTextFrom_append_of_undivided undivided
    ('*' :: (Comment.saysDefault value ++ "*/".toList))
  have isField := isInert.isField
  rw [Field.ofBody] at isField
  intro division
  have isFirst : division.first = '/' :: _ :=
    congrArg Division.first divided
  have notBlank : Text.trim division.first ≠ [] := by
    rw [isFirst, Text.trim_cons_of_not_blank (by decide),
      Text.trimEnd_cons_of_not_blank (by decide)]
    exact List.cons_ne_nil _ _
  rw [Field.gatherAll_of_notBlank notBlank] at isField
  obtain ⟨field, isGathered, isTrimmed⟩ := List.map_eq_singleton_iff.mp isField
  exact ⟨_, field, isFirst, isFirst ▸ isGathered, isTrimmed⟩

/-- The pieces of a marker are put together again behind the type. -/
theorem gather_note
    {blanks : Text}
    {next : Division}
    (areBlank : ∀ character ∈ blanks, Text.isBlank character = true)
    (nextBlank : ∀ character ∈ next.first, Text.isBlank character = true)
    (field : PlainField) :
    let pieces := Field.typePieces field.note next
    ∃ after behind,
      (∀ character ∈ after, Text.isBlank character = true) ∧
        Field.gather (blanks ++ (field.front ++ pieces.first)) [] pieces.later =
          Field.gather (blanks ++ (field.trimmed ++ after)) behind next.later := by
  cases isValue : field.value with
  | none =>
      refine ⟨next.first, [], nextBlank, ?_⟩
      rw [trimmed, note, isValue, List.append_nil]
      rfl
  | some value =>
      obtain ⟨-, isInert⟩ := field.isMarker value isValue
      obtain ⟨rest, whole, isFirst, isGathered, isTrimmed⟩ := gather_defaultMarker isInert
      obtain ⟨first, lead, isFront, notBlank⟩ := field.exists_front_cons
      have isNote : field.note = ' ' :: Comment.defaultMarker value := by
        rw [note, isValue]
      have isPieces : Field.typePieces field.note next =
          Division.push ' ' (Division.extend ('/' :: rest)
            (Division.ofText Field.isTerminator (Comment.defaultMarker value)).later next) := by
        have divided := Field.ofText_blank (by decide)
          (show Field.isTerminator ' ' = false by decide) (Comment.defaultMarker value)
        rw [isFirst] at divided
        rw [isNote, Field.typePieces, ← Division.ofText, divided, Division.extend_cons]
      generalize (Division.ofText Field.isTerminator (Comment.defaultMarker value)).later = later
        at isGathered isPieces
      have areLead : ∀ character ∈ first :: (lead ++ [' ']), isLead character = true := by
        intro character member
        exact field.isLead_of_mem character (by rw [isFront]; exact member)
      have sameChoice (more piece : Text) :
          Field.continuesType
              (Text.trim ((blanks ++ (first :: (lead ++ [' ']))) ++ (['/'] ++ more))) piece =
            Field.continuesType (Text.trim (['/'] ++ more)) piece :=
        continuesType_behind areBlank notBlank areLead more piece
      obtain ⟨more, after, behind, rfl, areBlankAfter, gathered⟩ : ∃ more after behind,
          whole = ['/'] ++ more ∧ (∀ character ∈ after, Text.isBlank character = true) ∧
            Field.gather
                ((blanks ++ (first :: (lead ++ [' ']))) ++
                  (Division.extend ('/' :: rest) later next).first)
                [] (Division.extend ('/' :: rest) later next).later =
              Field.gather ((blanks ++ (first :: (lead ++ [' ']))) ++ (whole ++ after)) behind
                next.later := by
        cases later with
        | nil =>
            obtain rfl := List.singleton_inj.mp isGathered
            exact ⟨rest, next.first, [], rfl, nextBlank, rfl⟩
        | cons separated others =>
            exact Field.gather_alone sameChoice nextBlank isGathered
      obtain ⟨blanksBehind, isMarker, areBlankBehind⟩ := Text.exists_eq_trimEnd ('/' :: more)
      rw [← Text.trim_cons_of_not_blank (by decide), show '/' :: more = ['/'] ++ more from rfl,
        isTrimmed] at isMarker
      refine ⟨blanksBehind ++ after, behind, ?_, ?_⟩
      · intro character member
        exact (List.mem_append.mp member).elim (areBlankBehind character) (areBlankAfter character)
      · rw [isMarker] at gathered
        rw [isPieces, trimmed, isNote, isFront]
        simpa [Division.push] using gathered

/-- A field ends in the last letter of its type, or in the slash of its marker. -/
private theorem exists_getLast?_trimmed
    (field : PlainField) :
    ∃ last, field.trimmed.getLast? = some last ∧
      (Text.continuesIdentifier last = true ∨ last = '/') := by
  cases isValue : field.value with
  | none =>
      have notEmpty := field.isTypeName.notEmpty
      refine ⟨field.typeName.getLast notEmpty, ?_, .inl ?_⟩
      · rw [trimmed, note, isValue, List.append_nil, front, List.append_cons, List.append_cons,
          List.getLast?_append_of_ne_nil _ notEmpty, List.getLast?_eq_some_getLast notEmpty]
      · exact field.isTypeName.continues _ (List.getLast_mem notEmpty)
  | some value =>
      refine ⟨'/', ?_, .inr rfl⟩
      have isSplit : field.trimmed =
          (field.front ++ ' ' :: ("/*".toList ++ (Comment.saysDefault value ++ ['*']))) ++
            ['/'] := by
        simp [trimmed, note, isValue, Comment.defaultMarker]
      rw [isSplit, List.getLast?_concat]

/-- Blanks at the ends of a field are trimmed, and nothing else is. -/
theorem trim_trimmed
    {blanks after : Text}
    (areBlank : ∀ character ∈ blanks, Text.isBlank character = true)
    (afterBlank : ∀ character ∈ after, Text.isBlank character = true)
    (field : PlainField) :
    Text.trim (blanks ++ (field.trimmed ++ after)) = field.trimmed := by
  rw [Text.trim_append_blanks areBlank afterBlank]
  apply Text.trim_eq_self
  · obtain ⟨first, rest, isFront, notBlank⟩ := field.exists_front_cons
    intro character isFirst
    rw [trimmed, isFront] at isFirst
    obtain rfl := Option.some.inj isFirst
    exact notBlank
  · obtain ⟨last, isLast, isKind⟩ := field.exists_getLast?_trimmed
    intro character isOther
    rw [isLast] at isOther
    obtain rfl := Option.some.inj isOther
    rcases isKind with continues | rfl
    · exact Text.isBlank_eq_false_of_continuesIdentifier continues
    · decide

/-- The first piece of a field starts with its name, also behind blanks. -/
theorem trim_first
    {blanks : Text}
    (areBlank : ∀ character ∈ blanks, Text.isBlank character = true)
    (field : PlainField)
    (text : Text) :
    Text.trim (blanks ++ (field.front ++ text)) =
      field.lead ++ ':' :: Text.trimEnd (' ' :: (field.typeName ++ text)) := by
  have isSplit : field.front ++ text =
      (field.named.lead ++ [':', ' ']) ++ (field.typeName ++ text) := by
    simp [front, lead_named]
  rw [isSplit]
  exact field.named.trim_first areBlank (field.typeName ++ text)

/-- How the fields are written. -/
def layout : Field.Layout PlainField where
  source := source
  behind := behind
  trimmed := trimmed
  isGap := isGap
  notBlank field _ areBlank more := by
    rw [ofText_source, field.trim_first areBlank]
    simp
  gathers field blanks more areBlank := by
    intro whole next nextBlank endsThere
    have isWhole : whole = _ := field.ofText_source more
    obtain ⟨after, behind, afterBlank, gathered⟩ := field.gather_note areBlank nextBlank
    have notBlank : Text.trim (blanks ++ whole.first) ≠ [] := by
      rw [isWhole, field.trim_first areBlank]
      simp
    have isTrimmed := field.trim_trimmed areBlank afterBlank
    have firstBlank : Text.trim next.first = [] := Text.trim_eq_nil_iff.mpr nextBlank
    rw [Field.gatherAll_of_notBlank notBlank, isWhole]
    simp only
    rw [gathered, Field.gather_eq_cons firstBlank (by rwa [isTrimmed]),
      Field.gatherAll_of_blank firstBlank, List.map_cons, isTrimmed]

/-- A field ends in no mark after which its type would go on. -/
theorem isSuffixOf_trimmed_eq_false
    {ending : Text}
    (isMark : ∃ mark ∈ ending.getLast?, Text.continuesIdentifier mark = false ∧ mark ≠ '/')
    (field : PlainField) :
    ending.isSuffixOf field.trimmed = false := by
  obtain ⟨mark, isLastOfMark, notContinues, notSlash⟩ := isMark
  obtain ⟨last, isLast, isKind⟩ := field.exists_getLast?_trimmed
  refine Bool.eq_false_iff.mpr fun isSuffix => ?_
  obtain ⟨before, isSplit⟩ := List.isSuffixOf_iff_suffix.mp isSuffix
  have notEmpty : ending ≠ [] := by
    rintro rfl
    contradiction
  rw [← isSplit, List.getLast?_append_of_ne_nil _ notEmpty, isLastOfMark] at isLast
  obtain rfl := Option.some.inj isLast
  rcases isKind with continues | isSlash
  · rw [continues] at notContinues
    contradiction
  · exact notSlash isSlash

/-- A field ends at a terminator, whatever field follows. -/
theorem ends
    {field : PlainField}
    (terminates : ∃ character ∈ field.behind, Field.isTerminator character = true) :
    layout.Ends field := by
  refine ⟨terminates, fun other blanks areBlank more => ?_⟩
  have isSplit : Division.ofText Field.isTerminator (layout.source other ++ more) = _ :=
    other.ofText_source more
  rw [isSplit, other.trim_first areBlank, ← lead_named]
  have noStart (typeText : Text) : (["|", "&", "=>"].any
      (·.toList.isPrefixOf (other.named.lead ++ ':' :: typeText))) = false := by
    simp only [List.any_cons, List.any_nil, Bool.or_false, Bool.or_eq_false_iff]
    exact ⟨other.named.isPrefixOf_lead_eq_false (by decide) [] _,
      other.named.isPrefixOf_lead_eq_false (by decide) [] _,
      other.named.isPrefixOf_lead_eq_false (by decide) ['>'] _⟩
  have noEnd : (["|", "&", ":", "=>"].any (·.toList.isSuffixOf field.trimmed)) = false := by
    simp only [List.any_cons, List.any_nil, Bool.or_false, Bool.or_eq_false_iff]
    exact ⟨field.isSuffixOf_trimmed_eq_false ⟨'|', by decide, by decide⟩,
      field.isSuffixOf_trimmed_eq_false ⟨'&', by decide, by decide⟩,
      field.isSuffixOf_trimmed_eq_false ⟨':', by decide, by decide⟩,
      field.isSuffixOf_trimmed_eq_false ⟨'>', by decide, by decide⟩⟩
  have hasShape (typeText : Text) :
      (Field.shape? (other.named.lead ++ ':' :: typeText)).isNone = false := by
    rw [other.named.shape?_lead]
    rfl
  rw [Field.continuesType]
  simp [layout, noStart, noEnd, hasShape]

/-! ## The property of a field -/

/-- A marker gives its value. -/
theorem defaultMarker_eq
    {value : Text}
    (isValue : IsDefaultValue value)
    (previous : Option Char) :
    Field.defaultMarker previous (Comment.defaultMarker value) = some (value, []) := by
  obtain ⟨first, later, isFirst⟩ := List.exists_cons_of_ne_nil isValue.notEmpty
  have notBlank : Text.isBlank first = false := by
    have isTrimmed := isValue.trimmed
    rw [isFirst] at isTrimmed
    exact Text.isBlank_eq_false_of_trim_cons isTrimmed
  have afterSlash : (Text.after? (Comment.defaultMarker value) ['/']).bind
      (Text.run? (· == '*')) = some (['*'], Comment.saysDefault value ++ "*/".toList) :=
    rfl
  have isStart : Text.trimStart (Comment.saysDefault value ++ "*/".toList) =
      "@default".toList ++ ' ' :: (value ++ ' ' :: "*/".toList) := by
    have isSplit : Comment.saysDefault value ++ "*/".toList =
        ' ' :: ("@default ".toList ++ (value ++ ([' '] ++ "*/".toList))) := by
      rw [← List.append_assoc value]
      exact congrArg (' ' :: ·) (List.append_assoc "@default ".toList (value ++ [' ']) _)
    rw [isSplit]
    rfl
  have isContent : Text.afterWordAndBlanks? "@default".toList
      ("@default".toList ++ ' ' :: (value ++ ' ' :: "*/".toList)) =
        some (value ++ ' ' :: "*/".toList) := by
    rw [Text.afterWordAndBlanks?_append Text.isBlank_space, isFirst, List.cons_append,
      Text.trimStart_cons_of_not_blank notBlank]
  have isEnd : Text.breakOn? (value ++ ' ' :: "*/".toList) "*/".toList =
      some (value ++ [' '], []) := by
    have isSplit : value ++ ' ' :: "*/".toList = (value ++ [' ']) ++ '*' :: '/' :: [] :=
      List.append_cons value ' ' "*/".toList
    have notInside : ¬ "*/".toList <:+: value ++ [' '] := fun isInfix =>
      Comment.noCloser_saysDefault isValue (isInfix.trans (List.suffix_append _ _).isInfix)
    rw [isSplit]
    exact Comment.breakOn?_closer notInside []
  have isTrimmed : Text.trim (value ++ [' ']) = value := by
    have blanksLost := Text.trim_append_blanks (List.forall_mem_nil _)
      (show ∀ character ∈ [' '], Text.isBlank character = true by decide) value
    rwa [List.nil_append, isValue.trimmed] at blanksLost
  rw [Field.defaultMarker, afterSlash]
  simp only [Option.bind_eq_bind, Option.bind_some, isStart, isContent, isEnd, isTrimmed]
  rfl

/-- A marker is read behind any text without a slash. -/
theorem separateDefault_defaultMarker
    {value lead : Text}
    (isValue : IsDefaultValue value)
    (noSlash : '/' ∉ lead) :
    Field.separateDefault (lead ++ Comment.defaultMarker value) = (lead ++ [' '], some value) := by
  have absent := Field.defaultMarker_begins.misses_of_head noSlash (Comment.defaultMarker value)
  have isFound : Field.defaultMarker.break? (lead ++ Comment.defaultMarker value) =
      some (lead, value, []) := by
    have isThere (previous : Option Char) :
        Field.defaultMarker.breakFrom? previous (Comment.defaultMarker value) =
          some ([], value, []) :=
      Text.Pattern.breakFrom?_eq_some (List.cons_ne_nil _ _) (defaultMarker_eq isValue previous)
    rw [Text.Pattern.break?, absent.breakFrom?_append, isThere]
    exact congrArg (fun before => some (before, value, [])) (List.append_nil lead)
  rw [Field.separateDefault, isFound]

private theorem not_mem_typeName
    {character : Char}
    (isOther : Text.continuesIdentifier character = false)
    (field : PlainField) :
    character ∉ field.typeName := by
  intro member
  rw [field.isTypeName.continues character member] at isOther
  contradiction

/-- The default value is told from the type, which is left with blanks around it. -/
theorem separateDefault_note
    (field : PlainField) :
    ∃ blanks, (∀ character ∈ blanks, Text.isBlank character = true) ∧
      Field.separateDefault (' ' :: (field.typeName ++ field.note)) =
        ([' '] ++ (field.typeName ++ blanks), field.value) := by
  have noSlash : '/' ∉ field.typeName := field.not_mem_typeName (by decide)
  cases isValue : field.value with
  | none =>
      refine ⟨[], List.forall_mem_nil _, ?_⟩
      rw [List.append_nil, note, isValue, List.append_nil,
        Field.separateDefault_of_noSlash (by simp [noSlash])]
      rfl
  | some value =>
      obtain ⟨isDefault, -⟩ := field.isMarker value isValue
      have isSplit : ' ' :: (field.typeName ++ field.note) =
          ' ' :: (field.typeName ++ [' ']) ++ Comment.defaultMarker value := by
        simp [note, isValue]
      refine ⟨"  ".toList, by decide, ?_⟩
      rw [isSplit, separateDefault_defaultMarker isDefault (by simp [noSlash])]
      simp

private theorem angleBalance_typeName
    (field : PlainField) :
    TypeText.angleBalance field.typeName = 0 := by
  refine TypeText.angleBalanceFrom_eq_zero (fun character member => ⟨?_, ?_⟩) none
  · rintro rfl
    exact field.not_mem_typeName (by decide) member
  · rintro rfl
    exact field.not_mem_typeName (by decide) member

/-- A field is read as the property that is meant. -/
theorem toProperty_trimmed
    (field : PlainField) :
    Field.toProperty field.trimmed = .ok field.property := by
  have isNormal : TypeText.normalize field.typeName = field.typeName :=
    TypeText.normalize_eq_self field.isTypeName.notEmpty field.isTypeName.isBlank_eq_false
      (field.not_mem_typeName (by decide)) (field.not_mem_typeName (by decide))
  obtain ⟨blanks, areBlank, isSeparated⟩ := field.separateDefault_note
  have isType : TypeText.normalize ([' '] ++ (field.typeName ++ blanks)) = field.typeName := by
    have sameWords := Text.words_append_blanks
      (show ∀ character ∈ [' '], Text.isBlank character = true by decide) areBlank field.typeName
    exact (TypeText.normalize_congr sameWords).trans isNormal
  have sameName : unquote field.name = field.name := by
    refine unquote_eq_self fun character member => ?_
    exact Text.isQuote_eq_false_of_continuesIdentifier
      (field.isIdentifier.continues character member)
  have hasShape : Field.shape? field.trimmed =
      some ⟨field.name, field.optional, ' ' :: (field.typeName ++ field.note)⟩ := by
    have isSplit : field.trimmed =
        field.named.lead ++ ':' :: (' ' :: (field.typeName ++ field.note)) := by
      simp [trimmed, front, lead_named]
    rw [isSplit, field.named.shape?_lead]
    rfl
  have notEmpty : ¬ field.typeName.isEmpty = true := by
    simpa using field.isTypeName.notEmpty
  rw [Field.toProperty, hasShape]
  simp only [isSeparated, isType, sameName]
  rw [if_neg notEmpty, if_neg (by simp [field.angleBalance_typeName])]
  rfl

end PlainField

end ComponentPages
