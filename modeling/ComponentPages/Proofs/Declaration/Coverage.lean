import ComponentPages.Declaration.Property
import ComponentPages.Proofs.Source.Division

namespace ComponentPages

/-!
# What becomes of a body

Nothing that is written in a body is lost without a trace. Its fields are stretches of it, one
behind another, and between them there are only blanks and terminators at the top level. Of each
field there comes a property, a diagnostic that tells its text, or nothing because a property of the
same name precedes it.
-/

/-! ## Stretches of a text -/

/-- A stretch of a text: how many characters precede it, and what it holds. -/
structure Stretch where
  start : Nat
  content : Text
  deriving Repr, DecidableEq

namespace Stretch

/-- The offset behind the stretch. -/
def stop (stretch : Stretch) : Nat :=
  stretch.start + stretch.content.length

/-- Whether a stretch stands in a text where it says. -/
def StandsIn (stretch : Stretch) (text : Text) : Prop :=
  stretch.content <+: text.drop stretch.start

/-- Whether the character at a position lies in a stretch. -/
def Holds (stretch : Stretch) (position : Nat) : Prop :=
  stretch.start ≤ position ∧ position < stretch.stop

end Stretch

namespace Field

/-- Whether a character may stand between fields: it is a blank or a terminator at the top level. -/
def Separates (reading : Reading) (character : Char) : Prop :=
  Text.isBlank character = true ∨ Division.IsSeparator isTerminator reading character

/--
Stretches of a text that lose nothing of what stands in it from a position on. They are trimmed and
not empty and stand one behind another, and each character but those that may stand between fields
lies in exactly one of them.
-/
structure Covers (stretches : List Stretch) (text : Text) (start : Nat) : Prop where
  behind : ∀ stretch ∈ stretches, start ≤ stretch.start
  standsIn : ∀ stretch ∈ stretches, stretch.StandsIn text
  notEmpty : ∀ stretch ∈ stretches, stretch.content ≠ []
  trimmed : ∀ stretch ∈ stretches, Text.trim stretch.content = stretch.content
  inOrder : stretches.Pairwise fun earlier later => earlier.stop ≤ later.start
  complete : ∀ position, start ≤ position → ∀ character ∈ text[position]?,
    ¬ Separates (Reading.after {} (text.take position)) character →
      ∃! stretch, stretch ∈ stretches ∧ stretch.Holds position

/-! ## Layouts -/

/-- How fields are laid out in the text behind a reading. -/
inductive LaidOut : Reading → List Text → Text → Prop where
  | nil {reading : Reading} :
      LaidOut reading [] []
  | between
      {reading : Reading}
      {character : Char}
      {fields : List Text}
      {text : Text}
      (separates : Separates reading character)
      (later : LaidOut (reading.next character) fields text) :
      LaidOut reading fields (character :: text)
  | field
      {reading : Reading}
      {field : Text}
      {fields : List Text}
      {text : Text}
      (notEmpty : field ≠ [])
      (trimmed : Text.trim field = field)
      (later : LaidOut (reading.after field) fields text) :
      LaidOut reading (field :: fields) (field ++ text)

namespace LaidOut

variable {reading : Reading} {fields : List Text} {text : Text}

/-- In front of fields there may be blanks and terminators. -/
theorem gap
    {gap : Text}
    (areGap : reading.Along Separates gap)
    (later : LaidOut (reading.after gap) fields text) :
    LaidOut reading fields (gap ++ text) := by
  induction gap generalizing reading with
  | nil =>
      exact later
  | cons character rest inductionHypothesis =>
      exact .between areGap.1 (inductionHypothesis areGap.2 later)

/-- Blanks in front of laid out fields belong to no field. -/
theorem blanks
    {blanks : Text}
    (areBlank : ∀ character ∈ blanks, Text.isBlank character = true)
    (later : LaidOut (reading.after blanks) fields text) :
    LaidOut reading fields (blanks ++ text) :=
  .gap (.of_forall (fun character member _ => .inl (areBlank character member)) reading) later

/-- A text that is not blank is a field with blanks around it. -/
theorem trim
    {field : Text}
    (notBlank : Text.trim field ≠ [])
    (later : LaidOut (reading.after field) fields text) :
    LaidOut reading (Text.trim field :: fields) (field ++ text) := by
  obtain ⟨before, after, isField, beforeBlank, afterBlank⟩ := Text.exists_eq_trim field
  rw [isField, Reading.after_append, Reading.after_append] at later
  have laidOut := blanks beforeBlank
    (.field notBlank (Text.trim_trim field) (blanks afterBlank later))
  rw [← List.append_assoc (Text.trim field), ← List.append_assoc before, ← isField] at laidOut
  exact laidOut

end LaidOut

/-! ## Gathering loses nothing -/

/-- A text that holds one that is not blank is not blank. -/
theorem trim_append_ne_nil
    {text : Text}
    (notBlank : Text.trim text ≠ [])
    (more : Text) :
    Text.trim (text ++ more) ≠ [] := by
  intro isBlank
  refine notBlank (Text.trim_eq_nil_iff.mpr fun character member => ?_)
  exact Text.trim_eq_nil_iff.mp isBlank character (List.mem_append_left more member)

/--
The fields that are gathered are laid out in the text of the pieces. What has been read so far is
the field `current` and the blanks and terminators of `gap`; it ends where `first` ends.
-/
private theorem laidOut_gather
    {reading start : Reading}
    {current gap first : Text}
    {later : List (Char × Text)}
    (notBlank : Text.trim current ≠ [])
    (sameEnd : start.after first = (reading.after current).after gap)
    (areGap : (reading.after current).Along Separates gap)
    (divides : Division.Divides isTerminator start first later) :
    LaidOut reading ((gather current gap later).map Text.trim)
      (current ++ (gap ++ Division.laterText later)) := by
  induction later generalizing reading start current gap first with
  | nil =>
      exact .trim notBlank (.gap areGap .nil)
  | cons behind others inductionHypothesis =>
      obtain ⟨separator, piece⟩ := behind
      obtain ⟨-, isSeparator, dividesOthers⟩ := divides
      rw [sameEnd] at isSeparator dividesOthers
      have areGapOn : (reading.after current).Along Separates (gap ++ [separator]) :=
        areGap.append ⟨.inr isSeparator, trivial⟩
      have endOn : (reading.after current).after (gap ++ [separator]) =
          ((reading.after current).after gap).next separator :=
        Reading.after_append _ _ _
      rw [← endOn] at dividesOthers
      have sameText : gap ++ Division.laterText ((separator, piece) :: others) =
          gap ++ [separator] ++ (piece ++ Division.laterText others) := by
        simp
      rw [gather, sameText]
      split
      · rename_i isBlank
        have blankPiece := Text.trim_eq_nil_iff.mp (List.isEmpty_iff.mp isBlank)
        have areGapBeyond : (reading.after current).Along Separates (gap ++ [separator] ++ piece) :=
          areGapOn.append
            (.of_forall (fun character member _ => .inl (blankPiece character member)) _)
        have laidOut := inductionHypothesis notBlank (Reading.after_append _ _ _).symm
          areGapBeyond dividesOthers
        rwa [List.append_assoc (gap ++ [separator])] at laidOut
      · rename_i notBlankPiece
        split
        · have notBlankOn : Text.trim (current ++ (gap ++ [separator]) ++ piece) ≠ [] :=
            trim_append_ne_nil (trim_append_ne_nil notBlank _) piece
          have sameEndOn : ((reading.after current).after (gap ++ [separator])).after piece =
              (reading.after (current ++ (gap ++ [separator]) ++ piece)).after [] := by
            rw [Reading.after_append reading, Reading.after_append reading current]
            rfl
          have laidOut := inductionHypothesis notBlankOn sameEndOn trivial dividesOthers
          simpa only [List.append_assoc, List.nil_append] using laidOut
        · have sameEndOn : ((reading.after current).after (gap ++ [separator])).after piece =
              (((reading.after current).after (gap ++ [separator])).after piece).after [] :=
            rfl
          refine .trim notBlank (.gap areGapOn ?_)
          exact inductionHypothesis (by simpa using notBlankPiece) sameEndOn trivial dividesOthers

/-- The fields that pieces are gathered to are laid out in the text of the pieces. -/
theorem laidOut_gatherAll
    {reading : Reading}
    {first : Text}
    {later : List (Char × Text)}
    (divides : Division.Divides isTerminator reading first later) :
    LaidOut reading ((gatherAll first later).map Text.trim)
      (first ++ Division.laterText later) := by
  induction later generalizing reading first with
  | nil =>
      rw [gatherAll]
      split
      · rename_i isBlank
        exact .blanks (Text.trim_eq_nil_iff.mp (List.isEmpty_iff.mp isBlank)) .nil
      · rename_i notBlank
        exact .trim (by simpa using notBlank) .nil
  | cons behind others inductionHypothesis =>
      obtain ⟨separator, piece⟩ := behind
      rw [gatherAll]
      split
      · rename_i isBlank
        obtain ⟨-, isSeparator, dividesOthers⟩ := divides
        refine .blanks (Text.trim_eq_nil_iff.mp (List.isEmpty_iff.mp isBlank)) ?_
        exact .between (.inr isSeparator) (inductionHypothesis dividesOthers)
      · rename_i notBlank
        have sameEnd : reading.after first = (reading.after first).after [] := rfl
        exact laidOut_gather (by simpa using notBlank) sameEnd trivial divides

/-- The fields of a body are laid out in it. -/
theorem laidOut_ofBody (body : Text) : LaidOut {} (ofBody body) body := by
  have laidOut := laidOut_gatherAll (Division.divides_ofTextFrom isTerminator {} body)
  rwa [Division.joined_ofTextFrom] at laidOut

/-! ## Layouts as stretches -/

namespace Covers

variable {stretches : List Stretch} {before text : Text}

/-- A character that may stand between fields need not be covered. -/
private theorem between
    {character : Char}
    (separates : Separates (Reading.after {} before) character)
    (later : Covers stretches (before ++ [character] ++ text) (before ++ [character]).length) :
    Covers stretches (before ++ character :: text) before.length := by
  rw [List.append_assoc, List.singleton_append, List.length_append] at later
  refine { later with behind := ?_, complete := ?_ }
  · intro stretch member
    exact Nat.le_of_add_right_le (later.behind stretch member)
  · intro position isBehind other isThere apart
    rcases Nat.eq_or_lt_of_le isBehind with rfl | isBeyond
    · rw [List.getElem?_append_right (Nat.le_refl _), Nat.sub_self] at isThere
      obtain rfl := Option.some.inj isThere
      rw [List.take_left] at apart
      exact absurd separates apart
    · exact later.complete position isBeyond other isThere apart

/-- A field covers its own characters, and those behind it stay covered once. -/
private theorem field
    {field : Text}
    (notEmpty : field ≠ [])
    (trimmed : Text.trim field = field)
    (later : Covers stretches (before ++ field ++ text) (before ++ field).length) :
    Covers (⟨before.length, field⟩ :: stretches) (before ++ (field ++ text)) before.length := by
  rw [List.append_assoc, List.length_append] at later
  have apart : ∀ stretch ∈ stretches, (⟨before.length, field⟩ : Stretch).stop ≤ stretch.start :=
    later.behind
  constructor
  case behind =>
    refine List.forall_mem_cons.mpr ⟨Nat.le_refl _, fun stretch member => ?_⟩
    exact Nat.le_of_add_right_le (later.behind stretch member)
  case standsIn =>
    refine List.forall_mem_cons.mpr ⟨?_, later.standsIn⟩
    rw [Stretch.StandsIn, List.drop_left]
    exact List.prefix_append _ _
  case notEmpty =>
    exact List.forall_mem_cons.mpr ⟨notEmpty, later.notEmpty⟩
  case trimmed =>
    exact List.forall_mem_cons.mpr ⟨trimmed, later.trimmed⟩
  case inOrder =>
    exact List.pairwise_cons.mpr ⟨apart, later.inOrder⟩
  case complete =>
    intro position isBehind character isThere separated
    by_cases isInside : position < before.length + field.length
    · refine ⟨⟨before.length, field⟩, ⟨List.mem_cons_self, isBehind, isInside⟩, ?_⟩
      rintro other ⟨member, holds⟩
      refine (List.mem_cons.mp member).resolve_right fun isLater => ?_
      exact absurd (Nat.le_trans (later.behind other isLater) holds.1) (Nat.not_le_of_lt isInside)
    · obtain ⟨stretch, ⟨member, holds⟩, alone⟩ :=
        later.complete position (Nat.le_of_not_lt isInside) character isThere separated
      refine ⟨stretch, ⟨List.mem_cons_of_mem _ member, holds⟩, ?_⟩
      rintro other ⟨otherMember, otherHolds⟩
      rcases List.mem_cons.mp otherMember with rfl | isLater
      · exact absurd otherHolds.2 isInside
      · exact alone other ⟨isLater, otherHolds⟩

end Covers

/-- Fields that are laid out behind a text are stretches that lose nothing. -/
theorem LaidOut.exists_covers
    {reading : Reading}
    {fields : List Text}
    {text : Text}
    (laidOut : LaidOut reading fields text)
    {before : Text}
    (isReading : reading = Reading.after {} before) :
    ∃ stretches : List Stretch,
      stretches.map Stretch.content = fields ∧
        Covers stretches (before ++ text) before.length := by
  induction laidOut generalizing before with
  | nil =>
      refine ⟨[], rfl, nofun, nofun, nofun, nofun, .nil, ?_⟩
      intro position isBehind character isThere
      rw [List.append_nil, List.getElem?_eq_none isBehind] at isThere
      contradiction
  | @between reading character fields text separates later inductionHypothesis =>
      subst isReading
      obtain ⟨stretches, areFields, covers⟩ :=
        inductionHypothesis (Reading.after_append {} before [character]).symm
      exact ⟨stretches, areFields, .between separates covers⟩
  | @field reading field fields text notEmpty trimmed later inductionHypothesis =>
      subst isReading
      obtain ⟨stretches, areFields, covers⟩ :=
        inductionHypothesis (Reading.after_append {} before field).symm
      refine ⟨⟨before.length, field⟩ :: stretches, ?_, .field notEmpty trimmed covers⟩
      rw [List.map_cons, areFields]

end Field

/-! ## What becomes of a field -/

/-- What becomes of a field. -/
inductive Field.Outcome where
  /-- The field is a property. -/
  | kept (property : Property)
  /-- The field reads as a property, but one of the same name precedes it. -/
  | passedOver (property : Property)
  /-- The field does not read as a property. -/
  | reported (diagnostic : Diagnostic)
  deriving Repr, DecidableEq

namespace Field.Outcome

/-- The property that a field gave, if it is kept. -/
def property? : Outcome → Option Property
  | .kept property => some property
  | _ => none

/-- The diagnostic that a field gave. -/
def diagnostic? : Outcome → Option Diagnostic
  | .reported diagnostic => some diagnostic
  | _ => none

/-- The names of the properties that are kept. -/
def keptNames (outcomes : List Outcome) : List Text :=
  (outcomes.filterMap property?).map Property.name

/-- Whether this becomes of a field of a declaration when that became of the fields before it. -/
def IsOf (declaration : Text) (earlier : List Outcome) (field : Text) : Outcome → Prop
  | .kept property =>
      toProperty field = .ok property ∧ property.name ∉ keptNames earlier
  | .passedOver property =>
      toProperty field = .ok property ∧ property.name ∈ keptNames earlier
  | .reported diagnostic =>
      diagnostic.declaration = declaration ∧ diagnostic.field = field ∧
        toProperty field = .error diagnostic.fault

/-- Whether outcomes are those of fields, one for each, behind the fields of earlier outcomes. -/
inductive AreOf (declaration : Text) : List Outcome → List Text → List Outcome → Prop where
  | nil {earlier : List Outcome} :
      AreOf declaration earlier [] []
  | cons
      {earlier outcomes : List Outcome}
      {field : Text}
      {fields : List Text}
      {outcome : Outcome}
      (isOf : outcome.IsOf declaration earlier field)
      (areOf : AreOf declaration (earlier ++ [outcome]) fields outcomes) :
      AreOf declaration earlier (field :: fields) (outcome :: outcomes)

private theorem keptNames_concat
    (earlier : List Outcome)
    (outcome : Outcome) :
    keptNames (earlier ++ [outcome]) =
      keptNames earlier ++ (outcome.property?.map Property.name).toList := by
  cases outcome <;> simp [keptNames, property?]

end Field.Outcome

/-- The properties and diagnostics of fields are what becomes of them, in their order. -/
theorem PropertyList.exists_outcomes
    {declaration : Text}
    {seen fields : List Text}
    {earlier : List Field.Outcome}
    (areSeen : ∀ name, name ∈ seen ↔ name ∈ Field.Outcome.keptNames earlier) :
    ∃ outcomes,
      Field.Outcome.AreOf declaration earlier fields outcomes ∧
        ofFieldsFrom declaration seen fields =
          ⟨outcomes.filterMap Field.Outcome.property?,
            outcomes.filterMap Field.Outcome.diagnostic?⟩ := by
  induction fields generalizing seen earlier with
  | nil =>
      exact ⟨[], .nil, rfl⟩
  | cons field later inductionHypothesis =>
      rw [ofFieldsFrom]
      split
      · rename_i property isRead
        split
        · rename_i isSeen
          have areSeenOn : ∀ name, name ∈ seen ↔
              name ∈ Field.Outcome.keptNames (earlier ++ [.passedOver property]) := by
            simp [Field.Outcome.keptNames_concat, Field.Outcome.property?, areSeen]
          obtain ⟨outcomes, areOf, isList⟩ := inductionHypothesis areSeenOn
          exact ⟨.passedOver property :: outcomes,
            .cons ⟨isRead, (areSeen _).mp isSeen⟩ areOf, isList⟩
        · rename_i isNew
          have areSeenOn : ∀ name, name ∈ property.name :: seen ↔
              name ∈ Field.Outcome.keptNames (earlier ++ [.kept property]) := by
            simp [Field.Outcome.keptNames_concat, Field.Outcome.property?, areSeen, or_comm]
          obtain ⟨outcomes, areOf, isList⟩ := inductionHypothesis areSeenOn
          refine ⟨.kept property :: outcomes,
            .cons ⟨isRead, fun isKept => isNew ((areSeen _).mpr isKept)⟩ areOf, ?_⟩
          rw [isList]
          rfl
      · rename_i fault isFaulty
        have areSeenOn : ∀ name, name ∈ seen ↔
            name ∈ Field.Outcome.keptNames
              (earlier ++ [.reported ⟨declaration, field, fault⟩]) := by
          simp [Field.Outcome.keptNames_concat, Field.Outcome.property?, areSeen]
        obtain ⟨outcomes, areOf, isList⟩ := inductionHypothesis areSeenOn
        refine ⟨.reported ⟨declaration, field, fault⟩ :: outcomes,
          .cons ⟨rfl, rfl, isFaulty⟩ areOf, ?_⟩
        rw [isList]
        rfl

/--
Of a body nothing is lost. Its fields are stretches of it that cover all but blanks and terminators
at the top level. The properties are those fields, in their order, that read as a property of a name
that no property before them has; the diagnostics are those, in their order, that do not read as a
property.
-/
theorem PropertyList.ofBody_accounts
    (declaration body : Text) :
    (∃ stretches : List Stretch,
      stretches.map Stretch.content = Field.ofBody body ∧ Field.Covers stretches body 0) ∧
    ∃ outcomes,
      Field.Outcome.AreOf declaration [] (Field.ofBody body) outcomes ∧
        (ofBody declaration body).properties = outcomes.filterMap Field.Outcome.property? ∧
          (ofBody declaration body).diagnostics =
            outcomes.filterMap Field.Outcome.diagnostic? := by
  have isStart : ({} : Reading) = Reading.after {} [] := rfl
  refine ⟨(Field.laidOut_ofBody body).exists_covers isStart, ?_⟩
  have noneSeen : ∀ name, name ∈ ([] : List Text) ↔ name ∈ Field.Outcome.keptNames [] :=
    fun _ => Iff.rfl
  obtain ⟨outcomes, areOf, isList⟩ := exists_outcomes noneSeen
  exact ⟨outcomes, areOf, congrArg properties isList, congrArg diagnostics isList⟩

end ComponentPages
