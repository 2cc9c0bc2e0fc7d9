import ComponentPages.Proofs.Declaration.FieldType

namespace ComponentPages

/-!
# Gathering fields

The pieces into which a type is cut are put together again. A field ends where no piece behind it
continues its type, and between fields blanks and terminators are passed over.
-/

namespace Field

open Division (extend laterText)

/-! ## The pieces of a type -/

/-- More opening than closing angles and no shape of its own make a piece continue a type. -/
private theorem continuesType_of_angles
    {current piece : Text}
    (anglesOpen : 0 < TypeText.angleBalance current)
    (noShape : shape? piece = none) :
    continuesType (Text.trim current) piece = true := by
  rw [continuesType, TypeText.angleBalance_trim, noShape]
  simp [anglesOpen]

/-- The pieces behind `current` that continue a type are added to it. -/
theorem gather_extend
    {lead passed current gap piece : Text}
    {separator : Char}
    {later : List (Char × Text)}
    {next : Division}
    (keepsAngles : ∀ text, TypeText.angleBalance (lead ++ text) = TypeText.angleBalance text)
    (nextBlank : ∀ character ∈ next.first, Text.isBlank character = true)
    (continues : Continue passed ((separator, piece) :: later))
    (isPassed : current ++ gap = lead ++ passed)
    (sameAngles : TypeText.angleBalance current = TypeText.angleBalance passed) :
    gather current gap
        ((separator, (extend piece later next).first) :: (extend piece later next).later) =
      gather (lead ++ (passed ++ separator :: (piece ++ laterText later) ++ next.first)) []
        next.later := by
  induction later generalizing passed current gap piece separator with
  | nil =>
      obtain ⟨-, anglesOpen, noShape, notBlank, -⟩ := continues
      rw [Division.laterText_nil, List.append_nil] at notBlank
      have trimmed : Text.trim (piece ++ next.first) = Text.trim piece :=
        Text.trim_append_blanks (List.forall_mem_nil _) nextBlank piece
      have isContinued : continuesType (Text.trim current) (Text.trim piece) = true :=
        continuesType_of_angles (sameAngles ▸ anglesOpen) noShape
      have notEmpty : ¬ (Text.trim piece).isEmpty = true := by
        simpa using notBlank
      have isWhole : current ++ (gap ++ [separator]) ++ (piece ++ next.first) =
          lead ++ (passed ++ separator :: (piece ++ laterText []) ++ next.first) := by
        rw [← List.append_assoc current, isPassed]
        simp
      rw [extend, gather]
      simp only [trimmed]
      rw [if_neg notEmpty, if_pos isContinued, isWhole]
  | cons behind others inductionHypothesis =>
      obtain ⟨nextSeparator, nextPiece⟩ := behind
      obtain ⟨isComma, anglesOpen, noShape, notBlank, continuesOthers⟩ := continues
      have isWhole :
          lead ++ (passed ++ separator ::
              (piece ++ laterText ((nextSeparator, nextPiece) :: others)) ++ next.first) =
            lead ++ ((passed ++ separator :: piece) ++
              nextSeparator :: (nextPiece ++ laterText others) ++ next.first) := by
        simp
      have isPassedOn : current ++ (gap ++ [separator] ++ piece) =
          lead ++ (passed ++ separator :: piece) := by
        rw [List.append_assoc gap, ← List.append_assoc current, isPassed, List.append_assoc]
        rfl
      rw [isWhole, extend, gather]
      split
      · rename_i isBlankPiece
        refine inductionHypothesis continuesOthers isPassedOn ?_
        have blankPiece : ∀ character ∈ piece, Text.isBlank character = true :=
          Text.trim_eq_nil_iff.mp (List.isEmpty_iff.mp isBlankPiece)
        have noAngles : ∀ character ∈ separator :: piece, character ≠ '<' ∧ character ≠ '>' := by
          refine List.forall_mem_cons.mpr ⟨by simp [isComma], fun character member => ?_⟩
          exact TypeText.ne_angle_of_isBlank (blankPiece character member)
        rw [sameAngles, TypeText.angleBalance_append_right noAngles]
      · have isContinued : continuesType (Text.trim current) (Text.trim piece) = true :=
          continuesType_of_angles (sameAngles ▸ anglesOpen) noShape
        rw [if_pos isContinued]
        refine inductionHypothesis continuesOthers ?_ ?_
        · rw [List.append_nil, List.append_assoc current]
          exact isPassedOn
        · rw [List.append_assoc current, isPassedOn, keepsAngles]

/-- The pieces of a type with the division of what stands behind it. -/
def typePieces (text : Text) (next : Division) : Division :=
  extend (Division.ofTextFrom isTerminator {} text).first
    (Division.ofTextFrom isTerminator {} text).later next

/-- The pieces of a type are put together again, with what follows it. -/
theorem gather_type
    {lead text : Text}
    {next : Division}
    (isFieldType : IsFieldType text)
    (keepsAngles : ∀ text, TypeText.angleBalance (lead ++ text) = TypeText.angleBalance text)
    (nextBlank : ∀ character ∈ next.first, Text.isBlank character = true) :
    gather (lead ++ (typePieces text next).first) [] (typePieces text next).later =
      gather (lead ++ (text ++ next.first)) [] next.later := by
  unfold typePieces
  have isText := Division.joined_ofTextFrom isTerminator {} text
  have divides := Division.divides_ofTextFrom isTerminator {} text
  generalize (Division.ofTextFrom isTerminator {} text).first = first at isText divides
  generalize (Division.ofTextFrom isTerminator {} text).later = later at isText divides
  have isWhole : text = [] ++ (first ++ laterText later) :=
    isText.symm
  have continues : Continue first later := isFieldType.continue_of_divides isWhole divides
  cases later with
  | nil =>
      rw [Division.laterText_nil, List.append_nil] at isText
      rw [isText]
      rfl
  | cons behind others =>
      obtain ⟨separator, piece⟩ := behind
      rw [Division.laterText_cons] at isText
      refine (gather_extend keepsAngles nextBlank continues ?_ ?_).trans ?_
      · exact List.append_nil _
      · exact keepsAngles first
      · rw [isText]

/-- Gathering from a piece gives a field. -/
theorem gather_ne_nil
    (current gap : Text)
    (later : List (Char × Text)) :
    gather current gap later ≠ [] := by
  fun_induction gather current gap later with
  | case1 current gap =>
      exact List.cons_ne_nil _ _
  | case2 current gap separator piece later passed isBlank inductionHypothesis =>
      exact inductionHypothesis
  | case3 current gap separator piece later passed notBlank continues inductionHypothesis =>
      exact inductionHypothesis
  | case4 current gap separator piece later passed notBlank ends =>
      exact List.cons_ne_nil _ _

/--
Pieces that are one field by themselves are one field also behind `front`, if that does not change
what continues a type, and with blanks behind them.
-/
theorem gather_alone
    {front first more gap piece field : Text}
    {separator : Char}
    {later : List (Char × Text)}
    {next : Division}
    (sameChoice : ∀ more piece,
      continuesType (Text.trim (front ++ (first ++ more))) piece =
        continuesType (Text.trim (first ++ more)) piece)
    (nextBlank : ∀ character ∈ next.first, Text.isBlank character = true)
    (alone : gather (first ++ more) gap ((separator, piece) :: later) = [field]) :
    ∃ rest blanks behind,
      field = first ++ rest ∧
        (∀ character ∈ blanks, Text.isBlank character = true) ∧
          gather (front ++ (first ++ more)) gap
              ((separator, (extend piece later next).first) :: (extend piece later next).later) =
            gather (front ++ (field ++ blanks)) behind next.later := by
  induction later generalizing more gap piece separator with
  | nil =>
      have trimmed : Text.trim (piece ++ next.first) = Text.trim piece :=
        Text.trim_append_blanks (List.forall_mem_nil _) nextBlank piece
      rw [gather] at alone
      rw [extend, gather]
      simp only [trimmed, sameChoice]
      split at alone
      · rename_i isBlank
        obtain rfl := List.singleton_inj.mp alone
        rw [if_pos isBlank]
        exact ⟨more, [], _, rfl, List.forall_mem_nil _, by rw [List.append_nil]⟩
      · rename_i notBlank
        rw [if_neg notBlank]
        split at alone
        · rename_i continues
          obtain rfl := List.singleton_inj.mp alone
          rw [if_pos continues]
          exact ⟨more ++ (gap ++ [separator]) ++ piece, next.first, [], by simp, nextBlank, by simp⟩
        · exact absurd (List.cons.inj alone).2 (gather_ne_nil _ _ _)
  | cons behind others inductionHypothesis =>
      obtain ⟨nextSeparator, nextPiece⟩ := behind
      rw [gather] at alone
      rw [extend, gather]
      simp only [sameChoice]
      split at alone
      · rename_i isBlank
        rw [if_pos isBlank]
        exact inductionHypothesis alone
      · rename_i notBlank
        rw [if_neg notBlank]
        split at alone
        · rename_i continues
          rw [if_pos continues]
          have isLonger : first ++ more ++ (gap ++ [separator]) ++ piece =
              first ++ (more ++ (gap ++ [separator]) ++ piece) := by
            simp
          rw [isLonger] at alone
          have gathered := inductionHypothesis alone
          simpa using gathered
        · exact absurd (List.cons.inj alone).2 (gather_ne_nil _ _ _)

/-! ## Between fields -/

/-- The blanks and terminators that may stand between fields. -/
def isGap (character : Char) : Bool :=
  Text.isBlank character || isTerminator character

/-- A terminator outside literals at depth zero ends a piece. -/
theorem ofText_terminator
    {character : Char}
    (terminates : isTerminator character = true)
    (text : Text) :
    Division.ofText isTerminator (character :: text) =
      Division.pushSeparator character (Division.ofText isTerminator text) := by
  simp only [isTerminator, Bool.or_eq_true, beq_iff_eq] at terminates
  rcases terminates with (rfl | rfl) | rfl <;> rfl

/-- Closed text without terminators belongs to the piece in front of which it stands. -/
theorem ofText_append
    {lead : Text}
    (closed : IsClosed lead)
    (undivided : Division.Undivided isTerminator {} lead)
    (text : Text) :
    Division.ofText isTerminator (lead ++ text) =
      ⟨lead ++ (Division.ofText isTerminator text).first,
        (Division.ofText isTerminator text).later⟩ := by
  rw [Division.ofText, Division.ofTextFrom_append_of_undivided undivided, closed.after]
  rfl

/-- A blank that ends no piece goes to the first piece. -/
theorem ofText_blank
    {character : Char}
    (isBlank : Text.isBlank character = true)
    (noTerminator : isTerminator character = false)
    (text : Text) :
    Division.ofText isTerminator (character :: text) =
      ⟨character :: (Division.ofText isTerminator text).first,
        (Division.ofText isTerminator text).later⟩ :=
  ofText_append (.of_blank (List.forall_mem_singleton.mpr isBlank))
    (.of_forall (List.forall_mem_singleton.mpr noTerminator) {}) text

/-- The fields of pieces that stand behind a separator. -/
def gatherLater : List (Char × Text) → List Text
  | [] => []
  | (_, piece) :: later => gatherAll piece later

/-- A blank first piece gives no field. -/
theorem gatherAll_of_blank
    {first : Text}
    (isBlank : Text.trim first = [])
    (later : List (Char × Text)) :
    gatherAll first later = gatherLater later := by
  cases later with
  | nil =>
      simp [gatherAll, gatherLater, isBlank]
  | cons behind others =>
      simp [gatherAll, gatherLater, isBlank]

/-- A first piece that is not blank starts a field. -/
theorem gatherAll_of_notBlank
    {first : Text}
    (notBlank : Text.trim first ≠ [])
    (later : List (Char × Text)) :
    gatherAll first later = gather first [] later := by
  cases later with
  | nil =>
      simp [gatherAll, gather, notBlank]
  | cons behind others =>
      simp [gatherAll, notBlank]

/-- A field ends where the next segment does not continue its type. -/
theorem gather_eq_cons
    {current first : Text}
    {later : List (Char × Text)}
    (firstBlank : Text.trim first = [])
    (endsThere : ∀ segment ∈ (Division.segments ⟨first, later⟩).head?,
      continuesType (Text.trim current) segment = false)
    (gap : Text) :
    gather current gap later = current :: gatherLater later := by
  induction later generalizing first gap with
  | nil =>
      rfl
  | cons behind others inductionHypothesis =>
      obtain ⟨separator, piece⟩ := behind
      have sameSegments : Division.segments ⟨first, (separator, piece) :: others⟩ =
          Division.segments ⟨piece, others⟩ := by
        simp [Division.segments, Division.pieces, firstBlank]
      rw [sameSegments] at endsThere
      rw [gather, gatherLater]
      by_cases isBlank : Text.trim piece = []
      · rw [gatherAll_of_blank isBlank, if_pos (by simp [isBlank])]
        exact inductionHypothesis isBlank endsThere _
      · have isHead : Text.trim piece ∈ (Division.segments ⟨piece, others⟩).head? := by
          simp [Division.segments, Division.pieces, isBlank]
        rw [gatherAll_of_notBlank isBlank, if_neg (by simpa using isBlank),
          if_neg (by simp [endsThere _ isHead])]

/-- Of a gap only blanks are left in front of what follows. -/
private theorem exists_blank_of_gap
    {gap : Text}
    (isGap : ∀ character ∈ gap, isGap character = true)
    (text : Text) :
    ∀ {before : Text}, (∀ character ∈ before, Text.isBlank character = true) →
      let whole := Division.ofText isTerminator (gap ++ text)
      let rest := Division.ofText isTerminator text
      ∃ blanks, (∀ character ∈ blanks, Text.isBlank character = true) ∧
        gatherAll (before ++ whole.first) whole.later =
            gatherAll (blanks ++ rest.first) rest.later ∧
          Division.segments ⟨before ++ whole.first, whole.later⟩ =
            Division.segments ⟨blanks ++ rest.first, rest.later⟩ := by
  induction gap with
  | nil =>
      intro before beforeBlank
      exact ⟨before, beforeBlank, rfl, rfl⟩
  | cons character others inductionHypothesis =>
      intro before beforeBlank
      obtain ⟨isGapCharacter, othersGap⟩ := List.forall_mem_cons.mp isGap
      by_cases terminates : isTerminator character = true
      · have isTrimmed : Text.trim before = [] := Text.trim_eq_nil_iff.mpr beforeBlank
        obtain ⟨blanks, areBlank, sameFields, sameSegments⟩ :=
          inductionHypothesis othersGap (List.forall_mem_nil _)
        refine ⟨blanks, areBlank, ?_, ?_⟩
        · rw [List.cons_append, ofText_terminator terminates]
          simp only [Division.pushSeparator, List.append_nil]
          rw [gatherAll_of_blank isTrimmed]
          exact sameFields
        · rw [List.cons_append, ofText_terminator terminates, ← sameSegments]
          simp [Division.pushSeparator, Division.segments, Division.pieces, isTrimmed]
      · have noTerminator : isTerminator character = false := by
          simpa using terminates
        have isBlank : Text.isBlank character = true := by
          simpa [Field.isGap, noTerminator] using isGapCharacter
        have longerBlank : ∀ other ∈ before ++ [character], Text.isBlank other = true := by
          simpa [isBlank, or_imp, forall_and] using beforeBlank
        rw [List.cons_append, ofText_blank isBlank noTerminator]
        obtain ⟨blanks, areBlank, same⟩ := inductionHypothesis othersGap longerBlank
        rw [List.append_assoc] at same
        exact ⟨blanks, areBlank, same⟩

/-- In front of the first terminator of a gap there are only blanks. -/
private theorem blank_first_of_gap
    {gap text : Text}
    (isGap : ∀ character ∈ gap, isGap character = true)
    (ends : (∃ character ∈ gap, isTerminator character = true) ∨ text = []) :
    ∀ character ∈ (Division.ofText isTerminator (gap ++ text)).first,
      Text.isBlank character = true := by
  induction gap with
  | nil =>
      have isNothing : text = [] := by
        simpa using ends
      rw [isNothing]
      exact List.forall_mem_nil _
  | cons character others inductionHypothesis =>
      obtain ⟨isGapCharacter, othersGap⟩ := List.forall_mem_cons.mp isGap
      by_cases terminates : isTerminator character = true
      · rw [List.cons_append, ofText_terminator terminates]
        exact List.forall_mem_nil _
      · have noTerminator : isTerminator character = false := by
          simpa using terminates
        have isBlank : Text.isBlank character = true := by
          simpa [Field.isGap, noTerminator] using isGapCharacter
        have endsLater : (∃ other ∈ others, isTerminator other = true) ∨ text = [] := by
          simpa [noTerminator] using ends
        rw [List.cons_append, ofText_blank isBlank noTerminator]
        exact List.forall_mem_cons.mpr ⟨isBlank, inductionHypothesis othersGap endsLater⟩

/-! ## Fields one behind another -/

/-- What holds of all but the last of several holds of the first one unless it is the last. -/
theorem forall_mem_dropLast_cons
    {α : Type}
    {holds : α → Prop}
    {first : α}
    {later : List α}
    (allHold : ∀ other ∈ (first :: later).dropLast, holds other) :
    (later ≠ [] → holds first) ∧ ∀ other ∈ later.dropLast, holds other := by
  cases later with
  | nil =>
      exact ⟨nofun, by simp⟩
  | cons next others =>
      rw [List.dropLast_cons_of_ne_nil (List.cons_ne_nil _ _)] at allHold
      obtain ⟨firstHolds, laterHold⟩ := List.forall_mem_cons.mp allHold
      exact ⟨fun _ => firstHolds, laterHold⟩

/--
How fields are written, each with blanks and terminators behind it. Whatever follows, the pieces of
a field are gathered up to where no segment continues its type.
-/
structure Layout (F : Type) where
  source : F → Text
  behind : F → Text
  /-- The field as it is gathered, without the blanks at its ends. -/
  trimmed : F → Text
  isGap : ∀ field, ∀ character ∈ behind field, isGap character = true
  notBlank : ∀ field {blanks}, (∀ character ∈ blanks, Text.isBlank character = true) → ∀ more,
    Text.trim (blanks ++ (Division.ofText isTerminator (source field ++ more)).first) ≠ []
  gathers : ∀ field {blanks more}, (∀ character ∈ blanks, Text.isBlank character = true) →
    let whole := Division.ofText isTerminator (source field ++ more)
    let next := Division.ofText isTerminator (behind field ++ more)
    (∀ character ∈ next.first, Text.isBlank character = true) →
    (∀ segment ∈ (Division.segments next).head?,
      continuesType (trimmed field) segment = false) →
    (gatherAll (blanks ++ whole.first) whole.later).map Text.trim =
      trimmed field :: (gatherAll next.first next.later).map Text.trim

namespace Layout

variable {F : Type}

/-- The text of fields one behind another. -/
def sourceOf (layout : Layout F) (fields : List F) : Text :=
  fields.flatMap layout.source

/-- Whether a field is ended by a terminator, and no field continues its type. -/
def Ends (layout : Layout F) (field : F) : Prop :=
  (∃ character ∈ layout.behind field, isTerminator character = true) ∧
    ∀ other {blanks}, (∀ character ∈ blanks, Text.isBlank character = true) → ∀ more,
      continuesType (layout.trimmed field)
        (Text.trim (blanks ++
          (Division.ofText isTerminator (layout.source other ++ more)).first)) = false

/-- The fields that are gathered are those that are written. -/
theorem gatherAll_sourceOf
    {layout : Layout F}
    {fields : List F}
    {blanks : Text}
    (areEnded : ∀ field ∈ fields.dropLast, layout.Ends field)
    (areBlank : ∀ character ∈ blanks, Text.isBlank character = true) :
    let division := Division.ofText isTerminator (layout.sourceOf fields)
    (gatherAll (blanks ++ division.first) division.later).map Text.trim =
      fields.map layout.trimmed := by
  induction fields generalizing blanks with
  | nil =>
      have isTrimmed : Text.trim (blanks ++ []) = [] := by
        rw [List.append_nil]
        exact Text.trim_eq_nil_iff.mpr areBlank
      exact congrArg (List.map Text.trim) (gatherAll_of_blank isTrimmed [])
  | cons field later inductionHypothesis =>
      have isSplit : layout.sourceOf (field :: later) =
          layout.source field ++ layout.sourceOf later :=
        rfl
      obtain ⟨firstEnds, laterEnd⟩ := forall_mem_dropLast_cons areEnded
      have ends : (∃ character ∈ layout.behind field, isTerminator character = true) ∨
          layout.sourceOf later = [] := by
        by_cases isLast : later = []
        · exact .inr (by rw [isLast]; rfl)
        · exact .inl (firstEnds isLast).1
      have nextBlank := blank_first_of_gap (layout.isGap field) ends
      obtain ⟨others, othersBlank, sameFields, sameSegments⟩ :=
        exists_blank_of_gap (layout.isGap field) (layout.sourceOf later) (List.forall_mem_nil _)
      rw [List.nil_append] at sameFields sameSegments
      have endsThere : ∀ segment ∈ (Division.segments
          (Division.ofText isTerminator (layout.behind field ++ layout.sourceOf later))).head?,
            continuesType (layout.trimmed field) segment = false := by
        intro segment isHead
        rw [sameSegments] at isHead
        cases later with
        | nil =>
            have noneLeft : Text.trim others = [] := Text.trim_eq_nil_iff.mpr othersBlank
            simp [sourceOf, Division.ofText, Division.ofTextFrom, Division.segments,
              Division.pieces, noneLeft] at isHead
        | cons next more =>
            have isNext : layout.sourceOf (next :: more) =
                layout.source next ++ layout.sourceOf more :=
              rfl
            rw [isNext, Division.head?_segments (layout.notBlank next othersBlank _)] at isHead
            obtain rfl := Option.some.inj isHead
            exact (firstEnds (List.cons_ne_nil _ _)).2 next othersBlank _
      rw [isSplit]
      refine (layout.gathers field areBlank nextBlank endsThere).trans ?_
      rw [sameFields, inductionHypothesis laterEnd othersBlank, List.map_cons]

/-- Blanks and terminators in front of fields do not matter. -/
theorem ofBody_sourceOf
    {layout : Layout F}
    {gap : Text}
    {fields : List F}
    (areGap : ∀ character ∈ gap, Field.isGap character = true)
    (areEnded : ∀ field ∈ fields.dropLast, layout.Ends field) :
    ofBody (gap ++ layout.sourceOf fields) = fields.map layout.trimmed := by
  obtain ⟨blanks, areBlank, sameFields, -⟩ :=
    exists_blank_of_gap areGap (layout.sourceOf fields) (List.forall_mem_nil _)
  rw [List.nil_append] at sameFields
  rw [ofBody, sameFields]
  exact gatherAll_sourceOf areEnded areBlank

end Layout

end Field

/-- Fields that are read as properties of different names are all read. -/
theorem PropertyList.ofFieldsFrom_eq
    {F : Type}
    {written : F → Text}
    {property : F → Property}
    {declaration : Text}
    {seen : List Text}
    {fields : List F}
    (areRead : ∀ field ∈ fields, Field.toProperty (written field) = .ok (property field))
    (distinct : (fields.map fun field => (property field).name).Nodup)
    (areNew : ∀ field ∈ fields, (property field).name ∉ seen) :
    ofFieldsFrom declaration seen (fields.map written) = ⟨fields.map property, []⟩ := by
  induction fields generalizing seen with
  | nil =>
      rfl
  | cons field later inductionHypothesis =>
      obtain ⟨isRead, laterRead⟩ := List.forall_mem_cons.mp areRead
      obtain ⟨notLater, laterDistinct⟩ := List.nodup_cons.mp distinct
      obtain ⟨isNew, laterNew⟩ := List.forall_mem_cons.mp areNew
      have laterStillNew : ∀ other ∈ later,
          (property other).name ∉ (property field).name :: seen := by
        intro other member inSeen
        rcases List.mem_cons.mp inSeen with isSame | wasSeen
        · exact notLater (List.mem_map.mpr ⟨other, member, isSame⟩)
        · exact laterNew other member wasSeen
      have others := inductionHypothesis laterRead laterDistinct laterStillNew
      rw [List.map_cons, ofFieldsFrom, isRead]
      simp only [others]
      exact if_neg isNew

end ComponentPages
