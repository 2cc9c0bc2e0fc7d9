import ComponentPages.Proofs.Declaration.Balanced
import ComponentPages.Proofs.Declaration.Coverage
import ComponentPages.Proofs.Declaration.Gathering
import ComponentPages.Proofs.Source.Complete
import ComponentPages.Proofs.Source.Part

namespace ComponentPages

/-!
# Line breaks and comments

Stripping loses the line breaks that stand inside the block comments that it takes out, and no
others. Two fields with a line break between them that stands outside comments stay apart; if all
line breaks between them stand inside such comments, they become one field.
-/

/-! ## Texts on either side of a line break -/

/-- Pieces behind a division whose first piece is empty belong to it as they are. -/
private theorem Division.extend_nil
    (first : Text)
    (later others : List (Char × Text)) :
    extend first later ⟨[], others⟩ = ⟨first, later ++ others⟩ := by
  induction later generalizing first with
  | nil =>
      rw [extend, List.append_nil, List.nil_append]
  | cons behind rest inductionHypothesis =>
      rw [extend, inductionHypothesis, List.cons_append]

/-- Blanks leave a reading as it is, but no backslash precedes behind them. -/
private theorem Reading.after_blanks
    {depth : Int}
    {escaped : Bool}
    {blanks : Text}
    (areBlank : ∀ character ∈ blanks, Text.isBlank character = true)
    (notEmpty : blanks ≠ []) :
    Reading.after ⟨depth, none, escaped⟩ blanks = ⟨depth, none, false⟩ := by
  obtain ⟨first, later, rfl⟩ := List.exists_cons_of_ne_nil notEmpty
  obtain ⟨isFirst, areLater⟩ := List.forall_mem_cons.mp areBlank
  rw [after, List.foldl_cons, next_ordinary (isOrdinary_of_isBlank isFirst)]
  exact (IsClosed.of_blank areLater).after depth

namespace Field

/-- Whether no field continues at the start of another text. -/
def AreApart (fields : List Text) (others : Division) : Prop :=
  ∀ field ∈ fields.getLast?, ∀ segment ∈ others.segments.head?,
    continuesType (Text.trim field) segment = false

variable {current gap first : Text} {next : Division} {later : List (Char × Text)}

private theorem segments_nil_cons (separator : Char) (next : Division) :
    Division.segments ⟨[], (separator, next.first) :: next.later⟩ = next.segments := by
  simp [Division.segments, Division.pieces, Text.trim_eq_nil_iff]

/-- Pieces that do not continue the last field in front of them are gathered apart. -/
theorem gather_append
    (apart : AreApart (gather current gap later) next)
    (separator : Char) :
    gather current gap (later ++ (separator, next.first) :: next.later) =
      gather current gap later ++ gatherAll next.first next.later := by
  fun_induction gather current gap later with
  | case1 current gap =>
      have endsThere : ∀ segment ∈
          (Division.segments ⟨[], (separator, next.first) :: next.later⟩).head?,
            continuesType (Text.trim current) segment = false := by
        rw [segments_nil_cons]
        exact apart current rfl
      exact gather_eq_cons rfl endsThere gap
  | case2 current gap mark piece later passed isBlank inductionHypothesis =>
      rw [List.cons_append, gather, if_pos isBlank]
      exact inductionHypothesis apart
  | case3 current gap mark piece later passed notBlank continues inductionHypothesis =>
      rw [List.cons_append, gather, if_neg notBlank, if_pos continues]
      exact inductionHypothesis apart
  | case4 current gap mark piece later notBlank ends inductionHypothesis =>
      rw [AreApart, List.getLast?_cons_of_ne_nil (gather_ne_nil _ _ _)] at apart
      rw [List.cons_append, gather, if_neg notBlank, if_neg ends, inductionHypothesis apart,
        List.cons_append]

/-- Fields that are apart are gathered one list after the other. -/
theorem gatherAll_append
    (apart : AreApart (gatherAll first later) next)
    (separator : Char) :
    gatherAll first (later ++ (separator, next.first) :: next.later) =
      gatherAll first later ++ gatherAll next.first next.later := by
  induction later generalizing first with
  | nil =>
      by_cases isBlank : Text.trim first = []
      · rw [gatherAll_of_blank isBlank, gatherAll_of_blank isBlank]
        rfl
      · rw [gatherAll_of_notBlank isBlank] at apart ⊢
        rw [gatherAll_of_notBlank isBlank]
        exact gather_append apart separator
  | cons behind rest inductionHypothesis =>
      by_cases isBlank : Text.trim first = []
      · rw [gatherAll_of_blank isBlank] at apart ⊢
        rw [gatherAll_of_blank isBlank]
        exact inductionHypothesis apart
      · rw [gatherAll_of_notBlank isBlank] at apart ⊢
        rw [gatherAll_of_notBlank isBlank]
        exact gather_append apart separator

/--
Behind a line break at the top level the body of a declaration is read by itself, unless what stands
there continues the last field in front of it.
-/
theorem ofBody_append_lineBreak
    {before behind : Text}
    {last : Bool}
    (isTop : Reading.after {} before = ⟨0, none, last⟩)
    (apart : AreApart (ofBody before) (Division.ofText isTerminator behind)) :
    ofBody (before ++ '\n' :: behind) = ofBody before ++ ofBody behind := by
  have isDivided : Division.ofText isTerminator (before ++ '\n' :: behind) =
      ⟨(Division.ofText isTerminator before).first,
        (Division.ofText isTerminator before).later ++
          ('\n', (Division.ofText isTerminator behind).first) ::
            (Division.ofText isTerminator behind).later⟩ := by
    rw [← Division.extend_nil, Division.ofText, Division.ofTextFrom_append, isTop]
    rfl
  have fieldsApart : AreApart
      (gatherAll (Division.ofText isTerminator before).first
        (Division.ofText isTerminator before).later) (Division.ofText isTerminator behind) := by
    intro field isLast segment isFirst
    have isTrimmedLast : Text.trim field ∈ (ofBody before).getLast? := by
      rw [ofBody, List.getLast?_map, Option.mem_def.mp isLast]
      rfl
    have ends := apart _ isTrimmedLast segment isFirst
    rwa [Text.trim_trim] at ends
  rw [ofBody, isDivided, gatherAll_append fieldsApart, List.map_append]
  rfl

/-- Text without terminators at the top level that is not blank is one field. -/
theorem ofBody_of_undivided
    {body : Text}
    (undivided : Division.Undivided isTerminator {} body)
    (notBlank : Text.trim body ≠ []) :
    ofBody body = [Text.trim body] := by
  rw [ofBody, Division.ofText, Division.ofTextFrom_of_undivided undivided]
  simp [gatherAll, notBlank]

/-- Blanks that are no line breaks are no terminators. -/
private theorem isTerminator_of_isBlank
    {character : Char}
    (isBlank : Text.isBlank character = true)
    (noBreak : character ≠ '\n') :
    isTerminator character = false := by
  have others : Text.isBlank ';' = false ∧ Text.isBlank ',' = false := by
    decide
  rw [isTerminator, Bool.or_eq_false_iff, Bool.or_eq_false_iff]
  refine ⟨⟨beq_eq_false_iff_ne.mpr ?_, beq_eq_false_iff_ne.mpr ?_⟩, beq_eq_false_iff_ne.mpr noBreak⟩
  · rintro rfl
    exact absurd isBlank (by simp [others])
  · rintro rfl
    exact absurd isBlank (by simp [others])

/--
Whether a gap keeps fields apart: the text in front of a line break in it and the text behind that
are read each by itself, unless what stands behind continues the last field in front.
-/
def KeepsApart (gap : Text) : Prop :=
  ∃ before behind,
    gap = before ++ '\n' :: behind ∧
      (∀ character ∈ before ++ behind, Text.isBlank character = true) ∧
        ∀ first second last,
          Complete false first 0 last →
          AreApart (ofBody (first ++ before)) (Division.ofText isTerminator (behind ++ second)) →
          ofBody (first ++ (gap ++ second)) =
            ofBody (first ++ before) ++ ofBody (behind ++ second)

/-- Whether a gap joins fields: what stands in front of it and behind it is one field. -/
def Joins (gap : Text) : Prop :=
  ∀ first second last,
    Complete false first 0 last →
    Text.trim first ≠ [] →
    Division.Undivided isTerminator {} first →
    Division.Undivided isTerminator {} second →
    ofBody (first ++ (gap ++ second)) = [Text.trim (first ++ (gap ++ second))]

/-- Blanks with a line break keep fields apart. -/
theorem keepsApart_of_mem
    {gap : Text}
    (areBlank : ∀ character ∈ gap, Text.isBlank character = true)
    (hasBreak : '\n' ∈ gap) :
    KeepsApart gap := by
  obtain ⟨before, behind, rfl, noBreak⟩ := List.eq_append_cons_of_mem hasBreak
  obtain ⟨beforeBlank, behindBlank⟩ := List.forall_mem_append.mp areBlank
  refine ⟨before, behind, rfl, ?_, fun first second last complete apart => ?_⟩
  · exact List.forall_mem_append.mpr ⟨beforeBlank, (List.forall_mem_cons.mp behindBlank).2⟩
  · have isTop : ∃ last, Reading.after {} (first ++ before) = ⟨0, none, last⟩ := by
      rw [Reading.after_append, complete.after 0, Int.add_zero]
      by_cases noBlanks : before = []
      · exact ⟨last, by rw [noBlanks]; rfl⟩
      · exact ⟨false, Reading.after_blanks beforeBlank noBlanks⟩
    obtain ⟨lastBlank, isTop⟩ := isTop
    rw [List.append_assoc before, List.cons_append, ← List.append_assoc first]
    exact ofBody_append_lineBreak isTop apart

/-- Blanks without line breaks join fields. -/
theorem joins_of_not_mem
    {gap : Text}
    (areBlank : ∀ character ∈ gap, Text.isBlank character = true)
    (notEmpty : gap ≠ [])
    (noBreak : '\n' ∉ gap) :
    Joins gap := by
  intro first second last complete notBlank firstUndivided secondUndivided
  refine ofBody_of_undivided ?_ (trim_append_ne_nil notBlank _)
  refine Reading.Along.append firstUndivided (Reading.Along.append ?_ ?_)
  · refine Division.Undivided.of_forall (fun character member => ?_) _
    exact isTerminator_of_isBlank (areBlank character member)
      (ne_of_mem_of_not_mem member noBreak)
  · rw [complete.after 0, Reading.after_blanks areBlank notEmpty]
    exact secondUndivided

end Field

/-! ## Parts and their line breaks -/

namespace Comment

variable {part : Part} {parts : List Part}

/-- The number of line breaks in the parts that stripping does not leave. -/
def lostBreaks : List Part → Nat :=
  totalOf fun part => if part.stays then 0 else part.written.count '\n'

/-- What is left of a part has its line breaks, or none. -/
private theorem Part.count_left (part : Part) :
    (writtenOf part.left).count '\n' + (if part.stays then 0 else part.written.count '\n') =
      part.written.count '\n' := by
  by_cases stays : part.stays = true
  · rw [left_of_stays stays, if_pos stays, writtenOf_cons, writtenOf_nil, List.append_nil,
      Nat.add_zero]
  · have noneLeft : (writtenOf part.left).count '\n' = 0 := by
      rcases left_of_not_stays stays with noneLeft | blankLeft
      · rw [noneLeft]
        rfl
      · rw [blankLeft]
        rfl
    rw [noneLeft, if_neg stays, Nat.zero_add]

/-- The line breaks that are left and those that are lost add up to those of the source. -/
theorem count_leftOf (parts : List Part) :
    (writtenOf (leftOf parts)).count '\n' + lostBreaks parts = (writtenOf parts).count '\n' :=
  measure_leftOf (fun _ _ => List.count_append) Part.count_left parts

/-- No line break is lost exactly if each part that has one is left as it is. -/
theorem lostBreaks_eq_zero_iff :
    lostBreaks parts = 0 ↔ ∀ part ∈ parts, '\n' ∈ part.written → part.left = [part] := by
  rw [lostBreaks, totalOf_eq_zero_iff]
  refine forall₂_congr fun part _ => ?_
  rw [Part.left_eq_self_iff]
  by_cases stays : part.stays = true
  · simp [stays]
  · simp [stays, List.count_eq_zero]

/-! ## Between two fields -/

/-- Whether a part is a blank or a comment that stripping takes out. -/
def Part.IsGap (part : Part) : Prop :=
  (∃ character, part = .code character ∧ Text.isBlank character = true) ∨ part.left ≠ [part]

namespace Part.IsGap

/-- Of a blank or a comment that is taken out at most a blank is left. -/
theorem left_eq (isGap : part.IsGap) :
    (∃ inside, part = .line inside) ∨ ∃ character,
      part.left = [.code character] ∧ Text.isBlank character = true ∧
        (character = '\n' ↔ part = .code '\n') := by
  rcases isGap with ⟨character, rfl, isBlank⟩ | notLeft
  · exact .inr ⟨character, rfl, isBlank, by simp⟩
  · have notStays : ¬ part.stays = true := fun stays => notLeft (left_of_stays stays)
    cases part with
    | code _ =>
        exact absurd rfl notLeft
    | line inside =>
        exact .inl ⟨inside, rfl⟩
    | block inside =>
        exact .inr ⟨' ', left_block_of_not_stays notStays, Text.isBlank_space, by simp⟩
    | openBlock inside =>
        exact .inr ⟨' ', left_openBlock_of_not_stays notStays, Text.isBlank_space, by simp⟩

end Part.IsGap

/-- Of blanks and comments that are taken out only blanks are left. -/
theorem isBlank_of_mem_leftOf
    (areGaps : ∀ part ∈ parts, part.IsGap) :
    ∀ character ∈ writtenOf (leftOf parts), Text.isBlank character = true := by
  induction parts with
  | nil =>
      exact List.forall_mem_nil _
  | cons part later inductionHypothesis =>
      obtain ⟨isGap, areLater⟩ := List.forall_mem_cons.mp areGaps
      rw [leftOf_cons, writtenOf_append]
      refine List.forall_mem_append.mpr ⟨?_, inductionHypothesis areLater⟩
      rcases isGap.left_eq with ⟨inside, rfl⟩ | ⟨character, isLeft, isBlank, -⟩
      · exact List.forall_mem_nil _
      · rw [isLeft]
        exact List.forall_mem_singleton.mpr isBlank

/-- A line break is left of them exactly if one stands outside comments. -/
theorem lineBreak_mem_leftOf_iff
    (areGaps : ∀ part ∈ parts, part.IsGap) :
    '\n' ∈ writtenOf (leftOf parts) ↔ .code '\n' ∈ parts := by
  induction parts with
  | nil =>
      exact iff_of_false List.not_mem_nil List.not_mem_nil
  | cons part later inductionHypothesis =>
      obtain ⟨isGap, areLater⟩ := List.forall_mem_cons.mp areGaps
      rw [leftOf_cons, writtenOf_append, List.mem_append, inductionHypothesis areLater,
        List.mem_cons]
      refine or_congr_left ?_
      rcases isGap.left_eq with ⟨inside, rfl⟩ | ⟨character, isLeft, -, isBreak⟩
      · exact iff_of_false List.not_mem_nil nofun
      · rw [isLeft, writtenOf_cons, Part.written, writtenOf_nil, List.append_nil,
          List.mem_singleton, eq_comm, isBreak, eq_comm]

/-- Something is left of blanks and comments with a line break among them. -/
theorem FallsInto.leftOf_ne_nil
    {reading : Reading}
    {text : Text}
    {front between back : List Part}
    (falls : FallsInto reading text (front ++ (between ++ back)))
    (areGaps : ∀ part ∈ between, part.IsGap)
    (hasBreak : '\n' ∈ writtenOf between) :
    writtenOf (leftOf between) ≠ [] := by
  obtain ⟨part, isPart, inPart⟩ := List.mem_flatMap.mp hasBreak
  rcases (areGaps part isPart).left_eq with ⟨inside, rfl⟩ | ⟨character, isLeft, -⟩
  · have noBreak : '\n' ∉ inside :=
      falls.endsFirst (List.mem_append_right front (List.mem_append_left back isPart))
    simp [Part.written, noBreak] at inPart
  · refine List.ne_nil_of_mem (a := character) (List.mem_flatMap.mpr ⟨.code character, ?_, ?_⟩)
    · exact List.mem_flatMap.mpr ⟨part, isPart, isLeft ▸ List.mem_singleton_self _⟩
    · exact List.mem_singleton_self _

/-! ## Line breaks of a source -/

/--
The line breaks that stripping loses are those in the comments that it takes out, and none of them
is in a line comment. Where a line break stands between two fields, with only blanks and such
comments around it, the fields stay apart if it stands outside comments; if all line breaks there
stand in comments, what is left is one field.
-/
theorem lineBreaks_of_strip (source : Text) :
    ∃ parts,
      (∀ others, FallsInto {} source others ↔ others = parts) ∧
      (strip source).count '\n' + lostBreaks parts = source.count '\n' ∧
      ((strip source).count '\n' = source.count '\n' ↔
        ∀ part ∈ parts, '\n' ∈ part.written → part.left = [part]) ∧
      (∀ inside, .line inside ∈ parts → '\n' ∉ inside) ∧
      ∀ front between back,
        parts = front ++ (between ++ back) →
        (∀ part ∈ between, part.IsGap) →
        '\n' ∈ writtenOf between →
          strip source = writtenOf (leftOf front) ++
            (writtenOf (leftOf between) ++ writtenOf (leftOf back)) ∧
          ((∀ part ∈ between, '\n' ∈ part.written → part.left = [part]) →
            .code '\n' ∈ between) ∧
          (.code '\n' ∈ between → Field.KeepsApart (writtenOf (leftOf between))) ∧
          (.code '\n' ∉ between → Field.Joins (writtenOf (leftOf between))) := by
  obtain ⟨parts, onlyParts, isStripped⟩ := exists_parts source
  have falls : FallsInto {} source parts := (onlyParts parts).mpr rfl
  have isCount : (strip source).count '\n' + lostBreaks parts = source.count '\n' := by
    rw [isStripped, count_leftOf, falls.writtenOf_eq]
  refine ⟨parts, onlyParts, isCount, ?_, fun _ isPart => falls.endsFirst isPart, ?_⟩
  · rw [← lostBreaks_eq_zero_iff]
    omega
  · rintro front between back rfl areGaps hasBreak
    have areBlank := isBlank_of_mem_leftOf areGaps
    refine ⟨?_, fun keepsBreaks => ?_, fun breakLeft => ?_, fun noBreakLeft => ?_⟩
    · rw [isStripped, leftOf_append, leftOf_append, writtenOf_append, writtenOf_append]
    · obtain ⟨part, isPart, inPart⟩ := List.mem_flatMap.mp hasBreak
      rcases areGaps part isPart with ⟨character, rfl, -⟩ | notLeft
      · rwa [List.mem_singleton.mp inPart]
      · exact absurd (keepsBreaks part isPart inPart) notLeft
    · exact Field.keepsApart_of_mem areBlank ((lineBreak_mem_leftOf_iff areGaps).mpr breakLeft)
    · refine Field.joins_of_not_mem areBlank (falls.leftOf_ne_nil areGaps hasBreak) ?_
      exact fun isLeft => noBreakLeft ((lineBreak_mem_leftOf_iff areGaps).mp isLeft)

/-! ### A comment over two lines -/

/-- A comment with a line break. -/
def longComment : Part :=
  .block " first\n  ".toList

/-- Two fields on different lines, with that comment between them. -/
def longCommented : Text :=
  "interface BoxProps \x7b\n  a: string ".toList ++
    (longComment.written ++ " b: number\n\x7d".toList)

/-- What is left of them, on one line. -/
def joinedFields : Text :=
  "interface BoxProps \x7b\n  a: string   b: number\n\x7d".toList

/-- The line break is lost, and the two fields become one property. -/
theorem ofSource_longCommented :
    (strip longCommented).count '\n' + 1 = longCommented.count '\n' ∧
      Extraction.ofSource longCommented = .ok {
        properties := [⟨"a".toList, "string b: number".toList, true, none,
          "The `a` text".toList⟩] } := by
  have falls : FallsInto {} longCommented
      ("interface BoxProps \x7b\n  a: string ".toList.map .code ++
        longComment :: " b: number\n\x7d".toList.map .code) :=
    .around_block (by decide) rfl (by decide) (by decide)
  have isStripped : strip longCommented = joinedFields := by
    rw [strip, falls.stripFrom_eq]
    decide
  rw [Extraction.ofSource, isStripped, Extraction.ofStripped, Anchor.allOf_of_pairwise (by decide)]
  refine ⟨by decide, ?_⟩
  decide

end Comment

end ComponentPages
