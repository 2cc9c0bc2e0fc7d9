import ComponentPages.Proofs.Declaration.Keyword
import ComponentPages.Proofs.Declaration.TypeText
import ComponentPages.Proofs.Source.Division
import ComponentPages.Proofs.Text.Pattern

namespace ComponentPages

/-!
# Types of fields

The type of a field may hold terminators between delimiters, and between angles it may hold commas
that cut it into pieces. No piece but the first has the shape of a field, and in front of each of
the others more angles are open than closed.
-/

/-- Openers less closers. -/
def depthOf (text : Text) : Int :=
  (text.countP isOpener : Int) - text.countP isCloser

/-- The text of a type that can stand in a field. -/
structure IsFieldType (text : Text) : Prop where
  notBlank : Text.trim text ≠ []
  noQuotes : ∀ character ∈ text, isQuote character = false
  noBackslash : '\\' ∉ text
  noSlash : '/' ∉ text
  noKeyword : ∀ keyword ∈ keywords, ¬ keyword <:+: text
  neverBelow : ∀ place ≤ text.length, 0 ≤ depthOf (text.take place)
  level : depthOf text = 0
  topLevel : ∀ place (inside : place < text.length), depthOf (text.take place) = 0 →
    text[place] ≠ ':' ∧ text[place] ≠ ';' ∧ text[place] ≠ '\n'
  commas : ∀ place (inside : place < text.length), depthOf (text.take place) = 0 →
    text[place] = ',' →
      0 < TypeText.angleBalance (text.take place) ∧ Text.trim (text.drop (place + 1)) ≠ []
  normalized : TypeText.normalize text ≠ []
  anglesBalanced : TypeText.angleBalance (TypeText.normalize text) = 0

instance (text : Text) : Decidable (IsFieldType text) :=
  decidable_of_iff
    (Text.trim text ≠ [] ∧ (∀ character ∈ text, isQuote character = false) ∧ '\\' ∉ text ∧
      '/' ∉ text ∧ (∀ keyword ∈ keywords, ¬ keyword <:+: text) ∧
      (∀ place ≤ text.length, 0 ≤ depthOf (text.take place)) ∧ depthOf text = 0 ∧
      (∀ place (inside : place < text.length), depthOf (text.take place) = 0 →
        text[place] ≠ ':' ∧ text[place] ≠ ';' ∧ text[place] ≠ '\n') ∧
      (∀ place (inside : place < text.length), depthOf (text.take place) = 0 →
        text[place] = ',' →
          0 < TypeText.angleBalance (text.take place) ∧
            Text.trim (text.drop (place + 1)) ≠ []) ∧
      TypeText.normalize text ≠ [] ∧ TypeText.angleBalance (TypeText.normalize text) = 0)
    ⟨fun ⟨a, b, c, d, e, f, g, h, i, j, k⟩ => ⟨a, b, c, d, e, f, g, h, i, j, k⟩,
      fun ⟨a, b, c, d, e, f, g, h, i, j, k⟩ => ⟨a, b, c, d, e, f, g, h, i, j, k⟩⟩

/-! ## Depths -/

private theorem depthOf_append
    (first second : Text) :
    depthOf (first ++ second) = depthOf first + depthOf second := by
  simp only [depthOf, List.countP_append, Int.natCast_add]
  omega

private theorem depthOf_cons
    (character : Char)
    (rest : Text) :
    depthOf (character :: rest) = depthOf [character] + depthOf rest :=
  depthOf_append [character] rest

private theorem depthOf_opener
    {character : Char}
    (isOpening : isOpener character = true) :
    depthOf [character] = 1 := by
  simp [depthOf, isOpening, (kind_of_isOpener isOpening).1]

private theorem depthOf_closer
    {character : Char}
    (isClosing : isCloser character = true) :
    depthOf [character] = -1 := by
  simp [depthOf, isClosing, (kind_of_isCloser isClosing).1]

private theorem depthOf_eq_zero
    {text : Text}
    (noDelimiters : ∀ character ∈ text, isOpener character = false ∧ isCloser character = false) :
    depthOf text = 0 := by
  have noOpener : text.countP isOpener = 0 :=
    List.countP_eq_zero.mpr fun character member => by simp [(noDelimiters character member).1]
  have noCloser : text.countP isCloser = 0 :=
    List.countP_eq_zero.mpr fun character member => by simp [(noDelimiters character member).2]
  rw [depthOf, noOpener, noCloser]
  rfl

private theorem depthOf_of_ordinary
    {text : Text}
    (areOrdinary : ∀ character ∈ text, isOrdinary character = true) :
    depthOf text = 0 := by
  refine depthOf_eq_zero fun character member => ?_
  obtain ⟨notOpener, notCloser, -⟩ := isOrdinary_iff.mp (areOrdinary character member)
  exact ⟨notOpener, notCloser⟩

/-- Behind text without quotes and backslashes only the depth has changed. -/
private theorem Reading.after_eq_depthOf
    {text : Text}
    (noQuotes : ∀ character ∈ text, isQuote character = false)
    (noBackslash : '\\' ∉ text)
    (depth : Int) :
    after ⟨depth, none, false⟩ text = ⟨depth + depthOf text, none, false⟩ := by
  induction text generalizing depth with
  | nil =>
      simp [after, depthOf]
  | cons character rest inductionHypothesis =>
      obtain ⟨noQuote, noneLater⟩ := List.forall_mem_cons.mp noQuotes
      obtain ⟨notFirst, notLater⟩ := List.ne_and_not_mem_of_not_mem_cons noBackslash
      have isNext : next ⟨depth, none, false⟩ character =
          ⟨depth + depthOf [character], none, false⟩ := by
        by_cases isOpening : isOpener character = true
        · rw [next_opener isOpening, depthOf_opener isOpening]
        · by_cases isClosing : isCloser character = true
          · rw [next_closer isClosing, depthOf_closer isClosing, Int.sub_eq_add_neg]
          · have notOpener : isOpener character = false := by
              simpa using isOpening
            have notCloser : isCloser character = false := by
              simpa using isClosing
            have notBackslash : (character == '\\') = false := by
              simpa using Ne.symm notFirst
            rw [next_plain notOpener notCloser (by simp [noQuote]), notBackslash,
              depthOf_eq_zero (by simp [notOpener, notCloser]), Int.add_zero]
      rw [after, List.foldl_cons, isNext, ← after, inductionHypothesis noneLater notLater,
        depthOf_cons character rest, Int.add_assoc]

/-- Text without quotes is balanced if its depth never comes below zero and ends there. -/
private theorem balanced_of_depthOf
    {depth : Nat}
    {text : Text}
    (noQuotes : ∀ character ∈ text, isQuote character = false)
    (neverBelow : ∀ place ≤ text.length, 0 ≤ depth + depthOf (text.take place))
    (level : depth + depthOf text = 0)
    (escaped : Bool) :
    Balanced depth escaped text := by
  induction text generalizing depth escaped with
  | nil =>
      have isZero : depth = 0 := by
        simpa [depthOf] using level
      rw [isZero]
      exact .nil
  | cons character rest inductionHypothesis =>
      obtain ⟨noQuote, noneLater⟩ := List.forall_mem_cons.mp noQuotes
      have laterNotBelow : ∀ place ≤ rest.length,
          0 ≤ depth + depthOf [character] + depthOf (rest.take place) := by
        intro place inside
        have notBelow := neverBelow (place + 1) (Nat.succ_le_succ inside)
        rwa [List.take_succ_cons, depthOf_cons, ← Int.add_assoc] at notBelow
      rw [depthOf_cons, ← Int.add_assoc] at level
      by_cases isOpening : isOpener character = true
      · rw [depthOf_opener isOpening] at laterNotBelow level
        exact .opener isOpening (inductionHypothesis noneLater laterNotBelow level false)
      · by_cases isClosing : isCloser character = true
        · rw [depthOf_closer isClosing] at laterNotBelow level
          have isOpen := laterNotBelow 0 (Nat.zero_le _)
          rw [List.take_zero, depthOf_eq_zero (by simp), Int.add_zero] at isOpen
          obtain ⟨less, rfl⟩ : ∃ less, depth = less + 1 := ⟨depth - 1, by omega⟩
          have oneLess : ((less + 1 : Nat) : Int) + -1 = less := by
            omega
          rw [oneLess] at laterNotBelow level
          exact .closer isClosing (inductionHypothesis noneLater laterNotBelow level false)
        · have notOpener : isOpener character = false := by
            simpa using isOpening
          have notCloser : isCloser character = false := by
            simpa using isClosing
          rw [depthOf_eq_zero (by simp [notOpener, notCloser]), Int.add_zero] at laterNotBelow level
          refine .plain notOpener notCloser (by simp [noQuote]) ?_
          exact inductionHypothesis noneLater laterNotBelow level _

/-! ## The colon of a field -/

namespace Field

/-- A text without quotes starts with no other name than an identifier. -/
private theorem name?_of_noQuotes
    {text : Text}
    (noQuotes : ∀ character ∈ text, isQuote character = false) :
    name? text = Text.identifier? text := by
  cases text with
  | nil =>
      rfl
  | cons first rest =>
      have noQuote := noQuotes first List.mem_cons_self
      simp only [isQuote, Bool.or_eq_false_iff, beq_eq_false_iff_ne] at noQuote
      rw [name?, Text.quoted?_eq_none noQuote.1.2, Text.quoted?_eq_none noQuote.1.1]
      cases Text.identifier? (first :: rest) <;> rfl

/-- Whether ordinary characters stand in front of what follows a colon. -/
def StandsBehindColon (text behind : Text) : Prop :=
  ∃ before, text = before ++ ':' :: behind ∧ ∀ character ∈ before, isOrdinary character = true

private theorem StandsBehindColon.of_after?
    {text behind : Text}
    (isBehind : Text.after? text [':'] = some behind) :
    StandsBehindColon text behind := by
  have isSplit : text = [':'] ++ behind := Text.after?_eq_some_iff.mp isBehind
  exact ⟨[], isSplit, by simp⟩

private theorem StandsBehindColon.append
    {before text behind : Text}
    (stands : StandsBehindColon text behind)
    (areOrdinary : ∀ character ∈ before, isOrdinary character = true) :
    StandsBehindColon (before ++ text) behind := by
  obtain ⟨between, rfl, betweenOrdinary⟩ := stands
  refine ⟨before ++ between, (List.append_assoc _ _ _).symm, ?_⟩
  intro character member
  exact (List.mem_append.mp member).elim (areOrdinary character) (betweenOrdinary character)

private theorem StandsBehindColon.of_trimStart
    {text behind : Text}
    (stands : StandsBehindColon (Text.trimStart text) behind) :
    StandsBehindColon text behind := by
  have isWhole : text.takeWhile Text.isBlank ++ Text.trimStart text = text :=
    List.takeWhile_append_dropWhile
  rw [← isWhole]
  refine stands.append fun character member => ?_
  exact isOrdinary_of_isBlank (List.mem_takeWhile_imp member)

/-- In front of the type of a field stand its name and its mark, and none of them has a part in
literals, delimiters, escapes or comments. -/
private theorem standsBehindColon_of_shapeFromName?
    {text : Text}
    {shape : Shape}
    (noQuotes : ∀ character ∈ text, isQuote character = false)
    (hasShape : shapeFromName? text = some shape) :
    StandsBehindColon text shape.typeText := by
  rw [shapeFromName?, name?_of_noQuotes noQuotes] at hasShape
  simp only [Option.bind_eq_bind, Option.bind_eq_some_iff] at hasShape
  obtain ⟨⟨name, afterName⟩, isName, typeText, isTypeText, isShape⟩ := hasShape
  obtain ⟨rfl, nameOrdinary⟩ := Text.eq_append_of_identifier? isName
  obtain rfl := Option.some.inj isShape
  refine StandsBehindColon.append (.of_trimStart ?_) nameOrdinary
  split at isTypeText
  · rename_i rest isMarked
    rw [isMarked]
    have markOrdinary : ∀ character ∈ ['?'], isOrdinary character = true := by
      decide
    have restStands : StandsBehindColon rest typeText := .of_trimStart (.of_after? isTypeText)
    exact restStands.append markOrdinary
  · exact .of_after? isTypeText

/-- The type of a field without quotes stands behind its first colon. -/
theorem standsBehindColon_of_shape?
    {text : Text}
    {shape : Shape}
    (noQuotes : ∀ character ∈ text, isQuote character = false)
    (hasShape : shape? text = some shape) :
    StandsBehindColon text shape.typeText := by
  rw [shape?] at hasShape
  cases behindWord : (Text.afterWordAndBlanks? "readonly".toList text).bind shapeFromName? with
  | none =>
      rw [behindWord] at hasShape
      exact standsBehindColon_of_shapeFromName? noQuotes hasShape
  | some first =>
      rw [behindWord] at hasShape
      obtain rfl := Option.some.inj hasShape
      obtain ⟨rest, isBehind, restShape⟩ := Option.bind_eq_some_iff.mp behindWord
      obtain ⟨afterWord, rfl, isRest⟩ := Text.afterWordAndBlanks?_eq_some_iff.mp isBehind
      obtain rfl := Text.eq_trimStart_of_afterBlanks? isRest
      have wordOrdinary : ∀ character ∈ "readonly".toList, isOrdinary character = true := by
        decide
      have restNoQuotes : ∀ character ∈ Text.trimStart afterWord, isQuote character = false := by
        intro character member
        exact noQuotes character
          (List.mem_append_right _ ((List.dropWhile_suffix Text.isBlank).subset member))
      have stands := standsBehindColon_of_shapeFromName? restNoQuotes restShape
      exact stands.of_trimStart.append wordOrdinary

/-- A default marker begins with a slash. -/
theorem defaultMarker_begins : defaultMarker.Begins ['/'] fun _ => True := by
  intro previous text result isMatch
  simp only [defaultMarker, Option.bind_eq_bind, Option.bind_eq_some_iff] at isMatch
  obtain ⟨-, ⟨rest, isRest, -⟩, -⟩ := isMatch
  exact ⟨rest, Text.after?_eq_some_iff.mp isRest, trivial⟩

/-- A type without a slash has no default marker. -/
theorem separateDefault_of_noSlash
    {typeText : Text}
    (noSlash : '/' ∉ typeText) :
    separateDefault typeText = (typeText, none) := by
  have absent := defaultMarker_begins.misses_of_head noSlash []
  rw [separateDefault, absent.break?_eq_none]

end Field

/-! ## The pieces of a type -/

namespace IsFieldType

variable {text : Text}

/-- The type of a field is closed. -/
theorem isClosed
    (isFieldType : IsFieldType text) :
    IsClosed text where
  balanced := by
    have neverBelow : ∀ place ≤ text.length,
        0 ≤ ((0 : Nat) : Int) + depthOf (text.take place) := by
      simpa using isFieldType.neverBelow
    exact balanced_of_depthOf isFieldType.noQuotes neverBelow (by simpa using isFieldType.level)
      false
  noBackslash := isFieldType.noBackslash
  startsNoComment depth := by
    refine Reading.Along.of_forall (fun character member reading => .inr ?_) _
    rintro rfl
    exact isFieldType.noSlash member

/-- What stands at the top level of a type. -/
theorem topLevel_of_eq_append
    {before after : Text}
    {character : Char}
    (isFieldType : IsFieldType text)
    (isText : text = before ++ character :: after)
    (isTop : depthOf before = 0) :
    (character ≠ ':' ∧ character ≠ ';' ∧ character ≠ '\n') ∧
      (character = ',' → 0 < TypeText.angleBalance before ∧ Text.trim after ≠ []) := by
  have inside : before.length < text.length := by
    simp [isText]
  have isBefore : text.take before.length = before := by
    simp [isText]
  have isCharacter : text[before.length] = character := by
    simp [isText]
  have isAfter : text.drop (before.length + 1) = after := by
    simp [isText]
  have atTop := isFieldType.topLevel before.length inside
  have atComma := isFieldType.commas before.length inside
  rw [isBefore, isCharacter] at atTop atComma
  rw [isAfter] at atComma
  exact ⟨atTop isTop, atComma isTop⟩

/-- A type does not end in a colon. -/
theorem not_colon_suffix
    (isFieldType : IsFieldType text) :
    ¬ [':'] <:+ Text.trimEnd text := by
  rintro ⟨before, isTrimmed⟩
  obtain ⟨after, isText, afterBlank⟩ := Text.exists_eq_trimEnd text
  have isSplit : text = before ++ ':' :: after := by
    rw [isText, ← isTrimmed, List.append_assoc, List.singleton_append]
  have afterOrdinary : ∀ character ∈ after, isOrdinary character = true :=
    fun character member => isOrdinary_of_isBlank (afterBlank character member)
  have isTop : depthOf before = 0 := by
    have colonOrdinary : ∀ character ∈ [':'], isOrdinary character = true := by
      decide
    have level := isFieldType.level
    rwa [isSplit, depthOf_append, depthOf_cons, depthOf_of_ordinary colonOrdinary,
      depthOf_of_ordinary afterOrdinary, Int.add_zero, Int.add_zero] at level
  exact (isFieldType.topLevel_of_eq_append isSplit isTop).1.1 rfl

/-- Behind a part of a type that reaches the top level again there is no colon at the top level. -/
theorem shape?_trim_eq_none
    {before piece after : Text}
    (isFieldType : IsFieldType text)
    (isText : text = before ++ (piece ++ after))
    (isTop : depthOf before = 0) :
    Field.shape? (Text.trim piece) = none := by
  refine Option.eq_none_iff_forall_ne_some.mpr fun shape hasShape => ?_
  obtain ⟨blanks, blanksAfter, isPiece, areBlank, -⟩ := Text.exists_eq_trim piece
  have noQuotes : ∀ character ∈ Text.trim piece, isQuote character = false := by
    intro character member
    refine isFieldType.noQuotes character ?_
    rw [isText, isPiece]
    simp [member]
  obtain ⟨front, isTrimmed, frontOrdinary⟩ :=
    Field.standsBehindColon_of_shape? noQuotes hasShape
  have frontLevel : depthOf (before ++ (blanks ++ front)) = 0 := by
    have blanksOrdinary : ∀ character ∈ blanks, isOrdinary character = true :=
      fun character member => isOrdinary_of_isBlank (areBlank character member)
    rw [depthOf_append, depthOf_append, isTop, depthOf_of_ordinary blanksOrdinary,
      depthOf_of_ordinary frontOrdinary]
    rfl
  have isSplit : text =
      (before ++ (blanks ++ front)) ++ ':' :: (shape.typeText ++ (blanksAfter ++ after)) := by
    rw [isText, isPiece, isTrimmed]
    simp
  exact (isFieldType.topLevel_of_eq_append isSplit frontLevel).1.1 rfl

end IsFieldType

/--
Whether pieces behind the text `passed` continue the type of a field: in front of each more angles
are open than closed, it does not have the shape of a field, and not only blanks follow its comma.
-/
def Field.Continue : (passed : Text) → List (Char × Text) → Prop
  | _, [] => True
  | passed, (separator, piece) :: later =>
      separator = ',' ∧ 0 < TypeText.angleBalance passed ∧
        shape? (Text.trim piece) = none ∧
          Text.trim (piece ++ Division.laterText later) ≠ [] ∧
            Continue (passed ++ separator :: piece) later

/-- The pieces that a field type is cut into each continue the one before. -/
theorem IsFieldType.continue_of_divides
    {text before first : Text}
    {later : List (Char × Text)}
    (isFieldType : IsFieldType text)
    (isText : text = before ++ (first ++ Division.laterText later))
    (divides : Division.Divides Field.isTerminator (Reading.after {} before) first later) :
    Field.Continue (before ++ first) later := by
  induction later generalizing before first with
  | nil =>
      trivial
  | cons behind others inductionHypothesis =>
      obtain ⟨separator, piece⟩ := behind
      obtain ⟨-, isSeparator, dividesOthers⟩ := divides
      rw [← Reading.after_append] at isSeparator dividesOthers
      have isSplit : text =
          (before ++ first) ++ separator :: (piece ++ Division.laterText others) := by
        rw [isText, Division.laterText_cons, List.append_assoc]
      have isTop : depthOf (before ++ first) = 0 := by
        have noQuotes : ∀ character ∈ before ++ first, isQuote character = false := by
          intro character member
          exact isFieldType.noQuotes character (isSplit ▸ List.mem_append_left _ member)
        have noBackslash : '\\' ∉ before ++ first := by
          intro member
          exact isFieldType.noBackslash (isSplit ▸ List.mem_append_left _ member)
        have atTop := isSeparator.2.1
        rwa [Reading.after_eq_depthOf noQuotes noBackslash, Int.zero_add] at atTop
      obtain ⟨⟨-, notSemicolon, notBreak⟩, atComma⟩ :=
        isFieldType.topLevel_of_eq_append isSplit isTop
      have isComma : separator = ',' := by
        have isTerminator := isSeparator.2.2
        simpa [Field.isTerminator, notSemicolon, notBreak] using isTerminator
      obtain ⟨anglesOpen, notBlank⟩ := atComma isComma
      have passedLevel : depthOf (before ++ first ++ [separator]) = 0 := by
        rw [depthOf_append, isTop, isComma]
        rfl
      have isSplitBehind : text =
          (before ++ first ++ [separator]) ++ (piece ++ Division.laterText others) := by
        rw [isSplit, List.append_cons]
      refine ⟨isComma, anglesOpen, ?_, notBlank, ?_⟩
      · exact isFieldType.shape?_trim_eq_none isSplitBehind passedLevel
      · rw [List.append_cons]
        refine inductionHypothesis isSplitBehind ?_
        rwa [Reading.after_append]

end ComponentPages
