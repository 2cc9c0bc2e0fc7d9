import ComponentPages.Proofs.Declaration.Balanced
import ComponentPages.Proofs.Declaration.Coverage
import ComponentPages.Proofs.Source.Part

namespace ComponentPages

/-!
# Comments that stay

A block comment stays when comments are stripped exactly if the default tag stands in it behind any
number of openers, stars and blanks. The pattern of default markers asks for more: the comment has
one opener, and a blank stands behind the tag. So what the pattern consumes as a whole always stays,
and what stays is consumed unless its opener is repeated or its tag goes on.
-/

namespace Text

/-- A word stays at the start of a text that is trimmed at its end. -/
private theorem trimEnd_append_of_forall
    {word : Text}
    (noBlank : ∀ character ∈ word, isBlank character = false)
    (rest : Text) :
    trimEnd (word ++ rest) = word ++ trimEnd rest := by
  induction word with
  | nil =>
      rfl
  | cons character later inductionHypothesis =>
      obtain ⟨firstNotBlank, laterNotBlank⟩ := List.forall_mem_cons.mp noBlank
      rw [List.cons_append, trimEnd_cons_of_not_blank firstNotBlank,
        inductionHypothesis laterNotBlank, List.cons_append]

end Text

/-- What is found at the start of a text is what the pattern reads there. -/
private theorem Text.Pattern.break?_eq_some_nil_iff
    {α : Type}
    {pattern : Pattern α}
    {text rest : Text}
    {captured : α}
    (notEmpty : text ≠ []) :
    break? pattern text = some ([], captured, rest) ↔
      pattern none text = some (captured, rest) := by
  constructor
  · intro isFound
    obtain ⟨place, rfl, -, isMatch⟩ := exists_place_of_breakFrom? isFound
    exact isMatch
  · exact breakFrom?_eq_some notEmpty

namespace Comment

/-- The tag of default markers. -/
def defaultTag : Text :=
  "@default".toList

/-- So many openers of block comments. -/
def openers (number : Nat) : Text :=
  (List.replicate number "/*".toList).flatten

/--
Whether a comment has the default tag behind `again` openers that are repeated, a last opener with
any number of stars, and blanks. `behind` is what stands behind the tag, the closer included.
-/
def HasTag (again : Nat) (behind comment : Text) : Prop :=
  ∃ stars gap,
    (∀ character ∈ stars, character = '*') ∧
      (∀ character ∈ gap, Text.isBlank character = true) ∧
        comment =
          openers again ++ '/' :: '*' :: (stars ++ (gap ++ (defaultTag ++ behind)))

/-- Whether a text starts with a blank. -/
def StartsBlank (text : Text) : Prop :=
  ∃ first ∈ text.head?, Text.isBlank first = true

/-- Whether the tag of a comment, if it has one, has one opener in front and a blank behind. -/
def IsWellTagged (comment : Text) : Prop :=
  ∀ again behind, HasTag again behind comment → again = 0 ∧ StartsBlank behind

/-- Whether the pattern of default markers matches exactly the whole of a text. -/
def IsConsumed (comment : Text) : Prop :=
  ∃ value, Field.defaultMarker.break? comment = some ([], value, [])

/-! ## Openers -/

private theorem openers_succ (number : Nat) : openers (number + 1) = '/' :: '*' :: openers number :=
  rfl

private theorem openers_append_opener (number : Nat) (rest : Text) :
    openers number ++ '/' :: '*' :: rest = '/' :: '*' :: (openers number ++ rest) := by
  induction number with
  | zero =>
      rfl
  | succ number inductionHypothesis =>
      rw [openers_succ, List.cons_append, List.cons_append, inductionHypothesis]
      rfl

private theorem length_openers (number : Nat) : (openers number).length = 2 * number := by
  induction number with
  | zero =>
      rfl
  | succ number inductionHypothesis =>
      rw [openers_succ, List.length_cons, List.length_cons, inductionHypothesis]
      omega

/-- Only openers are dropped. -/
private theorem exists_openers_append (text : Text) :
    ∃ number, text = openers number ++ dropOpeners text := by
  fun_induction dropOpeners text with
  | case1 rest inductionHypothesis =>
      obtain ⟨number, isRest⟩ := inductionHypothesis
      exact ⟨number + 1, congrArg ('/' :: '*' :: ·) isRest⟩
  | case2 text =>
      exact ⟨0, rfl⟩

private theorem dropOpeners_openers
    (number : Nat)
    (text : Text) :
    dropOpeners (openers number ++ text) = dropOpeners text := by
  induction number with
  | zero =>
      rfl
  | succ number inductionHypothesis =>
      exact inductionHypothesis

/-- Text that starts with no slash starts with no opener. -/
private theorem dropOpeners_of_ne
    {text : Text}
    (noSlash : ∀ first ∈ text.head?, first ≠ '/') :
    dropOpeners text = text := by
  fun_cases dropOpeners text with
  | case1 =>
      exact absurd rfl (noSlash '/' rfl)
  | case2 =>
      rfl

/-- Reversed closers are openers. -/
private theorem dropReversedClosers_eq (text : Text) :
    dropReversedClosers text = dropOpeners text := by
  fun_induction dropReversedClosers text with
  | case1 rest inductionHypothesis =>
      exact inductionHypothesis
  | case2 text noCloser =>
      fun_cases dropOpeners text with
      | case1 rest =>
          exact absurd rfl (noCloser rest)
      | case2 =>
          rfl

/-- In front of a character that no opener has, openers are dropped as they would be alone. -/
private theorem exists_dropOpeners_append
    {stop : Char}
    (isStop : stop ≠ '/' ∧ stop ≠ '*')
    (text rest : Text) :
    ∃ left, left <:+ text ∧ dropOpeners (text ++ stop :: rest) = left ++ stop :: rest := by
  fun_induction dropOpeners text with
  | case1 later inductionHypothesis =>
      obtain ⟨left, isSuffix, isLeft⟩ := inductionHypothesis
      exact ⟨left, isSuffix.trans ⟨['/', '*'], rfl⟩, isLeft⟩
  | case2 text noOpener =>
      refine ⟨text, List.suffix_rfl, ?_⟩
      generalize isWhole : text ++ stop :: rest = whole
      fun_cases dropOpeners whole with
      | case1 later =>
          match text, isWhole with
          | [], isWhole =>
              exact absurd (List.cons.inj isWhole).1 isStop.1
          | [_], isWhole =>
              exact absurd (List.cons.inj (List.cons.inj isWhole).2).1 isStop.2
          | first :: second :: others, isWhole =>
              obtain ⟨rfl, isRest⟩ := List.cons.inj isWhole
              obtain ⟨rfl, -⟩ := List.cons.inj isRest
              exact absurd rfl (noOpener others)
      | case2 =>
          rfl

/-! ## Comments with the tag -/

variable {stars gap behind comment : Text} {again : Nat}

private theorem defaultTag_eq : defaultTag = '@' :: "default".toList :=
  rfl

private theorem reverse_defaultTag : defaultTag.reverse = 't' :: "luafed@".toList :=
  rfl

private theorem isBlank_eq_false_of_mem_defaultTag :
    ∀ character ∈ defaultTag, Text.isBlank character = false := by
  decide

/-- Behind stars stand blanks and the tag. -/
theorem run_stars
    (areStars : ∀ character ∈ stars, character = '*')
    (areBlank : ∀ character ∈ gap, Text.isBlank character = true)
    (behind : Text) :
    Text.run (· == '*') (stars ++ (gap ++ (defaultTag ++ behind))) =
      (stars, gap ++ (defaultTag ++ behind)) := by
  refine Text.run_append (fun character member => by simp [areStars character member]) ?_
  cases gap with
  | nil =>
      intro character isFirst
      rw [List.nil_append, defaultTag_eq] at isFirst
      obtain rfl := Option.some.inj isFirst
      decide
  | cons first later =>
      have firstBlank := areBlank first List.mem_cons_self
      intro character isFirst
      obtain rfl := Option.some.inj isFirst
      refine beq_eq_false_iff_ne.mpr ?_
      rintro rfl
      exact absurd firstBlank (by decide)

/-- Behind blanks stands the tag. -/
theorem trimStart_gap
    (areBlank : ∀ character ∈ gap, Text.isBlank character = true)
    (behind : Text) :
    Text.trimStart (gap ++ (defaultTag ++ behind)) = defaultTag ++ behind := by
  rw [Text.trimStart_append areBlank, defaultTag_eq, List.cons_append,
    Text.trimStart_cons_of_not_blank (show Text.isBlank '@' = false by decide)]

/-- No opener stands in front of the tag, apart from those that are counted. -/
private theorem dropOpeners_inside
    (areStars : ∀ character ∈ stars, character = '*')
    (areBlank : ∀ character ∈ gap, Text.isBlank character = true)
    (behind : Text) :
    dropOpeners (stars ++ (gap ++ (defaultTag ++ behind))) =
      stars ++ (gap ++ (defaultTag ++ behind)) := by
  refine dropOpeners_of_ne fun first isFirst => ?_
  rintro rfl
  cases stars with
  | cons star later =>
      have isStar := areStars star List.mem_cons_self
      obtain rfl : star = '/' := Option.some.inj isFirst
      exact absurd isStar (by decide)
  | nil =>
      cases gap with
      | cons blank later =>
          have isBlank := areBlank blank List.mem_cons_self
          obtain rfl : blank = '/' := Option.some.inj isFirst
          exact absurd isBlank (by decide)
      | nil =>
          exact absurd (Option.some.inj isFirst) (by decide)

/-- A comment has the tag behind one number of openers, and one text behind the tag. -/
theorem HasTag.unique
    {otherAgain : Nat}
    {otherBehind : Text}
    (hasTag : HasTag again behind comment)
    (otherTag : HasTag otherAgain otherBehind comment) :
    again = otherAgain ∧ behind = otherBehind := by
  obtain ⟨stars, gap, areStars, areBlank, rfl⟩ := hasTag
  obtain ⟨otherStars, otherGap, otherAreStars, otherAreBlank, sameComment⟩ := otherTag
  have sameInside : stars ++ (gap ++ (defaultTag ++ behind)) =
      otherStars ++ (otherGap ++ (defaultTag ++ otherBehind)) := by
    have dropped := congrArg dropOpeners sameComment
    rw [dropOpeners_openers, dropOpeners_openers, dropOpeners, dropOpeners,
      dropOpeners_inside areStars areBlank, dropOpeners_inside otherAreStars otherAreBlank]
      at dropped
    exact dropped
  refine ⟨?_, ?_⟩
  · have sameLength := congrArg List.length sameComment
    rw [sameInside, List.length_append, List.length_append, length_openers, length_openers]
      at sameLength
    omega
  · have sameRun := congrArg (Text.run (· == '*')) sameInside
    rw [run_stars areStars areBlank, run_stars otherAreStars otherAreBlank] at sameRun
    have sameRest := congrArg Text.trimStart (Prod.mk.inj sameRun).2
    rw [trimStart_gap areBlank, trimStart_gap otherAreBlank] at sameRest
    exact List.append_cancel_left sameRest

/-- What a comment with the tag says starts with the tag. -/
theorem HasTag.isDefaultMarker (hasTag : HasTag again behind comment) :
    isDefaultMarker comment = true := by
  obtain ⟨stars, gap, areStars, areBlank, rfl⟩ := hasTag
  have isOpened : dropOpeners
      (openers again ++ '/' :: '*' :: (stars ++ (gap ++ (defaultTag ++ behind)))) =
        stars ++ (gap ++ (defaultTag ++ behind)) := by
    rw [dropOpeners_openers, dropOpeners, dropOpeners_inside areStars areBlank]
  -- Read from behind, closers are dropped up to the tag at most.
  obtain ⟨left, -, isLeft⟩ := exists_dropOpeners_append (show 't' ≠ '/' ∧ 't' ≠ '*' by decide)
    behind.reverse ("luafed@".toList ++ (gap.reverse ++ stars.reverse))
  have isReversed (text : Text) : (stars ++ (gap ++ (defaultTag ++ text))).reverse =
      text.reverse ++ 't' :: ("luafed@".toList ++ (gap.reverse ++ stars.reverse)) := by
    rw [List.reverse_append, List.reverse_append, List.reverse_append, reverse_defaultTag,
      List.append_assoc, List.append_assoc, List.cons_append]
  have isClosed : (dropReversedClosers (stars ++ (gap ++ (defaultTag ++ behind))).reverse).reverse =
      stars ++ (gap ++ (defaultTag ++ left.reverse)) := by
    rw [dropReversedClosers_eq, isReversed, isLeft, ← List.reverse_reverse left, ← isReversed,
      List.reverse_reverse, List.reverse_reverse]
  have isBody : body (openers again ++ '/' :: '*' :: (stars ++ (gap ++ (defaultTag ++ behind)))) =
      defaultTag ++ Text.trimEnd left.reverse := by
    have starsLost : Text.trimStartWhile (· == '*')
        (stars ++ (gap ++ (defaultTag ++ left.reverse))) = gap ++ (defaultTag ++ left.reverse) :=
      congrArg Prod.snd (run_stars areStars areBlank left.reverse)
    rw [body, isOpened, isClosed, starsLost, Text.trim, trimStart_gap areBlank,
      Text.trimEnd_append_of_forall isBlank_eq_false_of_mem_defaultTag]
  rw [Comment.isDefaultMarker, isBody, List.isPrefixOf_iff_prefix]
  exact List.prefix_append _ _

/-- A comment that stays has the tag. -/
theorem exists_hasTag
    {inside : Text}
    (isMarker : isDefaultMarker ('/' :: '*' :: inside) = true) :
    ∃ again behind, HasTag again behind ('/' :: '*' :: inside) := by
  obtain ⟨again, isInside⟩ := exists_openers_append inside
  obtain ⟨closers, isReversed⟩ := exists_openers_append (dropOpeners inside).reverse
  generalize isClosed : (dropOpeners (dropOpeners inside).reverse).reverse = closed
  have isOpened : dropOpeners inside = closed ++ (openers closers).reverse := by
    rw [← isClosed, ← List.reverse_append, ← isReversed, List.reverse_reverse]
  rw [isDefaultMarker, body, dropReversedClosers_eq, show dropOpeners ('/' :: '*' :: inside) =
    dropOpeners inside from rfl, isClosed, List.isPrefixOf_iff_prefix] at isMarker
  obtain ⟨said, isSaid⟩ : defaultTag <+:
      Text.trimStart (Text.trimStartWhile (· == '*') closed) :=
    isMarker.trans (List.rdropWhile_prefix Text.isBlank _)
  refine ⟨again, said ++ (openers closers).reverse, closed.takeWhile (· == '*'),
    (Text.trimStartWhile (· == '*') closed).takeWhile Text.isBlank, ?_, ?_, ?_⟩
  · intro character member
    simpa using List.mem_takeWhile_imp member
  · intro character member
    exact List.mem_takeWhile_imp member
  · have isGap : Text.trimStartWhile (· == '*') closed =
        (Text.trimStartWhile (· == '*') closed).takeWhile Text.isBlank ++ (defaultTag ++ said) := by
      rw [isSaid]
      exact List.takeWhile_append_dropWhile.symm
    have isClosedText : closed = closed.takeWhile (· == '*') ++
        ((Text.trimStartWhile (· == '*') closed).takeWhile Text.isBlank ++
          (defaultTag ++ said)) := by
      rw [← isGap]
      exact List.takeWhile_append_dropWhile.symm
    rw [openers_append_opener, isInside, isOpened]
    conv_lhs => rw [isClosedText]
    simp only [List.append_assoc]

/-! ## What the pattern consumes -/

variable {inside : Text}

/-- What the pattern consumes has the tag behind one opener, and a blank behind the tag. -/
theorem IsConsumed.exists_hasTag
    (isConsumed : IsConsumed ('/' :: '*' :: inside)) :
    ∃ behind, HasTag 0 behind ('/' :: '*' :: inside) ∧ StartsBlank behind := by
  obtain ⟨value, isFound⟩ := isConsumed
  have isMatch := (Text.Pattern.break?_eq_some_nil_iff (List.cons_ne_nil _ _)).mp isFound
  simp only [Field.defaultMarker, Option.bind_eq_bind, Option.bind_eq_some_iff] at isMatch
  obtain ⟨⟨stars, afterStars⟩, ⟨text, isText, isRun⟩, content, isContent, -⟩ := isMatch
  obtain ⟨behind, isBehind, isBlankBehind⟩ := Option.bind_eq_some_iff.mp isContent
  obtain rfl : '*' :: inside = text := by
    have sameText := Text.after?_eq_some_iff.mp isText
    exact (List.cons.inj sameText).2
  obtain rfl : inside.dropWhile (· == '*') = afterStars := by
    have isPair : Text.run (· == '*') ('*' :: inside) = (stars, afterStars) :=
      Option.some.inj isRun
    exact (Prod.mk.inj isPair).2
  have isInside : inside = inside.takeWhile (· == '*') ++
      ((inside.dropWhile (· == '*')).takeWhile Text.isBlank ++ (defaultTag ++ behind)) := by
    have isTag := Text.after?_eq_some_iff.mp isBehind
    have isGap : (inside.dropWhile (· == '*')).takeWhile Text.isBlank ++ (defaultTag ++ behind) =
        inside.dropWhile (· == '*') :=
      isTag ▸ List.takeWhile_append_dropWhile
    rw [isGap]
    exact List.takeWhile_append_dropWhile.symm
  refine ⟨behind, ⟨inside.takeWhile (· == '*'),
    (inside.dropWhile (· == '*')).takeWhile Text.isBlank, ?_, ?_, ?_⟩, ?_⟩
  · intro character member
    simpa using List.mem_takeWhile_imp member
  · intro character member
    exact List.mem_takeWhile_imp member
  · rw [openers_append_opener, ← isInside]
    rfl
  · obtain ⟨blanks, notEmpty, areBlank, rfl⟩ := Text.exists_blanks_of_afterBlanks? isBlankBehind
    obtain ⟨first, later, rfl⟩ := List.exists_cons_of_ne_nil notEmpty
    exact ⟨first, rfl, areBlank first List.mem_cons_self⟩

/-- What stands behind the tag of a comment, if it starts with a blank, ends in the closer. -/
theorem exists_value_of_hasTag
    (noCloser : ¬ "*/".toList <:+: inside)
    (hasTag : HasTag again behind ('/' :: '*' :: (inside ++ "*/".toList)))
    (startsBlank : StartsBlank behind) :
    ∃ blank value,
      behind = blank :: (value ++ "*/".toList) ∧ Text.isBlank blank = true ∧
        ¬ "*/".toList <:+: value := by
  obtain ⟨stars, gap, -, -, isComment⟩ := hasTag
  obtain ⟨blank, isFirst, isBlank⟩ := startsBlank
  obtain ⟨later, rfl⟩ := List.head?_eq_some_iff.mp isFirst
  have notCloser : blank ∉ "*/".toList := by
    intro member
    have notBlank : ∀ character ∈ "*/".toList, Text.isBlank character = false := by
      decide
    rw [notBlank blank member] at isBlank
    contradiction
  rw [openers_append_opener] at isComment
  have isInside := (List.cons.inj (List.cons.inj isComment).2).2
  simp only [← List.append_assoc] at isInside
  rcases List.append_eq_append_iff.mp isInside with
    ⟨between, -, isCloser⟩ | ⟨rest, isRest, isBehind⟩
  · exact absurd (isCloser ▸ List.mem_append_right between List.mem_cons_self) notCloser
  · cases rest with
    | nil =>
        rw [List.nil_append] at isBehind
        exact absurd (isBehind ▸ List.mem_cons_self) notCloser
    | cons first value =>
        obtain ⟨rfl, rfl⟩ := List.cons.inj isBehind
        refine ⟨blank, value, rfl, isBlank, fun isInfix => noCloser ?_⟩
        rw [isRest]
        exact isInfix.trans ((List.suffix_cons _ _).trans (List.suffix_append _ _)).isInfix

/-- A default marker is read from stars, the tag, a value and the end of the comment. -/
theorem defaultMarker_eq_some
    {previous : Option Char}
    {text stars afterStars content value rest : Text}
    (isRun : Text.run? (· == '*') text = some (stars, afterStars))
    (isContent : Text.afterWordAndBlanks? defaultTag (Text.trimStart afterStars) = some content)
    (isEnd : Text.breakOn? content "*/".toList = some (value, rest)) :
    Field.defaultMarker previous ('/' :: text) = some (Text.trim value, rest) := by
  have isText : Text.after? ('/' :: text) ['/'] = some text :=
    Text.after?_append ['/'] text
  have isContentOfTag : Text.afterWordAndBlanks? "@default".toList (Text.trimStart afterStars) =
      some content := isContent
  simp only [Field.defaultMarker, isText, Option.bind_eq_bind, Option.bind_some, isRun,
    isContentOfTag, isEnd]
  rfl

/-- A comment with the tag behind one opener, and a blank behind the tag, is consumed. -/
theorem HasTag.isConsumed
    (noCloser : ¬ "*/".toList <:+: inside)
    (hasTag : HasTag 0 behind ('/' :: '*' :: (inside ++ "*/".toList)))
    (startsBlank : StartsBlank behind) :
    IsConsumed ('/' :: '*' :: (inside ++ "*/".toList)) := by
  obtain ⟨blank, value, rfl, isBlank, noCloserInside⟩ :=
    exists_value_of_hasTag noCloser hasTag startsBlank
  obtain ⟨stars, gap, areStars, areBlank, isComment⟩ := hasTag
  generalize isRest : blank :: (value ++ "*/".toList) = rest at isComment
  have isInside : inside ++ "*/".toList = stars ++ (gap ++ (defaultTag ++ rest)) := by
    rw [openers_append_opener] at isComment
    exact (List.cons.inj (List.cons.inj isComment).2).2
  have isRun : Text.run? (· == '*') ('*' :: (inside ++ "*/".toList)) =
      some ('*' :: stars, gap ++ (defaultTag ++ rest)) := by
    have areAllStars : ∀ character ∈ '*' :: stars, character = '*' :=
      List.forall_mem_cons.mpr ⟨rfl, areStars⟩
    rw [isInside, Text.run?, if_neg (by simp)]
    exact congrArg some (run_stars areAllStars areBlank rest)
  have isContent : Text.afterWordAndBlanks? defaultTag
      (Text.trimStart (gap ++ (defaultTag ++ rest))) =
        some (Text.trimStart value ++ '*' :: ['/']) := by
    rw [trimStart_gap areBlank, ← isRest, Text.afterWordAndBlanks?_append isBlank]
    exact congrArg some (Text.trimStart_append_stop (by decide) value ['/'])
  have isEnd : Text.breakOn? (Text.trimStart value ++ '*' :: ['/']) "*/".toList =
      some (Text.trimStart value, []) := by
    refine breakOn?_closer (fun isInfix => noCloserInside ?_) []
    exact isInfix.trans (Text.trimStart_suffix value).isInfix
  refine ⟨Text.trim (Text.trimStart value), ?_⟩
  rw [Text.Pattern.break?_eq_some_nil_iff (List.cons_ne_nil _ _)]
  exact defaultMarker_eq_some isRun isContent isEnd

/-! ## What stays and what is consumed -/

namespace Part

/-- A block comment stays exactly if it has the tag. -/
theorem left_block_eq_self_iff :
    (block inside).left = [block inside] ↔
      ∃ again behind, HasTag again behind (block inside).written := by
  rw [left_eq_self_iff]
  exact ⟨exists_hasTag, fun ⟨_, _, hasTag⟩ => hasTag.isDefaultMarker⟩

/-- A block comment is consumed if its tag stands behind the stars and a blank follows. -/
theorem isConsumed_block_iff
    (noCloser : ¬ "*/".toList <:+: inside) :
    IsConsumed (block inside).written ↔
      ∃ behind, HasTag 0 behind (block inside).written ∧ StartsBlank behind :=
  ⟨IsConsumed.exists_hasTag, fun ⟨_, hasTag, startsBlank⟩ =>
    hasTag.isConsumed noCloser startsBlank⟩

/--
What stays is what is consumed, exactly if the opener is not repeated in front of the tag and a
blank stands behind it.
-/
theorem left_block_iff_isConsumed_iff
    (noCloser : ¬ "*/".toList <:+: inside) :
    ((block inside).left = [block inside] ↔ IsConsumed (block inside).written) ↔
      IsWellTagged (block inside).written := by
  rw [left_block_eq_self_iff, isConsumed_block_iff noCloser]
  constructor
  · intro agree again behind hasTag
    obtain ⟨otherBehind, otherTag, startsBlank⟩ := agree.mp ⟨again, behind, hasTag⟩
    obtain ⟨rfl, rfl⟩ := hasTag.unique otherTag
    exact ⟨rfl, startsBlank⟩
  · intro isWellFormed
    constructor
    · rintro ⟨again, behind, hasTag⟩
      obtain ⟨rfl, startsBlank⟩ := isWellFormed again behind hasTag
      exact ⟨behind, hasTag, startsBlank⟩
    · rintro ⟨behind, hasTag, -⟩
      exact ⟨0, behind, hasTag⟩

end Part

end Comment

/-! ## What reaches the text of a type -/

namespace Field

variable {text field rest typeText : Text} {shape : Shape}

private theorem suffix_of_name?
    {name : Text}
    (isName : name? text = some (name, rest)) :
    rest <:+ text := by
  simp only [name?, Option.orElse_eq_orElse, Option.orElse_eq_or] at isName
  rcases Option.or_eq_some_iff.mp isName with isIdentifier | ⟨-, isQuoted⟩
  · exact ⟨name, (Text.eq_append_of_identifier? isIdentifier).1.symm⟩
  · exact (Option.or_eq_some_iff.mp isQuoted).elim Text.quoted?_suffix fun isDouble =>
      Text.quoted?_suffix isDouble.2

/-- The type of a field ends the text that the field starts. -/
private theorem typeText_suffix_of_shapeFromName?
    (hasShape : shapeFromName? text = some shape) :
    shape.typeText <:+ text := by
  simp only [shapeFromName?, Option.bind_eq_bind, Option.bind_eq_some_iff] at hasShape
  obtain ⟨⟨name, afterName⟩, isName, typeText, isTypeText, isShape⟩ := hasShape
  obtain rfl := Option.some.inj isShape
  refine (Text.after?_suffix isTypeText).trans (.trans ?_ (suffix_of_name? isName))
  have behindName : Text.trimStart afterName <:+ afterName := Text.trimStart_suffix afterName
  split
  · rename_i later isMarked
    rw [isMarked] at behindName
    exact (Text.trimStart_suffix later).trans ((List.suffix_cons _ _).trans behindName)
  · exact behindName

/-- The type of a field is the end of the field. -/
theorem typeText_suffix_of_shape?
    (hasShape : shape? field = some shape) :
    shape.typeText <:+ field := by
  simp only [shape?, Option.orElse_eq_orElse, Option.orElse_eq_or] at hasShape
  rcases Option.or_eq_some_iff.mp hasShape with isReadonly | ⟨-, isPlain⟩
  · obtain ⟨behindWord, isBehind, restShape⟩ := Option.bind_eq_some_iff.mp isReadonly
    exact (typeText_suffix_of_shapeFromName? restShape).trans
      (Text.afterWordAndBlanks?_suffix isBehind)
  · exact typeText_suffix_of_shapeFromName? isPlain

/-- Fields that are laid out in a text stand in it. -/
theorem LaidOut.isInfix
    {reading : Reading}
    {fields : List Text}
    (laidOut : LaidOut reading fields text)
    (isField : field ∈ fields) :
    field <:+: text := by
  induction laidOut with
  | nil =>
      contradiction
  | between _ _ inductionHypothesis =>
      exact (inductionHypothesis isField).trans (List.suffix_cons _ _).isInfix
  | field _ _ _ inductionHypothesis =>
      rcases List.mem_cons.mp isField with rfl | isLater
      · exact (List.prefix_append _ _).isInfix
      · exact (inductionHypothesis isLater).trans (List.suffix_append _ _).isInfix

/-- Whether some field of a declaration in a text has a type, which may have a marker. -/
def HasType (text typeText : Text) : Prop :=
  ∃ anchor ∈ Anchor.allOf text, ∃ body, Scope.contentAt? text anchor.bodyStart = some body ∧
    ∃ field ∈ ofBody body, ∃ shape, shape? field = some shape ∧ shape.typeText = typeText

/-- The types of fields stand in the text that they are read from. -/
theorem HasType.isInfix (hasType : HasType text typeText) : typeText <:+: text := by
  obtain ⟨anchor, -, body, isBody, field, isField, shape, hasShape, rfl⟩ := hasType
  obtain ⟨before, opener, closer, after, rfl, -⟩ := Scope.standsAt_of_contentAt? isBody
  refine (typeText_suffix_of_shape? hasShape).isInfix.trans ?_
  refine ((laidOut_ofBody body).isInfix isField).trans ?_
  exact ⟨before ++ [opener], closer :: after, by simp⟩

end Field

/-! ## Comments of a source -/

namespace Comment

/--
The comments of a source that are left when it is stripped are the block comments that have the
default tag, and no other text of comments stands in the types that are read. The pattern of default
markers consumes such a comment as a whole exactly if its opener is not repeated and a blank stands
behind its tag.
-/
theorem stays_iff_isConsumed_iff (source : Text) :
    ∃ parts,
      (∀ others, FallsInto {} source others ↔ others = parts) ∧
      (∀ others, FallsInto {} (strip source) others ↔ others = leftOf parts) ∧
      (∀ part ∈ leftOf parts,
        (∃ character, part = .code character) ∨ part ∈ parts ∧ part.left = [part]) ∧
      (∀ typeText, Field.HasType (strip source) typeText → typeText <:+: strip source) ∧
      (∀ inside, .block inside ∈ parts →
        let comment := (Part.block inside).written
        ((Part.block inside).left = [.block inside] ↔ ∃ again behind, HasTag again behind comment) ∧
        ((Part.block inside).left ≠ [.block inside] → (Part.block inside).left = [.code ' ']) ∧
        (IsConsumed comment → (Part.block inside).left = [.block inside]) ∧
        (((Part.block inside).left = [.block inside] ↔ IsConsumed comment) ↔
          IsWellTagged comment)) ∧
      ((∀ inside, .block inside ∈ parts → IsWellTagged (Part.block inside).written) →
        ∀ part ∈ leftOf parts,
          (∃ character, part = .code character) ∨ IsConsumed part.written ∨
            ∃ inside, part = .openBlock inside) := by
  obtain ⟨parts, onlyParts, isStripped⟩ := exists_parts source
  have falls : FallsInto {} source parts := (onlyParts parts).mpr rfl
  have leftFalls : FallsInto {} (strip source) (leftOf parts) := by
    rw [isStripped]
    exact falls.left
  have areLeft : ∀ part ∈ leftOf parts,
      (∃ character, part = .code character) ∨ part ∈ parts ∧ part.left = [part] := by
    intro part isLeft
    obtain ⟨written, isPart, isLeft⟩ := List.mem_flatMap.mp isLeft
    refine (Part.code_or_stays_of_mem_left isLeft).imp_right ?_
    rintro ⟨rfl, stays⟩
    exact ⟨isPart, stays⟩
  refine ⟨parts, onlyParts, fun others => ⟨fun fallsToo => fallsToo.unique leftFalls, ?_⟩,
    areLeft, fun typeText => Field.HasType.isInfix, ?_, ?_⟩
  · rintro rfl
    exact leftFalls
  · intro inside isPart
    have noCloser : ¬ "*/".toList <:+: inside := falls.endsFirst isPart
    refine ⟨Part.left_block_eq_self_iff, fun notStays => ?_, fun isConsumed => ?_,
      Part.left_block_iff_isConsumed_iff noCloser⟩
    · exact Part.left_block_of_not_stays fun stays => notStays (Part.left_of_stays stays)
    · obtain ⟨behind, hasTag, -⟩ := (Part.isConsumed_block_iff noCloser).mp isConsumed
      exact Part.left_block_eq_self_iff.mpr ⟨0, behind, hasTag⟩
  · intro areWellTagged part isLeft
    rcases areLeft part isLeft with isCode | ⟨isPart, stays⟩
    · exact .inl isCode
    · cases part with
      | code character =>
          exact .inl ⟨character, rfl⟩
      | line _ =>
          contradiction
      | block inside =>
          have agree := (Part.left_block_iff_isConsumed_iff (falls.endsFirst isPart)).mpr
            (areWellTagged inside isPart)
          exact .inr (.inl (agree.mp stays))
      | openBlock inside =>
          exact .inr (.inr ⟨inside, rfl⟩)

/-! ### A longer tag -/

/-- A comment whose tag is longer than that of default markers. -/
def longerTag : Part :=
  .block " @defaultValue 3 ".toList

/-- A declaration with that comment behind the type of its field. -/
def longerTagged : Text :=
  "interface BoxProps \x7b\n  a: string ".toList ++ (longerTag.written ++ "\n\x7d".toList)

/-- The comment stays, but the pattern does not match it, and it becomes part of the type. -/
theorem ofSource_longerTagged :
    (∃ parts, FallsInto {} longerTagged parts ∧ longerTag ∈ parts) ∧
      longerTag.left = [longerTag] ∧ ¬ IsConsumed longerTag.written ∧
        Extraction.ofSource longerTagged = .ok {
          properties := [⟨"a".toList, "string /* @defaultValue 3 */".toList, true, none,
            "The `a` text".toList⟩] } := by
  have falls : FallsInto {} longerTagged
      ("interface BoxProps \x7b\n  a: string ".toList.map .code ++
        longerTag :: "\n\x7d".toList.map .code) :=
    .around_block (by decide) rfl (by decide) (by decide)
  have stays : longerTag.left = [longerTag] := by
    decide
  have isStripped : strip longerTagged = longerTagged := by
    rw [strip, falls.stripFrom_eq]
    decide
  refine ⟨⟨_, falls, by simp⟩, stays, ?_, ?_⟩
  · rintro ⟨value, isFound⟩
    have notFound : Field.defaultMarker.break? longerTag.written = none := by
      decide
    rw [notFound] at isFound
    contradiction
  · rw [Extraction.ofSource, isStripped, Extraction.ofStripped,
      Anchor.allOf_of_pairwise (by decide)]
    decide

end Comment

end ComponentPages
