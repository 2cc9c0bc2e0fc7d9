import ComponentPages.Proofs.Declaration.Balanced
import ComponentPages.Proofs.Source.Part

namespace ComponentPages

/-!
# Where an extraction fails

The offset of a fault is that of a brace in the stripped text. In the source this brace stands
further behind, by the bytes of the comments in front of it that stripping takes out. No scope that
is closed stands there, also if each comment that is taken out is replaced by as many blanks.
-/

/-! ## Scopes and blanks -/

namespace Reading

/-- Whether the literal that is open, if there is one, was opened by a quote. -/
def IsQuoted (reading : Reading) : Prop :=
  ∀ quote ∈ reading.quote, isQuote quote = true

variable {reading : Reading}

/-- A literal that is open behind a character was opened by a quote as well. -/
private theorem IsQuoted.next
    (isQuoted : reading.IsQuoted)
    (character : Char) :
    (reading.next character).IsQuoted := by
  obtain ⟨depth, quote, escaped⟩ := reading
  intro other isOther
  cases quote with
  | none =>
      simp only [Reading.next, quoteAfter] at isOther
      split at isOther
      · rename_i opens
        obtain rfl := Option.some.inj isOther
        exact (Bool.and_eq_true_iff.mp opens).1
      · contradiction
  | some quote =>
      simp only [Reading.next, quoteAfter] at isOther
      split at isOther
      · contradiction
      · exact isQuoted other isOther

/-- An ordinary character leaves a reading as it is, but no backslash precedes behind it. -/
private theorem IsQuoted.next_ordinary
    {character : Char}
    (isQuoted : reading.IsQuoted)
    (ordinary : isOrdinary character = true) :
    reading.next character = { reading with escaped := false } ∧
      reading.role character ≠ .closer := by
  obtain ⟨notOpener, notCloser, notQuote, notBackslash, -⟩ := isOrdinary_iff.mp ordinary
  obtain ⟨depth, quote, escaped⟩ := reading
  cases quote with
  | none =>
      rw [Reading.next_ordinary ordinary, role_plain notOpener notCloser (by simp [notQuote])]
      exact ⟨rfl, nofun⟩
  | some quote =>
      have isOther : character ≠ quote := by
        rintro rfl
        rw [isQuoted character rfl] at notQuote
        contradiction
      rw [next_inside fun isSame => absurd isSame isOther, notBackslash, role_inside]
      exact ⟨rfl, nofun⟩

end Reading

namespace Scope

/-- Whether every scope that goes on with one text is closed in it exactly if it is closed in the
other. -/
def ClosesLike (text other : Text) : Prop :=
  ∀ reading : Reading, reading.IsQuoted →
    (contentFrom? reading text = none ↔ contentFrom? reading other = none)

variable {text other rest : Text} {reading : Reading} {character : Char}

private theorem contentFrom?_cons_eq_none_iff :
    contentFrom? reading (character :: rest) = none ↔
      ¬ (reading.role character = .closer ∧ (reading.next character).depth = 0) ∧
        contentFrom? (reading.next character) rest = none := by
  rw [contentFrom?]
  split
  · rename_i closes
    exact iff_of_false (Option.some_ne_none _) fun goesOn => goesOn.1 closes
  · rename_i goesOn
    rw [Option.map_eq_none_iff]
    exact (and_iff_right goesOn).symm

private theorem ClosesLike.append
    (closesLike : ClosesLike text other)
    (front : Text) :
    ClosesLike (front ++ text) (front ++ other) := by
  induction front with
  | nil =>
      exact closesLike
  | cons character later inductionHypothesis =>
      intro reading isQuoted
      rw [List.cons_append, List.cons_append, contentFrom?_cons_eq_none_iff,
        contentFrom?_cons_eq_none_iff, inductionHypothesis _ (isQuoted.next character)]

/-- A character that has no part in literals and delimiters does not close a scope. -/
theorem contentFrom?_ordinary
    (isQuoted : reading.IsQuoted)
    (ordinary : isOrdinary character = true)
    (rest : Text) :
    contentFrom? reading (character :: rest) = none ↔
      contentFrom? { reading with escaped := false } rest = none := by
  obtain ⟨isNext, notCloser⟩ := isQuoted.next_ordinary ordinary
  rw [contentFrom?_cons_eq_none_iff, isNext]
  exact and_iff_right fun closes => notCloser closes.1

/-- The number of blanks does not count. -/
private theorem contentFrom?_blanks
    (isQuoted : reading.IsQuoted)
    {number : Nat}
    (positive : 0 < number)
    (rest : Text) :
    contentFrom? reading (List.replicate number ' ' ++ rest) = none ↔
      contentFrom? { reading with escaped := false } rest = none := by
  induction number, positive using Nat.le_induction generalizing reading with
  | base =>
      exact contentFrom?_ordinary isQuoted (by decide) rest
  | succ number _ inductionHypothesis =>
      rw [List.replicate_succ, List.cons_append, contentFrom?_ordinary isQuoted (by decide)]
      exact inductionHypothesis isQuoted

/-- Whether a backslash precedes does not count in front of a line break. -/
private theorem contentFrom?_unescaped
    (isQuoted : reading.IsQuoted)
    (isBreak : ∀ next ∈ text.head?, next = '\n') :
    contentFrom? { reading with escaped := false } text = none ↔
      contentFrom? reading text = none := by
  cases text with
  | nil =>
      exact iff_of_true rfl rfl
  | cons next rest =>
      obtain rfl := isBreak next rfl
      have unescapedQuoted : Reading.IsQuoted { reading with escaped := false } := isQuoted
      rw [contentFrom?_ordinary isQuoted (by decide),
        contentFrom?_ordinary unescapedQuoted (by decide)]

/-- Whether a brace stands at an offset of a text and opens no scope that is closed. -/
def IsUnclosedAt (text : Text) (offset : Nat) : Prop :=
  (∃ inside, text.from? offset = some ('{' :: inside)) ∧ ¬ ∃ content, StandsAt text offset content

/-- A brace whose content does not end is not closed. -/
theorem isUnclosedAt_of_contentFrom?
    {inside : Text}
    (notClosed : contentFrom? ⟨1, none, false⟩ inside = none)
    (before : Text) :
    IsUnclosedAt (before ++ '{' :: inside) before.byteLength := by
  refine ⟨⟨inside, Text.from?_byteLength before _⟩, ?_⟩
  rintro ⟨content, front, opener, closer, after, isText, isOffset, opens, closes, balanced⟩
  have found := contentAt?_of_balanced opens balanced closes front after
  rw [← isText, isOffset, contentAt?, Text.from?_byteLength] at found
  simp [content?, notClosed, isOpener] at found

end Scope

namespace Comment

variable {reading : Reading} {text : Text} {part : Part} {parts : List Part}

/-! ## Blanks in place of comments -/

/-- Whether a part is a comment. -/
def Part.isComment : Part → Bool
  | .code _ => false
  | .line _ | .block _ | .openBlock _ => true

/-- The text of parts, in which some parts are replaced by as many blanks as they have bytes. -/
def blankedOf (isBlanked : Part → Bool) (parts : List Part) : Text :=
  parts.flatMap fun part =>
    if isBlanked part then List.replicate part.written.byteLength ' ' else part.written

private theorem blankedOf_cons
    (isBlanked : Part → Bool)
    (part : Part)
    (parts : List Part) :
    blankedOf isBlanked (part :: parts) =
      (if isBlanked part then List.replicate part.written.byteLength ' ' else part.written) ++
        blankedOf isBlanked parts :=
  rfl

private theorem blankedOf_append
    (isBlanked : Part → Bool)
    (first second : List Part) :
    blankedOf isBlanked (first ++ second) =
      blankedOf isBlanked first ++ blankedOf isBlanked second :=
  List.flatMap_append

private theorem byteLength_replicate_space (number : Nat) :
    Text.byteLength (List.replicate number ' ') = number := by
  induction number with
  | zero =>
      rfl
  | succ number inductionHypothesis =>
      rw [List.replicate_succ, Text.byteLength, inductionHypothesis, Nat.add_comm]
      rfl

/-- Blanks in place of comments leave every offset as it is. -/
theorem byteLength_blankedOf
    (isBlanked : Part → Bool)
    (parts : List Part) :
    (blankedOf isBlanked parts).byteLength = (writtenOf parts).byteLength := by
  induction parts with
  | nil =>
      rfl
  | cons part later inductionHypothesis =>
      rw [blankedOf_cons, writtenOf_cons, Text.byteLength_append, Text.byteLength_append,
        inductionHypothesis]
      split
      · rw [byteLength_replicate_space]
      · rfl

private theorem blankedOf_congr
    {isBlanked isBlankedToo : Part → Bool}
    (agree : ∀ part ∈ parts, isBlanked part = isBlankedToo part) :
    blankedOf isBlanked parts = blankedOf isBlankedToo parts := by
  refine List.flatMap_congr fun part isPart => ?_
  rw [agree part isPart]

/-- A comment has two bytes at least. -/
private theorem Part.two_le_byteLength
    (isComment : part.isComment = true) :
    2 ≤ part.written.byteLength := by
  cases part with
  | code _ =>
      contradiction
  | line _ | block _ | openBlock _ =>
      simp only [written, Text.byteLength, show Char.utf8Size '/' = 1 from rfl,
        show Char.utf8Size '*' = 1 from rfl]
      omega

private theorem Part.isComment_of_not_stays
    (notStays : ¬ part.stays = true) :
    part.isComment = true := by
  cases part with
  | code _ =>
      exact absurd rfl notStays
  | line _ | block _ | openBlock _ =>
      rfl

/-- The text of parts, in which the comments that are taken out are replaced by blanks. -/
def removedBlanked (parts : List Part) : Text :=
  blankedOf (!·.stays) parts

private theorem removedBlanked_of_stays (stays : part.stays = true) :
    removedBlanked (part :: parts) = part.written ++ removedBlanked parts :=
  congrArg (· ++ removedBlanked parts) (if_neg (by simp [stays]))

private theorem removedBlanked_of_not_stays (notStays : ¬ part.stays = true) :
    removedBlanked (part :: parts) =
      List.replicate part.written.byteLength ' ' ++ removedBlanked parts :=
  congrArg (· ++ removedBlanked parts) (if_pos (by simp [notStays]))

/-- A comment that is taken out has bytes. -/
private theorem Part.byteLength_pos (notStays : ¬ part.stays = true) :
    0 < part.written.byteLength :=
  Nat.lt_of_lt_of_le Nat.two_pos (two_le_byteLength (isComment_of_not_stays notStays))

/-- If a part stays only if it is no comment, it is a comment exactly if it does not stay. -/
private theorem Part.isComment_eq_not_stays
    (isTakenOut : part.isComment = true → part.left ≠ [part]) :
    part.isComment = !part.stays := by
  rw [ne_eq, left_eq_self_iff] at isTakenOut
  cases isStaying : part.stays with
  | false =>
      exact isComment_of_not_stays (by simp [isStaying])
  | true =>
      exact Bool.eq_false_iff.mpr fun isComment => isTakenOut isComment isStaying

/-- Scopes are closed alike behind a blank and behind more of them. -/
private theorem closesLike_of_left_blank
    (notStays : ¬ part.stays = true)
    (isLeft : part.left = [.code ' '])
    (closesLike : Scope.ClosesLike (removedBlanked parts) (writtenOf (leftOf parts))) :
    Scope.ClosesLike (removedBlanked (part :: parts)) (writtenOf (leftOf (part :: parts))) := by
  intro scope isQuoted
  have unescapedQuoted : Reading.IsQuoted { scope with escaped := false } := isQuoted
  rw [removedBlanked_of_not_stays notStays, leftOf_cons, isLeft,
    Scope.contentFrom?_blanks isQuoted (Part.byteLength_pos notStays),
    closesLike _ unescapedQuoted]
  exact (Scope.contentFrom?_ordinary isQuoted (by decide) _).symm

private theorem closesLike_of_stays
    (stays : part.stays = true)
    (closesLike : Scope.ClosesLike (removedBlanked parts) (writtenOf (leftOf parts))) :
    Scope.ClosesLike (removedBlanked (part :: parts)) (writtenOf (leftOf (part :: parts))) := by
  rw [removedBlanked_of_stays stays, leftOf_cons, Part.left_of_stays stays,
    List.singleton_append, writtenOf_cons]
  exact closesLike.append part.written

/-- Scopes are closed alike when comments are taken out and when they are replaced by blanks. -/
theorem FallsInto.closesLike
    (falls : FallsInto reading text parts) :
    Scope.ClosesLike (removedBlanked parts) (writtenOf (leftOf parts)) := by
  induction falls with
  | nil =>
      exact fun _ _ => Iff.rfl
  | code _ _ inductionHypothesis =>
      exact closesLike_of_stays rfl inductionHypothesis
  | @line _ inside rest parts _ _ isBreak fallsLater inductionHypothesis =>
      intro scope isQuoted
      have breakLeft : ∀ next ∈ (writtenOf (leftOf parts)).head?, next = '\n' := by
        rw [← fallsLater.stripFrom_eq, head?_stripFrom]
        · exact isBreak
        · intro first isFirst
          rw [isBreak first isFirst]
          decide
      have notStays : ¬ (Part.line inside).stays = true :=
        Bool.false_ne_true
      have unescapedQuoted : Reading.IsQuoted { scope with escaped := false } := isQuoted
      rw [removedBlanked_of_not_stays notStays,
        Scope.contentFrom?_blanks isQuoted (Part.byteLength_pos notStays),
        inductionHypothesis _ unescapedQuoted, Scope.contentFrom?_unescaped isQuoted breakLeft]
      rfl
  | @block _ inside rest parts _ _ _ inductionHypothesis =>
      by_cases stays : (Part.block inside).stays = true
      · exact closesLike_of_stays stays inductionHypothesis
      · exact closesLike_of_left_blank stays (Part.left_block_of_not_stays stays)
          inductionHypothesis
  | @openBlock _ inside _ _ =>
      have nothingBehind : Scope.ClosesLike (removedBlanked []) (writtenOf (leftOf [])) :=
        fun _ _ => Iff.rfl
      by_cases stays : (Part.openBlock inside).stays = true
      · exact closesLike_of_stays stays nothingBehind
      · exact closesLike_of_left_blank stays (Part.left_openBlock_of_not_stays stays)
          nothingBehind

/-- What stands behind some parts of a text falls into the parts behind them. -/
theorem FallsInto.behind
    {front : List Part}
    (falls : FallsInto reading text (front ++ parts)) :
    ∃ readingBehind textBehind, FallsInto readingBehind textBehind parts := by
  induction front generalizing reading text with
  | nil =>
      exact ⟨reading, text, falls⟩
  | cons part later inductionHypothesis =>
      rw [List.cons_append] at falls
      generalize isLater : later ++ parts = others at falls
      cases falls with
      | code _ fallsLater | line _ _ _ fallsLater | block _ _ fallsLater =>
          exact inductionHypothesis (isLater ▸ fallsLater)
      | openBlock _ _ =>
          obtain ⟨-, rfl⟩ := List.append_eq_nil_iff.mp isLater
          exact ⟨reading, [], .nil⟩

/-! ## Places of braces -/

/-- The number of bytes that parts lose when they are stripped. -/
def lostBytes : List Part → Nat :=
  totalOf fun part => part.written.byteLength - (writtenOf part.left).byteLength

/-- Each comment that is taken out loses bytes. -/
theorem Part.byteLength_left_lt
    (notStays : ¬ part.stays = true) :
    (writtenOf part.left).byteLength < part.written.byteLength := by
  have twoBytes := two_le_byteLength (isComment_of_not_stays notStays)
  have oneLeft : (writtenOf part.left).byteLength ≤ 1 := by
    rcases left_of_not_stays notStays with noneLeft | blankLeft
    · rw [noneLeft]
      exact Nat.zero_le 1
    · rw [blankLeft]
      exact Nat.le_refl 1
  omega

private theorem Part.byteLength_left_of_stays
    (stays : part.stays = true) :
    (writtenOf part.left).byteLength = part.written.byteLength := by
  rw [left_of_stays stays, writtenOf_cons, writtenOf_nil, List.append_nil]

/-- What is left and what is lost add up to the bytes of the source. -/
theorem byteLength_writtenOf (parts : List Part) :
    (writtenOf (leftOf parts)).byteLength + lostBytes parts = (writtenOf parts).byteLength := by
  refine measure_leftOf Text.byteLength_append (fun part => ?_) parts
  refine Nat.add_sub_of_le ?_
  by_cases stays : part.stays = true
  · exact (Part.byteLength_left_of_stays stays).le
  · exact (Part.byteLength_left_lt stays).le

/-- No byte is lost exactly if no comment is taken out. -/
theorem lostBytes_eq_zero_iff :
    lostBytes parts = 0 ↔ ∀ part ∈ parts, part.left = [part] := by
  rw [lostBytes, totalOf_eq_zero_iff]
  refine forall₂_congr fun part _ => ?_
  rw [Part.left_eq_self_iff]
  by_cases stays : part.stays = true
  · simp [stays, Part.byteLength_left_of_stays stays]
  · have isLost := Part.byteLength_left_lt stays
    refine iff_of_false ?_ stays
    omega

/-- A place of a brace in parts, in one that stripping leaves as it is. -/
structure BracePlace (parts : List Part) where
  front : List Part
  part : Part
  behind : List Part
  /-- What stands in the part in front of the brace. -/
  before : Text
  /-- What stands in the part behind the brace. -/
  inside : Text
  isSplit : parts = front ++ part :: behind
  stays : part.left = [part]
  isWritten : part.written = before ++ '{' :: inside

namespace BracePlace

/-- The offset of the brace. -/
def offset (place : BracePlace parts) : Nat :=
  (writtenOf place.front ++ place.before).byteLength

/-- The offset of the brace when the parts are stripped. -/
def offsetLeft (place : BracePlace parts) : Nat :=
  (writtenOf (leftOf place.front) ++ place.before).byteLength

variable (place : BracePlace parts)

/-- A source is what stands in front of a brace, the brace, and what stands behind it. -/
theorem writtenOf_eq :
    writtenOf parts =
      (writtenOf place.front ++ place.before) ++
        '{' :: (place.inside ++ writtenOf place.behind) := by
  refine (congrArg writtenOf place.isSplit).trans ?_
  rw [writtenOf_append, writtenOf_cons, place.isWritten]
  simp

/-- Where no comment is replaced the brace stays. -/
theorem blankedOf_eq
    {isBlanked : Part → Bool}
    (notBlanked : isBlanked place.part = false) :
    blankedOf isBlanked parts =
      (blankedOf isBlanked place.front ++ place.before) ++
        '{' :: (place.inside ++ blankedOf isBlanked place.behind) := by
  refine (congrArg (blankedOf isBlanked) place.isSplit).trans ?_
  rw [blankedOf_append, blankedOf_cons, if_neg (by simp [notBlanked]), place.isWritten]
  simp

private theorem byteLength_blankedOf
    (isBlanked : Part → Bool) :
    (blankedOf isBlanked place.front ++ place.before).byteLength = place.offset := by
  rw [offset, Text.byteLength_append, Text.byteLength_append, Comment.byteLength_blankedOf]

/--
A brace stands in the source behind its place in what is left, by the bytes that are lost in front.
-/
theorem offset_eq : place.offset = place.offsetLeft + lostBytes place.front := by
  rw [offset, offsetLeft, Text.byteLength_append, Text.byteLength_append, ← byteLength_writtenOf]
  omega

/-- If no scope is closed at the brace when the parts are stripped, none is with blanks in place of
comments, if it is those that are taken out from the brace on. -/
theorem isUnclosedAt_blankedOf
    {isBlanked : Part → Bool}
    (falls : FallsInto reading text parts)
    (notClosed : Scope.contentFrom? ⟨1, none, false⟩
      (place.inside ++ writtenOf (leftOf place.behind)) = none)
    (agree : ∀ part ∈ place.part :: place.behind, isBlanked part = !part.stays) :
    Scope.IsUnclosedAt (blankedOf isBlanked parts) place.offset := by
  obtain ⟨agreeThere, agreeBehind⟩ := List.forall_mem_cons.mp agree
  have stays : place.part.stays = true := Part.left_eq_self_iff.mp place.stays
  have fallsAgain : FallsInto reading text ((place.front ++ [place.part]) ++ place.behind) := by
    rw [List.append_assoc, List.singleton_append, ← place.isSplit]
    exact falls
  obtain ⟨readingBehind, textBehind, fallsBehind⟩ := fallsAgain.behind
  have closesLike := fallsBehind.closesLike.append place.inside
  rw [← closesLike ⟨1, none, false⟩ (fun _ isQuote => by contradiction), removedBlanked,
    ← blankedOf_congr agreeBehind] at notClosed
  have isUnclosed := Scope.isUnclosedAt_of_contentFrom? notClosed
    (blankedOf isBlanked place.front ++ place.before)
  rw [place.byteLength_blankedOf] at isUnclosed
  rw [place.blankedOf_eq (by rw [agreeThere, stays]; rfl)]
  exact isUnclosed

end BracePlace

/-- A brace in what is left of parts stands in a part that stripping leaves as it is. -/
theorem exists_bracePlace
    {before inside : Text}
    (isLeft : writtenOf (leftOf parts) = before ++ '{' :: inside) :
    ∃ place : BracePlace parts,
      before = writtenOf (leftOf place.front) ++ place.before ∧
        inside = place.inside ++ writtenOf (leftOf place.behind) := by
  induction parts generalizing before with
  | nil =>
      simp at isLeft
  | cons part later inductionHypothesis =>
      have goesOn : ∀ more, before = writtenOf part.left ++ more →
          writtenOf (leftOf later) = more ++ '{' :: inside →
            ∃ place : BracePlace (part :: later),
              before = writtenOf (leftOf place.front) ++ place.before ∧
                inside = place.inside ++ writtenOf (leftOf place.behind) := by
        rintro more rfl isLater
        obtain ⟨place, rfl, isInside⟩ := inductionHypothesis isLater
        exact ⟨⟨part :: place.front, place.part, place.behind, place.before, place.inside,
          congrArg (part :: ·) place.isSplit, place.stays, place.isWritten⟩, by simp, isInside⟩
      rw [leftOf_cons, writtenOf_append] at isLeft
      rcases List.append_eq_append_iff.mp isLeft with
        ⟨more, isBefore, isLater⟩ | ⟨rest, isPart, isRest⟩
      · exact goesOn more isBefore isLater
      · cases rest with
        | nil =>
            rw [List.append_nil] at isPart
            exact goesOn [] (by rw [isPart, List.append_nil]) isRest.symm
        | cons brace rest =>
            obtain ⟨rfl, isInside⟩ := List.cons.inj isRest
            have isKept : part.left = [part] := by
              rw [Part.left_eq_self_iff]
              by_contra notStays
              have isBrace : '{' ∈ writtenOf part.left := by
                simp [isPart]
              rcases Part.left_of_not_stays notStays with noneLeft | blankLeft
              · rw [noneLeft] at isBrace
                contradiction
              · rw [blankLeft] at isBrace
                exact absurd (List.mem_singleton.mp isBrace) (by decide)
            rw [isKept, writtenOf_cons, writtenOf_nil, List.append_nil] at isPart
            exact ⟨⟨[], part, later, before, rest, rfl, isKept, isPart⟩, rfl, isInside⟩

/-! ## Where extractions fail -/

/--
An extraction fails at a brace of the stripped text that opens no scope that is closed. In the
source this brace stands further behind, by the bytes that the comments in front of it lose, so the
offset is that of the brace exactly if none of them is taken out. No scope is closed there in the
source, with blanks in place of the comments that are taken out, and of all comments if none that
stays stands there or behind.
-/
theorem place_of_ofSource_error
    {source : Text}
    {fault : UnbalancedScope}
    (failed : Extraction.ofSource source = .error fault) :
    ∃ parts,
      (∀ others, FallsInto {} source others ↔ others = parts) ∧
      ∃ place : BracePlace parts,
        Scope.IsUnclosedAt (strip source) fault.offset ∧
        (∃ inside, source.from? place.offset = some ('{' :: inside)) ∧
        place.offset = fault.offset + lostBytes place.front ∧
        (fault.offset = place.offset ↔ ∀ part ∈ place.front, part.left = [part]) ∧
        Scope.IsUnclosedAt (removedBlanked parts) place.offset ∧
        ((∀ part ∈ place.part :: place.behind, part.isComment = true → part.left ≠ [part]) →
          Scope.IsUnclosedAt (blankedOf Part.isComment parts) place.offset) := by
  obtain ⟨before, inside, isText, isOffset, notClosed⟩ :=
    Extraction.standsAtBrace_of_ofStripped failed
  obtain ⟨parts, onlyParts, isStripped⟩ := exists_parts source
  have falls : FallsInto {} source parts := (onlyParts parts).mpr rfl
  obtain ⟨place, isBefore, rfl⟩ := exists_bracePlace (isStripped.symm.trans isText)
  have isOffsetLeft : place.offsetLeft = fault.offset := by
    rw [BracePlace.offsetLeft, ← isBefore, isOffset]
  have isPlace : place.offset = fault.offset + lostBytes place.front := by
    rw [place.offset_eq, isOffsetLeft]
  refine ⟨parts, onlyParts, place, ?_, ?_, isPlace, ?_,
    place.isUnclosedAt_blankedOf falls notClosed (fun _ _ => rfl), fun areTakenOut => ?_⟩
  · rw [isText, ← isOffset]
    exact Scope.isUnclosedAt_of_contentFrom? notClosed before
  · refine ⟨place.inside ++ writtenOf place.behind, ?_⟩
    rw [← falls.writtenOf_eq, place.writtenOf_eq]
    exact Text.from?_byteLength _ _
  · rw [← lostBytes_eq_zero_iff]
    omega
  · refine place.isUnclosedAt_blankedOf falls notClosed fun part isThere => ?_
    exact Part.isComment_eq_not_stays (areTakenOut part isThere)

/-! ### A note in front of a declaration -/

/-- A declaration that is not closed. -/
def unclosed : Text :=
  "interface BoxProps \x7b".toList

/-- Without comments in front the offset is that of the brace. -/
theorem place_of_ofSource_error_unclosed :
    Extraction.ofSource unclosed = .error ⟨"BoxProps".toList, 19⟩ ∧
      ∃ place : BracePlace (unclosed.map .code), place.offset = 19 := by
  have isStripped : strip unclosed = unclosed :=
    strip_of_not_mem (by decide)
  have failed : Extraction.ofSource unclosed = .error ⟨"BoxProps".toList, 19⟩ := by
    rw [Extraction.ofSource, isStripped, Extraction.ofStripped,
      Anchor.allOf_of_pairwise (by decide)]
    decide
  refine ⟨failed, ?_⟩
  obtain ⟨parts, onlyParts, place, -, -, -, isOffset, -⟩ := place_of_ofSource_error failed
  obtain rfl := (onlyParts (unclosed.map .code)).mp (.of_noSlash (by decide))
  refine ⟨place, (isOffset.mpr fun part isFront => ?_).symm⟩
  have isPart : part ∈ unclosed.map .code := by
    rw [place.isSplit]
    exact List.mem_append_left _ isFront
  obtain ⟨character, -, rfl⟩ := List.mem_map.mp isPart
  rfl

/-- The same declaration with a line comment in front. -/
def unclosedNoted : Text :=
  (Part.line " note".toList).written ++ '\n' :: unclosed

/-- The offset is not that of a brace. -/
theorem ofSource_unclosedNoted :
    Extraction.ofSource unclosedNoted = .error ⟨"BoxProps".toList, 20⟩ ∧
      unclosedNoted.from? 20 = some "xProps \x7b".toList ∧
        unclosedNoted.from? 27 = some "\x7b".toList := by
  have isStripped : strip unclosedNoted = '\n' :: unclosed := by
    have falls : FallsInto {} unclosedNoted
        (.line " note".toList :: ('\n' :: unclosed).map .code) :=
      .line rfl (by decide) (by decide) (.of_noSlash (by decide))
    rw [strip, falls.stripFrom_eq]
    decide
  refine ⟨?_, by decide, by decide⟩
  rw [Extraction.ofSource, isStripped, Extraction.ofStripped, Anchor.allOf_of_pairwise (by decide)]
  decide

end Comment

end ComponentPages
