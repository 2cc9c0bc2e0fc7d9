import ComponentPages.Proofs.Source.Stripping

namespace ComponentPages

/-!
# Parts of source text

Source text falls into comments and characters outside comments, in one way only. A line comment
goes up to its line break, a block comment up to the first closer behind its opener, or to the end
of the text if there is none. Stripping takes each part by itself: it leaves some parts as they are,
and nothing or a blank of the others. What it leaves falls into parts again, and the comments among
them are those that it left.
-/

namespace Comment

/-! ## Parts -/

/-- A part of source text. -/
inductive Part where
  /-- A character outside comments. -/
  | code (character : Char)
  /-- A line comment, of which `inside` stands behind the slashes. -/
  | line (inside : Text)
  /-- A block comment, of which `inside` stands between opener and closer. -/
  | block (inside : Text)
  /-- A block comment that has no closer. -/
  | openBlock (inside : Text)
  deriving Repr, DecidableEq

namespace Part

/-- The part as it is written. -/
def written : Part → Text
  | .code character => [character]
  | .line inside => '/' :: '/' :: inside
  | .block inside => '/' :: '*' :: (inside ++ "*/".toList)
  | .openBlock inside => '/' :: '*' :: inside

/-- Whether stripping leaves a part as it is. -/
def stays : Part → Bool
  | .code _ => true
  | .line _ => false
  | .block inside => isDefaultMarker (written (.block inside))
  | .openBlock inside => isDefaultMarker (written (.openBlock inside))

/-- The parts that stripping leaves of a part. -/
def left : Part → List Part
  | .code character => [.code character]
  | .line _ => []
  | .block inside => if stays (.block inside) then [.block inside] else [.code ' ']
  | .openBlock inside => if stays (.openBlock inside) then [.openBlock inside] else [.code ' ']

/-- Whether what ends a comment does not stand inside it. -/
def EndsFirst : Part → Prop
  | .code _ => True
  | .line inside => '\n' ∉ inside
  | .block inside | .openBlock inside => ¬ "*/".toList <:+: inside

end Part

/-- The text of parts. -/
def writtenOf (parts : List Part) : Text :=
  parts.flatMap Part.written

/-- The parts that stripping leaves. -/
def leftOf (parts : List Part) : List Part :=
  parts.flatMap Part.left

/-- No parts have no text. -/
@[simp] theorem writtenOf_nil : writtenOf [] = [] :=
  rfl

/-- The text of parts is that of the first and that of the others. -/
@[simp] theorem writtenOf_cons (part : Part) (parts : List Part) :
    writtenOf (part :: parts) = part.written ++ writtenOf parts :=
  rfl

/-- The text of parts is put together piece by piece. -/
@[simp] theorem writtenOf_append (first second : List Part) :
    writtenOf (first ++ second) = writtenOf first ++ writtenOf second :=
  List.flatMap_append

@[simp] private theorem leftOf_nil : leftOf [] = [] :=
  rfl

/-- What is left of parts is what is left of the first and of the others. -/
@[simp] theorem leftOf_cons (part : Part) (parts : List Part) :
    leftOf (part :: parts) = part.left ++ leftOf parts :=
  rfl

/-- What is left of parts is put together piece by piece. -/
@[simp] theorem leftOf_append (first second : List Part) :
    leftOf (first ++ second) = leftOf first ++ leftOf second :=
  List.flatMap_append

/-- The sum of what parts weigh. -/
def totalOf (weight : Part → Nat) : List Part → Nat
  | [] => 0
  | part :: later => weight part + totalOf weight later

/-- Parts weigh nothing together exactly if none of them weighs anything. -/
theorem totalOf_eq_zero_iff
    {weight : Part → Nat}
    {parts : List Part} :
    totalOf weight parts = 0 ↔ ∀ part ∈ parts, weight part = 0 := by
  induction parts with
  | nil =>
      exact iff_of_true rfl (List.forall_mem_nil _)
  | cons part later inductionHypothesis =>
      rw [totalOf, Nat.add_eq_zero_iff, inductionHypothesis, List.forall_mem_cons]

/-- What parts lose by a measure of texts is the sum of what each of them loses. -/
theorem measure_leftOf
    {measure : Text → Nat}
    {lost : Part → Nat}
    (isSum : ∀ first second, measure (first ++ second) = measure first + measure second)
    (isLost : ∀ part, measure (writtenOf part.left) + lost part = measure part.written)
    (parts : List Part) :
    measure (writtenOf (leftOf parts)) + totalOf lost parts = measure (writtenOf parts) := by
  induction parts with
  | nil =>
      rfl
  | cons part later inductionHypothesis =>
      have isFirst := isLost part
      rw [leftOf_cons, writtenOf_append, writtenOf_cons, isSum, isSum, totalOf]
      omega

/-- Whether a text starts with a slash that opens a comment. -/
def OpensComment (text : Text) : Prop :=
  ∃ mark ∈ ['/', '*'], ['/', mark] <+: text

instance (text : Text) : Decidable (OpensComment text) :=
  inferInstanceAs (Decidable (∃ mark ∈ ['/', '*'], ['/', mark] <+: text))

/-- Whether the text behind a reading falls into parts. -/
inductive FallsInto : Reading → Text → List Part → Prop where
  | nil {reading : Reading} : FallsInto reading [] []
  | code {reading : Reading} {character : Char} {rest : Text} {parts : List Part} :
      (reading.inLiteral = true ∨ ¬ OpensComment (character :: rest)) →
      FallsInto (reading.next character) rest parts →
      FallsInto reading (character :: rest) (.code character :: parts)
  | line {reading : Reading} {inside rest : Text} {parts : List Part} :
      reading.inLiteral = false →
      '\n' ∉ inside →
      (∀ next ∈ rest.head?, next = '\n') →
      FallsInto { reading with escaped := false } rest parts →
      FallsInto reading ('/' :: '/' :: (inside ++ rest)) (.line inside :: parts)
  | block {reading : Reading} {inside rest : Text} {parts : List Part} :
      reading.inLiteral = false →
      ¬ "*/".toList <:+: inside →
      FallsInto { reading with escaped := false } rest parts →
      FallsInto reading ('/' :: '*' :: (inside ++ '*' :: '/' :: rest)) (.block inside :: parts)
  | openBlock {reading : Reading} {inside : Text} :
      reading.inLiteral = false →
      ¬ "*/".toList <:+: inside →
      FallsInto reading ('/' :: '*' :: inside) [.openBlock inside]

variable {reading : Reading} {text rest : Text} {character : Char} {parts others : List Part}

/-- A comment opens at a slash in front of a slash or a star. -/
theorem opensComment_cons_iff :
    OpensComment (character :: rest) ↔
      character = '/' ∧ (rest.head? = some '/' ∨ rest.head? = some '*') := by
  cases rest <;> simp [OpensComment, List.cons_prefix_cons, eq_comm, and_or_left]

namespace FallsInto

/-- The parts that a text falls into make up the text. -/
theorem writtenOf_eq (falls : FallsInto reading text parts) : writtenOf parts = text := by
  induction falls with
  | nil =>
      rfl
  | code _ _ inductionHypothesis =>
      rw [writtenOf_cons, inductionHypothesis]
      rfl
  | line _ _ _ _ inductionHypothesis =>
      rw [writtenOf_cons, inductionHypothesis]
      rfl
  | block _ _ _ inductionHypothesis =>
      rw [writtenOf_cons, inductionHypothesis]
      simp [Part.written]
  | openBlock _ _ =>
      exact List.append_nil _

/-- The comments of a text go up to the first place where they may end. -/
theorem endsFirst
    {part : Part}
    (falls : FallsInto reading text parts)
    (isPart : part ∈ parts) :
    part.EndsFirst := by
  induction falls with
  | nil =>
      contradiction
  | code _ _ inductionHypothesis =>
      rcases List.mem_cons.mp isPart with rfl | isLater
      · trivial
      · exact inductionHypothesis isLater
  | line _ noBreak _ _ inductionHypothesis =>
      rcases List.mem_cons.mp isPart with rfl | isLater
      · exact noBreak
      · exact inductionHypothesis isLater
  | block _ noCloser _ inductionHypothesis =>
      rcases List.mem_cons.mp isPart with rfl | isLater
      · exact noCloser
      · exact inductionHypothesis isLater
  | openBlock _ noCloser =>
      rw [List.mem_singleton.mp isPart]
      exact noCloser

end FallsInto

/-! ## One way to fall into parts -/

/-- The text behind a line comment's slashes ends at the first line break. -/
theorem stripFrom_line
    (outside : reading.inLiteral = false)
    (inside : Text) :
    stripFrom reading ('/' :: '/' :: inside) =
      stripFrom { reading with escaped := false } (inside.dropWhile (· != '\n')) := by
  have isOutside : ¬ (reading.inLiteral || '/' != '/') = true := by
    simp [outside]
  conv_lhs => unfold stripFrom
  rw [if_neg isOutside]
  rfl

/-- Every text falls into parts. -/
theorem exists_fallsInto
    (reading : Reading)
    (text : Text) :
    ∃ parts, FallsInto reading text parts := by
  fun_induction stripFrom reading text with
  | case1 reading =>
      exact ⟨[], .nil⟩
  | case2 reading character rest isKept inductionHypothesis =>
      obtain ⟨parts, falls⟩ := inductionHypothesis
      refine ⟨_, .code ?_ falls⟩
      rw [opensComment_cons_iff]
      have keeps : reading.inLiteral = true ∨ character ≠ '/' := by
        simpa using isKept
      exact keeps.imp_right fun noSlash opens => noSlash opens.1
  | case3 reading character isOutside inside inductionHypothesis =>
      obtain ⟨outside, rfl⟩ : reading.inLiteral = false ∧ character = '/' := by
        simpa using isOutside
      obtain ⟨parts, falls⟩ := inductionHypothesis
      have isInside : inside = inside.takeWhile (· != '\n') ++ inside.dropWhile (· != '\n') :=
        List.takeWhile_append_dropWhile.symm
      have noBreak : '\n' ∉ inside.takeWhile (· != '\n') := by
        intro member
        simpa using List.mem_takeWhile_imp member
      have isBreak : ∀ next ∈ (inside.dropWhile (· != '\n')).head?, next = '\n' := by
        intro next isHead
        simpa using Text.stops_dropWhile (· != '\n') inside next isHead
      rw [isInside]
      exact ⟨_, .line outside noBreak isBreak falls⟩
  | case4 reading character isOutside inside inductionHypothesis =>
      obtain ⟨outside, rfl⟩ : reading.inLiteral = false ∧ character = '/' := by
        simpa using isOutside
      obtain ⟨parts, falls⟩ := inductionHypothesis
      cases found : Text.breakOn? inside "*/".toList with
      | none =>
          exact ⟨_, .openBlock outside (Text.breakOn?_eq_none_iff.mp found)⟩
      | some found? =>
          obtain ⟨before, after⟩ := found?
          rw [blockRest, found] at falls
          rw [Text.eq_append_of_breakOn? found]
          exact ⟨_, .block outside (Text.not_infix_of_breakOn? (by decide) found) falls⟩
  | case5 reading character isOutside rest noLine noBlock inductionHypothesis =>
      obtain ⟨parts, falls⟩ := inductionHypothesis
      refine ⟨_, .code (.inr ?_) falls⟩
      rw [opensComment_cons_iff]
      rintro ⟨-, isLine | isBlock⟩
      · obtain ⟨later, rfl⟩ := List.head?_eq_some_iff.mp isLine
        exact noLine later rfl
      · obtain ⟨later, rfl⟩ := List.head?_eq_some_iff.mp isBlock
        exact noBlock later rfl

/-- A text in front of a line break ends at the first one. -/
private theorem dropWhile_lineBreak
    {inside : Text}
    (noBreak : '\n' ∉ inside)
    (isBreak : ∀ next ∈ rest.head?, next = '\n') :
    (inside ++ rest).dropWhile (· != '\n') = rest := by
  have passes : ∀ character ∈ inside, (character != '\n') = true := by
    intro character member
    simpa using ne_of_mem_of_not_mem member noBreak
  have stops : Text.Stops (· != '\n') rest := by
    intro next isHead
    simp [isBreak next isHead]
  exact congrArg Prod.snd (Text.run_append passes stops)

namespace FallsInto

/-- Where no comment starts, the first character is a part by itself. -/
private theorem exists_later_of_code
    (isCode : reading.inLiteral = true ∨ ¬ OpensComment (character :: rest))
    (falls : FallsInto reading (character :: rest) parts) :
    ∃ later, parts = .code character :: later ∧ FallsInto (reading.next character) rest later := by
  generalize isText : character :: rest = text at falls isCode
  cases falls with
  | nil =>
      contradiction
  | code _ fallsLater =>
      obtain ⟨rfl, rfl⟩ := List.cons.inj isText
      exact ⟨_, rfl, fallsLater⟩
  | line outside | block outside | openBlock outside =>
      rw [outside] at isCode
      exact absurd isCode (by simp [opensComment_cons_iff])

/-- A comment that two slashes open goes up to the line break. -/
private theorem exists_later_of_line
    {inside : Text}
    (outside : reading.inLiteral = false)
    (noBreak : '\n' ∉ inside)
    (isBreak : ∀ next ∈ rest.head?, next = '\n')
    (falls : FallsInto reading ('/' :: '/' :: (inside ++ rest)) parts) :
    ∃ later,
      parts = .line inside :: later ∧ FallsInto { reading with escaped := false } rest later := by
  generalize isText : '/' :: '/' :: (inside ++ rest) = text at falls
  cases falls with
  | nil | block | openBlock =>
      simp at isText
  | code isCode _ =>
      rw [← isText, outside] at isCode
      exact absurd isCode (by simp [opensComment_cons_iff])
  | @line _ otherInside otherRest _ _ otherNoBreak otherIsBreak fallsLater =>
      have sameText := (List.cons.inj (List.cons.inj isText).2).2
      obtain rfl : rest = otherRest := by
        rw [← dropWhile_lineBreak noBreak isBreak, sameText,
          dropWhile_lineBreak otherNoBreak otherIsBreak]
      obtain rfl := List.append_cancel_right sameText
      exact ⟨_, rfl, fallsLater⟩

/-- A comment that a slash and a star open goes up to its closer, or is left open without one. -/
private theorem block_or_openBlock
    {behind : Text}
    (outside : reading.inLiteral = false)
    (falls : FallsInto reading ('/' :: '*' :: behind) parts) :
    (∃ inside rest later,
      behind = inside ++ '*' :: '/' :: rest ∧ ¬ "*/".toList <:+: inside ∧
        parts = .block inside :: later ∧ FallsInto { reading with escaped := false } rest later) ∨
      (¬ "*/".toList <:+: behind ∧ parts = [.openBlock behind]) := by
  generalize isText : '/' :: '*' :: behind = text at falls
  cases falls with
  | nil | line =>
      simp at isText
  | code isCode _ =>
      rw [← isText, outside] at isCode
      exact absurd isCode (by simp [opensComment_cons_iff])
  | block _ noCloser fallsLater =>
      exact .inl ⟨_, _, _, (List.cons.inj (List.cons.inj isText).2).2, noCloser, rfl, fallsLater⟩
  | openBlock _ noCloser =>
      obtain rfl := (List.cons.inj (List.cons.inj isText).2).2
      exact .inr ⟨noCloser, rfl⟩

/-- Behind the same reading a text falls into the same parts. -/
theorem unique
    (falls : FallsInto reading text parts)
    (fallsToo : FallsInto reading text others) :
    parts = others := by
  induction falls generalizing others with
  | nil =>
      cases fallsToo
      rfl
  | code isCode _ inductionHypothesis =>
      obtain ⟨later, rfl, fallsLater⟩ := fallsToo.exists_later_of_code isCode
      rw [inductionHypothesis fallsLater]
  | line outside noBreak isBreak _ inductionHypothesis =>
      obtain ⟨later, rfl, fallsLater⟩ := fallsToo.exists_later_of_line outside noBreak isBreak
      rw [inductionHypothesis fallsLater]
  | @block reading inside rest parts outside noCloser _ inductionHypothesis =>
      rcases fallsToo.block_or_openBlock outside with
        ⟨otherInside, otherRest, later, isBehind, otherNoCloser, rfl, fallsLater⟩ | ⟨isOpen, -⟩
      · have found := breakOn?_closer noCloser rest
        rw [isBehind, breakOn?_closer otherNoCloser] at found
        obtain ⟨rfl, rfl⟩ := Prod.mk.inj (Option.some.inj found)
        rw [inductionHypothesis fallsLater]
      · exact absurd ⟨inside, rest, by simp⟩ isOpen
  | openBlock outside noCloser =>
      rcases fallsToo.block_or_openBlock outside with ⟨inside, rest, _, rfl, -⟩ | ⟨-, rfl⟩
      · exact absurd ⟨inside, rest, by simp⟩ noCloser
      · rfl

/-- Text in which no slash stands outside literals has no comments. -/
theorem codes
    {front : Text}
    (along : reading.Along
      (fun reading character => reading.inLiteral = true ∨ character ≠ '/') front)
    (falls : FallsInto (reading.after front) rest parts) :
    FallsInto reading (front ++ rest) (front.map .code ++ parts) := by
  induction front generalizing reading with
  | nil =>
      exact falls
  | cons character later inductionHypothesis =>
      refine .code (along.1.imp_right fun noSlash opens => ?_) (inductionHypothesis along.2 falls)
      exact noSlash (opensComment_cons_iff.mp opens).1

/-- Text without slashes in front of other text has no comments. -/
theorem codes_of_noSlash
    {front : Text}
    (noSlash : '/' ∉ front)
    (falls : FallsInto (reading.after front) rest parts) :
    FallsInto reading (front ++ rest) (front.map .code ++ parts) := by
  refine codes (.of_forall (fun character member _ => .inr ?_) reading) falls
  exact ne_of_mem_of_not_mem member noSlash

/-- A block comment is a part, with whatever stands behind it. -/
theorem written_block
    {inside : Text}
    (outside : reading.inLiteral = false)
    (noCloser : ¬ "*/".toList <:+: inside)
    (falls : FallsInto { reading with escaped := false } rest parts) :
    FallsInto reading ((Part.block inside).written ++ rest) (.block inside :: parts) := by
  have isWhole : (Part.block inside).written ++ rest =
      '/' :: '*' :: (inside ++ '*' :: '/' :: rest) := by
    simp [Part.written]
  rw [isWhole]
  exact .block outside noCloser falls

/-- Text without slashes is no comment. -/
theorem of_noSlash
    (noSlash : '/' ∉ text) :
    FallsInto reading text (text.map .code) := by
  have falls : FallsInto reading (text ++ []) (text.map .code ++ []) :=
    codes_of_noSlash noSlash .nil
  rwa [List.append_nil, List.append_nil] at falls

/-- A block comment is the only one in text that has no other slashes. -/
theorem around_block
    {front inside back : Text}
    (noSlash : '/' ∉ front)
    (outside : (reading.after front).inLiteral = false)
    (noCloser : ¬ "*/".toList <:+: inside)
    (noSlashBehind : '/' ∉ back) :
    FallsInto reading (front ++ ((Part.block inside).written ++ back))
      (front.map .code ++ .block inside :: back.map .code) :=
  codes_of_noSlash noSlash (written_block outside noCloser (of_noSlash noSlashBehind))

end FallsInto

/-- Every text falls into parts, in one way only. -/
theorem exists_fallsInto_iff
    (reading : Reading)
    (text : Text) :
    ∃ parts, ∀ others, FallsInto reading text others ↔ others = parts := by
  obtain ⟨parts, falls⟩ := exists_fallsInto reading text
  refine ⟨parts, fun others => ⟨fun fallsToo => fallsToo.unique falls, ?_⟩⟩
  rintro rfl
  exact falls

/-! ## Stripping -/

namespace Part

variable {part : Part}

/-- What stays is left as it is. -/
theorem left_of_stays (stays : part.stays = true) : part.left = [part] := by
  cases part with
  | code _ =>
      rfl
  | line _ =>
      contradiction
  | block _ | openBlock _ =>
      exact if_pos stays

/-- Of a block comment that does not stay a blank is left. -/
theorem left_block_of_not_stays
    {inside : Text}
    (notStays : ¬ (block inside).stays = true) :
    (block inside).left = [.code ' '] :=
  if_neg notStays

/-- Of a comment that is not closed and does not stay a space is left. -/
theorem left_openBlock_of_not_stays
    {inside : Text}
    (notStays : ¬ (openBlock inside).stays = true) :
    (openBlock inside).left = [.code ' '] :=
  if_neg notStays

/-- Nothing or a blank is left of a part that does not stay. -/
theorem left_of_not_stays
    (notStays : ¬ part.stays = true) :
    part.left = [] ∨ part.left = [.code ' '] := by
  cases part with
  | code _ =>
      exact absurd rfl notStays
  | line _ =>
      exact .inl rfl
  | block _ =>
      exact .inr (left_block_of_not_stays notStays)
  | openBlock _ =>
      exact .inr (left_openBlock_of_not_stays notStays)

/-- Stripping leaves a part as it is only if it stays. -/
theorem left_eq_self_iff : part.left = [part] ↔ part.stays = true := by
  refine ⟨fun isLeft => ?_, left_of_stays⟩
  by_contra notStays
  rcases left_of_not_stays notStays with noneLeft | blankLeft
  · rw [noneLeft] at isLeft
    contradiction
  · rw [blankLeft] at isLeft
    obtain rfl := (List.cons.inj isLeft).1
    exact notStays rfl

/-- What is left of a part is a character outside comments, or a comment that stays. -/
theorem code_or_stays_of_mem_left
    {other : Part}
    (isLeft : other ∈ part.left) :
    (∃ character, other = .code character) ∨ other = part ∧ part.left = [part] := by
  by_cases stays : part.stays = true
  · rw [left_of_stays stays, List.mem_singleton] at isLeft
    exact .inr ⟨isLeft, left_of_stays stays⟩
  · rcases left_of_not_stays stays with noneLeft | blankLeft
    · rw [noneLeft] at isLeft
      contradiction
    · rw [blankLeft] at isLeft
      exact .inl ⟨' ', List.mem_singleton.mp isLeft⟩

/-- What is left of a block comment is its residue. -/
theorem writtenOf_left_block
    (inside : Text) :
    writtenOf (left (.block inside)) = residue (written (.block inside)) := by
  by_cases isMarker : (block inside).stays = true
  · rw [left_of_stays isMarker]
    exact (List.append_nil _).trans (if_pos isMarker).symm
  · rw [left_block_of_not_stays isMarker]
    exact (if_neg isMarker).symm

/-- What is left of a comment that is not closed is its residue. -/
theorem writtenOf_left_openBlock
    (inside : Text) :
    writtenOf (left (.openBlock inside)) = residue (written (.openBlock inside)) := by
  by_cases isMarker : (openBlock inside).stays = true
  · rw [left_of_stays isMarker]
    exact (List.append_nil _).trans (if_pos isMarker).symm
  · rw [left_openBlock_of_not_stays isMarker]
    exact (if_neg isMarker).symm

end Part

namespace FallsInto

/-- Stripping takes each part by itself. -/
theorem stripFrom_eq
    (falls : FallsInto reading text parts) :
    stripFrom reading text = writtenOf (leftOf parts) := by
  induction falls with
  | nil =>
      rw [stripFrom]
      rfl
  | @code reading character rest parts isCode _ inductionHypothesis =>
      rw [leftOf_cons, Part.left_of_stays rfl, List.singleton_append, writtenOf_cons,
        ← inductionHypothesis]
      by_cases isKept : reading.inLiteral = true ∨ character ≠ '/'
      · exact stripFrom_cons isKept rest
      · obtain ⟨outside, rfl⟩ : ¬ reading.inLiteral = true ∧ character = '/' := by
          simpa using isKept
        refine stripFrom_slash fun next isHead => ?_
        have opensNone := isCode.resolve_left outside
        rw [opensComment_cons_iff] at opensNone
        refine ⟨?_, ?_⟩
        · rintro rfl
          exact opensNone ⟨rfl, .inl isHead⟩
        · rintro rfl
          exact opensNone ⟨rfl, .inr isHead⟩
  | @line reading inside rest parts outside noBreak isBreak _ inductionHypothesis =>
      rw [stripFrom_line outside, dropWhile_lineBreak noBreak isBreak, inductionHypothesis]
      rfl
  | @block reading inside rest parts outside noCloser _ inductionHypothesis =>
      rw [stripFrom_block outside, blockRest, breakOn?_closer noCloser, leftOf_cons,
        writtenOf_append, Part.writtenOf_left_block, ← inductionHypothesis]
      rfl
  | @openBlock reading inside outside noCloser =>
      rw [stripFrom_block outside, blockRest, Text.breakOn?_eq_none_iff.mpr noCloser, leftOf_cons,
        writtenOf_append, Part.writtenOf_left_openBlock]
      dsimp only
      rw [stripFrom]
      rfl

/-- Whether a backslash precedes does not count in front of a line break. -/
theorem of_unescaped
    (outside : reading.inLiteral = false)
    (isBreak : ∀ next ∈ text.head?, next = '\n')
    (falls : FallsInto { reading with escaped := false } text parts) :
    FallsInto reading text parts := by
  cases falls with
  | nil =>
      exact .nil
  | @code _ character rest parts isCode fallsLater =>
      obtain rfl := isBreak character rfl
      rw [Reading.next_unescaped outside (by decide)] at fallsLater
      exact .code isCode fallsLater
  | line | block | openBlock =>
      exact absurd (isBreak '/' rfl) (by decide)

/-- A blank outside literals is a part, behind which no backslash precedes. -/
theorem blank
    (outside : reading.inLiteral = false)
    (falls : FallsInto { reading with escaped := false } text parts) :
    FallsInto reading (' ' :: text) (.code ' ' :: parts) := by
  rw [← Reading.next_space outside] at falls
  refine .code (.inr ?_) falls
  rw [opensComment_cons_iff]
  exact fun opens => absurd opens.1 (by decide)

/-- What stripping leaves falls into the parts that it leaves. -/
theorem left
    (falls : FallsInto reading text parts) :
    FallsInto reading (writtenOf (leftOf parts)) (leftOf parts) := by
  induction falls with
  | nil =>
      exact .nil
  | @code reading character rest parts isCode fallsLater inductionHypothesis =>
      refine .code (isCode.imp_right fun opensNone opens => opensNone ?_) inductionHypothesis
      rw [opensComment_cons_iff] at opens ⊢
      obtain ⟨isSlash, isMark⟩ := opens
      refine ⟨isSlash, ?_⟩
      -- What is left starts like the text, unless the text starts with a slash.
      by_cases noSlash : rest.head? = some '/'
      · exact .inl noSlash
      · have sameHead : (writtenOf (leftOf parts)).head? = rest.head? := by
          rw [← fallsLater.stripFrom_eq, head?_stripFrom]
          rintro first isFirst rfl
          exact noSlash isFirst
        exact sameHead ▸ isMark
  | @line reading inside rest parts outside noBreak isBreak fallsLater inductionHypothesis =>
      refine of_unescaped outside ?_ inductionHypothesis
      rw [leftOf_cons, Part.left, List.nil_append, ← fallsLater.stripFrom_eq,
        head?_stripFrom]
      · exact isBreak
      · intro first isFirst
        rw [isBreak first isFirst]
        decide
  | @block reading inside rest parts outside noCloser _ inductionHypothesis =>
      by_cases isMarker : (Part.block inside).stays = true
      · rw [leftOf_cons, Part.left_of_stays isMarker, List.singleton_append, writtenOf_cons]
        exact .written_block outside noCloser inductionHypothesis
      · rw [leftOf_cons, Part.left_block_of_not_stays isMarker]
        exact blank outside inductionHypothesis
  | @openBlock reading inside outside noCloser =>
      by_cases isMarker : (Part.openBlock inside).stays = true
      · rw [leftOf_cons, Part.left_of_stays isMarker]
        have isWhole : writtenOf ([Part.openBlock inside] ++ leftOf []) = '/' :: '*' :: inside :=
          List.append_nil _
        rw [isWhole]
        exact .openBlock outside noCloser
      · rw [leftOf_cons, Part.left_openBlock_of_not_stays isMarker]
        exact blank outside .nil

end FallsInto

/-- A source falls into parts in one way, and stripping leaves of it what it leaves of the parts. -/
theorem exists_parts (source : Text) :
    ∃ parts, (∀ others, FallsInto {} source others ↔ others = parts) ∧
      strip source = writtenOf (leftOf parts) := by
  obtain ⟨parts, onlyParts⟩ := exists_fallsInto_iff {} source
  exact ⟨parts, onlyParts, ((onlyParts parts).mpr rfl).stripFrom_eq⟩

end Comment

end ComponentPages
