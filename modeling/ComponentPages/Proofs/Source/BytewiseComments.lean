import ComponentPages.Proofs.Source.Bytewise
import ComponentPages.Proofs.Source.Part

namespace ComponentPages

/-!
# Stripping bytes

Comments are taken out of source text byte by byte. What stands between two comments is cut out of
the text when the second one is met, up to a line break or to the end of a block comment. What is
left is what stripping leaves of the parts of the text, and every cut is between two parts.
-/

namespace Bytewise

/-! ## Where comments open and end -/

/-- Whether a slash and another character open a comment at an offset. -/
def opensAt (bytes : Bytes) (tracker : Tracker) (offset : Nat) (mark : Char) : Bool :=
  !tracker.inLiteral && bytes[offset]? == some (Utf8.byteOf '/') &&
    bytes[offset + 1]? == some (Utf8.byteOf mark)

/-- The offset of the first line break from an offset on, or of the end. -/
def lineEnd (bytes : Bytes) (offset : Nat) : Nat :=
  offset + ((bytes.drop offset).takeWhile (· != Utf8.byteOf '\n')).length

/-- The number of bytes of a block comment behind its opener. -/
def blockLength (inside : Text) : Nat :=
  match inside.breakOn? "*/".toList with
  | some (before, _) => before.byteLength + 2
  | none => inside.byteLength

private theorem lt_lineEnd
    {bytes : Bytes}
    {tracker : Tracker}
    {offset : Nat}
    {mark : Char}
    (opens : opensAt bytes tracker offset mark = true) :
    offset < lineEnd bytes offset := by
  simp only [opensAt, Bool.and_eq_true, beq_iff_eq] at opens
  obtain ⟨isInside, isSlash⟩ := List.getElem?_eq_some_iff.mp opens.1.2
  have noBreak : (bytes[offset] != Utf8.byteOf '\n') = true := by
    rw [isSlash]
    decide
  rw [lineEnd, List.drop_eq_getElem_cons isInside, List.takeWhile_cons, if_pos noBreak,
    List.length_cons]
  omega

/-! ## Stripping -/

/--
The stripped form of a text from the offset `last` on. What stands between there and `offset` has
been read and is kept.
-/
def stripFrom (text : Text) (tracker : Tracker) (last offset : Nat) : Except Text.BadCut Text :=
  if isInside : offset < (Utf8.encode text).length then
    if opens : opensAt (Utf8.encode text) tracker offset '/' then do
      let code ← text.cut last offset
      let stop := lineEnd (Utf8.encode text) offset
      let rest ← stripFrom text tracker stop stop
      return code ++ rest
    else if opensAt (Utf8.encode text) tracker offset '*' then do
      let inside ← text.cut (offset + 2) (Utf8.encode text).length
      let stop := offset + 2 + blockLength inside
      let comment ← text.cut offset stop
      if Comment.isDefaultMarker comment then
        stripFrom text tracker last stop
      else
        let code ← text.cut last offset
        let rest ← stripFrom text tracker stop stop
        return code ++ ' ' :: rest
    else
      let next := tracker.next (isEscapedAt (Utf8.encode text) offset) (Utf8.encode text)[offset]
      stripFrom text next last (offset + 1)
  else
    text.cut last (Utf8.encode text).length
  termination_by (Utf8.encode text).length - offset
  decreasing_by
    · have isBehind := lt_lineEnd opens
      omega
    · omega
    · omega
    · omega

/-- A text without its comments, default markers apart, put together of what is cut out of it. -/
def strip (text : Text) : Except Text.BadCut Text :=
  stripFrom text {} 0 0

variable {text code : Text} {tracker : Tracker} {reading : Reading} {last offset : Nat}

/-! ## One step -/

/-- A comment opens exactly where a slash and its mark stand outside literals. -/
theorem opensAt_iff
    {mark : Char}
    (isAscii : mark.toNat < 128)
    (before rest : Text) :
    opensAt (Utf8.encode (before ++ rest)) tracker before.byteLength mark = true ↔
      tracker.inLiteral = false ∧ ['/', mark] <+: rest := by
  rw [opensAt, Bool.and_eq_true, Bool.and_eq_true, Bool.not_eq_true', beq_iff_eq, beq_iff_eq,
    Utf8.getElem?_encode, Utf8.head?_encode (by decide), and_assoc]
  refine and_congr_right fun _ => ?_
  cases rest with
  | nil =>
      simp
  | cons slash later =>
      rw [List.head?_cons, Option.some.injEq, List.cons_prefix_cons, eq_comm]
      refine and_congr_right ?_
      rintro rfl
      have isBehind : (before ++ ['/']).byteLength = before.byteLength + 1 :=
        Text.byteLength_append before ['/']
      rw [List.append_cons, ← isBehind, Utf8.getElem?_encode, Utf8.head?_encode isAscii]
      cases later <;> simp [List.cons_prefix_cons, eq_comm]

private theorem not_opensAt_of_opensAt
    {bytes : Bytes}
    (opens : opensAt bytes tracker offset '*' = true) :
    ¬ opensAt bytes tracker offset '/' = true := by
  intro opensToo
  simp only [opensAt, Bool.and_eq_true, beq_iff_eq] at opens opensToo
  exact absurd (opens.2.symm.trans opensToo.2) (by decide)

private theorem lt_length_of_opensAt
    {bytes : Bytes}
    {mark : Char}
    (opens : opensAt bytes tracker offset mark = true) :
    offset < bytes.length := by
  simp only [opensAt, Bool.and_eq_true, beq_iff_eq] at opens
  exact (List.getElem?_eq_some_iff.mp opens.1.2).1

private theorem stripFrom_of_le
    (isEnd : (Utf8.encode text).length ≤ offset) :
    stripFrom text tracker last offset = text.cut last (Utf8.encode text).length := by
  rw [stripFrom, dif_neg (Nat.not_lt.mpr isEnd)]

/-- A byte at which no comment opens is read. -/
private theorem stripFrom_byte
    {byte : UInt8}
    (stands : (Utf8.encode text)[offset]? = some byte)
    (opensNone : ∀ mark ∈ ['/', '*'], opensAt (Utf8.encode text) tracker offset mark = false)
    (last : Nat) :
    stripFrom text tracker last offset =
      stripFrom text (tracker.next (isEscapedAt (Utf8.encode text) offset) byte) last
        (offset + 1) := by
  obtain ⟨isInside, rfl⟩ := List.getElem?_eq_some_iff.mp stands
  have noLine := Bool.not_eq_true _ ▸ opensNone '/' (by decide)
  have noBlock := Bool.not_eq_true _ ▸ opensNone '*' (by decide)
  conv_lhs => rw [stripFrom]
  rw [dif_pos isInside, dif_neg noLine, if_neg noBlock]

/-- What precedes a line comment is kept, and stripping goes on at the line break. -/
theorem stripFrom_line
    (opens : opensAt (Utf8.encode text) tracker offset '/' = true)
    (isCode : text.cut last offset = .ok code) :
    stripFrom text tracker last offset =
      (stripFrom text tracker (lineEnd (Utf8.encode text) offset)
        (lineEnd (Utf8.encode text) offset)).map (code ++ ·) := by
  conv_lhs => rw [stripFrom]
  rw [dif_pos (lt_length_of_opensAt opens), dif_pos opens, isCode]
  rfl

/-- A default marker is kept with what precedes it, and for another block comment stands a blank. -/
theorem stripFrom_block
    {inside comment : Text}
    (opens : opensAt (Utf8.encode text) tracker offset '*' = true)
    (isInside : text.cut (offset + 2) (Utf8.encode text).length = .ok inside)
    (isComment : text.cut offset (offset + 2 + blockLength inside) = .ok comment)
    (isCode : text.cut last offset = .ok code) :
    stripFrom text tracker last offset =
      if Comment.isDefaultMarker comment then
        stripFrom text tracker last (offset + 2 + blockLength inside)
      else
        (stripFrom text tracker (offset + 2 + blockLength inside)
          (offset + 2 + blockLength inside)).map (code ++ ' ' :: ·) := by
  conv_lhs => rw [stripFrom]
  rw [dif_pos (lt_length_of_opensAt opens), dif_neg (not_opensAt_of_opensAt opens), if_pos opens,
    isInside]
  dsimp only [bind, Except.bind]
  rw [isComment]
  dsimp only
  rw [isCode]
  rfl

/-! ## One part -/

/-- Bytes beyond ASCII are read, and nothing changes. -/
private theorem stripFrom_beyond
    (follows : tracker.Follows reading)
    {beyond others : Bytes}
    (areBeyond : ∀ byte ∈ beyond, 128 ≤ byte.toNat)
    (isTail : (Utf8.encode text).drop offset = beyond ++ others)
    (last : Nat) :
    stripFrom text tracker last offset = stripFrom text tracker last (offset + beyond.length) := by
  induction beyond generalizing offset with
  | nil =>
      rfl
  | cons byte later inductionHypothesis =>
      obtain ⟨isBeyond, areLater⟩ := List.forall_mem_cons.mp areBeyond
      have stands : (Utf8.encode text)[offset]? = some byte := by
        rw [← List.head?_drop, isTail]
        rfl
      have opensNone : ∀ mark ∈ ['/', '*'],
          opensAt (Utf8.encode text) tracker offset mark = false := by
        intro mark _
        have noSlash : (some byte == some (Utf8.byteOf '/')) = false :=
          beq_eq_false_iff_ne.mpr fun isSame =>
            Utf8.ne_byteOf_of_le isBeyond (by decide) (Option.some.inj isSame)
        rw [opensAt, stands, noSlash, Bool.and_false, Bool.false_and]
      have isLater : (Utf8.encode text).drop (offset + 1) = later ++ others := by
        rw [← List.drop_drop, isTail]
        rfl
      rw [stripFrom_byte stands opensNone, follows.next_of_le isBeyond,
        inductionHypothesis areLater isLater, List.length_cons, Nat.add_assoc, Nat.add_comm 1]

/-- A character outside comments is read. -/
theorem exists_stripFrom_code
    {before rest : Text}
    {character : Char}
    (follows : tracker.Follows reading)
    (isEscaped : reading.escaped = (Reading.behind before).escaped)
    (isCode : reading.inLiteral = true ∨ ¬ Comment.OpensComment (character :: rest))
    (last : Nat) :
    ∃ next, Tracker.Follows next (reading.next character) ∧
      stripFrom (before ++ character :: rest) tracker last before.byteLength =
        stripFrom (before ++ character :: rest) next last
          (before ++ [character]).byteLength := by
  have isNext : (before ++ [character]).byteLength = before.byteLength + character.utf8Size :=
    Text.byteLength_append before [character]
  rw [isNext]
  by_cases isAscii : character.toNat < 128
  · have stands : (Utf8.encode (before ++ character :: rest))[before.byteLength]? =
        some (Utf8.byteOf character) := by
      rw [Utf8.getElem?_encode, Utf8.head?_encode isAscii]
      rfl
    have opensNone : ∀ mark ∈ ['/', '*'],
        opensAt (Utf8.encode (before ++ character :: rest)) tracker before.byteLength mark =
          false := by
      intro mark member
      have markAscii : mark.toNat < 128 := by
        rcases List.mem_pair.mp member with rfl | rfl <;> decide
      rw [← Bool.not_eq_true, opensAt_iff markAscii, follows.inLiteral]
      rintro ⟨outside, opens⟩
      refine isCode.elim (fun inside => ?_) fun opensNone => opensNone ⟨mark, member, opens⟩
      rw [outside] at inside
      contradiction
    refine ⟨_, follows.next isAscii, ?_⟩
    rw [stripFrom_byte stands opensNone, isEscapedAt_byteLength, ← isEscaped,
      Division.utf8Size_of_isAscii isAscii]
  · have isTail : (Utf8.encode (before ++ character :: rest)).drop before.byteLength =
        Utf8.encodeCharacter character ++ Utf8.encode rest := by
      rw [Utf8.drop_encode, Utf8.encode_cons]
    refine ⟨tracker, follows.beyond isAscii, ?_⟩
    rw [stripFrom_beyond follows (fun byte => Utf8.le_of_mem_encodeCharacter isAscii) isTail,
      Utf8.length_encodeCharacter]

/-- A line comment goes up to a line break, or to the end. -/
private theorem lineEnd_byteLength
    {comment rest : Text}
    (noBreak : '\n' ∉ comment)
    (isBreak : ∀ next ∈ rest.head?, next = '\n')
    (before : Text) :
    lineEnd (Utf8.encode (before ++ (comment ++ rest))) before.byteLength =
      (before ++ comment).byteLength := by
  have passes : ∀ character ∈ comment, (character != '\n') = true := fun character member =>
    bne_iff_ne.mpr (ne_of_mem_of_not_mem member noBreak)
  have stops : Text.Stops (· != '\n') rest := by
    intro next isHead
    rw [isBreak next isHead]
    rfl
  have isRun : (comment ++ rest).takeWhile (· != '\n') = comment :=
    congrArg Prod.fst (Text.run_append passes stops)
  rw [lineEnd, Utf8.drop_encode, Utf8.takeWhile_encode (by decide), isRun, Utf8.length_encode,
    Text.byteLength_append]

/-- Nothing is left of a line comment, behind which stripping starts anew. -/
theorem stripFrom_lineComment
    {inside rest later : Text}
    (outside : tracker.inLiteral = false)
    (noBreak : '\n' ∉ inside)
    (isBreak : ∀ next ∈ rest.head?, next = '\n')
    {done kept : Text}
    (startsAnew : stripFrom (done ++ kept ++ '/' :: '/' :: inside ++ rest) tracker
        (done ++ kept ++ '/' :: '/' :: inside).byteLength
        (done ++ kept ++ '/' :: '/' :: inside).byteLength =
      .ok later) :
    stripFrom (done ++ (kept ++ ('/' :: '/' :: inside ++ rest))) tracker done.byteLength
        (done ++ kept).byteLength =
      .ok (kept ++ later) := by
  have isText : done ++ (kept ++ ('/' :: '/' :: inside ++ rest)) =
      done ++ kept ++ ('/' :: '/' :: inside ++ rest) :=
    (List.append_assoc _ _ _).symm
  have opens : opensAt (Utf8.encode (done ++ (kept ++ ('/' :: '/' :: inside ++ rest)))) tracker
      (done ++ kept).byteLength '/' = true := by
    rw [isText, opensAt_iff (by decide)]
    exact ⟨outside, inside ++ rest, rfl⟩
  have isCode := Text.cut_append done kept ('/' :: '/' :: inside ++ rest)
  have noBreakInside : '\n' ∉ '/' :: '/' :: inside := by
    simpa using noBreak
  have isStop := lineEnd_byteLength noBreakInside isBreak (done ++ kept)
  rw [← isText] at isStop
  rw [List.append_assoc, ← isText] at startsAnew
  rw [stripFrom_line opens isCode, isStop, startsAnew]
  rfl

/-- A block comment ends behind its first closer. -/
private theorem blockLength_append_closer
    {inside : Text}
    (noCloser : ¬ "*/".toList <:+: inside)
    (rest : Text) :
    blockLength (inside ++ "*/".toList ++ rest) = (inside ++ "*/".toList).byteLength := by
  have isFound : Text.breakOn? (inside ++ ("*/".toList ++ rest)) "*/".toList =
      some (inside, rest) :=
    Comment.breakOn?_closer noCloser rest
  rw [List.append_assoc, blockLength, isFound]
  exact (Text.byteLength_append inside "*/".toList).symm

/-- A comment that is not closed goes up to the end. -/
private theorem blockLength_of_not_closed
    {inside : Text}
    (noCloser : ¬ "*/".toList <:+: inside) :
    blockLength inside = inside.byteLength := by
  rw [blockLength, Text.breakOn?_eq_none_iff.mpr noCloser]

/-- No backslash ends a block comment that is closed. -/
private theorem escaped_behind_closer (before inside : Text) :
    (Reading.behind (before ++ '/' :: '*' :: (inside ++ "*/".toList))).escaped = false := by
  have isEnd : before ++ '/' :: '*' :: (inside ++ "*/".toList) =
      before ++ '/' :: '*' :: inside ++ ['*'] ++ ['/'] := by
    simp
  rw [isEnd, Reading.behind, List.getLast?_concat]
  rfl

/-- What is left of a block comment is kept, if stripping goes on behind it. -/
theorem stripFrom_comment
    {inside rest later : Text}
    (outside : tracker.inLiteral = false)
    (isLength : blockLength (inside ++ rest) = inside.byteLength)
    {done kept : Text}
    (goesOn : stripFrom (done ++ (kept ++ '/' :: '*' :: inside ++ rest)) tracker done.byteLength
        (done ++ (kept ++ '/' :: '*' :: inside)).byteLength =
      .ok (kept ++ '/' :: '*' :: inside ++ later))
    (startsAnew : stripFrom (done ++ kept ++ '/' :: '*' :: inside ++ rest) tracker
        (done ++ kept ++ '/' :: '*' :: inside).byteLength
        (done ++ kept ++ '/' :: '*' :: inside).byteLength =
      .ok later) :
    stripFrom (done ++ (kept ++ ('/' :: '*' :: inside ++ rest))) tracker done.byteLength
        (done ++ kept).byteLength =
      .ok (kept ++ (Comment.residue ('/' :: '*' :: inside) ++ later)) := by
  have isOpener (later : Text) : Text.byteLength ('/' :: '*' :: later) = 2 + later.byteLength :=
    (Nat.add_assoc 1 1 _).symm
  have isText : done ++ (kept ++ ('/' :: '*' :: inside ++ rest)) =
      done ++ kept ++ ('/' :: '*' :: inside ++ rest) :=
    (List.append_assoc _ _ _).symm
  have isStop : (done ++ kept).byteLength + 2 + blockLength (inside ++ rest) =
      (done ++ kept ++ '/' :: '*' :: inside).byteLength := by
    rw [isLength, Text.byteLength_append _ ('/' :: '*' :: inside), isOpener, Nat.add_assoc]
  have opens : opensAt (Utf8.encode (done ++ (kept ++ ('/' :: '*' :: inside ++ rest)))) tracker
      (done ++ kept).byteLength '*' = true := by
    rw [isText, opensAt_iff (by decide)]
    exact ⟨outside, inside ++ rest, rfl⟩
  have isInside : (done ++ (kept ++ ('/' :: '*' :: inside ++ rest))).cut
      ((done ++ kept).byteLength + 2)
      (Utf8.encode (done ++ (kept ++ ('/' :: '*' :: inside ++ rest)))).length =
        .ok (inside ++ rest) := by
    have isCut := Text.cut_byteLength (done ++ kept ++ ['/', '*']) (inside ++ rest)
    rw [Text.byteLength_append _ ['/', '*'], List.append_assoc _ ['/', '*']] at isCut
    rw [Utf8.length_encode, isText]
    exact isCut
  have isComment := Text.cut_append (done ++ kept) ('/' :: '*' :: inside) rest
  rw [← isText, ← isStop] at isComment
  have isCode := Text.cut_append done kept ('/' :: '*' :: inside ++ rest)
  rw [stripFrom_block opens isInside isComment isCode, isStop, Comment.residue]
  split
  · simpa only [List.append_assoc] using goesOn
  · rw [List.append_assoc, ← isText] at startsAnew
    rw [startsAnew]
    rfl

/-! ## All parts -/

/--
Behind a place between two parts stripping keeps what has been read and leaves what it leaves of the
parts. No cut fails on the way.
-/
theorem stripFrom_parts
    {parts : List Comment.Part}
    {rest : Text}
    (falls : Comment.FallsInto reading rest parts)
    (follows : tracker.Follows reading)
    (done kept : Text)
    (isEscaped : reading.escaped = (Reading.behind (done ++ kept)).escaped) :
    stripFrom (done ++ (kept ++ rest)) tracker done.byteLength (done ++ kept).byteLength =
      .ok (kept ++ Comment.writtenOf (Comment.leftOf parts)) := by
  induction parts generalizing reading tracker rest done kept with
  | nil =>
      cases falls
      rw [stripFrom_of_le, Utf8.length_encode, List.append_nil, Text.cut_byteLength]
      · simp
      · rw [Utf8.length_encode, List.append_nil]
  | cons part parts inductionHypothesis =>
      cases falls with
      | @code _ character rest _ isCode falls =>
          obtain ⟨next, nextFollows, isStep⟩ :=
            exists_stripFrom_code follows isEscaped isCode done.byteLength
          have isText : done ++ (kept ++ character :: rest) = done ++ kept ++ character :: rest :=
            (List.append_assoc _ _ _).symm
          have goesOn := inductionHypothesis falls nextFollows done (kept ++ [character]) ?_
          · rw [isText, isStep, ← isText, List.append_assoc]
            simpa [Comment.Part.left, Comment.Part.written] using goesOn
          · rw [← List.append_assoc, Reading.behind, List.getLast?_concat]
            rfl
      | @line _ inside rest _ outside noBreak isBreak falls =>
          -- The line comment may end in a backslash, which does not count for its line break.
          have fallsBehind : Comment.FallsInto { reading with
              escaped := (Reading.behind (done ++ kept ++ '/' :: '/' :: inside ++ [])).escaped }
              rest parts :=
            .of_unescaped outside isBreak falls
          have startsAnew := inductionHypothesis fallsBehind (follows.anew _)
            (done ++ kept ++ '/' :: '/' :: inside) [] rfl
          rw [List.append_nil, List.nil_append, List.nil_append] at startsAnew
          exact stripFrom_lineComment (follows.inLiteral.trans outside) noBreak isBreak startsAnew
      | @block _ inside rest _ outside noCloser falls =>
          have isText : '/' :: '*' :: (inside ++ '*' :: '/' :: rest) =
              '/' :: '*' :: (inside ++ "*/".toList) ++ rest := by
            simp
          have goesOn := inductionHypothesis falls (follows.anew false) done
            (kept ++ '/' :: '*' :: (inside ++ "*/".toList))
            (by rw [← List.append_assoc, escaped_behind_closer])
          have startsAnew := inductionHypothesis falls (follows.anew false)
            (done ++ kept ++ '/' :: '*' :: (inside ++ "*/".toList)) []
            (by rw [List.append_nil, escaped_behind_closer])
          rw [List.append_nil, List.nil_append, List.nil_append] at startsAnew
          rw [isText, Comment.leftOf_cons, Comment.writtenOf_append,
            Comment.Part.writtenOf_left_block]
          exact stripFrom_comment (follows.inLiteral.trans outside)
            (blockLength_append_closer noCloser rest) goesOn startsAnew
      | @openBlock _ inside outside noCloser =>
          have isLength : blockLength (inside ++ []) = inside.byteLength := by
            rw [List.append_nil, blockLength_of_not_closed noCloser]
          have goesOn := inductionHypothesis .nil (follows.anew _) done
            (kept ++ '/' :: '*' :: inside) rfl
          have startsAnew := inductionHypothesis .nil (follows.anew _)
            (done ++ kept ++ '/' :: '*' :: inside) [] rfl
          rw [List.append_nil (done ++ kept ++ '/' :: '*' :: inside)] at startsAnew
          rw [Comment.leftOf_cons, Comment.writtenOf_append,
            Comment.Part.writtenOf_left_openBlock, ← List.append_nil ('/' :: '*' :: inside)]
          exact stripFrom_comment (follows.inLiteral.trans outside) isLength goesOn startsAnew

/-- The text that is put together is the stripped one. -/
theorem strip_eq (text : Text) : strip text = .ok (Comment.strip text) := by
  obtain ⟨parts, falls⟩ := Comment.exists_fallsInto {} text
  have isStripped := stripFrom_parts falls (Tracker.follows_start false) [] [] rfl
  rw [Comment.strip, falls.stripFrom_eq]
  exact isStripped

end Bytewise

end ComponentPages
