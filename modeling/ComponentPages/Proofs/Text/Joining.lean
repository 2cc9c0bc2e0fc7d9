import ComponentPages.Proofs.Text.Blank

namespace ComponentPages

/-!
# Joined texts

Texts that are joined by a character are the pieces between its occurrences, as long as the
character is not in them. Joined by a space, the words of a text give the text itself exactly if its
blanks are single spaces between other characters.
-/

namespace Text

variable {separator : Char} {parts : List Text}

private theorem joinWith_cons
    (separator first : Text)
    {later : List Text}
    (notLast : later ≠ []) :
    joinWith separator (first :: later) = first ++ separator ++ joinWith separator later := by
  obtain ⟨next, others, rfl⟩ := List.exists_cons_of_ne_nil notLast
  rfl

private theorem joinWith_eq_intercalate
    (separator : Text)
    (parts : List Text) :
    joinWith separator parts = separator.intercalate parts := by
  induction parts with
  | nil =>
      rfl
  | cons first later inductionHypothesis =>
      cases later with
      | nil =>
          simp [joinWith, List.intercalate]
      | cons next others =>
          rw [joinWith_cons _ _ (List.cons_ne_nil next others), inductionHypothesis]
          simp [List.intercalate, List.append_assoc]

/-- The pieces between the occurrences of a character give the text when it joins them. -/
theorem joinWith_pieces
    (separator : Char)
    (text : Text) :
    joinWith [separator] (pieces (· == separator) text) = text := by
  rw [joinWith_eq_intercalate, pieces_eq_splitOnP, ← List.splitOn_eq_splitOnP]
  exact List.intercalate_splitOn separator

/-- Texts that are joined by a character which is not in them are the pieces between it. -/
theorem pieces_joinWith
    (notEmpty : parts ≠ [])
    (lackSeparator : ∀ part ∈ parts, separator ∉ part) :
    pieces (· == separator) (joinWith [separator] parts) = parts := by
  rw [joinWith_eq_intercalate, pieces_eq_splitOnP, ← List.splitOn_eq_splitOnP]
  exact List.splitOn_intercalate separator lackSeparator notEmpty

/-- What joined texts hold is in one of them or joins them. -/
theorem forall_mem_joinWith
    {holds : Char → Prop}
    (ofSeparator : holds separator)
    (ofParts : ∀ part ∈ parts, ∀ character ∈ part, holds character) :
    ∀ character ∈ joinWith [separator] parts, holds character := by
  intro character member
  rcases mem_joinWith member with isSeparator | ⟨part, isPart, inPart⟩
  · rwa [List.mem_singleton.mp isSeparator]
  · exact ofParts part isPart character inPart

/-- Joined texts hold what each of them holds. -/
theorem mem_joinWith_of_mem
    {part : Text}
    {character : Char}
    (isPart : part ∈ parts)
    (inPart : character ∈ part) :
    character ∈ joinWith [separator] parts := by
  induction parts with
  | nil =>
      contradiction
  | cons first later inductionHypothesis =>
      by_cases isLast : later = []
      · subst isLast
        obtain rfl := List.mem_singleton.mp isPart
        exact inPart
      · rw [joinWith_cons _ _ isLast]
        rcases List.mem_cons.mp isPart with rfl | isLater
        · exact List.mem_append_left _ (List.mem_append_left _ inPart)
        · exact List.mem_append_right _ (inductionHypothesis isLater)

/-- A character of a piece is one of the text. -/
theorem mem_of_mem_pieces
    {text piece : Text}
    {character : Char}
    (isPiece : piece ∈ pieces (· == separator) text)
    (inPiece : character ∈ piece) :
    character ∈ text := by
  rw [← joinWith_pieces separator text]
  exact mem_joinWith_of_mem isPiece inPiece

/-! ## Words -/

/-- A word has characters, none of which is a blank. -/
structure IsWord (word : Text) : Prop where
  notEmpty : word ≠ []
  noBlank : ∀ character ∈ word, isBlank character = false

/-- The words of a text are words. -/
theorem isWord_of_mem_words
    {text word : Text}
    (isMember : word ∈ words text) :
    IsWord word where
  notEmpty := by
    simpa using List.of_mem_filter isMember
  noBlank _ := isBlank_of_mem_words isMember

/-! ## Spaced texts -/

/-- Whether the blanks of a text are single spaces, none of them at its ends. -/
structure IsSpaced (text : Text) : Prop where
  onlySpaces : ∀ character ∈ text, isBlank character = true → character = ' '
  noPair : ¬ [' ', ' '] <:+: text
  isTrimmed : trim text = text

variable {text : Text}

/-- A part of a spaced text is spaced if it has no blanks at its ends. -/
theorem IsSpaced.of_infix
    {part : Text}
    (isSpaced : IsSpaced text)
    (isInfix : part <:+: text)
    (isTrimmed : trim part = part) :
    IsSpaced part where
  onlySpaces character member := isSpaced.onlySpaces character (isInfix.subset member)
  noPair hasPair := isSpaced.noPair (hasPair.trans isInfix)
  isTrimmed := isTrimmed

private theorem trim_joinWith
    (areWords : ∀ part ∈ parts, IsWord part) :
    trim (joinWith [' '] parts) = joinWith [' '] parts := by
  have wordTrimmed {word : Text} (isWord : IsWord word) : trim word = word :=
    trim_eq_self (fun character isFirst => isWord.noBlank character (List.mem_of_mem_head? isFirst))
      (fun character isLast => isWord.noBlank character (List.mem_of_getLast? isLast))
  induction parts with
  | nil =>
      rfl
  | cons first later inductionHypothesis =>
      obtain ⟨isWord, laterWords⟩ := List.forall_mem_cons.mp areWords
      cases later with
      | nil =>
          exact wordTrimmed isWord
      | cons next others =>
          have notEmpty : joinWith [' '] (next :: others) ≠ [] := by
            obtain ⟨character, member⟩ := List.exists_mem_of_ne_nil next
              (laterWords next List.mem_cons_self).notEmpty
            exact List.ne_nil_of_mem (mem_joinWith_of_mem List.mem_cons_self member)
          rw [joinWith_cons _ _ (List.cons_ne_nil next others), List.append_assoc]
          exact trim_append_eq_self isWord.notEmpty (wordTrimmed isWord) notEmpty
            (inductionHypothesis laterWords) [' ']

/-- Words with a space between neighbours are spaced. -/
theorem isSpaced_joinWith
    (areWords : ∀ part ∈ parts, IsWord part) :
    IsSpaced (joinWith [' '] parts) where
  onlySpaces := by
    refine forall_mem_joinWith (fun _ => rfl) fun part isPart character inPart isBlankCharacter => ?_
    rw [(areWords part isPart).noBlank character inPart] at isBlankCharacter
    contradiction
  noPair := by
    rintro ⟨before, after, isJoined⟩
    by_cases noParts : parts = []
    · subst noParts
      simp [joinWith] at isJoined
    · -- Between the two spaces there would be an empty part.
      have lackSpace : ∀ part ∈ parts, ' ' ∉ part := by
        intro part isPart inPart
        exact absurd ((areWords part isPart).noBlank ' ' inPart) (by decide)
      have areParts := pieces_joinWith noParts lackSpace
      have isWhole : before ++ [' ', ' '] ++ after = before ++ ' ' :: (' ' :: after) := by
        simp
      rw [← isJoined, isWhole, pieces_eq_splitOnP, List.splitOnP_append_cons _ _ (by decide),
        ← pieces_eq_splitOnP, ← pieces_eq_splitOnP] at areParts
      have isEmptyPart : [] ∈ parts := by
        rw [← areParts]
        exact List.mem_append_right _ List.mem_cons_self
      exact (areWords [] isEmptyPart).notEmpty rfl
  isTrimmed := trim_joinWith areWords

/-- A character that does not separate belongs to the first piece. -/
theorem exists_pieces_cons
    (separates : Char → Bool)
    {character : Char}
    (belongs : separates character = false)
    (text : Text) :
    ∃ first later,
      pieces separates text = first :: later ∧
        pieces separates (character :: text) = (character :: first) :: later := by
  obtain ⟨first, later, isSplit⟩ := List.exists_cons_of_ne_nil (List.splitOnP_ne_nil separates text)
  rw [← pieces_eq_splitOnP] at isSplit
  exact ⟨first, later, isSplit, by simp [pieces, belongs, isSplit]⟩

/-- What separates matters for the characters of a text only. -/
private theorem pieces_congr
    {separates other : Char → Bool}
    (same : ∀ character ∈ text, separates character = other character) :
    pieces separates text = pieces other text := by
  induction text with
  | nil =>
      rfl
  | cons character later inductionHypothesis =>
      obtain ⟨isSame, laterSame⟩ := List.forall_mem_cons.mp same
      rw [pieces, pieces, isSame, inductionHypothesis laterSame]

/-- The pieces behind a separator are not empty if there is no pair of them and none at the end. -/
private theorem ne_nil_of_mem_tail_pieces
    {separator : Char}
    (noPair : ¬ [separator, separator] <:+: text)
    (notLast : text.getLast? ≠ some separator) :
    ∀ piece ∈ (pieces (· == separator) text).tail, piece ≠ [] := by
  induction text with
  | nil =>
      exact List.forall_mem_nil _
  | cons character later inductionHypothesis =>
      have laterNoPair : ¬ [separator, separator] <:+: later :=
        fun hasPair => noPair (hasPair.trans (List.suffix_cons character later).isInfix)
      have laterNotLast : later.getLast? ≠ some separator := by
        cases later with
        | nil =>
            simp
        | cons next others =>
            rwa [List.getLast?_cons_cons] at notLast
      have laterTail := inductionHypothesis laterNoPair laterNotLast
      by_cases isSeparator : character = separator
      · subst isSeparator
        cases later with
        | nil =>
            simp at notLast
        | cons next others =>
            have nextBelongs : (next == character) = false := by
              rw [beq_eq_false_iff_ne]
              rintro rfl
              exact noPair (List.prefix_append [next, next] others).isInfix
            obtain ⟨first, behind, -, isSplit⟩ := exists_pieces_cons (· == character) nextBelongs others
            have isWhole : (pieces (· == character) (character :: next :: others)).tail =
                pieces (· == character) (next :: others) := by
              simp [pieces]
            rw [isSplit, List.tail_cons] at laterTail
            rw [isWhole, isSplit]
            exact List.forall_mem_cons.mpr ⟨List.cons_ne_nil next first, laterTail⟩
      · obtain ⟨first, behind, isSplit, isWhole⟩ :=
          exists_pieces_cons (· == separator) (beq_eq_false_iff_ne.mpr isSeparator) later
        rw [isWhole]
        rwa [isSplit] at laterTail

/-- The words of a spaced text are the text again when a space joins them. -/
theorem joinWith_words (isSpaced : IsSpaced text) : joinWith [' '] (words text) = text := by
  cases text with
  | nil =>
      rfl
  | cons first later =>
      have notSpace {character : Char} (belongs : isBlank character = false) :
          character ≠ ' ' := by
        rintro rfl
        exact absurd belongs (by decide)
      have sameBlanks : ∀ character ∈ first :: later,
          isBlank character = (character == ' ') := by
        intro character member
        cases isBlankCharacter : isBlank character with
        | true =>
            rw [isSpaced.onlySpaces character member isBlankCharacter]
            rfl
        | false =>
            exact (beq_eq_false_iff_ne.mpr (notSpace isBlankCharacter)).symm
      have notFirst := notSpace (isBlank_eq_false_of_trim_cons isSpaced.isTrimmed)
      have notLast : (first :: later).getLast? ≠ some ' ' := by
        intro isLast
        exact notSpace (isBlank_eq_false_of_getLast? isSpaced.isTrimmed isLast) rfl
      have allWords : ∀ piece ∈ pieces (· == ' ') (first :: later), piece ≠ [] := by
        have tailWords := ne_nil_of_mem_tail_pieces isSpaced.noPair notLast
        obtain ⟨start, behind, -, isSplit⟩ :=
          exists_pieces_cons (· == ' ') (beq_eq_false_iff_ne.mpr notFirst) later
        rw [isSplit] at tailWords ⊢
        exact List.forall_mem_cons.mpr ⟨List.cons_ne_nil first start, tailWords⟩
      rw [words, pieces_congr sameBlanks, List.filter_eq_self.mpr, joinWith_pieces]
      intro piece isPiece
      simpa using allWords piece isPiece

end Text

end ComponentPages
