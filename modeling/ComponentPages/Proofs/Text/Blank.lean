import ComponentPages.Proofs.Project.Path
import Mathlib.Data.List.DropRight

namespace ComponentPages

/-!
# Blanks at the ends of a text

A text is its trimmed form with blanks around it, and blanks that are put around a text do not
matter to its trimmed form and to its words.
-/

namespace Text

variable {before text after : Text}

/-- A space is blank. -/
theorem isBlank_space : isBlank ' ' = true := by
  decide

/-- Trimming the end drops blanks from the right. -/
theorem trimEnd_eq_rdropWhile (text : Text) : trimEnd text = text.rdropWhile isBlank :=
  rfl

/-- What is left when the start is trimmed is the end of the text. -/
theorem trimStart_suffix (text : Text) : trimStart text <:+ text :=
  List.dropWhile_suffix isBlank

/-- Trimming the start adds no character. -/
theorem mem_of_mem_trimStart
    {character : Char}
    (member : character ∈ trimStart text) :
    character ∈ text :=
  (trimStart_suffix text).subset member

/-- Blanks in front do not change what is left when the start is trimmed. -/
theorem trimStart_append
    (areBlank : ∀ character ∈ before, isBlank character = true)
    (text : Text) :
    trimStart (before ++ text) = trimStart text :=
  List.dropWhile_append_of_pos areBlank

/-- Blanks behind do not change what is left when the end is trimmed. -/
theorem trimEnd_append
    (areBlank : ∀ character ∈ after, isBlank character = true)
    (text : Text) :
    trimEnd (text ++ after) = trimEnd text := by
  have areBlankBack : ∀ character ∈ after.reverse, isBlank character = true := by
    intro character member
    exact areBlank character (List.mem_reverse.mp member)
  rw [trimEnd, trimEndWhile, List.reverse_append, List.dropWhile_append_of_pos areBlankBack]
  rfl

/-- A text that starts with no blank is not trimmed at the start. -/
@[simp] theorem trimStart_cons_of_not_blank
    {character : Char}
    (notBlank : isBlank character = false)
    (rest : Text) :
    trimStart (character :: rest) = character :: rest :=
  List.dropWhile_cons_of_neg (by simp [notBlank])

/-- Only the end of a text is trimmed at its end, unless that is blank. -/
theorem trimEnd_append_of_ne_nil
    (before : Text)
    (notBlank : trimEnd text ≠ []) :
    trimEnd (before ++ text) = before ++ trimEnd text := by
  have leftOver : ¬ (text.reverse.dropWhile isBlank).isEmpty = true := by
    intro isEmpty
    exact notBlank (congrArg List.reverse (List.isEmpty_iff.mp isEmpty))
  rw [trimEnd, trimEndWhile, List.reverse_append, List.dropWhile_append, if_neg leftOver,
    List.reverse_append, List.reverse_reverse]
  rfl

/-- Nothing is left when the end is trimmed exactly if the whole text is blank. -/
theorem trimEnd_eq_nil_iff :
    trimEnd text = [] ↔ ∀ character ∈ text, isBlank character = true :=
  List.rdropWhile_eq_nil_iff

/-- Nothing is left when a text is trimmed exactly if all of it is blank. -/
theorem trim_eq_nil_iff :
    trim text = [] ↔ ∀ character ∈ text, isBlank character = true := by
  rw [trim, trimEnd_eq_nil_iff]
  constructor
  · intro restBlank character member
    rw [← List.takeWhile_append_dropWhile (p := isBlank) (l := text)] at member
    rcases List.mem_append.mp member with isTaken | isLeft
    · exact List.mem_takeWhile_imp isTaken
    · exact restBlank character isLeft
  · intro areBlank character member
    exact areBlank character ((List.dropWhile_suffix isBlank).subset member)

/-- A text is its trimmed form with blanks around it. -/
theorem exists_eq_trim (text : Text) :
    ∃ before after,
      text = before ++ (trim text ++ after) ∧
        (∀ character ∈ before, isBlank character = true) ∧
          ∀ character ∈ after, isBlank character = true := by
  refine ⟨text.takeWhile isBlank, (trimStart text).rtakeWhile isBlank, ?_, ?_, ?_⟩
  · rw [trim, trimEnd_eq_rdropWhile, List.rdropWhile_append_rtakeWhile]
    exact List.takeWhile_append_dropWhile.symm
  · intro character member
    exact List.mem_takeWhile_imp member
  · intro character member
    exact List.mem_rtakeWhile_imp member

/-- What is left when a text is trimmed stands in it. -/
theorem trim_infix (text : Text) : trim text <:+: text := by
  obtain ⟨before, after, isText, -⟩ := exists_eq_trim text
  exact ⟨before, after, by rw [List.append_assoc, ← isText]⟩

/-- Blanks around a text do not matter to its trimmed form. -/
theorem trim_append_blanks
    (beforeBlank : ∀ character ∈ before, isBlank character = true)
    (afterBlank : ∀ character ∈ after, isBlank character = true)
    (text : Text) :
    trim (before ++ (text ++ after)) = trim text := by
  rw [trim, trimStart_append beforeBlank]
  by_cases isEmpty : trimStart text = []
  · have textBlank := List.dropWhile_eq_nil_iff.mp isEmpty
    rw [trimStart_append textBlank, trim, isEmpty]
    have leftOver : ∀ character ∈ trimStart after, isBlank character = true := by
      intro character member
      exact afterBlank character ((List.dropWhile_suffix isBlank).subset member)
    exact trimEnd_eq_nil_iff.mpr leftOver
  · have leftOver : trimStart (text ++ after) = trimStart text ++ after := by
      have notEmpty : ¬ (text.dropWhile isBlank).isEmpty = true := by
        intro noneLeft
        exact isEmpty (List.isEmpty_iff.mp noneLeft)
      rw [trimStart, trimStartWhile, List.dropWhile_append, if_neg notEmpty]
      rfl
    rw [leftOver, trimEnd_append afterBlank, trim]

/-- A trimmed text is its own trimmed form. -/
theorem trim_trim (text : Text) : trim (trim text) = trim text := by
  obtain ⟨before, after, isText, beforeBlank, afterBlank⟩ := exists_eq_trim text
  rw [← trim_append_blanks beforeBlank afterBlank (trim text), ← isText]

/-- Blanks in front do not change what is left when a text is trimmed. -/
theorem trim_append
    (areBlank : ∀ character ∈ before, isBlank character = true)
    (text : Text) :
    trim (before ++ text) = trim text := by
  rw [trim, trimStart_append areBlank, trim]

/-- A text that starts with no blank is trimmed at its end only. -/
theorem trim_cons_of_not_blank
    {character : Char}
    (notBlank : isBlank character = false)
    (rest : Text) :
    trim (character :: rest) = trimEnd (character :: rest) := by
  rw [trim, trimStart_cons_of_not_blank notBlank]

/-- A text is what is left when it is trimmed at its end, with blanks behind it. -/
theorem exists_eq_trimEnd (text : Text) :
    ∃ after, text = trimEnd text ++ after ∧ ∀ character ∈ after, isBlank character = true := by
  refine ⟨text.rtakeWhile isBlank, List.rdropWhile_append_rtakeWhile.symm, ?_⟩
  intro character member
  exact List.mem_rtakeWhile_imp member

/-- A text that neither starts nor ends with a blank is its own trimmed form. -/
theorem trim_eq_self
    (startNotBlank : ∀ character ∈ text.head?, isBlank character = false)
    (endNotBlank : ∀ character ∈ text.getLast?, isBlank character = false) :
    trim text = text := by
  cases text with
  | nil =>
      rfl
  | cons first rest =>
      rw [trim_cons_of_not_blank (startNotBlank first rfl), trimEnd_eq_rdropWhile,
        List.rdropWhile_eq_self_iff]
      intro notEmpty
      simp [endNotBlank _ (List.getLast_mem_getLast? notEmpty)]

/-- A character that is no blank stays when the text behind it is trimmed at its end. -/
theorem trimEnd_cons_of_not_blank
    {character : Char}
    (notBlank : isBlank character = false)
    (rest : Text) :
    trimEnd (character :: rest) = character :: trimEnd rest := by
  by_cases restBlank : trimEnd rest = []
  · have areBlank := trimEnd_eq_nil_iff.mp restBlank
    have single : trimEnd [character] = [character] := by
      simp [trimEnd_eq_rdropWhile, List.rdropWhile_singleton, notBlank]
    rw [restBlank, ← single]
    exact trimEnd_append areBlank [character]
  · exact trimEnd_append_of_ne_nil [character] restBlank

/-- What follows blanks is the text without the blanks at its start, of which there is one at least. -/
theorem afterBlanks?_eq_some_iff
    {rest : Text} :
    afterBlanks? text = some rest ↔
      ∃ first later, text = first :: later ∧ isBlank first = true ∧ rest = trimStart later := by
  cases text with
  | nil =>
      simp [afterBlanks?]
  | cons first later =>
      simp only [afterBlanks?, Option.ite_none_right_eq_some, Option.some.injEq, List.cons.injEq,
        and_assoc, exists_and_left, exists_eq_left', eq_comm (a := rest)]

/-- What is read behind blanks is the text with its start trimmed. -/
theorem eq_trimStart_of_afterBlanks?
    {rest : Text}
    (isRest : afterBlanks? text = some rest) :
    rest = trimStart text := by
  obtain ⟨first, later, rfl, isBlankFirst, rfl⟩ := afterBlanks?_eq_some_iff.mp isRest
  exact (List.dropWhile_cons_of_pos isBlankFirst).symm

/-- What follows blanks follows a run of at least one of them. -/
theorem exists_blanks_of_afterBlanks?
    {rest : Text}
    (isRest : afterBlanks? text = some rest) :
    ∃ gap, gap ≠ [] ∧ (∀ character ∈ gap, isBlank character = true) ∧ text = gap ++ rest := by
  obtain ⟨first, later, rfl, isBlankFirst, rfl⟩ := afterBlanks?_eq_some_iff.mp isRest
  refine ⟨first :: later.takeWhile isBlank, List.cons_ne_nil _ _, ?_, ?_⟩
  · exact List.forall_mem_cons.mpr ⟨isBlankFirst, fun _ => List.mem_takeWhile_imp⟩
  · exact congrArg (first :: ·) List.takeWhile_append_dropWhile.symm

/-- What is left behind blanks is the end of the text. -/
theorem afterBlanks?_suffix
    {rest : Text}
    (isRest : afterBlanks? text = some rest) :
    rest <:+ text := by
  obtain ⟨gap, -, -, isText⟩ := exists_blanks_of_afterBlanks? isRest
  exact ⟨gap, isText.symm⟩

/-- A gap of blanks is read in front of a text that starts with none. -/
theorem afterBlanks?_append
    {gap rest : Text}
    (notEmpty : gap ≠ [])
    (areBlank : ∀ character ∈ gap, isBlank character = true)
    (isTrimmed : trimStart rest = rest) :
    afterBlanks? (gap ++ rest) = some rest := by
  obtain ⟨first, later, rfl⟩ := List.exists_cons_of_ne_nil notEmpty
  obtain ⟨firstBlank, laterBlank⟩ := List.forall_mem_cons.mp areBlank
  rw [List.cons_append, afterBlanks?, if_pos firstBlank, trimStart_append laterBlank, isTrimmed]

/-- A trimmed text has nothing to trim at its start. -/
theorem trimStart_eq_self
    (trimmed : trim text = text) :
    trimStart text = text := by
  have shorter := (List.rdropWhile_prefix isBlank (l := trimStart text)).length_le
  rw [← trimEnd_eq_rdropWhile, ← trim, trimmed] at shorter
  exact (List.dropWhile_suffix isBlank).eq_of_length_le shorter

/-- A trimmed text has nothing to trim at its end. -/
theorem trimEnd_eq_self
    (trimmed : trim text = text) :
    trimEnd text = text := by
  rw [trim, trimStart_eq_self trimmed] at trimmed
  exact trimmed

/-- A trimmed text starts with no blank. -/
theorem isBlank_eq_false_of_trim_cons
    {character : Char}
    {rest : Text}
    (trimmed : trim (character :: rest) = character :: rest) :
    isBlank character = false := by
  have kept := trimStart_eq_self trimmed
  rw [trimStart, trimStartWhile, List.dropWhile_eq_self_iff] at kept
  simpa using kept (Nat.zero_lt_succ _)

/-- A trimmed text ends with no blank. -/
theorem isBlank_eq_false_of_getLast?
    {character : Char}
    (trimmed : trim text = text)
    (isLast : character ∈ text.getLast?) :
    isBlank character = false := by
  have kept := trimEnd_eq_self trimmed
  rw [trimEnd_eq_rdropWhile, List.rdropWhile_eq_self_iff] at kept
  obtain ⟨notEmpty, rfl⟩ := List.mem_getLast?_eq_getLast isLast
  simpa using kept notEmpty

/-- The end of a trimmed text is trimmed without the blanks it starts with. -/
theorem trim_trimStart
    {part : Text}
    (trimmed : trim text = text)
    (isSuffix : part <:+ text) :
    trim (trimStart part) = trimStart part := by
  refine trim_eq_self ?_ ?_
  · intro character isFirst
    have startsLate := List.head?_dropWhile_not isBlank part
    rwa [← trimStartWhile, ← trimStart, Option.mem_def.mp isFirst] at startsLate
  · intro character isLast
    obtain ⟨before, rfl⟩ := (trimStart_suffix part).trans isSuffix
    refine isBlank_eq_false_of_getLast? trimmed ?_
    rw [List.getLast?_append, Option.mem_def.mp isLast]
    rfl

/-- The start of a trimmed text is trimmed without the blanks it ends with. -/
theorem trim_trimEnd
    {part : Text}
    (trimmed : trim text = text)
    (isPrefix : part <+: text) :
    trim (trimEnd part) = trimEnd part := by
  refine trim_eq_self ?_ ?_
  · intro character isFirst
    obtain ⟨after, rfl⟩ := (List.rdropWhile_prefix isBlank (l := part)).trans isPrefix
    obtain ⟨later, isText⟩ := List.head?_eq_some_iff.mp isFirst
    rw [← trimEnd_eq_rdropWhile, isText] at trimmed
    exact isBlank_eq_false_of_trim_cons trimmed
  · intro character isLast
    obtain ⟨notEmpty, rfl⟩ := List.mem_getLast?_eq_getLast isLast
    exact eq_false_of_ne_true (List.rdropWhile_last_not isBlank part notEmpty)

/-- Between trimmed texts any text can stand. -/
theorem trim_append_eq_self
    {first last : Text}
    (firstNotEmpty : first ≠ [])
    (firstTrimmed : trim first = first)
    (lastNotEmpty : last ≠ [])
    (lastTrimmed : trim last = last)
    (between : Text) :
    trim (first ++ (between ++ last)) = first ++ (between ++ last) := by
  obtain ⟨character, rest, rfl⟩ := List.exists_cons_of_ne_nil firstNotEmpty
  have lastLeft : trimEnd last ≠ [] := by
    rwa [trimEnd_eq_self lastTrimmed]
  rw [List.cons_append, trim_cons_of_not_blank (isBlank_eq_false_of_trim_cons firstTrimmed),
    ← List.cons_append, ← List.append_assoc, trimEnd_append_of_ne_nil _ lastLeft,
    trimEnd_eq_self lastTrimmed]

/-! ## Words -/

/-- A blank in front adds no word. -/
theorem words_cons
    {character : Char}
    (isBlankCharacter : isBlank character = true)
    (text : Text) :
    words (character :: text) = words text := by
  simp [words, pieces, isBlankCharacter]

private theorem words_concat
    {character : Char}
    (isBlankCharacter : isBlank character = true)
    (text : Text) :
    words (text ++ [character]) = words text := by
  rw [words, pieces_concat isBlankCharacter (by simp)]
  simp [words]

/-- Blanks around a text do not matter to its words. -/
theorem words_append_blanks
    (beforeBlank : ∀ character ∈ before, isBlank character = true)
    (afterBlank : ∀ character ∈ after, isBlank character = true)
    (text : Text) :
    words (before ++ (text ++ after)) = words text := by
  have wordsAfter : words (text ++ after) = words text := by
    induction after using List.reverseRecOn with
    | nil =>
        rw [List.append_nil]
    | append_singleton first last inductionHypothesis =>
        obtain ⟨firstBlank, lastBlank⟩ := List.forall_mem_append.mp afterBlank
        rw [← List.append_assoc, words_concat (lastBlank last (List.mem_singleton_self last)),
          inductionHypothesis firstBlank]
  induction before with
  | nil =>
      exact wordsAfter
  | cons character rest inductionHypothesis =>
      obtain ⟨isBlankCharacter, restBlank⟩ := List.forall_mem_cons.mp beforeBlank
      rw [List.cons_append, words_cons isBlankCharacter, inductionHypothesis restBlank]

/-- Blanks at the end of a text do not matter to its words. -/
theorem words_trimEnd (text : Text) : words (trimEnd text) = words text := by
  obtain ⟨after, isText, afterBlank⟩ := exists_eq_trimEnd text
  have sameWords := words_append_blanks (List.forall_mem_nil _) afterBlank (trimEnd text)
  rw [List.nil_append, ← isText] at sameWords
  exact sameWords.symm

/-- What the words of a text hold is no blank. -/
theorem isBlank_of_mem_words
    {text word : Text}
    {character : Char}
    (isWord : word ∈ words text)
    (member : character ∈ word) :
    isBlank character = false :=
  separates_of_mem_pieces (List.mem_of_mem_filter isWord) character member

/-- A character of joined parts is in the separator or in a part. -/
theorem mem_joinWith
    {separator : Text}
    {parts : List Text}
    {character : Char}
    (member : character ∈ joinWith separator parts) :
    character ∈ separator ∨ ∃ part ∈ parts, character ∈ part := by
  induction parts with
  | nil =>
      contradiction
  | cons part later inductionHypothesis =>
      cases later with
      | nil =>
          exact .inr ⟨part, List.mem_singleton_self part, member⟩
      | cons next others =>
          have isJoined : joinWith separator (part :: next :: others) =
              part ++ separator ++ joinWith separator (next :: others) :=
            rfl
          rw [isJoined] at member
          rcases List.mem_append.mp member with inFront | inLater
          · rcases List.mem_append.mp inFront with inPart | inSeparator
            · exact .inr ⟨part, List.mem_cons_self, inPart⟩
            · exact .inl inSeparator
          · refine (inductionHypothesis inLater).imp_right ?_
            rintro ⟨other, isLater, inOther⟩
            exact ⟨other, List.mem_cons_of_mem part isLater, inOther⟩

end Text

end ComponentPages
