import ComponentPages.Proofs.Text.Blank
import ComponentPages.Proofs.Text.Offset
import ComponentPages.Text.Pattern
import Mathlib.Data.List.Infix
import Mathlib.Data.List.TakeWhile

namespace ComponentPages

/-!
# Where patterns occur

What is found first stands at the first place where the pattern matches. A pattern is absent from a
stretch of text if it matches at no place of it, whatever character precedes that place. Whether it
is absent depends on what follows the stretch, but stretches can be judged one by one. For a pattern
that starts with a word there are three ways to see that it is absent: the stretch lacks the first
letter of the word, it lacks the word, or no place of the stretch can follow the word in a match.
-/

namespace Text

/-! ## Leading words -/

/-- What stands behind a lead is read. -/
theorem after?_append
    (lead rest : Text) :
    after? (lead ++ rest) lead = some rest := by
  induction lead with
  | nil =>
      cases rest <;> rfl
  | cons character later inductionHypothesis =>
      rw [List.cons_append, after?, if_pos rfl, inductionHypothesis]

/-- What is read behind a lead is the text without it. -/
theorem after?_eq_some_iff
    {text lead rest : Text} :
    after? text lead = some rest ↔ text = lead ++ rest := by
  constructor
  · intro found
    induction lead generalizing text with
    | nil =>
        cases text <;> exact Option.some.inj found
    | cons expected later inductionHypothesis =>
        cases text with
        | nil =>
            contradiction
        | cons character behind =>
            rw [after?] at found
            split at found
            · rename_i isSame
              rw [isSame, inductionHypothesis found, List.cons_append]
            · contradiction
  · rintro rfl
    exact after?_append lead rest

/-- What is left behind a lead is the end of the text. -/
theorem after?_suffix
    {text lead rest : Text}
    (found : after? text lead = some rest) :
    rest <:+ text :=
  ⟨lead, (after?_eq_some_iff.mp found).symm⟩

/-- A word is read where no word ends, and what is left is the text without it. -/
theorem afterWord?_eq_some_iff
    {word text rest : Text}
    {previous : Option Char} :
    afterWord? word previous text = some rest ↔
      followsWord previous = false ∧ text = word ++ rest := by
  rw [afterWord?, Option.ite_none_left_eq_some, Bool.not_eq_true, after?_eq_some_iff]

/-- A word with blanks is read as the word and the blanks. -/
theorem afterWordAndBlanks?_eq_some_iff
    {word text rest : Text} :
    afterWordAndBlanks? word text = some rest ↔
      ∃ afterWord, text = word ++ afterWord ∧ afterBlanks? afterWord = some rest := by
  simp only [afterWordAndBlanks?, Option.bind_eq_some_iff, after?_eq_some_iff]

/-- What is left behind a word and a blank has no blanks at its start. -/
theorem afterWordAndBlanks?_append
    {blank : Char}
    (isBlank : isBlank blank = true)
    (word rest : Text) :
    afterWordAndBlanks? word (word ++ blank :: rest) = some (trimStart rest) := by
  rw [afterWordAndBlanks?, after?_append, Option.bind_some, afterBlanks?, if_pos isBlank]

/-- What is left behind a word and blanks is the end of the text. -/
theorem afterWordAndBlanks?_suffix
    {word text rest : Text}
    (isRest : afterWordAndBlanks? word text = some rest) :
    rest <:+ text := by
  obtain ⟨afterWord, rfl, isBehind⟩ := afterWordAndBlanks?_eq_some_iff.mp isRest
  exact (afterBlanks?_suffix isBehind).trans (List.suffix_append word afterWord)

/-- What is left when a word and blanks are skipped is the end of the text. -/
theorem skipWordAndBlanks_suffix (word text : Text) : skipWordAndBlanks word text <:+ text := by
  rw [skipWordAndBlanks]
  cases isRest : afterWordAndBlanks? word text with
  | none =>
      exact List.suffix_rfl
  | some rest =>
      exact afterWordAndBlanks?_suffix isRest

/-- A text is what follows a word, with the word in front or without. -/
theorem exists_append_getD_after? (text word : Text) :
    ∃ lead ∈ [[], word], text = lead ++ (after? text word).getD text := by
  cases isBehind : after? text word with
  | none =>
      exact ⟨[], List.mem_cons_self, rfl⟩
  | some rest =>
      exact ⟨word, by simp, after?_eq_some_iff.mp isBehind⟩

/-- A word that is read at the start of a text does not reach a character that it lacks. -/
theorem exists_between
    {text rest word behind : Text}
    {stop : Char}
    (lacksStop : stop ∉ word)
    (whole : text ++ stop :: rest = word ++ behind) :
    ∃ between, text = word ++ between ∧ behind = between ++ stop :: rest := by
  rcases List.append_eq_append_iff.mp whole with
    ⟨missing, isWord, isRest⟩ | ⟨between, isText, isBehind⟩
  · cases missing with
    | nil =>
        exact ⟨[], by simpa using isWord.symm, by simpa using isRest.symm⟩
    | cons character more =>
        obtain ⟨rfl, -⟩ := List.cons.inj isRest
        exact absurd (by simp [isWord]) lacksStop
  · exact ⟨between, isText, isBehind⟩

/-- What a text ends in, without some character, stands behind the last place of it. -/
theorem suffix_of_suffix_append_cons
    {ending front rest : Text}
    {stop : Char}
    (lacksStop : stop ∉ ending)
    (isSuffix : ending <:+ front ++ stop :: rest) :
    ending <:+ rest := by
  obtain ⟨before, whole⟩ := isSuffix
  rcases List.append_eq_append_iff.mp whole with ⟨missing, -, isEnding⟩ | ⟨between, -, isRest⟩
  · exact absurd (by simp [isEnding]) lacksStop
  · cases between with
    | nil =>
        have isEnding : stop :: rest = ending := isRest
        exact absurd (isEnding ▸ List.mem_cons_self) lacksStop
    | cons first more =>
        exact ⟨more, (List.cons.inj isRest).2.symm⟩

/-! ## Runs up to a stop -/

/-- Whether no character of a kind stands at the start of a text. -/
def Stops (belongs : Char → Bool) (text : Text) : Prop :=
  ∀ character ∈ text.head?, belongs character = false

/-- The empty text stops every run. -/
theorem stops_nil (belongs : Char → Bool) : Stops belongs [] := by
  intro character isFirst
  contradiction

/-- What a run leaves starts with no character of its kind. -/
theorem stops_dropWhile (belongs : Char → Bool) (text : Text) :
    Stops belongs (text.dropWhile belongs) := by
  intro character isFirst
  have stopped := List.head?_dropWhile_not belongs text
  rwa [Option.mem_def.mp isFirst] at stopped

/-- A run is read up to where it stops. -/
theorem run_append
    {belongs : Char → Bool}
    {front rest : Text}
    (allBelong : ∀ character ∈ front, belongs character = true)
    (stops : Stops belongs rest) :
    run belongs (front ++ rest) = (front, rest) := by
  rw [run, List.takeWhile_append_of_pos allBelong, List.dropWhile_append_of_pos allBelong]
  cases rest with
  | nil =>
      simp
  | cons character later =>
      have isStop := stops character rfl
      simp [isStop]

/-- A run that is read has characters, all of which belong to it. -/
theorem of_run?
    {belongs : Char → Bool}
    {text front rest : Text}
    (isRead : run? belongs text = some (front, rest)) :
    front ≠ [] ∧ ∀ character ∈ front, belongs character = true := by
  unfold run? at isRead
  split at isRead
  · contradiction
  · rename_i notEmpty
    obtain ⟨rfl, -⟩ := Prod.mk.inj (Option.some.inj isRead)
    exact ⟨by simpa using notEmpty, fun _ => List.mem_takeWhile_imp⟩

namespace Pattern

variable {α : Type} {pattern : Pattern α} {text rest : Text}

/-! ## Absence -/

/-- Whether a pattern matches at no place of a text that `rest` follows. -/
def Absent (pattern : Pattern α) : (text rest : Text) → Prop
  | [], _ => True
  | character :: later, rest =>
      (∀ previous, pattern previous (character :: (later ++ rest)) = none) ∧
        Absent pattern later rest

/-- Stretches of a text are judged one by one. -/
theorem Absent.append
    {first second : Text}
    (absentFirst : Absent pattern first (second ++ rest))
    (absentSecond : Absent pattern second rest) :
    Absent pattern (first ++ second) rest := by
  induction first with
  | nil =>
      exact absentSecond
  | cons character later inductionHypothesis =>
      refine ⟨fun previous => ?_, inductionHypothesis absentFirst.2⟩
      have noMatch := absentFirst.1 previous
      rwa [← List.append_assoc] at noMatch

/-- A pattern that is absent has no occurrence, also behind an earlier one. -/
theorem Absent.occurrencesFrom_eq_nil
    (absent : Absent pattern text [])
    (passed : Text)
    (offset : Nat)
    (previous : Option Char) :
    occurrencesFrom pattern offset previous passed.length (passed ++ text) = [] := by
  induction passed generalizing offset previous with
  | nil =>
      induction text generalizing offset previous with
      | nil =>
          rw [List.append_nil, occurrencesFrom]
      | cons character later inductionHypothesis =>
          have noMatch := absent.1 previous
          rw [List.append_nil] at noMatch
          rw [List.nil_append, List.length_nil, occurrencesFrom]
          simp only [noMatch]
          exact inductionHypothesis absent.2 _ _
  | cons character later inductionHypothesis =>
      rw [List.cons_append, List.length_cons, occurrencesFrom]
      exact inductionHypothesis _ _

/-- Behind a match at the start of a text the search goes on with what was left unread. -/
theorem occurrences_eq_cons
    {captured : α}
    {first : Char}
    {read : Text}
    (isMatch : pattern none (first :: (read ++ text)) = some (captured, text)) :
    occurrences pattern (first :: (read ++ text)) =
      ⟨0, byteLength (first :: read), captured⟩ ::
        occurrencesFrom pattern first.utf8Size (some first) read.length (read ++ text) := by
  have length : (read ++ text).length - text.length = read.length := by
    rw [List.length_append, Nat.add_sub_cancel]
  have bytes :
      byteLength (first :: (read ++ text)) - byteLength text = byteLength (first :: read) := by
    rw [← List.cons_append, byteLength_append, Nat.add_sub_cancel]
  rw [occurrences, occurrencesFrom]
  simp only [isMatch, length, bytes, Nat.zero_add]

/-- A pattern that matches at the start of a text and is absent behind has one occurrence. -/
theorem Absent.occurrences_eq_singleton
    {captured : α}
    {first : Char}
    {read : Text}
    (absent : Absent pattern text [])
    (isMatch : pattern none (first :: (read ++ text)) = some (captured, text)) :
    occurrences pattern (first :: (read ++ text)) =
      [⟨0, byteLength (first :: read), captured⟩] := by
  rw [occurrences_eq_cons isMatch, absent.occurrencesFrom_eq_nil]

/-- The last character of a text, or else the one in front of it, is found character by character. -/
theorem getLast?_cons_or
    (character : Char)
    (later : Text)
    (previous : Option Char) :
    (character :: later).getLast?.or previous = later.getLast?.or (some character) := by
  cases later <;> simp [List.getLast?_cons]

/--
Whether an occurrence stands at a place of the text at `offset`, behind `previous`, where the pattern
matches.
-/
def IsPlaced
    (pattern : Pattern α)
    (offset : Nat)
    (previous : Option Char)
    (text : Text)
    (occurrence : Occurrence α) :
    Prop :=
  ∃ before place unread,
    text = before ++ place ∧
      pattern (before.getLast?.or previous) place = some (occurrence.captured, unread) ∧
        occurrence.start = offset + byteLength before ∧
          occurrence.stop = occurrence.start + (byteLength place - byteLength unread)

private theorem IsPlaced.cons
    {character : Char}
    {offset : Nat}
    {occurrence : Occurrence α}
    (isPlaced : pattern.IsPlaced (offset + character.utf8Size) (some character) text occurrence)
    (previous : Option Char) :
    pattern.IsPlaced offset previous (character :: text) occurrence := by
  obtain ⟨before, place, unread, rfl, isMatch, isStart, isStop⟩ := isPlaced
  refine ⟨character :: before, place, unread, rfl, ?_, ?_, isStop⟩
  · rwa [getLast?_cons_or]
  · rw [isStart, byteLength, Nat.add_assoc]

/-- What a search finds stands where the pattern matches. -/
theorem isPlaced_of_mem_occurrencesFrom
    {offset passing : Nat}
    {previous : Option Char}
    {occurrence : Occurrence α}
    (occurs : occurrence ∈ pattern.occurrencesFrom offset previous passing text) :
    pattern.IsPlaced offset previous text occurrence := by
  fun_induction occurrencesFrom pattern offset previous passing text with
  | case1 =>
      contradiction
  | case2 _ _ _ _ _ inductionHypothesis =>
      exact (inductionHypothesis occurs).cons _
  | case3 _ _ _ _ _ inductionHypothesis =>
      exact (inductionHypothesis occurs).cons _
  | case4 offset previous character rest captured unread isMatch inductionHypothesis =>
      rcases List.mem_cons.mp occurs with rfl | isLater
      · exact ⟨[], character :: rest, unread, rfl, isMatch, rfl, rfl⟩
      · exact (inductionHypothesis isLater).cons _

/-- What an occurrence of a pattern leaves unread stands behind its end. -/
theorem exists_front_of_mem
    {occurrence : Occurrence α}
    (leavesSuffix : ∀ previous place captured unread,
      pattern previous place = some (captured, unread) → unread <:+ place)
    (occurs : occurrence ∈ pattern.occurrences text) :
    ∃ front previous place unread,
      text = front ++ unread ∧ byteLength front = occurrence.stop ∧
        pattern previous place = some (occurrence.captured, unread) := by
  obtain ⟨before, place, unread, rfl, isMatch, isStart, isStop⟩ :=
    isPlaced_of_mem_occurrencesFrom occurs
  obtain ⟨read, rfl⟩ := leavesSuffix _ _ _ _ isMatch
  refine ⟨before ++ read, _, _, unread, (List.append_assoc _ _ _).symm, ?_, isMatch⟩
  rw [isStop, isStart, byteLength_append, byteLength_append]
  omega

/-! ## The first occurrence -/

/-- A pattern that is absent in front of a place is found first at that place or behind it. -/
theorem Absent.breakFrom?_append
    (absent : Absent pattern text rest)
    (previous : Option Char) :
    breakFrom? pattern previous (text ++ rest) =
      (breakFrom? pattern (text.getLast?.or previous) rest).map
        fun (before, captured, after) => (text ++ before, captured, after) := by
  induction text generalizing previous with
  | nil =>
      simp
  | cons character later inductionHypothesis =>
      rw [List.cons_append, breakFrom?, getLast?_cons_or]
      simp only [absent.1 previous, inductionHypothesis absent.2, Option.map_map]
      rfl

/-- A match at the start of a text is the first one. -/
theorem breakFrom?_eq_some
    {previous : Option Char}
    {captured : α}
    (notEmpty : text ≠ [])
    (isMatch : pattern previous text = some (captured, rest)) :
    breakFrom? pattern previous text = some ([], captured, rest) := by
  obtain ⟨character, later, rfl⟩ := List.exists_cons_of_ne_nil notEmpty
  rw [breakFrom?, isMatch]

/-- An absent pattern does not break a text. -/
theorem Absent.break?_eq_none
    (absent : Absent pattern text []) :
    break? pattern text = none := by
  have searched := absent.breakFrom?_append none
  rw [List.append_nil, breakFrom?] at searched
  exact searched

/-- What is found first stands at a place where the pattern matches. -/
theorem exists_place_of_breakFrom?
    {previous : Option Char}
    {before after : Text}
    {captured : α}
    (isFound : breakFrom? pattern previous text = some (before, captured, after)) :
    ∃ place,
      text = before ++ place ∧ place ≠ [] ∧
        pattern (before.getLast?.or previous) place = some (captured, after) := by
  induction text generalizing previous before with
  | nil =>
      contradiction
  | cons character later inductionHypothesis =>
      rw [breakFrom?] at isFound
      cases isMatch : pattern previous (character :: later) with
      | some result =>
          rw [isMatch] at isFound
          cases isFound
          exact ⟨character :: later, rfl, List.cons_ne_nil _ _, isMatch⟩
      | none =>
          simp only [isMatch, Option.map_eq_some_iff] at isFound
          obtain ⟨⟨between, _, _⟩, isLater, isSame⟩ := isFound
          cases isSame
          obtain ⟨place, rfl, notEmpty, isPlace⟩ := inductionHypothesis isLater
          exact ⟨place, rfl, notEmpty, getLast?_cons_or character between previous ▸ isPlace⟩

/-- Nothing is found exactly if the pattern matches at no place. -/
theorem breakFrom?_eq_none_iff
    {previous : Option Char} :
    breakFrom? pattern previous text = none ↔
      ∀ before place, text = before ++ place → place ≠ [] →
        pattern (before.getLast?.or previous) place = none := by
  constructor
  · intro notFound before place isText notEmpty
    induction text generalizing previous before with
    | nil =>
        exact absurd (List.append_eq_nil_iff.mp isText.symm).2 notEmpty
    | cons character later inductionHypothesis =>
        rw [breakFrom?] at notFound
        split at notFound
        · contradiction
        · rename_i noMatch
          cases before with
          | nil =>
              rw [← show character :: later = place from isText]
              exact noMatch
          | cons first between =>
              obtain ⟨rfl, isLater⟩ := List.cons.inj isText
              rw [getLast?_cons_or]
              exact inductionHypothesis (Option.map_eq_none_iff.mp notFound) between isLater
  · intro noMatch
    cases isFound : breakFrom? pattern previous text with
    | none =>
        rfl
    | some found =>
        obtain ⟨place, isText, notEmpty, isMatch⟩ := exists_place_of_breakFrom? isFound
        rw [noMatch _ _ isText notEmpty] at isMatch
        contradiction

/-- What is found first was captured at a place. -/
theorem exists_place_of_first?
    {captured : α}
    (isFirst : first? pattern text = some captured) :
    ∃ before place after,
      text = before ++ place ∧ pattern before.getLast? place = some (captured, after) := by
  obtain ⟨⟨before, _, after⟩, isFound, rfl⟩ := Option.map_eq_some_iff.mp isFirst
  obtain ⟨place, isText, -, isMatch⟩ := exists_place_of_breakFrom? isFound
  rw [Option.or_none] at isMatch
  exact ⟨before, place, after, isText, isMatch⟩

/-- Nothing is found exactly if the pattern matches at no place. -/
theorem first?_eq_none_iff :
    first? pattern text = none ↔
      ∀ before place, text = before ++ place → place ≠ [] →
        pattern before.getLast? place = none := by
  rw [first?, Option.map_eq_none_iff, break?, breakFrom?_eq_none_iff]
  simp only [Option.or_none]

/-- Whether a pattern is absent from a text whatever follows it. -/
def Misses (pattern : Pattern α) (text : Text) : Prop :=
  ∀ rest, Absent pattern text rest

/-- A pattern that misses two texts misses both together. -/
theorem Misses.append
    {first second : Text}
    (missesFirst : pattern.Misses first)
    (missesSecond : pattern.Misses second) :
    pattern.Misses (first ++ second) := fun rest =>
  (missesFirst (second ++ rest)).append (missesSecond rest)

/-- A pattern that misses texts and a separator misses the joined text. -/
theorem Misses.joinWith
    {separator : Text}
    {texts : List Text}
    (missesSeparator : pattern.Misses separator)
    (missesAll : ∀ text ∈ texts, pattern.Misses text) :
    pattern.Misses (joinWith separator texts) := by
  induction texts with
  | nil =>
      intro rest
      trivial
  | cons text later inductionHypothesis =>
      obtain ⟨missesFirst, missesLater⟩ := List.forall_mem_cons.mp missesAll
      cases later with
      | nil =>
          exact missesFirst
      | cons next others =>
          exact (missesFirst.append missesSeparator).append (inductionHypothesis missesLater)

/-! ## Patterns that start with a word -/

/-- Whether every match starts with a word, and what follows the word goes on in some way. -/
def Begins (pattern : Pattern α) (word : Text) (goesOn : Text → Prop) : Prop :=
  ∀ previous text result,
    pattern previous text = some result → ∃ rest, text = word ++ rest ∧ goesOn rest

variable {word : Text} {goesOn : Text → Prop}

/-- A pattern is absent if at no place its word stands with a text behind it that goes on. -/
theorem Begins.absent
    (begins : pattern.Begins word goesOn)
    (fails : ∀ place, place <:+ text → place ≠ [] →
      ∀ behind, place ++ rest = word ++ behind → ¬ goesOn behind) :
    pattern.Absent text rest := by
  induction text with
  | nil =>
      trivial
  | cons character later inductionHypothesis =>
      refine ⟨fun previous => ?_, inductionHypothesis ?_⟩
      · cases isMatch : pattern previous (character :: (later ++ rest)) with
        | none =>
            rfl
        | some result =>
            obtain ⟨behind, whole, isContinued⟩ := begins _ _ _ isMatch
            exact absurd isContinued
              (fails (character :: later) List.suffix_rfl (List.cons_ne_nil _ _) behind whole)
      · intro place isPlace
        exact fails place (isPlace.trans (List.suffix_cons character later))

/-- Without its first letter the word does not stand in a stretch. -/
theorem Begins.misses_of_head
    {first : Char}
    {more : Text}
    (begins : pattern.Begins (first :: more) goesOn)
    (lacksFirst : first ∉ text) :
    pattern.Misses text := fun rest => by
  refine begins.absent fun place isPlace notEmpty behind whole => ?_
  obtain ⟨character, later, rfl⟩ := List.exists_cons_of_ne_nil notEmpty
  obtain ⟨rfl, -⟩ := List.cons.inj whole
  exact absurd (isPlace.subset List.mem_cons_self) lacksFirst

/-- A stretch that lacks the word ends in front of a character that the word lacks. -/
theorem Begins.absent_of_not_infix
    {stop : Char}
    (begins : pattern.Begins word goesOn)
    (lacksWord : ¬ word <:+: text)
    (lacksStop : stop ∉ word)
    (rest : Text) :
    pattern.Absent text (stop :: rest) := by
  refine begins.absent fun place isPlace _ behind whole => ?_
  obtain ⟨between, rfl, -⟩ := exists_between lacksStop whole
  exact absurd ((List.prefix_append word between).isInfix.trans isPlace.isInfix) lacksWord

/-- No match goes on with a character of the stretch, and none ends with the stretch. -/
theorem Begins.absent_of_stops
    {stops : Char → Prop}
    {stop : Char}
    (begins : pattern.Begins word goesOn)
    (notOn : ∀ character later, stops character → ¬ goesOn (character :: later))
    (allStop : ∀ character ∈ text, stops character)
    (lacksStop : stop ∉ word)
    (noneEnds : stops stop ∨ ¬ word <:+ text)
    (rest : Text) :
    pattern.Absent text (stop :: rest) := by
  refine begins.absent fun place isPlace _ behind whole => ?_
  obtain ⟨between, rfl, rfl⟩ := exists_between lacksStop whole
  cases between with
  | nil =>
      rw [List.append_nil] at isPlace
      rcases noneEnds with isStop | notSuffix
      · exact notOn stop rest isStop
      · exact absurd isPlace notSuffix
  | cons character later =>
      apply notOn
      exact allStop character (isPlace.subset (by simp))

/-! ## Replacing -/

/-- What belongs to the last occurrence is left out. -/
theorem replaceFrom_append
    (pattern : Pattern Text)
    (previous : Option Char)
    (passed rest : Text) :
    replaceFrom pattern previous passed.length (passed ++ rest) =
      replaceFrom pattern (passed.getLast?.or previous) 0 rest := by
  induction passed generalizing previous with
  | nil =>
      rfl
  | cons character later inductionHypothesis =>
      rw [List.cons_append, List.length_cons, replaceFrom, inductionHypothesis, getLast?_cons_or]

/-- A character at which nothing matches is kept. -/
theorem replaceFrom_cons_of_none
    {pattern : Pattern Text}
    {previous : Option Char}
    {character : Char}
    {later : Text}
    (noMatch : pattern previous (character :: later) = none) :
    replaceFrom pattern previous 0 (character :: later) =
      character :: replaceFrom pattern (some character) 0 later := by
  rw [replaceFrom]
  simp only [noMatch]

/-- What is matched gives way to its replacement. -/
theorem replaceFrom_of_some
    {pattern : Pattern Text}
    {previous : Option Char}
    {matched rest replacement : Text}
    (notEmpty : matched ≠ [])
    (isMatch : pattern previous (matched ++ rest) = some (replacement, rest)) :
    replaceFrom pattern previous 0 (matched ++ rest) =
      replacement ++ replaceFrom pattern (matched.getLast?.or previous) 0 rest := by
  obtain ⟨character, later, rfl⟩ := List.exists_cons_of_ne_nil notEmpty
  rw [List.cons_append] at isMatch ⊢
  have isPassed : (later ++ rest).length - rest.length = later.length := by
    rw [List.length_append, Nat.add_sub_cancel]
  rw [replaceFrom]
  simp only [isMatch, isPassed, replaceFrom_append, getLast?_cons_or]

end Pattern

end Text

end ComponentPages
