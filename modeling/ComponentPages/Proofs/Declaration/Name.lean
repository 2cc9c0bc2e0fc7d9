import ComponentPages.Declaration.Property
import ComponentPages.Proofs.Source.Closed
import ComponentPages.Proofs.Text.Pattern
import ComponentPages.Proofs.Text.Word
import Mathlib.Data.List.DropRight
import Mathlib.Data.List.TakeWhile

namespace ComponentPages

/-!
# Names

A name is written as an identifier, as a run of digits or between quotes. An identifier is a
letter, an underscore or a dollar sign with word characters and dollar signs behind it. It holds no
blank and nothing that has a part in literals, delimiters, escapes or comments, and it is read as
far as its characters go.
-/

namespace Text

/-- The characters of identifiers behind the first one. -/
def continuesIdentifier (character : Char) : Bool :=
  isWordCharacter character || character == '$'

/-- A letter, an underscore or a dollar sign, then word characters and dollar signs. -/
structure IsIdentifier (name : Text) : Prop where
  notEmpty : name ≠ []
  starts : ∀ character ∈ name.head?, startsIdentifier character = true
  continues : ∀ character ∈ name, continuesIdentifier character = true

instance (name : Text) : Decidable (IsIdentifier name) :=
  decidable_of_iff
    (name ≠ [] ∧ (∀ character ∈ name.head?, startsIdentifier character = true) ∧
      ∀ character ∈ name, continuesIdentifier character = true)
    ⟨fun ⟨notEmpty, starts, continues⟩ => ⟨notEmpty, starts, continues⟩,
      fun ⟨notEmpty, starts, continues⟩ => ⟨notEmpty, starts, continues⟩⟩

/-! ## The characters -/

/-- No blank continues an identifier. -/
theorem isBlank_eq_false_of_continuesIdentifier
    {character : Char}
    (continues : continuesIdentifier character = true) :
    isBlank character = false := by
  refine Bool.eq_false_iff.mpr fun blank => ?_
  rw [continuesIdentifier, isWordCharacter_eq_false_of_isBlank blank, Bool.false_or,
    beq_iff_eq] at continues
  subst continues
  revert blank
  decide

/-- What starts identifiers continues them. -/
theorem continuesIdentifier_of_startsIdentifier
    {character : Char}
    (starts : startsIdentifier character = true) :
    continuesIdentifier character = true := by
  have isAscii : character.toNat < 128 := by
    simp only [startsIdentifier, Bool.or_eq_true, beq_iff_eq] at starts
    rcases starts with (isLetter | rfl) | rfl
    · exact toNat_lt_of_isAlphanum ((Bool.or_eq_true _ _).mpr (.inl isLetter))
    · decide
    · decide
  exact forall_ascii
    (fun character => startsIdentifier character = true → continuesIdentifier character = true)
    (by decide +kernel) isAscii starts

private theorem isOrdinary_of_startsIdentifier
    {character : Char}
    (starts : startsIdentifier character = true) :
    isOrdinary character = true :=
  isOrdinary_of_kind (by decide) starts

/-- What continues an identifier is no delimiter, quote or mark of a comment. -/
theorem isOrdinary_of_continuesIdentifier
    {character : Char}
    (continues : continuesIdentifier character = true) :
    isOrdinary character = true :=
  isOrdinary_of_kind (by decide) continues

/-- No quote continues an identifier. -/
theorem isQuote_eq_false_of_continuesIdentifier
    {character : Char}
    (continues : continuesIdentifier character = true) :
    isQuote character = false :=
  (isOrdinary_iff.mp (isOrdinary_of_continuesIdentifier continues)).2.2.1

/-- A digit continues identifiers but starts none. -/
theorem kind_of_isDigit
    {digit : Char}
    (isDigit : digit.isDigit = true) :
    isDecimalDigit digit = true ∧ continuesIdentifier digit = true ∧
      startsIdentifier digit = false ∧ isQuote digit = false := by
  have isAscii : digit.toNat < 128 :=
    Nat.lt_of_le_of_lt (Char.isDigit_iff_toNat.mp isDigit).2 (by decide)
  exact forall_ascii
    (fun digit => digit.isDigit = true →
      isDecimalDigit digit = true ∧ continuesIdentifier digit = true ∧
        startsIdentifier digit = false ∧ isQuote digit = false)
    (by decide +kernel) isAscii isDigit

/-! ## Reading identifiers -/

/-- An identifier is read up to the first character that does not continue it. -/
theorem identifierOf?_append
    {continues : Char → Bool}
    {name rest : Text}
    {stop : Char}
    (isIdentifier : IsIdentifier name)
    (allContinue : ∀ character ∈ name, continues character = true)
    (isStop : continues stop = false) :
    identifierOf? continues (name ++ stop :: rest) = some (name, stop :: rest) := by
  obtain ⟨first, later, rfl⟩ := List.exists_cons_of_ne_nil isIdentifier.notEmpty
  obtain ⟨-, laterContinue⟩ := List.forall_mem_cons.mp allContinue
  have stopsThere : ¬ continues stop = true := by
    simp [isStop]
  rw [List.cons_append, identifierOf?, if_pos (isIdentifier.starts first rfl),
    List.takeWhile_append_of_pos laterContinue, List.takeWhile_cons_of_neg stopsThere,
    List.dropWhile_append_of_pos laterContinue, List.dropWhile_cons_of_neg stopsThere,
    List.append_nil]

/-- No identifier is read where none starts. -/
theorem identifierOf?_eq_none
    {first : Char}
    (notStart : startsIdentifier first = false)
    (continues : Char → Bool)
    (rest : Text) :
    identifierOf? continues (first :: rest) = none :=
  if_neg (by simp [notStart])

/-- An identifier is read from its first character as far as the others continue it. -/
theorem identifierOf?_eq_some_iff
    {continues : Char → Bool}
    {text name rest : Text} :
    identifierOf? continues text = some (name, rest) ↔
      ∃ first later,
        text = first :: later ∧
          startsIdentifier first = true ∧
          name = first :: later.takeWhile continues ∧
          rest = later.dropWhile continues := by
  cases text with
  | nil =>
      simp [identifierOf?]
  | cons first later =>
      simp only [identifierOf?, Option.ite_none_right_eq_some, Option.some.injEq, Prod.mk.injEq,
        List.cons.injEq, and_assoc, exists_and_left, exists_eq_left', eq_comm (a := name),
        eq_comm (a := rest)]

/-- What is read as an identifier stands in front of the rest and is ordinary. -/
theorem eq_append_of_identifier?
    {text name rest : Text}
    (isRead : identifier? text = some (name, rest)) :
    text = name ++ rest ∧ ∀ character ∈ name, isOrdinary character = true := by
  obtain ⟨first, later, rfl, starts, rfl, rfl⟩ := identifierOf?_eq_some_iff.mp isRead
  refine ⟨by rw [List.cons_append, List.takeWhile_append_dropWhile], ?_⟩
  intro character member
  rcases List.mem_cons.mp member with rfl | isLater
  · exact isOrdinary_of_startsIdentifier starts
  · exact isOrdinary_of_continuesIdentifier (List.mem_takeWhile_imp isLater)

/-- What is read as an identifier is one. -/
theorem isIdentifier_of_identifier?
    {text name rest : Text}
    (isRead : identifier? text = some (name, rest)) :
    IsIdentifier name := by
  obtain ⟨first, later, rfl, starts, rfl, rfl⟩ := identifierOf?_eq_some_iff.mp isRead
  refine ⟨List.cons_ne_nil _ _, fun other isFirst => ?_, List.forall_mem_cons.mpr ⟨?_, ?_⟩⟩
  · obtain rfl := Option.some.inj isFirst
    exact starts
  · exact continuesIdentifier_of_startsIdentifier starts
  · exact fun character member => List.mem_takeWhile_imp member

/-- An identifier is read as far as it goes. -/
theorem stops_of_identifier?
    {text name rest : Text}
    (isRead : identifier? text = some (name, rest)) :
    Stops continuesIdentifier rest := by
  obtain ⟨first, later, rfl, -, -, rfl⟩ := identifierOf?_eq_some_iff.mp isRead
  exact stops_dropWhile continuesIdentifier later

namespace IsIdentifier

variable {name : Text}

/-- An identifier has no blanks. -/
theorem isBlank_eq_false
    (isIdentifier : IsIdentifier name) :
    ∀ character ∈ name, isBlank character = false := fun character member =>
  isBlank_eq_false_of_continuesIdentifier (isIdentifier.continues character member)

/-- An identifier is closed. -/
theorem isClosed
    (isIdentifier : IsIdentifier name) :
    IsClosed name :=
  .of_ordinary fun character member =>
    isOrdinary_of_continuesIdentifier (isIdentifier.continues character member)

/-- An identifier is read up to a stop. -/
theorem identifier?_append
    {stop : Char}
    (isIdentifier : IsIdentifier name)
    (isStop : continuesIdentifier stop = false)
    (rest : Text) :
    identifier? (name ++ stop :: rest) = some (name, stop :: rest) :=
  identifierOf?_append isIdentifier isIdentifier.continues isStop

/-- An identifier is read in front of what does not continue it. -/
theorem identifier?_append_of_stops
    {rest : Text}
    (isIdentifier : IsIdentifier name)
    (stops : Stops continuesIdentifier rest) :
    identifier? (name ++ rest) = some (name, rest) := by
  obtain ⟨first, later, rfl⟩ := List.exists_cons_of_ne_nil isIdentifier.notEmpty
  obtain ⟨-, laterContinue⟩ := List.forall_mem_cons.mp isIdentifier.continues
  obtain ⟨isTaken, isLeft⟩ := Prod.mk.inj (run_append laterContinue stops)
  rw [List.cons_append, identifier?, identifierOf?, if_pos (isIdentifier.starts first rfl)]
  exact congrArg some (Prod.ext (congrArg (first :: ·) isTaken) isLeft)

end IsIdentifier

/-! ## Runs and quoted names -/

/-- A run is read up to the first character that does not belong to it. -/
theorem run?_append
    {belongs : Char → Bool}
    {text : Text}
    {stop : Char}
    (notEmpty : text ≠ [])
    (allBelong : ∀ character ∈ text, belongs character = true)
    (isStop : belongs stop = false)
    (rest : Text) :
    run? belongs (text ++ stop :: rest) = some (text, stop :: rest) := by
  have stops : Stops belongs (stop :: rest) := by
    intro character isFirst
    exact Option.some.inj isFirst ▸ isStop
  have isRun := run_append allBelong stops
  rw [run?, isRun, (Prod.mk.inj isRun).1]
  exact if_neg fun isEmpty => notEmpty (List.isEmpty_iff.mp isEmpty)

/-- A quoted text is read up to the quote that closes it. -/
theorem quoted?_append
    {quote : Char}
    {inside : Text}
    (lacksQuote : quote ∉ inside)
    (rest : Text) :
    quoted? quote (quote :: (inside ++ [quote]) ++ rest) =
      some (quote :: (inside ++ [quote]), rest) := by
  have areInside : ∀ character ∈ inside, (character != quote) = true := by
    intro character member
    simpa using ne_of_mem_of_not_mem member lacksQuote
  have stopsThere : ¬ (quote != quote) = true := by
    simp
  rw [List.cons_append, List.append_assoc, List.singleton_append, quoted?, if_pos rfl,
    List.dropWhile_append_of_pos areInside, List.takeWhile_append_of_pos areInside,
    List.dropWhile_cons_of_neg (p := (· != quote)) stopsThere,
    List.takeWhile_cons_of_neg (p := (· != quote)) stopsThere, List.append_nil]
  rfl

/-- What is left behind an identifier is the end of its text. -/
theorem identifierOf?_suffix
    {continues : Char → Bool}
    {text name rest : Text}
    (isRead : identifierOf? continues text = some (name, rest)) :
    rest <:+ text := by
  obtain ⟨first, later, rfl, -, -, rfl⟩ := identifierOf?_eq_some_iff.mp isRead
  exact (List.dropWhile_suffix continues).trans (List.suffix_cons first later)

/-- What is left behind a run is the end of its text. -/
theorem run?_suffix
    {belongs : Char → Bool}
    {text front rest : Text}
    (isRead : run? belongs text = some (front, rest)) :
    rest <:+ text := by
  rw [run?] at isRead
  split at isRead
  · contradiction
  · obtain ⟨-, rfl⟩ := Prod.mk.inj (Option.some.inj isRead)
    exact List.dropWhile_suffix belongs

/-- What stands behind a quoted name ends the text that the name is read from. -/
theorem quoted?_suffix
    {quote : Char}
    {text name rest : Text}
    (isRead : quoted? quote text = some (name, rest)) :
    rest <:+ text := by
  cases text with
  | nil =>
      contradiction
  | cons character later =>
      rw [quoted?] at isRead
      split at isRead
      · split at isRead
        · contradiction
        · rename_i closing after isAfter
          obtain ⟨-, rfl⟩ := Prod.mk.inj (Option.some.inj isRead)
          have inLater : closing :: after <:+ later := isAfter ▸ List.dropWhile_suffix _
          exact (List.suffix_cons _ _).trans (inLater.trans (List.suffix_cons _ _))
      · contradiction

/-- A quoted text does not start with another character than its quote. -/
theorem quoted?_eq_none
    {quote first : Char}
    (other : first ≠ quote)
    (rest : Text) :
    quoted? quote (first :: rest) = none :=
  if_neg other

private theorem trimWhile_eq (drop : Char → Bool) (text : Text) :
    text.trimWhile drop = (text.dropWhile drop).rdropWhile drop :=
  rfl

/-- A text without characters of a kind is trimmed already. -/
private theorem trimWhile_eq_self
    {drop : Char → Bool}
    {text : Text}
    (noneDropped : ∀ character ∈ text, drop character = false) :
    text.trimWhile drop = text := by
  have startKept : text.dropWhile drop = text := by
    refine List.dropWhile_eq_self_iff.mpr fun notEmpty => ?_
    simp [noneDropped _ (List.getElem_mem notEmpty)]
  have endKept : text.rdropWhile drop = text := by
    refine List.rdropWhile_eq_self_iff.mpr fun notEmpty => ?_
    simp [noneDropped _ (List.getLast_mem notEmpty)]
  rw [trimWhile_eq, startKept, endKept]

/-- Characters of a kind around a text that has none of them are trimmed off. -/
private theorem trimWhile_between
    {drop : Char → Bool}
    {quote : Char}
    {text : Text}
    (isDropped : drop quote = true)
    (noneDropped : ∀ character ∈ text, drop character = false) :
    trimWhile drop (quote :: (text ++ [quote])) = text := by
  cases text with
  | nil =>
      simp [trimWhile_eq, isDropped]
  | cons first later =>
      have firstKept : ¬ drop first = true := by
        simp [noneDropped first List.mem_cons_self]
      have endKept := trimWhile_eq_self noneDropped
      rw [trimWhile_eq, List.dropWhile_cons_of_neg firstKept] at endKept
      rw [trimWhile_eq, List.dropWhile_cons_of_pos isDropped, List.cons_append,
        List.dropWhile_cons_of_neg firstKept, ← List.cons_append,
        List.rdropWhile_concat_pos _ _ _ isDropped, endKept]

end Text

/-- A name without quotes stays as it is when its quotes are taken off. -/
theorem unquote_eq_self
    {name : Text}
    (noQuotes : ∀ character ∈ name, isQuote character = false) :
    unquote name = name := by
  refine Text.trimWhile_eq_self fun character member => ?_
  have noQuote := noQuotes character member
  simp only [isQuote, Bool.or_eq_false_iff] at noQuote
  simp [noQuote]

/-- A name in quotes is unquoted to the name. -/
theorem unquote_quoted
    {quote : Char}
    {name : Text}
    (isQuoting : quote = '\'' ∨ quote = '\x22')
    (noQuotes : ∀ character ∈ name, isQuote character = false) :
    unquote (quote :: (name ++ [quote])) = name := by
  refine Text.trimWhile_between (by simpa using isQuoting) fun character member => ?_
  have noQuote := noQuotes character member
  simp only [isQuote, Bool.or_eq_false_iff] at noQuote
  simp [noQuote]

end ComponentPages
