import ComponentPages.Proofs.Source.Closed
import ComponentPages.Proofs.Text.Blank
import ComponentPages.Source.Division

namespace ComponentPages

/-!
# Divisions

The pieces of a division are stretches without separators at the top level, and what stands between
them are separators at the top level. Two texts behind one another are divided like each of them,
except that the last piece of the first and the first piece of the second are one. So the segments
of closed entries with a comma and a blank between them are the entries.
-/

namespace Division

variable {separates : Char → Bool} {reading : Reading}

/-! ## Separators -/

/-- Whether a character is a separator outside literals at depth zero. -/
def IsSeparator (separates : Char → Bool) (reading : Reading) (character : Char) : Prop :=
  reading.role character = .plain ∧ reading.depth = 0 ∧ separates character = true

/-- Whether a text has no separator at the top level. -/
def Undivided (separates : Char → Bool) (reading : Reading) (text : Text) : Prop :=
  reading.Along (fun reading character => ¬ IsSeparator separates reading character) text

/--
Whether pieces are stretches without separators at the top level, and what stands between them are
separators at the top level.
-/
def Divides (separates : Char → Bool) : Reading → (first : Text) → List (Char × Text) → Prop
  | reading, first, [] => Undivided separates reading first
  | reading, first, (separator, piece) :: later =>
      Undivided separates reading first ∧
        IsSeparator separates (reading.after first) separator ∧
          Divides separates ((reading.after first).next separator) piece later

/-- A character in front of pieces that is no separator belongs to the first of them. -/
theorem Divides.cons
    {character : Char}
    {first : Text}
    {later : List (Char × Text)}
    (noSeparator : ¬ IsSeparator separates reading character)
    (divides : Divides separates (reading.next character) first later) :
    Divides separates reading (character :: first) later := by
  cases later with
  | nil =>
      exact ⟨noSeparator, divides⟩
  | cons behind others =>
      exact ⟨⟨noSeparator, divides.1⟩, divides.2⟩

/-- The pieces of a text divide it. -/
theorem divides_ofTextFrom
    (separates : Char → Bool)
    (reading : Reading)
    (text : Text) :
    Divides separates reading (ofTextFrom separates reading text).first
      (ofTextFrom separates reading text).later := by
  induction text generalizing reading with
  | nil =>
      trivial
  | cons character rest inductionHypothesis =>
      rw [ofTextFrom]
      split
      · rename_i isSeparator
        exact ⟨trivial, isSeparator, inductionHypothesis _⟩
      · rename_i noSeparator
        exact .cons noSeparator (inductionHypothesis _)

/-- The separators and pieces behind the first piece, put together again. -/
def laterText (later : List (Char × Text)) : Text :=
  later.flatMap fun (separator, piece) => separator :: piece

/-- No pieces have no text. -/
@[simp] theorem laterText_nil : laterText [] = [] :=
  rfl

/-- The text of pieces is each separator with its piece. -/
@[simp] theorem laterText_cons
    (separator : Char)
    (piece : Text)
    (later : List (Char × Text)) :
    laterText ((separator, piece) :: later) = separator :: (piece ++ laterText later) :=
  rfl

/-- A division loses nothing. -/
theorem joined_ofTextFrom
    (separates : Char → Bool)
    (reading : Reading)
    (text : Text) :
    (ofTextFrom separates reading text).first ++
      laterText (ofTextFrom separates reading text).later = text := by
  induction text generalizing reading with
  | nil =>
      rfl
  | cons character rest inductionHypothesis =>
      rw [ofTextFrom]
      split
      · exact congrArg (character :: ·) (inductionHypothesis _)
      · exact congrArg (character :: ·) (inductionHypothesis _)

/-- A text that is not divided is one piece. -/
theorem ofTextFrom_of_undivided
    {text : Text}
    (undivided : Undivided separates reading text) :
    ofTextFrom separates reading text = ⟨text, []⟩ := by
  induction text generalizing reading with
  | nil =>
      rfl
  | cons character rest inductionHypothesis =>
      rw [ofTextFrom, inductionHypothesis undivided.2]
      exact if_neg undivided.1

/-! ## Texts behind one another -/

/-- A division with another one behind it: the pieces that meet are one. -/
def extend (first : Text) : List (Char × Text) → Division → Division
  | [], next => ⟨first ++ next.first, next.later⟩
  | (separator, piece) :: later, next =>
      ⟨first, (separator, (extend piece later next).first) :: (extend piece later next).later⟩

/-- A character in front of a division goes to its first piece. -/
theorem extend_cons
    (character : Char)
    (first : Text)
    (later : List (Char × Text))
    (next : Division) :
    extend (character :: first) later next = push character (extend first later next) := by
  cases later <;> rfl

/-- Two texts behind one another are divided each by itself. -/
theorem ofTextFrom_append
    (separates : Char → Bool)
    (reading : Reading)
    (text more : Text) :
    ofTextFrom separates reading (text ++ more) =
      extend (ofTextFrom separates reading text).first (ofTextFrom separates reading text).later
        (ofTextFrom separates (reading.after text) more) := by
  induction text generalizing reading with
  | nil =>
      rfl
  | cons character rest inductionHypothesis =>
      rw [List.cons_append, ofTextFrom, ofTextFrom, inductionHypothesis]
      split
      · rfl
      · exact (extend_cons _ _ _ _).symm

/-- Text without separators in front of another one belongs to the first piece. -/
theorem ofTextFrom_append_of_undivided
    {text : Text}
    (undivided : Undivided separates reading text)
    (more : Text) :
    ofTextFrom separates reading (text ++ more) =
      ⟨text ++ (ofTextFrom separates (reading.after text) more).first,
        (ofTextFrom separates (reading.after text) more).later⟩ := by
  rw [ofTextFrom_append, ofTextFrom_of_undivided undivided, extend]

/-! ## Text without separators -/

/-- A text without separators is not divided. -/
theorem Undivided.of_forall
    {text : Text}
    (noSeparators : ∀ character ∈ text, separates character = false)
    (reading : Reading) :
    Undivided separates reading text := by
  refine Reading.Along.of_forall (fun character member reading isSeparator => ?_) reading
  have separatesIt := isSeparator.2.2
  rw [noSeparators character member] at separatesIt
  contradiction

/-- A literal is not divided. -/
theorem Undivided.literal
    {quote : Char}
    {inside : Text}
    {depth : Int}
    (isQuoting : isQuote quote = true)
    (isBody : LiteralBody quote false inside) :
    Undivided separates ⟨depth, none, false⟩ (quote :: (inside ++ [quote])) := by
  refine (Reading.along_literal isQuoting isBody).imp fun reading character isLiteral => ?_
  rintro ⟨isPlain, -⟩
  rw [isLiteral] at isPlain
  contradiction

/-- What stands between delimiters is below the top level. -/
theorem Undivided.scope
    {opener closer : Char}
    {text : Text}
    (opens : isOpener opener = true)
    (balanced : Balanced 0 false text)
    (closes : isCloser closer = true) :
    Undivided separates {} (opener :: (text ++ [closer])) := by
  refine ⟨?_, ?_⟩
  · rintro ⟨isPlain, -⟩
    rw [Reading.role_opener opens] at isPlain
    contradiction
  · rw [Reading.next_opener opens]
    obtain ⟨escaped, isAfter⟩ := balanced.exists_after (0 + 1)
    refine Reading.Along.append ?_ ?_
    · refine (balanced.along (0 + 1)).imp fun reading character within => ?_
      rintro ⟨-, atTop, -⟩
      omega
    · rw [Int.natCast_zero, Int.add_zero] at isAfter
      rw [isAfter]
      refine ⟨?_, trivial⟩
      rintro ⟨isPlain, -⟩
      rw [Reading.role_closer closes] at isPlain
      contradiction

/-- Undivided texts one after another are not divided if the first is closed. -/
theorem Undivided.append
    {text more : Text}
    (undivided : Undivided separates {} text)
    (closed : IsClosed text)
    (moreUndivided : Undivided separates {} more) :
    Undivided separates {} (text ++ more) := by
  refine Reading.Along.append undivided ?_
  rw [closed.after]
  exact moreUndivided

end Division

/-! ## Segments of entries -/

/-- An entry of a list: closed text without separators at the top level, and without blanks at its
ends. -/
structure IsEntry (separates : Char → Bool) (text : Text) : Prop where
  closed : IsClosed text
  undivided : Division.Undivided separates {} text
  notEmpty : text ≠ []
  trimmed : Text.trim text = text

private theorem Division.segments_cons
    {first : Text}
    {behind : Char × Text}
    {later : List (Char × Text)}
    (notBlank : Text.trim first ≠ []) :
    segments ⟨first, behind :: later⟩ = Text.trim first :: segments ⟨behind.2, later⟩ := by
  simp [segments, pieces, notBlank]

/-- The first segment is the first piece, trimmed, if it is not blank. -/
theorem Division.head?_segments
    {first : Text}
    (notBlank : Text.trim first ≠ [])
    (later : List (Char × Text)) :
    (segments ⟨first, later⟩).head? = some (Text.trim first) := by
  simp [segments, pieces, notBlank]

/-- A comma and a blank end a piece, and the blank belongs to the next one. -/
theorem Division.ofTextFrom_comma
    {separates : Char → Bool}
    (comma : separates ',' = true)
    (noBlank : ∀ character, Text.isBlank character = true → separates character = false)
    (text : Text) :
    ofTextFrom separates {} (',' :: ' ' :: text) =
      ⟨[],
        (',', ' ' :: (ofTextFrom separates {} text).first) ::
          (ofTextFrom separates {} text).later⟩ := by
  have blank : ofTextFrom separates {} (' ' :: text) =
      push ' ' (ofTextFrom separates {} text) := by
    refine if_neg ?_
    rw [noBlank ' ' Text.isBlank_space]
    simp
  have separator : ofTextFrom separates {} (',' :: ' ' :: text) =
      pushSeparator ',' (ofTextFrom separates {} (' ' :: text)) :=
    if_pos ⟨rfl, rfl, comma⟩
  rw [separator, blank]
  rfl

/-- Blanks around entries with a comma and a blank between them do not matter: the segments are the
entries. -/
theorem Division.segments_entries
    {separates : Char → Bool}
    {entries : List Text}
    {before after : Text}
    (comma : separates ',' = true)
    (noBlank : ∀ character, Text.isBlank character = true → separates character = false)
    (areEntries : ∀ entry ∈ entries, IsEntry separates entry)
    (beforeBlank : ∀ character ∈ before, Text.isBlank character = true)
    (afterBlank : ∀ character ∈ after, Text.isBlank character = true) :
    segments
        ⟨before ++ (ofTextFrom separates {} (Text.joinWith ", ".toList entries ++ after)).first,
          (ofTextFrom separates {} (Text.joinWith ", ".toList entries ++ after)).later⟩ =
      entries := by
  have afterDivision : ofTextFrom separates {} after = ⟨after, []⟩ :=
    ofTextFrom_of_undivided
      (.of_forall (fun character member => noBlank character (afterBlank character member)) {})
  fun_induction Text.joinWith ", ".toList entries generalizing before with
  | case1 =>
      have allBlank : Text.trim (before ++ after) = [] := by
        refine Text.trim_eq_nil_iff.mpr fun character member => ?_
        exact (List.mem_append.mp member).elim (beforeBlank character) (afterBlank character)
      simp [afterDivision, segments, pieces, allBlank]
  | case2 entry =>
      have isEntry := areEntries entry (List.mem_singleton_self entry)
      rw [ofTextFrom_append_of_undivided isEntry.undivided, isEntry.closed.after, afterDivision]
      simp [segments, pieces, Text.trim_append_blanks beforeBlank afterBlank, isEntry.trimmed,
        isEntry.notEmpty]
  | case3 entry later notLast inductionHypothesis =>
      obtain ⟨isEntry, areLater⟩ := List.forall_mem_cons.mp areEntries
      have others := inductionHypothesis areLater (List.forall_mem_singleton.mpr Text.isBlank_space)
      have notBlank : Text.trim (before ++ entry) ≠ [] := by
        rw [Text.trim_append beforeBlank, isEntry.trimmed]
        exact isEntry.notEmpty
      rw [List.append_assoc, List.append_assoc,
        ofTextFrom_append_of_undivided isEntry.undivided, isEntry.closed.after]
      have behind := ofTextFrom_comma comma noBlank (Text.joinWith ", ".toList later ++ after)
      rw [show ", ".toList = [',', ' '] from rfl] at behind others ⊢
      simp only [List.cons_append, List.nil_append] at behind others ⊢
      rw [behind, List.append_nil, segments_cons notBlank, Text.trim_append beforeBlank,
        isEntry.trimmed, others]

/-- The segments of entries that have a comma and a blank between them are the entries. -/
theorem topLevelSegments_entries
    {separates : Char → Bool}
    {entries : List Text}
    {before after : Text}
    (comma : separates ',' = true)
    (noBlank : ∀ character, Text.isBlank character = true → separates character = false)
    (areEntries : ∀ entry ∈ entries, IsEntry separates entry)
    (beforeBlank : ∀ character ∈ before, Text.isBlank character = true)
    (afterBlank : ∀ character ∈ after, Text.isBlank character = true) :
    topLevelSegments separates (before ++ (Text.joinWith ", ".toList entries ++ after)) =
      entries := by
  have undivided : Division.Undivided separates {} before :=
    .of_forall (fun character member => noBlank character (beforeBlank character member)) {}
  rw [topLevelSegments, Division.ofText, Division.ofTextFrom_append_of_undivided undivided,
    (IsClosed.of_blank beforeBlank).after]
  exact Division.segments_entries comma noBlank areEntries beforeBlank afterBlank

/-! ## The first separator -/

/-- A search passes over text in which neither the needle nor the end of the scope stands. -/
theorem breakTopLevelFrom?_append
    {needle : Char}
    {reading : Reading}
    {text : Text}
    (passes : reading.Along
      (fun reading character =>
        (reading.role character = .closer → 0 < reading.depth) ∧
          ¬ (reading.role character = .plain ∧ reading.depth = 0 ∧ character = needle)) text)
    (rest : Text) :
    breakTopLevelFrom? needle reading (text ++ rest) =
      (breakTopLevelFrom? needle (reading.after text) rest).map
        fun (before, after) => (text ++ before, after) := by
  induction text generalizing reading with
  | nil =>
      exact Option.map_id'.symm
  | cons character later inductionHypothesis =>
      obtain ⟨⟨isInside, noNeedle⟩, passesLater⟩ := passes
      have noEnd : ¬ (reading.role character = .closer ∧ reading.depth ≤ 0) := by
        rintro ⟨isCloser, isOutside⟩
        have isDeeper := isInside isCloser
        omega
      rw [List.cons_append, breakTopLevelFrom?, if_neg noEnd, if_neg noNeedle,
        inductionHypothesis passesLater, Option.map_map]
      rfl

end ComponentPages
