import ComponentPages.Proofs.Source.Balance

namespace ComponentPages

/-!
# Complete text

Text is complete if every literal that opens in it is closed in it. What it comes to is told from
the text alone: how many more delimiters it opens than it closes outside its literals, which may
be less than none, and whether a backslash is left that counts for the character behind it. A
reading that starts outside literals is outside them again exactly behind complete text.
-/

/--
Text whose literals are all closed. It adds `change` to the number of delimiters that are open.
`escaped` tells whether a backslash precedes the text, and `last` whether one precedes what stands
behind it.
-/
inductive Complete : (escaped : Bool) → Text → (change : Int) → (last : Bool) → Prop where
  | nil {escaped : Bool} : Complete escaped [] 0 escaped
  | plain {escaped last : Bool} {character : Char} {rest : Text} {change : Int} :
      isOpener character = false →
      isCloser character = false →
      (isQuote character = true → escaped = true) →
      Complete (character == '\\') rest change last →
      Complete escaped (character :: rest) change last
  | opener {escaped last : Bool} {character : Char} {rest : Text} {change : Int} :
      isOpener character = true →
      Complete false rest change last →
      Complete escaped (character :: rest) (change + 1) last
  | closer {escaped last : Bool} {character : Char} {rest : Text} {change : Int} :
      isCloser character = true →
      Complete false rest change last →
      Complete escaped (character :: rest) (change - 1) last
  | literal {quote : Char} {inside rest : Text} {change : Int} {last : Bool} :
      isQuote quote = true →
      LiteralBody quote false inside →
      Complete false rest change last →
      Complete false (quote :: (inside ++ quote :: rest)) change last

namespace Complete

variable {escaped last : Bool} {text : Text} {change : Int}

/-- Behind complete text a reading is outside literals, at the depth that the text accounts for. -/
theorem after
    (complete : Complete escaped text change last)
    (base : Int) :
    Reading.after ⟨base, none, escaped⟩ text = ⟨base + change, none, last⟩ := by
  induction complete generalizing base with
  | nil =>
      rw [Int.add_zero]
      rfl
  | plain notOpener notCloser opensNothing _ inductionHypothesis =>
      rw [Reading.after, List.foldl_cons, Reading.next_plain notOpener notCloser opensNothing]
      exact inductionHypothesis base
  | @opener _ _ _ _ change isOpening _ inductionHypothesis =>
      have higher : base + (change + 1) = base + 1 + change := by
        omega
      rw [Reading.after, List.foldl_cons, Reading.next_opener isOpening, higher]
      exact inductionHypothesis (base + 1)
  | @closer _ _ _ _ change isClosing _ inductionHypothesis =>
      have lower : base + (change - 1) = base - 1 + change := by
        omega
      rw [Reading.after, List.foldl_cons, Reading.next_closer isClosing, lower]
      exact inductionHypothesis (base - 1)
  | literal isQuoting isBody _ inductionHypothesis =>
      rw [List.append_cons, Reading.after, List.foldl_cons, Reading.next_quote isQuoting,
        ← Reading.after, Reading.after_append, Reading.after_literalBody isQuoting isBody]
      exact inductionHypothesis base

end Complete

namespace Reading

variable {base depth : Int} {escaped last : Bool} {quote : Char} {text : Text}

/-- Outside literals the next character opens a literal, is a delimiter, or is neither. -/
theorem opensLiteral_or_delimiter_or_plain
    (escaped : Bool)
    (character : Char) :
    (isQuote character = true ∧ escaped = false) ∨
      isOpener character = true ∨ isCloser character = true ∨
        (isOpener character = false ∧ isCloser character = false ∧
          (isQuote character = true → escaped = true)) := by
  cases isOpener character <;> cases isCloser character <;> cases isQuote character <;>
    cases escaped <;> simp

private theorem kind_of_role_plain
    {character : Char}
    (isPlain : role ⟨depth, none, escaped⟩ character = .plain) :
    isOpener character = false ∧ isCloser character = false ∧
      (isQuote character = true → escaped = true) := by
  rcases opensLiteral_or_delimiter_or_plain escaped character with
    ⟨isQuoting, rfl⟩ | isOpening | isClosing | isKind
  · cases (role_quote isQuoting).symm.trans isPlain
  · cases (role_opener isOpening).symm.trans isPlain
  · cases (role_closer isClosing).symm.trans isPlain
  · exact isKind

/--
Text behind which a reading is outside literals is complete, up to the literal in which it starts.
-/
theorem complete_of_after (text : Text) :
    (∀ {base depth : Int} {escaped last : Bool},
      after ⟨base, none, escaped⟩ text = ⟨depth, none, last⟩ →
        Complete escaped text (depth - base) last) ∧
    (∀ {base depth : Int} {quote : Char} {escaped last : Bool},
      isQuote quote = true →
      after ⟨base, some quote, escaped⟩ text = ⟨depth, none, last⟩ →
        ∃ inside rest,
          text = inside ++ quote :: rest ∧ LiteralBody quote escaped inside ∧
            Complete false rest (depth - base) last) := by
  -- The characters in a literal are gone through one by one before their literal is known.
  induction text with
  | nil =>
      constructor
      · intro base depth escaped last isAfter
        obtain ⟨rfl, -, rfl⟩ := (Reading.mk.injEq ..).mp isAfter
        rw [Int.sub_self]
        exact .nil
      · intro base depth quote escaped last _ isAfter
        cases isAfter
  | cons character rest inductionHypothesis =>
      obtain ⟨outside, inLiteral⟩ := inductionHypothesis
      constructor
      · intro base depth escaped last isAfter
        rw [after, List.foldl_cons, ← after] at isAfter
        rcases opensLiteral_or_delimiter_or_plain escaped character with
          ⟨isQuoting, rfl⟩ | isOpening | isClosing | ⟨notOpener, notCloser, opensNothing⟩
        · rw [next_quote isQuoting] at isAfter
          obtain ⟨inside, later, rfl, isBody, complete⟩ := inLiteral isQuoting isAfter
          exact .literal isQuoting isBody complete
        · rw [next_opener isOpening] at isAfter
          have complete : Complete escaped (character :: rest) (depth - (base + 1) + 1) last :=
            .opener isOpening (outside isAfter)
          rwa [show depth - (base + 1) + 1 = depth - base by omega] at complete
        · rw [next_closer isClosing] at isAfter
          have complete : Complete escaped (character :: rest) (depth - (base - 1) - 1) last :=
            .closer isClosing (outside isAfter)
          rwa [show depth - (base - 1) - 1 = depth - base by omega] at complete
        · rw [next_plain notOpener notCloser opensNothing] at isAfter
          exact .plain notOpener notCloser opensNothing (outside isAfter)
      · intro base depth quote escaped last isQuoting isAfter
        rw [after, List.foldl_cons, ← after] at isAfter
        by_cases closes : character = quote ∧ escaped = false
        · obtain ⟨rfl, rfl⟩ := closes
          rw [next_closingQuote isQuoting] at isAfter
          exact ⟨[], rest, rfl, .nil, outside isAfter⟩
        · have staysOpen : character = quote → escaped = true := by
            simpa using closes
          rw [next_inside staysOpen] at isAfter
          obtain ⟨inside, later, rfl, isBody, complete⟩ := inLiteral isQuoting isAfter
          exact ⟨character :: inside, later, rfl, .cons staysOpen isBody, complete⟩

/-- A reading is outside literals behind a text exactly if the text is complete. -/
theorem after_eq_iff_complete :
    after ⟨base, none, escaped⟩ text = ⟨base + change, none, last⟩ ↔
      Complete escaped text change last := by
  constructor
  · intro isAfter
    have complete := (complete_of_after text).1 isAfter
    rwa [show base + change - base = change by omega] at complete
  · intro complete
    exact complete.after base

end Reading

/-! ## Places in literals -/

/-- Whether what stands behind a text stands in a literal, one that opens in the text. -/
def StandsInLiteral (before : Text) : Prop :=
  ∀ change last, ¬ Complete false before change last

/-- A place stands in a literal if the reading in front of it is in one. -/
theorem standsInLiteral_iff
    {before : Text} :
    StandsInLiteral before ↔ (Reading.after {} before).inLiteral = true := by
  rcases isAfter : Reading.after {} before with ⟨depth, quote, last⟩
  cases quote with
  | none =>
      have complete : Complete false before (depth - 0) last :=
        (Reading.complete_of_after before).1 isAfter
      exact iff_of_false (fun inLiteral => inLiteral _ _ complete) Bool.false_ne_true
  | some quote =>
      refine iff_of_true (fun change last complete => ?_) rfl
      cases (complete.after 0).symm.trans isAfter

/-! ## Characters at the top level -/

/--
Whether a character stands outside literals and delimiters behind a text: the text is complete and
closes what it opens, with the character and without it. So the character is no delimiter, and no
quote of a literal.
-/
def StandsAtTop (before : Text) (character : Char) : Prop :=
  (∃ last, Complete false before 0 last) ∧ ∃ last, Complete false (before ++ [character]) 0 last

/-- A character at the top level is one that a reading takes for a plain one at depth zero. -/
theorem standsAtTop_iff
    {before : Text}
    {character : Char} :
    StandsAtTop before character ↔
      (Reading.after {} before).role character = .plain ∧ (Reading.after {} before).depth = 0 := by
  constructor
  · rintro ⟨⟨last, complete⟩, ⟨lastBehind, completeBehind⟩⟩
    have isAfter := complete.after 0
    have isBehind := completeBehind.after 0
    rw [Reading.after_append, isAfter] at isBehind
    rw [isAfter]
    refine ⟨?_, rfl⟩
    rcases Reading.opensLiteral_or_delimiter_or_plain last character with
      ⟨isQuoting, rfl⟩ | isOpening | isClosing | ⟨notOpener, notCloser, opensNothing⟩
    · cases (Reading.next_quote isQuoting).symm.trans isBehind
    · cases (Reading.next_opener isOpening).symm.trans isBehind
    · cases (Reading.next_closer isClosing).symm.trans isBehind
    · exact Reading.role_plain notOpener notCloser opensNothing
  · rintro ⟨isPlain, atTop⟩
    rcases isAfter : Reading.after {} before with ⟨depth, quote, last⟩
    rw [isAfter] at isPlain atTop
    obtain rfl : depth = 0 := atTop
    cases quote with
    | some quote =>
        rw [Reading.role_inside] at isPlain
        contradiction
    | none =>
        obtain ⟨notOpener, notCloser, opensNothing⟩ := Reading.kind_of_role_plain isPlain
        have isBehind :
            Reading.after {} (before ++ [character]) = ⟨0, none, character == '\\'⟩ := by
          rw [Reading.after_append, isAfter]
          exact Reading.next_plain notOpener notCloser opensNothing
        exact ⟨⟨last, Reading.after_eq_iff_complete.mp isAfter⟩, _,
          Reading.after_eq_iff_complete.mp isBehind⟩

end ComponentPages
