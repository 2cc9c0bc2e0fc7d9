import ComponentPages.Source.Reading
import Mathlib.Tactic.Common

namespace ComponentPages

/-!
# Balanced text

Whether source text is balanced is told from the text alone, from left to right. Quoted literals
are passed over as a whole; a quote right behind a backslash neither opens nor closes one. All
delimiters belong to one family: an opener adds one to the number of delimiters that are open, a
closer takes one away and needs one that is open, and at the end none is left.

A reading that starts in front of balanced text has, behind it, the depth that the text accounts
for, and inside it never comes below that depth.
-/

/-! ## Literals and balanced text -/

/--
What stands in a literal in front of the quote that closes it. The quote itself stands there only
right behind a backslash, and the last character is no backslash. `escaped` tells whether a
backslash precedes the text.
-/
inductive LiteralBody (quote : Char) : (escaped : Bool) → Text → Prop where
  | nil : LiteralBody quote false []
  | cons {escaped : Bool} {character : Char} {rest : Text} :
      (character = quote → escaped = true) →
      LiteralBody quote (character == '\\') rest →
      LiteralBody quote escaped (character :: rest)

/--
Text that closes `depth` delimiters that are open in front of it and all delimiters that it opens
itself. `escaped` tells whether a backslash precedes the text.
-/
inductive Balanced : (depth : Nat) → (escaped : Bool) → Text → Prop where
  | nil {escaped : Bool} : Balanced 0 escaped []
  | plain {depth : Nat} {escaped : Bool} {character : Char} {rest : Text} :
      isOpener character = false →
      isCloser character = false →
      (isQuote character = true → escaped = true) →
      Balanced depth (character == '\\') rest →
      Balanced depth escaped (character :: rest)
  | opener {depth : Nat} {escaped : Bool} {character : Char} {rest : Text} :
      isOpener character = true →
      Balanced (depth + 1) false rest →
      Balanced depth escaped (character :: rest)
  | closer {depth : Nat} {escaped : Bool} {character : Char} {rest : Text} :
      isCloser character = true →
      Balanced depth false rest →
      Balanced (depth + 1) escaped (character :: rest)
  | literal {depth : Nat} {quote : Char} {inside rest : Text} :
      isQuote quote = true →
      LiteralBody quote false inside →
      Balanced depth false rest →
      Balanced depth false (quote :: (inside ++ quote :: rest))

/-! ## One character -/

/-- An opener is no closer, no quote and no backslash. -/
theorem kind_of_isOpener
    {character : Char}
    (isOpening : isOpener character = true) :
    isCloser character = false ∧ isQuote character = false ∧ (character == '\\') = false := by
  simp only [isOpener, Bool.or_eq_true, beq_iff_eq] at isOpening
  rcases isOpening with (rfl | rfl) | rfl <;> decide

/-- A closer is no opener, no quote and no backslash. -/
theorem kind_of_isCloser
    {character : Char}
    (isClosing : isCloser character = true) :
    isOpener character = false ∧ isQuote character = false ∧ (character == '\\') = false := by
  simp only [isCloser, Bool.or_eq_true, beq_iff_eq] at isClosing
  rcases isClosing with (rfl | rfl) | rfl <;> decide

/-- A quote is no delimiter and no backslash. -/
theorem kind_of_isQuote
    {character : Char}
    (isQuoting : isQuote character = true) :
    isOpener character = false ∧ isCloser character = false ∧ (character == '\\') = false := by
  simp only [isQuote, Bool.or_eq_true, beq_iff_eq] at isQuoting
  rcases isQuoting with (rfl | rfl) | rfl <;> decide

namespace Reading

variable {depth : Int} {escaped : Bool} {character quote : Char}

private theorem isQuote_and_not_escaped
    (opensNothing : isQuote character = true → escaped = true) :
    (isQuote character && !escaped) = false := by
  cases isQuoting : isQuote character with
  | false =>
      rfl
  | true =>
      simp [opensNothing isQuoting]

/-- A character outside literals that is no delimiter and opens no literal. -/
theorem role_plain
    (notOpener : isOpener character = false)
    (notCloser : isCloser character = false)
    (opensNothing : isQuote character = true → escaped = true) :
    role ⟨depth, none, escaped⟩ character = .plain := by
  simp [role, inLiteral, isQuote_and_not_escaped opensNothing, notOpener, notCloser]

/--
Outside literals a character that is no delimiter and opens no literal changes nothing but escaping.
-/
theorem next_plain
    (notOpener : isOpener character = false)
    (notCloser : isCloser character = false)
    (opensNothing : isQuote character = true → escaped = true) :
    next ⟨depth, none, escaped⟩ character = ⟨depth, none, character == '\\'⟩ := by
  simp only [next, role_plain notOpener notCloser opensNothing, quoteAfter,
    isQuote_and_not_escaped opensNothing, Bool.false_eq_true, if_false]

/-- Outside literals an opener plays the part of one. -/
theorem role_opener
    (isOpening : isOpener character = true) :
    role ⟨depth, none, escaped⟩ character = .opener := by
  obtain ⟨-, notQuote, -⟩ := kind_of_isOpener isOpening
  simp [role, inLiteral, notQuote, isOpening]

/-- Outside literals an opener adds a level. -/
theorem next_opener
    (isOpening : isOpener character = true) :
    next ⟨depth, none, escaped⟩ character = ⟨depth + 1, none, false⟩ := by
  obtain ⟨-, notQuote, notBackslash⟩ := kind_of_isOpener isOpening
  simp [next, role_opener isOpening, quoteAfter, notQuote, notBackslash]

/-- Outside literals a closer plays the part of one. -/
theorem role_closer
    (isClosing : isCloser character = true) :
    role ⟨depth, none, escaped⟩ character = .closer := by
  obtain ⟨notOpener, notQuote, -⟩ := kind_of_isCloser isClosing
  simp [role, inLiteral, notQuote, notOpener, isClosing]

/-- Outside literals a closer takes a level away. -/
theorem next_closer
    (isClosing : isCloser character = true) :
    next ⟨depth, none, escaped⟩ character = ⟨depth - 1, none, false⟩ := by
  obtain ⟨-, notQuote, notBackslash⟩ := kind_of_isCloser isClosing
  simp [next, role_closer isClosing, quoteAfter, notQuote, notBackslash]

/-- A quote belongs to the literal that it opens. -/
theorem role_quote
    (isQuoting : isQuote character = true) :
    role ⟨depth, none, false⟩ character = .literal := by
  simp [role, inLiteral, isQuoting]

/-- A quote that is not escaped opens a literal. -/
theorem next_quote
    (isQuoting : isQuote character = true) :
    next ⟨depth, none, false⟩ character = ⟨depth, some character, false⟩ := by
  simp [next, role_quote isQuoting, quoteAfter, isQuoting, (kind_of_isQuote isQuoting).2.2]

/-- What stands in a literal belongs to it. -/
theorem role_inside :
    role ⟨depth, some quote, escaped⟩ character = .literal := by
  simp [role, inLiteral]

/-- A literal goes on up to its own quote that is not escaped. -/
theorem next_inside
    (staysOpen : character = quote → escaped = true) :
    next ⟨depth, some quote, escaped⟩ character = ⟨depth, some quote, character == '\\'⟩ := by
  have notClosed : ¬ (character = quote && !escaped) = true := by
    simp only [Bool.and_eq_true, decide_eq_true_eq, Bool.not_eq_true', not_and]
    intro isSame
    simp [staysOpen isSame]
  simp only [next, role_inside, quoteAfter, if_neg notClosed]

/-- A literal ends at its own quote. -/
theorem next_closingQuote
    (isQuoting : isQuote quote = true) :
    next ⟨depth, some quote, false⟩ quote = ⟨depth, none, false⟩ := by
  simp [next, role_inside, quoteAfter, (kind_of_isQuote isQuoting).2.2]

/-! ## Walking through a text -/

/-- Whether something holds of every character of a text with the reading in front of it. -/
def Along (holds : Reading → Char → Prop) : Reading → Text → Prop
  | _, [] => True
  | reading, character :: rest =>
      holds reading character ∧ Along holds (reading.next character) rest

variable {holds holdsMore : Reading → Char → Prop} {reading : Reading}

/-- A text is read piece by piece. -/
theorem after_append
    (reading : Reading)
    (first second : Text) :
    reading.after (first ++ second) = (reading.after first).after second :=
  List.foldl_append

/-- What holds along two pieces holds along both together. -/
theorem Along.append
    {first second : Text}
    (alongFirst : Along holds reading first)
    (alongSecond : Along holds (reading.after first) second) :
    Along holds reading (first ++ second) := by
  induction first generalizing reading with
  | nil =>
      exact alongSecond
  | cons character rest inductionHypothesis =>
      exact ⟨alongFirst.1, inductionHypothesis alongFirst.2 alongSecond⟩

/-- What holds along a text holds along its later piece. -/
theorem Along.of_append_right
    {first second : Text}
    (along : Along holds reading (first ++ second)) :
    Along holds (reading.after first) second := by
  induction first generalizing reading with
  | nil =>
      exact along
  | cons character rest inductionHypothesis =>
      exact inductionHypothesis along.2

/-- What follows character by character follows along a text. -/
theorem Along.imp
    {text : Text}
    (along : Along holds reading text)
    (implies : ∀ reading character, holds reading character → holdsMore reading character) :
    Along holdsMore reading text := by
  induction text generalizing reading with
  | nil =>
      trivial
  | cons character rest inductionHypothesis =>
      exact ⟨implies _ _ along.1, inductionHypothesis along.2⟩

/-- Two things that hold along a text hold along it together. -/
theorem Along.and
    {text : Text}
    (along : Along holds reading text)
    (alongMore : Along holdsMore reading text) :
    Along (fun reading character => holds reading character ∧ holdsMore reading character) reading
      text := by
  induction text generalizing reading with
  | nil =>
      trivial
  | cons character rest inductionHypothesis =>
      exact ⟨⟨along.1, alongMore.1⟩, inductionHypothesis along.2 alongMore.2⟩

/-- Something holds along a text if it holds wherever the text is split in front of a character. -/
theorem along_iff
    {text : Text} :
    Along holds reading text ↔
      ∀ before character after,
        text = before ++ character :: after → holds (reading.after before) character := by
  constructor
  · rintro along before character after rfl
    exact along.of_append_right.1
  · intro holdsAtEach
    induction text generalizing reading with
    | nil =>
        trivial
    | cons character rest inductionHypothesis =>
        refine ⟨holdsAtEach [] character rest rfl, inductionHypothesis ?_⟩
        rintro before other after rfl
        exact holdsAtEach (character :: before) other after rfl

/-- Inside a literal a reading stays as it is, up to the closing quote. -/
theorem after_literalBody
    {inside : Text}
    (isQuoting : isQuote quote = true)
    (isBody : LiteralBody quote escaped inside) :
    after ⟨depth, some quote, escaped⟩ (inside ++ [quote]) = ⟨depth, none, false⟩ := by
  induction isBody with
  | nil =>
      exact next_closingQuote isQuoting
  | cons staysOpen _ inductionHypothesis =>
      rw [List.cons_append, after, List.foldl_cons, next_inside staysOpen]
      exact inductionHypothesis

/-- Everything in a literal is read inside it, the closing quote included. -/
theorem along_literalBody
    {inside : Text}
    (isBody : LiteralBody quote escaped inside) :
    Along (fun reading _ => reading.inLiteral = true ∧ reading.depth = depth)
      ⟨depth, some quote, escaped⟩ (inside ++ [quote]) := by
  induction isBody with
  | nil =>
      exact ⟨⟨rfl, rfl⟩, trivial⟩
  | cons staysOpen _ inductionHypothesis =>
      refine ⟨⟨rfl, rfl⟩, ?_⟩
      rw [next_inside staysOpen]
      exact inductionHypothesis

/-- Behind text without backslashes no backslash precedes. -/
theorem escaped_after
    {reading : Reading}
    {text : Text}
    (notEscaped : reading.escaped = false)
    (noBackslash : '\\' ∉ text) :
    (reading.after text).escaped = false := by
  induction text generalizing reading with
  | nil =>
      exact notEscaped
  | cons character rest inductionHypothesis =>
      obtain ⟨notFirst, notLater⟩ := List.ne_and_not_mem_of_not_mem_cons noBackslash
      refine inductionHypothesis ?_ notLater
      simpa [next] using Ne.symm notFirst

end Reading

/-! ## Readings of balanced text -/

namespace Balanced

variable {depth : Nat} {escaped : Bool} {text : Text}

/-- Behind balanced text the depth is that in front of it less what the text closes. -/
theorem exists_after
    (balanced : Balanced depth escaped text)
    (base : Int) :
    ∃ escapedAfter,
      Reading.after ⟨base + depth, none, escaped⟩ text = ⟨base, none, escapedAfter⟩ := by
  induction balanced with
  | @nil escaped =>
      exact ⟨escaped, by simp [Reading.after]⟩
  | plain notOpener notCloser opensNothing _ inductionHypothesis =>
      rw [Reading.after, List.foldl_cons,
        Reading.next_plain notOpener notCloser opensNothing]
      exact inductionHypothesis
  | @opener depth _ _ _ isOpening _ inductionHypothesis =>
      rw [Reading.after, List.foldl_cons, Reading.next_opener isOpening]
      rwa [Int.natCast_add, ← Int.add_assoc] at inductionHypothesis
  | @closer depth _ _ _ isClosing _ inductionHypothesis =>
      have lower : base + ((depth + 1 : Nat) : Int) - 1 = base + depth := by
        omega
      rw [Reading.after, List.foldl_cons, Reading.next_closer isClosing, lower]
      exact inductionHypothesis
  | @literal depth quote inside rest isQuoting isBody _ inductionHypothesis =>
      rw [List.append_cons, Reading.after, List.foldl_cons, Reading.next_quote isQuoting,
        ← Reading.after, Reading.after_append, Reading.after_literalBody isQuoting isBody]
      exact inductionHypothesis

/-- Inside balanced text the depth never comes below the depth behind it, and a closer is above. -/
theorem along
    (balanced : Balanced depth escaped text)
    (base : Int) :
    Reading.Along
      (fun reading character =>
        base ≤ reading.depth ∧ (reading.role character = .closer → base < reading.depth))
      ⟨base + depth, none, escaped⟩ text := by
  induction balanced with
  | nil =>
      trivial
  | plain notOpener notCloser opensNothing _ inductionHypothesis =>
      refine ⟨⟨by simp only; omega, ?_⟩, ?_⟩
      · rw [Reading.role_plain notOpener notCloser opensNothing]
        nofun
      · rw [Reading.next_plain notOpener notCloser opensNothing]
        exact inductionHypothesis
  | @opener depth _ _ _ isOpening _ inductionHypothesis =>
      refine ⟨⟨by simp only; omega, ?_⟩, ?_⟩
      · rw [Reading.role_opener isOpening]
        nofun
      · rw [Reading.next_opener isOpening]
        rwa [Int.natCast_add, ← Int.add_assoc] at inductionHypothesis
  | @closer depth _ _ _ isClosing _ inductionHypothesis =>
      have lower : base + ((depth + 1 : Nat) : Int) - 1 = base + depth := by
        omega
      refine ⟨⟨by simp only; omega, fun _ => by simp only; omega⟩, ?_⟩
      rw [Reading.next_closer isClosing, lower]
      exact inductionHypothesis
  | @literal depth quote inside rest isQuoting isBody _ inductionHypothesis =>
      refine ⟨⟨by simp only; omega, ?_⟩, ?_⟩
      · rw [Reading.role_quote isQuoting]
        nofun
      · rw [Reading.next_quote isQuoting, List.append_cons]
        refine Reading.Along.append ?_ ?_
        · have alongInside : Reading.Along
              (fun reading _ => reading.inLiteral = true ∧ reading.depth = base + depth)
              ⟨base + depth, some quote, false⟩ (inside ++ [quote]) :=
            Reading.along_literalBody isBody
          refine alongInside.imp ?_
          rintro reading character ⟨isInside, isDepth⟩
          refine ⟨by omega, fun isCloser => ?_⟩
          simp [Reading.role, isInside] at isCloser
        · rw [Reading.after_literalBody isQuoting isBody]
          exact inductionHypothesis

/-- Balanced text can be put in front of balanced text if no backslash is left to count. -/
theorem append_of_after
    {base : Int}
    {more : Text}
    {moreDepth : Nat}
    (balanced : Balanced depth escaped text)
    (isAfter : (Reading.after ⟨base + depth, none, escaped⟩ text).escaped = false)
    (moreBalanced : Balanced moreDepth false more) :
    Balanced (depth + moreDepth) escaped (text ++ more) := by
  induction balanced with
  | @nil escaped =>
      have notEscaped : escaped = false := isAfter
      rwa [notEscaped, Nat.zero_add, List.nil_append]
  | plain notOpener notCloser opensNothing _ inductionHypothesis =>
      rw [Reading.after, List.foldl_cons, Reading.next_plain notOpener notCloser opensNothing]
        at isAfter
      exact .plain notOpener notCloser opensNothing (inductionHypothesis isAfter)
  | @opener depth _ _ _ isOpening _ inductionHypothesis =>
      rw [Reading.after, List.foldl_cons, Reading.next_opener isOpening] at isAfter
      rw [Int.natCast_add, ← Int.add_assoc] at inductionHypothesis
      have restBalanced := inductionHypothesis isAfter
      rw [Nat.add_right_comm] at restBalanced
      exact .opener isOpening restBalanced
  | @closer depth _ _ _ isClosing _ inductionHypothesis =>
      have lower : base + ((depth + 1 : Nat) : Int) - 1 = base + depth := by
        omega
      rw [Reading.after, List.foldl_cons, Reading.next_closer isClosing, lower] at isAfter
      rw [Nat.add_right_comm]
      exact .closer isClosing (inductionHypothesis isAfter)
  | @literal depth quote inside rest isQuoting isBody _ inductionHypothesis =>
      rw [List.append_cons, Reading.after, List.foldl_cons, Reading.next_quote isQuoting,
        ← Reading.after, Reading.after_append, Reading.after_literalBody isQuoting isBody]
        at isAfter
      rw [List.cons_append, List.append_assoc, List.cons_append]
      exact .literal isQuoting isBody (inductionHypothesis isAfter)

/-- Balanced text without backslashes can be put in front of balanced text. -/
theorem append
    {more : Text}
    {moreDepth : Nat}
    (balanced : Balanced depth false text)
    (noBackslash : '\\' ∉ text)
    (moreBalanced : Balanced moreDepth false more) :
    Balanced (depth + moreDepth) false (text ++ more) := by
  have notEscaped : (Reading.after ⟨0 + depth, none, false⟩ text).escaped = false :=
    Reading.escaped_after rfl noBackslash
  exact balanced.append_of_after notEscaped moreBalanced

end Balanced

end ComponentPages
