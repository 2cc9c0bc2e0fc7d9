import ComponentPages.Proofs.Source.Balance
import ComponentPages.Source.Comments

namespace ComponentPages

/-!
# Closed text

Closed text leaves a reading as it was: it is balanced, has no backslash and starts no comment.
Closed texts can be put behind one another and between delimiters, and stripping comments leaves
them as they are.
-/

/-! ## Literals -/

/-- A text without backslashes and without the quote can stand in a literal. -/
theorem LiteralBody.of_not_mem
    {quote : Char}
    {inside : Text}
    (lacksQuote : quote ∉ inside)
    (noBackslash : '\\' ∉ inside) :
    LiteralBody quote false inside := by
  induction inside with
  | nil =>
      exact .nil
  | cons character rest inductionHypothesis =>
      obtain ⟨notQuote, quoteNotLater⟩ := List.ne_and_not_mem_of_not_mem_cons lacksQuote
      obtain ⟨notFirst, notLater⟩ := List.ne_and_not_mem_of_not_mem_cons noBackslash
      have notBackslash : (character == '\\') = false := by
        simpa using Ne.symm notFirst
      refine .cons (fun isSame => absurd isSame.symm notQuote) ?_
      rw [notBackslash]
      exact inductionHypothesis quoteNotLater notLater

namespace Reading

variable {depth : Int} {quote : Char} {inside : Text}

/-- All of a literal counts as literal. -/
theorem along_literal
    (isQuoting : isQuote quote = true)
    (isBody : LiteralBody quote false inside) :
    Along (fun reading character => reading.role character = .literal)
      ⟨depth, none, false⟩ (quote :: (inside ++ [quote])) := by
  refine ⟨role_quote isQuoting, ?_⟩
  rw [next_quote isQuoting]
  have alongInside : Along
      (fun reading _ => reading.inLiteral = true ∧ reading.depth = depth)
      ⟨depth, some quote, false⟩ (inside ++ [quote]) :=
    along_literalBody isBody
  refine alongInside.imp ?_
  rintro reading character ⟨isInside, -⟩
  simp [role, isInside]

/-- What holds at every reading holds along a text. -/
theorem Along.of_forall
    {holds : Reading → Char → Prop}
    {text : Text}
    (everywhere : ∀ character ∈ text, ∀ reading, holds reading character)
    (reading : Reading) :
    Along holds reading text := by
  induction text generalizing reading with
  | nil =>
      trivial
  | cons character rest inductionHypothesis =>
      obtain ⟨first, later⟩ := List.forall_mem_cons.mp everywhere
      exact ⟨first reading, inductionHypothesis later _⟩

end Reading

/-! ## Closed text -/

/-- Whether a character has no part in literals, delimiters, escapes and comments. -/
def isOrdinary (character : Char) : Bool :=
  !(isOpener character || isCloser character || isQuote character || character == '\\' ||
    character == '/')

/-- An ordinary character is no delimiter, quote, backslash or slash. -/
theorem isOrdinary_iff
    {character : Char} :
    isOrdinary character = true ↔
      isOpener character = false ∧ isCloser character = false ∧ isQuote character = false ∧
        (character == '\\') = false ∧ (character == '/') = false := by
  simp only [isOrdinary, Bool.not_eq_true', Bool.or_eq_false_iff, and_assoc]

/-- A kind of characters to which none of the characters with such a part belongs is ordinary. -/
theorem isOrdinary_of_kind
    {kind : Char → Bool}
    {character : Char}
    (lacksOthers : ∀ other ∈ "\x7b([\x7d)]\x22'\x60\\/".toList, kind other = false)
    (isOfKind : kind character = true) :
    isOrdinary character = true := by
  refine Bool.of_not_eq_false fun notOrdinary => ?_
  simp only [isOrdinary, isOpener, isCloser, isQuote, Bool.not_eq_false', Bool.or_eq_true,
    beq_iff_eq] at notOrdinary
  have isOther : character ∈ "\x7b([\x7d)]\x22'\x60\\/".toList := by
    rcases notOrdinary with ((((((rfl | rfl) | rfl) | ((rfl | rfl) | rfl)) | ((rfl | rfl) | rfl)) |
      rfl) | rfl) <;> decide
  have notOfKind := lacksOthers character isOther
  rw [isOfKind] at notOfKind
  contradiction

/-- Blanks are ordinary. -/
theorem isOrdinary_of_isBlank
    {character : Char}
    (isBlank : Text.isBlank character = true) :
    isOrdinary character = true :=
  isOrdinary_of_kind (by decide) isBlank

/-- Outside literals an ordinary character leaves the depth as it is, and it is no backslash. -/
theorem Reading.next_ordinary
    {depth : Int}
    {escaped : Bool}
    {character : Char}
    (ordinary : isOrdinary character = true) :
    next ⟨depth, none, escaped⟩ character = ⟨depth, none, false⟩ := by
  obtain ⟨notOpener, notCloser, notQuote, notBackslash, -⟩ := isOrdinary_iff.mp ordinary
  rw [next_plain notOpener notCloser (by simp [notQuote]), notBackslash]

/-- Whether no slash stands outside the literals of a text, so that no comment starts there. -/
def StartsNoComment (text : Text) : Prop :=
  ∀ depth, Reading.Along (fun reading character => reading.inLiteral = true ∨ character ≠ '/')
    ⟨depth, none, false⟩ text

/-- Text that is balanced, has no backslash and starts no comment. -/
structure IsClosed (text : Text) : Prop where
  balanced : Balanced 0 false text
  noBackslash : '\\' ∉ text
  startsNoComment : StartsNoComment text

namespace IsClosed

variable {text more : Text}

/-- A reading is behind closed text what it was in front of it. -/
theorem after
    (closed : IsClosed text)
    (depth : Int) :
    Reading.after ⟨depth, none, false⟩ text = ⟨depth, none, false⟩ := by
  obtain ⟨escaped, isAfter⟩ := closed.balanced.exists_after depth
  rw [Int.natCast_zero, Int.add_zero] at isAfter
  have notEscaped : (Reading.after ⟨depth, none, false⟩ text).escaped = false :=
    Reading.escaped_after rfl closed.noBackslash
  rw [isAfter] at notEscaped ⊢
  rw [show escaped = false from notEscaped]

/-- Closed texts one after another are closed. -/
theorem append
    (closed : IsClosed text)
    (moreClosed : IsClosed more) :
    IsClosed (text ++ more) where
  balanced := closed.balanced.append closed.noBackslash moreClosed.balanced
  noBackslash := by
    simp [closed.noBackslash, moreClosed.noBackslash]
  startsNoComment := by
    intro depth
    refine (closed.startsNoComment depth).append ?_
    rw [closed.after]
    exact moreClosed.startsNoComment depth

/-- A text of ordinary characters is closed. -/
theorem of_ordinary
    (areOrdinary : ∀ character ∈ text, isOrdinary character = true) :
    IsClosed text where
  balanced := by
    induction text with
    | nil =>
        exact .nil
    | cons character rest inductionHypothesis =>
        obtain ⟨isFirst, areLater⟩ := List.forall_mem_cons.mp areOrdinary
        obtain ⟨notOpener, notCloser, notQuote, notBackslash, -⟩ := isOrdinary_iff.mp isFirst
        refine .plain notOpener notCloser (fun isQuoting => ?_) ?_
        · rw [notQuote] at isQuoting
          contradiction
        · rw [notBackslash]
          exact inductionHypothesis areLater
  noBackslash member := by
    have isOrdinaryBackslash := areOrdinary _ member
    revert isOrdinaryBackslash
    decide
  startsNoComment depth := by
    refine Reading.Along.of_forall (fun character member reading => .inr ?_) _
    rintro rfl
    have isOrdinarySlash := areOrdinary _ member
    revert isOrdinarySlash
    decide

/-- Blanks are closed. -/
theorem of_blank
    (areBlank : ∀ character ∈ text, Text.isBlank character = true) :
    IsClosed text :=
  of_ordinary fun character member => isOrdinary_of_isBlank (areBlank character member)

/-- A literal is closed. -/
theorem literal
    {quote : Char}
    {inside : Text}
    (isQuoting : isQuote quote = true)
    (lacksQuote : quote ∉ inside)
    (noBackslash : '\\' ∉ inside) :
    IsClosed (quote :: (inside ++ [quote])) where
  balanced := .literal isQuoting (.of_not_mem lacksQuote noBackslash) .nil
  noBackslash := by
    have notQuote : '\\' ≠ quote := by
      rintro rfl
      exact absurd isQuoting (by decide)
    simp [notQuote, noBackslash]
  startsNoComment depth := by
    have isBody := LiteralBody.of_not_mem lacksQuote noBackslash
    refine ⟨.inr ?_, ?_⟩
    · rintro rfl
      exact absurd isQuoting (by decide)
    · rw [Reading.next_quote isQuoting]
      have alongInside : Reading.Along
          (fun reading _ => reading.inLiteral = true ∧ reading.depth = depth)
          ⟨depth, some quote, false⟩ (inside ++ [quote]) :=
        Reading.along_literalBody isBody
      exact alongInside.imp fun _ _ within => .inl within.1

/-- Closed text between delimiters is closed. -/
theorem scope
    {opener closer : Char}
    (opens : isOpener opener = true)
    (closed : IsClosed text)
    (closes : isCloser closer = true) :
    IsClosed (opener :: (text ++ [closer])) where
  balanced := by
    refine .opener opens ?_
    have closerBalanced : Balanced 1 false [closer] := .closer closes .nil
    exact closed.balanced.append closed.noBackslash closerBalanced
  noBackslash := by
    have notOpener : '\\' ≠ opener := by
      rintro rfl
      exact absurd opens (by decide)
    have notCloser : '\\' ≠ closer := by
      rintro rfl
      exact absurd closes (by decide)
    simp [notOpener, notCloser, closed.noBackslash]
  startsNoComment depth := by
    have openerNoSlash : opener ≠ '/' := by
      rintro rfl
      exact absurd opens (by decide)
    have closerNoSlash : closer ≠ '/' := by
      rintro rfl
      exact absurd closes (by decide)
    refine ⟨.inr openerNoSlash, ?_⟩
    rw [Reading.next_opener opens]
    refine (closed.startsNoComment (depth + 1)).append ?_
    exact ⟨.inr closerNoSlash, trivial⟩

/-- Closed texts with a closed separator between them are closed. -/
theorem joinWith
    {separator : Text}
    {texts : List Text}
    (separatorClosed : IsClosed separator)
    (areClosed : ∀ text ∈ texts, IsClosed text) :
    IsClosed (Text.joinWith separator texts) := by
  fun_induction Text.joinWith separator texts with
  | case1 =>
      exact of_ordinary (by simp)
  | case2 text =>
      exact areClosed text (List.mem_singleton_self text)
  | case3 text later _ inductionHypothesis =>
      obtain ⟨isFirst, areLater⟩ := List.forall_mem_cons.mp areClosed
      exact (isFirst.append separatorClosed).append (inductionHypothesis areLater)

end IsClosed

/-! ## Stripping -/

namespace Comment

/-- A character in a literal is kept, and so is one that is no slash. -/
theorem stripFrom_cons
    {reading : Reading}
    {character : Char}
    (isKept : reading.inLiteral = true ∨ character ≠ '/')
    (rest : Text) :
    stripFrom reading (character :: rest) =
      character :: stripFrom (reading.next character) rest := by
  have passes : (reading.inLiteral || character != '/') = true := by
    simpa using isKept
  conv_lhs => unfold stripFrom
  rw [if_pos passes]

/-- Outside literals the end of a block comment is looked for. -/
theorem stripFrom_block
    {reading : Reading}
    (outside : reading.inLiteral = false)
    (inside : Text) :
    stripFrom reading ('/' :: '*' :: inside) =
      residue ('/' :: '*' :: (blockRest inside).1) ++
        stripFrom { reading with escaped := false } (blockRest inside).2 := by
  have isOutside : ¬ (reading.inLiteral || '/' != '/') = true := by
    simp [outside]
  conv_lhs => unfold stripFrom
  rw [if_neg isOutside]
  rfl

/-- A text whose slashes stand in literals is stripped of nothing. -/
theorem stripFrom_eq_self
    {reading : Reading}
    {text : Text}
    (along : reading.Along
      (fun reading character => reading.inLiteral = true ∨ character ≠ '/') text) :
    stripFrom reading text = text := by
  induction text generalizing reading with
  | nil =>
      rw [stripFrom]
  | cons character rest inductionHypothesis =>
      rw [stripFrom_cons along.1, inductionHypothesis along.2]

/-- Stripping leaves text in which no comment starts as it is. -/
theorem strip_eq_self
    {text : Text}
    (startsNoComment : StartsNoComment text) :
    strip text = text :=
  stripFrom_eq_self (startsNoComment 0)

/-- Stripping leaves text without slashes as it is. -/
theorem strip_of_not_mem
    {text : Text}
    (lacksSlash : '/' ∉ text) :
    strip text = text := by
  refine stripFrom_eq_self (.of_forall (fun character member _ => .inr ?_) {})
  rintro rfl
  exact lacksSlash member

end Comment

end ComponentPages
