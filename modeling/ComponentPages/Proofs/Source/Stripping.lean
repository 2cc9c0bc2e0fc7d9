import ComponentPages.Declaration.Extraction
import ComponentPages.Proofs.Source.DefaultMarker

namespace ComponentPages

/-!
# Stripping again

Stripped text has no comments but default markers, so stripping it again changes nothing. The two
runs stay in step: in front of each part of the text they agree on the depth and on the literal that
is open. Only where a comment was taken out can they differ, on whether a backslash precedes, and
what stands there is a line break or a blank, for which that does not count.
-/

namespace Reading

variable {reading : Reading} {character : Char}

/-- For a character that is no quote it does not count whether a backslash precedes. -/
theorem next_unescaped
    (outside : reading.inLiteral = false)
    (noQuote : isQuote character = false) :
    next { reading with escaped := false } character = reading.next character := by
  obtain ⟨depth, quote, escaped⟩ := reading
  obtain rfl : quote = none := by
    simpa [inLiteral] using outside
  simp [next, role, quoteAfter, inLiteral, noQuote]

/-- Outside literals a blank only makes that no backslash precedes. -/
theorem next_space
    (outside : reading.inLiteral = false) :
    reading.next ' ' = { reading with escaped := false } := by
  obtain ⟨depth, quote, escaped⟩ := reading
  obtain rfl : quote = none := by
    simpa [inLiteral] using outside
  exact next_plain (by decide) (by decide) fun isQuoting => absurd isQuoting (by decide)

end Reading

namespace Comment

variable {reading : Reading} {text : Text}

/-! ## One part of a text -/

/-- A slash that starts no comment is kept. -/
theorem stripFrom_slash
    {rest : Text}
    (startsNone : ∀ next ∈ rest.head?, next ≠ '/' ∧ next ≠ '*') :
    stripFrom reading ('/' :: rest) = '/' :: stripFrom (reading.next '/') rest := by
  cases isInside : reading.inLiteral with
  | true =>
      exact stripFrom_cons (.inl isInside) rest
  | false =>
      have isOutside : ¬ (reading.inLiteral || '/' != '/') = true := by
        simp [isInside]
      conv_lhs => unfold stripFrom
      rw [if_neg isOutside]
      split
      · exact absurd rfl (startsNone '/' rfl).1
      · exact absurd rfl (startsNone '*' rfl).2
      · rfl

/-- The first character of a text stays its first one, unless it is a slash. -/
theorem head?_stripFrom
    (noSlash : ∀ first ∈ text.head?, first ≠ '/') :
    (stripFrom reading text).head? = text.head? := by
  cases text with
  | nil =>
      rw [stripFrom]
  | cons first rest =>
      rw [stripFrom_cons (.inr (noSlash first rfl))]
      rfl

/-- Whether a backslash precedes does not count in front of a character that is no quote. -/
private theorem stripFrom_unescaped
    (outside : reading.inLiteral = false)
    (plainHead : ∀ first ∈ text.head?, isQuote first = false ∧ first ≠ '/') :
    stripFrom { reading with escaped := false } text = stripFrom reading text := by
  cases text with
  | nil =>
      rw [stripFrom, stripFrom]
  | cons first rest =>
      obtain ⟨noQuote, noSlash⟩ := plainHead first rfl
      rw [stripFrom_cons (.inr noSlash), stripFrom_cons (.inr noSlash),
        Reading.next_unescaped outside noQuote]

/-- A block comment ends where it ended when other text stands behind it, if it had an end or
nothing stands there. -/
theorem blockRest_append
    {other : Text}
    (staysOpen : (blockRest text).2 = [] → other = []) :
    blockRest ((blockRest text).1 ++ other) = ((blockRest text).1, other) := by
  cases found : Text.breakOn? text "*/".toList with
  | none =>
      have isOpen : blockRest text = (text, []) := by
        rw [blockRest, found]
      rw [isOpen] at staysOpen ⊢
      rw [staysOpen rfl, List.append_nil, isOpen]
  | some parts =>
      obtain ⟨inside, after⟩ := parts
      have isClosed : blockRest text = (inside ++ "*/".toList, after) := by
        rw [blockRest, found]
      rw [isClosed, List.append_assoc, blockRest, Text.breakOn?_append (by decide) found]

/-! ## The whole text -/

/-- A second run that starts like the first one finds nothing to take out. -/
theorem stripFrom_stripFrom
    (reading : Reading)
    (text : Text) :
    stripFrom reading (stripFrom reading text) = stripFrom reading text := by
  fun_induction stripFrom reading text with
  | case1 reading =>
      rw [stripFrom]
  | case2 reading character rest isKept inductionHypothesis =>
      have keeps : reading.inLiteral = true ∨ character ≠ '/' := by
        simpa using isKept
      rw [stripFrom_cons keeps, inductionHypothesis]
  | case3 reading character isOutside inside inductionHypothesis =>
      obtain ⟨outside, -⟩ : reading.inLiteral = false ∧ character = '/' := by
        simpa using isOutside
      have isBreak : ∀ first ∈ (inside.dropWhile (· != '\n')).head?, first = '\n' := by
        intro first isHead
        simpa using Text.stops_dropWhile (· != '\n') inside first isHead
      have noSlash : ∀ first ∈ (inside.dropWhile (· != '\n')).head?, first ≠ '/' := by
        intro first isHead
        rw [isBreak first isHead]
        decide
      refine (stripFrom_unescaped outside fun first isHead => ?_).symm.trans inductionHypothesis
      rw [head?_stripFrom noSlash] at isHead
      rw [isBreak first isHead]
      decide
  | case4 reading character isOutside inside inductionHypothesis =>
      obtain ⟨outside, -⟩ : reading.inLiteral = false ∧ character = '/' := by
        simpa using isOutside
      by_cases isMarker : isDefaultMarker ('/' :: '*' :: (blockRest inside).1) = true
      · -- The marker stands in the stripped text as it stood in the text.
        have isKept : residue ('/' :: '*' :: (blockRest inside).1) =
            '/' :: '*' :: (blockRest inside).1 := by
          rw [residue, if_pos isMarker]
        have staysOpen : (blockRest inside).2 = [] →
            stripFrom { reading with escaped := false } (blockRest inside).2 = [] := by
          intro isOpen
          rw [isOpen, stripFrom]
        rw [isKept, List.cons_append, List.cons_append, stripFrom_block outside,
          blockRest_append staysOpen, isKept, inductionHypothesis]
        rfl
      · -- The blank that stands for the comment starts no other one.
        have isBlank : residue ('/' :: '*' :: (blockRest inside).1) = [' '] := by
          rw [residue, if_neg isMarker]
        rw [isBlank, List.singleton_append, stripFrom_cons (.inr (by decide)),
          Reading.next_space outside, inductionHypothesis]
  | case5 reading character isOutside rest noLine noBlock inductionHypothesis =>
      obtain ⟨-, rfl⟩ : reading.inLiteral = false ∧ character = '/' := by
        simpa using isOutside
      have startsNone : ∀ next ∈ rest.head?, next ≠ '/' ∧ next ≠ '*' := by
        intro next isHead
        obtain ⟨later, rfl⟩ := List.head?_eq_some_iff.mp isHead
        refine ⟨?_, ?_⟩
        · rintro rfl
          exact noLine later rfl
        · rintro rfl
          exact noBlock later rfl
      rw [stripFrom_slash, inductionHypothesis]
      rw [head?_stripFrom fun next isHead => (startsNone next isHead).1]
      exact startsNone

end Comment

/-- Stripping comments again changes nothing, so what a source declares, and where it fails to be
read, is that of its stripped form. -/
theorem Extraction.ofSource_strip (source : Text) :
    Comment.strip (Comment.strip source) = Comment.strip source ∧
      Extraction.ofSource (Comment.strip source) = Extraction.ofSource source ∧
        Extraction.variantsOfSource (Comment.strip source) =
          Extraction.variantsOfSource source := by
  have strippedOnce : Comment.strip (Comment.strip source) = Comment.strip source :=
    Comment.stripFrom_stripFrom {} source
  refine ⟨strippedOnce, ?_, ?_⟩
  · rw [Extraction.ofSource, Extraction.ofSource, strippedOnce]
  · rw [Extraction.variantsOfSource, Extraction.variantsOfSource, strippedOnce]

end ComponentPages
