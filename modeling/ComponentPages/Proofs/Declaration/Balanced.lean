import ComponentPages.Declaration.Extraction
import ComponentPages.Proofs.Declaration.AnchorPlace
import ComponentPages.Proofs.Source.Complete
import ComponentPages.Proofs.Source.Scope
import ComponentPages.Proofs.Source.Closed

namespace ComponentPages

/-!
# Extraction from balanced text

Declarations and builder calls are found by patterns that do not know what stands in a literal, and
every scope is read from its brace on as if nothing stood in front of it. Where the text as a whole
is balanced and the brace stands outside literals, this reading follows that of the whole, only at
another depth, so the scope is closed. An extraction from balanced text therefore fails only at a
brace in a literal.
-/

/-! ## Scopes in balanced text -/

namespace Scope

/-- A reading below the top level that is not so at the end of a text comes to the closer. -/
private theorem exists_contentFrom?_of_after
    {reading : Reading}
    {text : Text}
    (isOpen : 0 < reading.depth)
    (isClosed : (reading.after text).depth ≤ 0) :
    ∃ content, contentFrom? reading text = some content := by
  induction text generalizing reading with
  | nil =>
      have stillOpen : reading.depth ≤ 0 := isClosed
      omega
  | cons character rest inductionHypothesis =>
      rw [contentFrom?]
      split
      · exact ⟨[], rfl⟩
      · rename_i goesOn
        have staysOpen : 0 < (reading.next character).depth := by
          cases isRole : reading.role character with
          | closer =>
              have notZero : (reading.next character).depth ≠ 0 :=
                fun isZero => goesOn ⟨isRole, isZero⟩
              simp only [Reading.next, isRole] at notZero ⊢
              omega
          | opener =>
              simp only [Reading.next, isRole]
              omega
          | literal | plain =>
              simp only [Reading.next, isRole]
              exact isOpen
        obtain ⟨content, found⟩ := inductionHypothesis staysOpen isClosed
        exact ⟨character :: content, by rw [found, Option.map_some]⟩

/-- A brace of balanced text that stands outside literals opens a scope that is closed. -/
theorem exists_content?_of_balanced
    {before inside : Text}
    (balanced : Balanced 0 false (before ++ '{' :: inside))
    (outside : ¬ StandsInLiteral before) :
    ∃ content, content? ('{' :: inside) = some content := by
  simp only [StandsInLiteral, not_forall, not_not] at outside
  obtain ⟨change, last, complete⟩ := outside
  have isBefore := complete.after 0
  rw [Int.zero_add] at isBefore
  -- The depth at the brace is not below that at the end of the whole text.
  have along := (balanced.along 0).of_append_right
  obtain ⟨escaped, isEnd⟩ := balanced.exists_after 0
  rw [Int.natCast_zero, Int.add_zero] at along isEnd
  rw [isBefore] at along
  have notNegative : 0 ≤ change := along.1.1
  rw [Reading.after_append, isBefore, Reading.after, List.foldl_cons,
    Reading.next_opener (by decide), ← Reading.after] at isEnd
  have completeInside : Complete false inside (0 - (change + 1)) escaped :=
    (Reading.complete_of_after inside).1 isEnd
  have isInside := completeInside.after 1
  rw [content?, if_pos (by decide)]
  refine exists_contentFrom?_of_after (by decide) ?_
  rw [isInside]
  dsimp only
  omega

end Scope

/-! ## Where declarations and calls open -/

/-- Whether delimiters that do not match up were found at a brace of a text whose scope is not
closed. -/
def UnbalancedScope.StandsAtBrace (fault : UnbalancedScope) (text : Text) : Prop :=
  ∃ before inside,
    text = before ++ '{' :: inside ∧ before.byteLength = fault.offset ∧
      Scope.content? ('{' :: inside) = none

namespace Anchor

/-- The body of an anchor starts with a brace of the text. -/
theorem exists_brace_of_mem_allOf
    {text : Text}
    {anchor : Anchor}
    (isAnchor : anchor ∈ allOf text) :
    ∃ before inside, text = before ++ '{' :: inside ∧ before.byteLength = anchor.bodyStart := by
  obtain ⟨before, gap, between, inside, rfl, stands⟩ := exists_stands_of_mem_allOf isAnchor
  refine ⟨before ++ anchor.written gap between, inside, ?_, stands.isBodyStart⟩
  rw [List.append_assoc]

end Anchor

/-- The configuration of a call that is not closed starts with a brace of the text. -/
private theorem BuilderCall.standsAtBrace_of_configuration?
    {text : Text}
    {call : Nat}
    {fault : UnbalancedScope}
    (failed : configuration? text call = .error fault) :
    fault.StandsAtBrace text := by
  unfold configuration? at failed
  split at failed
  · contradiction
  · rename_i comma _
    have whole := Text.cutAt_append (comma + 1) text
    rcases isCut : Text.cutAt (comma + 1) text with ⟨before, after⟩
    rw [isCut] at whole failed
    dsimp only at whole failed
    split at failed
    · rename_i inside isBrace
      split at failed
      · contradiction
      · rename_i notClosed
        obtain rfl := Except.error.inj failed
        obtain ⟨blanks, isAfter⟩ : Text.trimStart after <:+ after :=
          List.dropWhile_suffix Text.isBlank
        rw [isBrace] at isAfter notClosed
        refine ⟨before ++ blanks, inside, ?_, ?_, notClosed⟩
        · rw [List.append_assoc, isAfter, whole]
        · rw [isBrace, ← isAfter, Text.byteLength_append, Text.byteLength_append,
            Nat.add_sub_cancel]
    · contradiction

/-! ## Where extractions fail -/

/-- A fault that reading calls meets is at a brace. -/
private theorem Variant.standsAtBrace_of_ofCallsFrom
    {text : Text}
    {axes : List Variant}
    {calls : List Nat}
    {fault : UnbalancedScope}
    (failed : ofCallsFrom text axes calls = .error fault) :
    fault.StandsAtBrace text := by
  induction calls generalizing axes with
  | nil =>
      contradiction
  | cons call later inductionHypothesis =>
      rw [ofCallsFrom] at failed
      split at failed
      · rename_i callFailed
        obtain rfl := Except.error.inj failed
        exact BuilderCall.standsAtBrace_of_configuration? callFailed
      · exact inductionHypothesis failed
      · exact inductionHypothesis failed

namespace Extraction

/-- A fault that reading anchors meets is at a brace. -/
private theorem standsAtBrace_of_ofAnchors
    {text : Text}
    {anchors : List Anchor}
    {fault : UnbalancedScope}
    (areAnchors : ∀ anchor ∈ anchors, anchor ∈ Anchor.allOf text)
    (failed : ofAnchors text anchors = .error fault) :
    fault.StandsAtBrace text := by
  induction anchors with
  | nil =>
      contradiction
  | cons anchor later inductionHypothesis =>
      obtain ⟨isAnchor, areLater⟩ := List.forall_mem_cons.mp areAnchors
      rw [ofAnchors] at failed
      split at failed
      · rename_i notClosed
        obtain rfl := Except.error.inj failed
        obtain ⟨before, inside, rfl, isOffset⟩ := Anchor.exists_brace_of_mem_allOf isAnchor
        rw [Scope.contentAt?, ← isOffset, Text.from?_byteLength] at notClosed
        exact ⟨before, inside, rfl, isOffset, notClosed⟩
      · cases others : ofAnchors text later with
        | error otherFault =>
            rw [others] at failed
            obtain rfl := Except.error.inj failed
            exact inductionHypothesis areLater others
        | ok declared =>
            rw [others] at failed
            contradiction

/-- An extraction fails at a brace whose scope is not closed. -/
theorem standsAtBrace_of_ofStripped
    {text : Text}
    {fault : UnbalancedScope}
    (failed : ofStripped text = .error fault) :
    fault.StandsAtBrace text := by
  unfold ofStripped at failed
  cases isDeclared : ofAnchors text (Anchor.allOf text) with
  | error anchorFault =>
      rw [isDeclared] at failed
      obtain rfl := Except.error.inj failed
      exact standsAtBrace_of_ofAnchors (fun _ isAnchor => isAnchor) isDeclared
  | ok declared =>
      cases areVariants : Variant.allOf text with
      | error callFault =>
          simp only [isDeclared, areVariants, bind, Except.bind] at failed
          obtain rfl := Except.error.inj failed
          exact Variant.standsAtBrace_of_ofCallsFrom areVariants
      | ok variants =>
          simp only [isDeclared, areVariants, bind, Except.bind] at failed
          contradiction

/--
From a source that is balanced without its comments everything is extracted, unless a declaration
or call opens with a brace that stands in a literal. If the scope of such a brace is not closed when
it is read on its own, the extraction fails there.
-/
theorem ofSource_of_balanced
    {source : Text}
    (balanced : Balanced 0 false (Comment.strip source)) :
    (∃ extraction, ofSource source = .ok extraction) ∨
      ∃ fault before inside,
        ofSource source = .error fault ∧
          Comment.strip source = before ++ '{' :: inside ∧
            before.byteLength = fault.offset ∧
              StandsInLiteral before ∧ Scope.content? ('{' :: inside) = none := by
  cases isExtracted : ofSource source with
  | ok extraction =>
      exact .inl ⟨extraction, rfl⟩
  | error fault =>
      obtain ⟨before, inside, isText, isOffset, notClosed⟩ :=
        standsAtBrace_of_ofStripped isExtracted
      refine .inr ⟨fault, before, inside, rfl, isText, isOffset, ?_, notClosed⟩
      refine Classical.byContradiction fun outside => ?_
      rw [isText] at balanced
      obtain ⟨content, found⟩ := Scope.exists_content?_of_balanced balanced outside
      rw [notClosed] at found
      contradiction

/-! ### Braces in literals -/

/-- A declaration with a closing brace in a literal. -/
def quotedCloser : Text :=
  "interface BoxProps \x7b\n  a: '\x7d'\n\x7d".toList

/-- No opening brace stands in a literal, so everything is extracted. -/
theorem ofSource_of_balanced_quotedCloser :
    Balanced 0 false (Comment.strip quotedCloser) ∧
      ∃ extraction, ofSource quotedCloser = .ok extraction := by
  have isStripped : Comment.strip quotedCloser = quotedCloser :=
    Comment.strip_of_not_mem (by decide)
  have balanced : Balanced 0 false (Comment.strip quotedCloser) := by
    rw [isStripped]
    exact Scope.balanced_of_content? (by decide)
  refine ⟨balanced, ?_⟩
  rcases ofSource_of_balanced balanced with
    isExtracted | ⟨_, before, inside, _, isText, _, inLiteral, _⟩
  · exact isExtracted
  · have areOutside : ∀ place < quotedCloser.length, quotedCloser[place]? = some '{' →
        (Reading.after {} (quotedCloser.take place)).inLiteral = false := by
      decide
    rw [isStripped] at isText
    have isOutside := areOutside before.length (by simp [isText]) (by simp [isText])
    rw [isText, List.take_left, standsInLiteral_iff.mp inLiteral] at isOutside
    contradiction

/-- A declaration, and the head of another one in a literal. -/
def quotedHead : Text :=
  "interface BoxProps \x7b\n  a: string\n\x7d\nconst hint = 'interface FooProps \x7b';".toList

/-- The source is balanced, but the scope of the head in the literal is read from the inside. -/
theorem ofSource_quotedHead :
    Balanced 0 false (Comment.strip quotedHead) ∧
      ofSource quotedHead = .error ⟨"FooProps".toList, 68⟩ := by
  have isStripped : Comment.strip quotedHead = quotedHead :=
    Comment.strip_of_not_mem (by decide)
  have anchors : Anchor.allOf quotedHead =
      Anchor.ofForm .interface quotedHead ++ Anchor.ofForm .alias quotedHead :=
    List.mergeSort_of_pairwise (by decide)
  rw [ofSource, isStripped, ofStripped, anchors]
  refine ⟨Scope.balanced_of_content? (by decide), ?_⟩
  decide

end Extraction

end ComponentPages
