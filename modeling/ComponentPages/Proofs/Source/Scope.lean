import ComponentPages.Proofs.Source.Balance
import ComponentPages.Proofs.Text.Offset
import ComponentPages.Source.Scope

namespace ComponentPages

/-!
# Scopes are balanced

A scope has a content exactly if an opening delimiter, balanced text and a closing delimiter stand
at its offset, and then the content is that text. So what stands in front of the opener and behind
the closer does not matter.
-/

namespace Scope

/-! ## What a scan finds is balanced -/

/-- A scan that starts inside a literal goes on behind the quote that closes the literal. -/
theorem contentFrom?_inside
    {depth : Int}
    {quote : Char}
    {escaped : Bool}
    {text content : Text}
    (isQuoting : isQuote quote = true)
    (found : contentFrom? ⟨depth, some quote, escaped⟩ text = some content) :
    ∃ inside rest after,
      text = inside ++ quote :: rest ∧
        content = inside ++ quote :: after ∧
          LiteralBody quote escaped inside ∧
            contentFrom? ⟨depth, none, false⟩ rest = some after := by
  induction text generalizing escaped content with
  | nil =>
      contradiction
  | cons character rest inductionHypothesis =>
      rw [contentFrom?, Reading.role_inside, if_neg (by simp)] at found
      obtain ⟨later, foundLater, rfl⟩ := Option.map_eq_some_iff.mp found
      by_cases closes : character = quote ∧ escaped = false
      · obtain ⟨rfl, rfl⟩ := closes
        rw [Reading.next_closingQuote isQuoting] at foundLater
        exact ⟨[], rest, later, rfl, rfl, .nil, foundLater⟩
      · have staysOpen : character = quote → escaped = true := by
          intro isSame
          simpa [isSame] using closes
        rw [Reading.next_inside staysOpen] at foundLater
        obtain ⟨inside, behind, after, rfl, rfl, isBody, foundBehind⟩ :=
          inductionHypothesis foundLater
        exact ⟨character :: inside, behind, after, rfl, rfl, .cons staysOpen isBody, foundBehind⟩

/-- What a scan finds is balanced, and a closer follows. -/
theorem balanced_of_contentFrom?
    {depth : Nat}
    {escaped : Bool}
    {text content : Text}
    (found : contentFrom? ⟨(depth : Int) + 1, none, escaped⟩ text = some content) :
    ∃ closer after,
      text = content ++ closer :: after ∧
        isCloser closer = true ∧
          Balanced depth escaped content := by
  -- A literal takes any number of characters at once, so the induction is on the length.
  induction number : text.length using Nat.strongRecOn
    generalizing depth escaped text content with
  | _ number inductionHypothesis =>
  subst number
  cases text with
  | nil =>
      contradiction
  | cons character rest =>
      rw [contentFrom?] at found
      by_cases isClosing : isCloser character = true
      · rw [Reading.role_closer isClosing, Reading.next_closer isClosing,
          Int.add_sub_cancel] at found
        cases depth with
        | zero =>
            rw [if_pos ⟨rfl, rfl⟩] at found
            obtain rfl := Option.some.inj found
            exact ⟨character, rest, rfl, isClosing, .nil⟩
        | succ depth =>
            rw [if_neg (by simp only [Int.natCast_add]; omega)] at found
            obtain ⟨later, foundLater, rfl⟩ := Option.map_eq_some_iff.mp found
            obtain ⟨closer, after, rfl, closes, balanced⟩ :=
              inductionHypothesis rest.length (by simp) foundLater rfl
            exact ⟨closer, after, rfl, closes, .closer isClosing balanced⟩
      · have notCloser : isCloser character = false := by
          simpa using isClosing
        by_cases isOpening : isOpener character = true
        · rw [Reading.role_opener isOpening, Reading.next_opener isOpening,
            if_neg (by simp)] at found
          obtain ⟨later, foundLater, rfl⟩ := Option.map_eq_some_iff.mp found
          obtain ⟨closer, after, rfl, closes, balanced⟩ :=
            inductionHypothesis rest.length (by simp) foundLater rfl
          exact ⟨closer, after, rfl, closes, .opener isOpening balanced⟩
        · have notOpener : isOpener character = false := by
            simpa using isOpening
          by_cases opensLiteral : isQuote character = true ∧ escaped = false
          · obtain ⟨isQuoting, rfl⟩ := opensLiteral
            rw [Reading.role_quote isQuoting, Reading.next_quote isQuoting,
              if_neg (by simp)] at found
            obtain ⟨later, foundLater, rfl⟩ := Option.map_eq_some_iff.mp found
            obtain ⟨inside, behind, later, rfl, rfl, isBody, foundBehind⟩ :=
              contentFrom?_inside isQuoting foundLater
            obtain ⟨closer, after, rfl, closes, balanced⟩ :=
              inductionHypothesis behind.length (by simp; omega) foundBehind rfl
            exact ⟨closer, after, by simp, closes, .literal isQuoting isBody balanced⟩
          · have opensNothing : isQuote character = true → escaped = true := by
              intro isQuoting
              simpa [isQuoting] using opensLiteral
            rw [Reading.role_plain notOpener notCloser opensNothing,
              Reading.next_plain notOpener notCloser opensNothing, if_neg (by simp)] at found
            obtain ⟨later, foundLater, rfl⟩ := Option.map_eq_some_iff.mp found
            obtain ⟨closer, after, rfl, closes, balanced⟩ :=
              inductionHypothesis rest.length (by simp) foundLater rfl
            exact ⟨closer, after, rfl, closes,
              .plain notOpener notCloser opensNothing balanced⟩

/-- What stands alone between braces is balanced. -/
theorem balanced_of_content?
    {content : Text}
    (found : content? ('{' :: (content ++ ['}'])) = some content) :
    Balanced 0 false content := by
  have foundAtZero :
      contentFrom? ⟨((0 : Nat) : Int) + 1, none, false⟩ (content ++ ['}']) = some content :=
    found
  obtain ⟨-, -, -, -, balanced⟩ := balanced_of_contentFrom? foundAtZero
  exact balanced

/-! ## What is balanced is found -/

/-- A scan passes over text in which no closer brings the depth back to zero. -/
theorem contentFrom?_append
    {reading : Reading}
    {text : Text}
    (staysOpen : Reading.Along
      (fun reading character => reading.role character = .closer → 1 < reading.depth)
      reading text)
    (rest : Text) :
    contentFrom? reading (text ++ rest) =
      (contentFrom? (reading.after text) rest).map (text ++ ·) := by
  induction text generalizing reading with
  | nil =>
      exact Option.map_id'.symm
  | cons character later inductionHypothesis =>
      have goesOn :
          ¬ (reading.role character = .closer ∧ (reading.next character).depth = 0) := by
        rintro ⟨isCloser, isZero⟩
        have isDeeper := staysOpen.1 isCloser
        simp only [Reading.next, isCloser] at isZero
        omega
      rw [List.cons_append, contentFrom?, if_neg goesOn, inductionHypothesis staysOpen.2,
        Option.map_map]
      rfl

/-- Balanced text between two delimiters is found, whatever follows. -/
theorem content?_of_balanced
    {opener closer : Char}
    {content : Text}
    (opens : isOpener opener = true)
    (balanced : Balanced 0 false content)
    (closes : isCloser closer = true)
    (after : Text) :
    content? (opener :: (content ++ closer :: after)) = some content := by
  obtain ⟨escaped, isAfter⟩ := balanced.exists_after 1
  have staysOpen := (balanced.along 1).imp fun _ _ within => within.2
  rw [Int.natCast_zero, Int.add_zero] at isAfter staysOpen
  rw [content?, if_pos opens, contentFrom?_append staysOpen, isAfter, contentFrom?,
    Reading.role_closer closes, Reading.next_closer closes, if_pos ⟨rfl, rfl⟩, Option.map_some,
    List.append_nil]

/-- The content of a scope is found at the offset of its opener. -/
theorem contentAt?_of_balanced
    {opener closer : Char}
    {content : Text}
    (opens : isOpener opener = true)
    (balanced : Balanced 0 false content)
    (closes : isCloser closer = true)
    (before after : Text) :
    contentAt? (before ++ opener :: (content ++ closer :: after)) before.byteLength =
      some content := by
  rw [contentAt?, Text.from?_byteLength]
  exact content?_of_balanced opens balanced closes after

/-! ## Scopes -/

/-- Whether balanced text stands, between an opener and a closer, at an offset of a text. -/
def StandsAt (text : Text) (offset : Nat) (content : Text) : Prop :=
  ∃ (before : Text) (opener closer : Char) (after : Text),
    text = before ++ opener :: (content ++ closer :: after) ∧
      before.byteLength = offset ∧
        isOpener opener = true ∧
          isCloser closer = true ∧
            Balanced 0 false content

/-- The content that is found at an offset stands there. -/
theorem standsAt_of_contentAt?
    {text content : Text}
    {offset : Nat}
    (found : contentAt? text offset = some content) :
    StandsAt text offset content := by
  obtain ⟨rest, isRest, foundInRest⟩ := Option.bind_eq_some_iff.mp found
  obtain ⟨before, rfl, isOffset⟩ := Text.from?_eq_some_iff.mp isRest
  cases rest with
  | nil =>
      contradiction
  | cons opener inside =>
      rw [content?] at foundInRest
      split at foundInRest
      · rename_i opens
        have foundAtZero :
            contentFrom? ⟨((0 : Nat) : Int) + 1, none, false⟩ inside = some content :=
          foundInRest
        obtain ⟨closer, after, rfl, closes, balanced⟩ := balanced_of_contentFrom? foundAtZero
        exact ⟨before, opener, closer, after, rfl, isOffset, opens, closes, balanced⟩
      · contradiction

/--
The content of the scope at an offset is the balanced text that stands there between an opener and
a closer; if no such text stands there, there is no content. What stands in front of the opener and
behind the closer does not matter.
-/
theorem contentAt?_iff_standsAt
    (text : Text)
    (offset : Nat) :
    (∀ content, contentAt? text offset = some content ↔ StandsAt text offset content) ∧
      (contentAt? text offset = none ↔ ¬ ∃ content, StandsAt text offset content) ∧
        ∀ (before otherBefore : Text) (opener : Char) (content : Text) (closer : Char)
          (after otherAfter : Text),
          contentAt? (before ++ opener :: (content ++ closer :: after)) before.byteLength =
              some content →
            contentAt? (otherBefore ++ opener :: (content ++ closer :: otherAfter))
                otherBefore.byteLength =
              some content := by
  have isFound : ∀ content, contentAt? text offset = some content ↔
      StandsAt text offset content := by
    intro content
    refine ⟨standsAt_of_contentAt?, ?_⟩
    rintro ⟨before, opener, closer, after, rfl, rfl, opens, closes, balanced⟩
    exact contentAt?_of_balanced opens balanced closes before after
  refine ⟨isFound, ?_, ?_⟩
  · rw [Option.eq_none_iff_forall_ne_some, not_exists]
    exact forall_congr' fun content => not_congr (isFound content)
  · intro before otherBefore opener content closer after otherAfter found
    obtain ⟨before', opener', closer', after', isText, isOffset, opens, closes, balanced⟩ :=
      standsAt_of_contentAt? found
    -- Both ways to see the text are cut at the same offset, so they have the same delimiters.
    have sameRest := Text.from?_byteLength before (opener :: (content ++ closer :: after))
    rw [isText, ← isOffset, Text.from?_byteLength] at sameRest
    obtain ⟨rfl, sameInside⟩ := List.cons.inj (Option.some.inj sameRest)
    obtain ⟨rfl, -⟩ := List.cons.inj (List.append_cancel_left sameInside)
    exact contentAt?_of_balanced opens balanced closes otherBefore otherAfter

/-- A call's arguments are the same ones where the call stands alone. -/
theorem contentAt?_iff_standsAt_call :
    contentAt? ("f".toList ++ '(' :: ("a[0], ')'".toList ++ ')' :: "; g(".toList)) 1 =
        some "a[0], ')'".toList ∧
      contentAt? ([] ++ '(' :: ("a[0], ')'".toList ++ ')' :: [])) 0 =
        some "a[0], ')'".toList := by
  have found :
      contentAt? ("f".toList ++ '(' :: ("a[0], ')'".toList ++ ')' :: "; g(".toList)) 1 =
        some "a[0], ')'".toList := by
    decide
  exact ⟨found, (contentAt?_iff_standsAt [] 0).2.2 "f".toList [] '(' "a[0], ')'".toList ')'
    "; g(".toList [] found⟩

end Scope

end ComponentPages
