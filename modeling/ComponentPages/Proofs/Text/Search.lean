import ComponentPages.Proofs.Text.Pattern

namespace ComponentPages

/-!
# Searches

Of the occurrences that a search finds some are kept and the others are dropped. A search passes
over a stretch of text if it keeps nothing that it finds there and goes on right in front of what
follows. This depends on the character in front of the stretch and on all the text behind it, but
stretches can be judged one by one.
-/

namespace Text.Pattern

variable {α β : Type} {pattern : Pattern α} {keep : Occurrence α → Option β}
  {previous : Option Char} {passing : Nat} {text rest : Text}

/-- Whether an occurrence with what was captured is dropped, wherever it stands. -/
def Drops (keep : Occurrence α → Option β) (captured : α) : Prop :=
  ∀ start stop, keep ⟨start, stop, captured⟩ = none

/--
Whether a search behind `previous` passes over a text that `rest` follows. The first `passing`
characters belong to the occurrence found last.
-/
inductive PassesOver (pattern : Pattern α) (keep : Occurrence α → Option β) :
    (previous : Option Char) → (passing : Nat) → (text rest : Text) → Prop where
  | done {previous : Option Char} {rest : Text} :
      PassesOver pattern keep previous 0 [] rest
  | skip {previous : Option Char} {passing : Nat} {character : Char} {later rest : Text} :
      PassesOver pattern keep (some character) passing later rest →
      PassesOver pattern keep previous (passing + 1) (character :: later) rest
  | miss {previous : Option Char} {character : Char} {later rest : Text} :
      pattern previous (character :: (later ++ rest)) = none →
      PassesOver pattern keep (some character) 0 later rest →
      PassesOver pattern keep previous 0 (character :: later) rest
  | find {previous : Option Char} {character : Char} {later rest unread : Text} {captured : α} :
      pattern previous (character :: (later ++ rest)) = some (captured, unread) →
      Drops keep captured →
      PassesOver pattern keep (some character) ((later ++ rest).length - unread.length) later
        rest →
      PassesOver pattern keep previous 0 (character :: later) rest

namespace PassesOver

/-- A text that was passed over does not matter to what a search keeps. -/
theorem filterMap_occurrencesFrom
    (passes : PassesOver pattern keep previous passing text rest)
    (offset : Nat) :
    (occurrencesFrom pattern offset previous passing (text ++ rest)).filterMap keep =
      (occurrencesFrom pattern (offset + byteLength text) (text.getLast?.or previous) 0
        rest).filterMap keep := by
  induction passes generalizing offset with
  | done =>
      rfl
  | skip _ inductionHypothesis =>
      rw [List.cons_append, occurrencesFrom, inductionHypothesis, getLast?_cons_or, byteLength,
        Nat.add_assoc]
  | miss noMatch _ inductionHypothesis =>
      rw [List.cons_append, occurrencesFrom]
      simp only [noMatch]
      rw [inductionHypothesis, getLast?_cons_or, byteLength, Nat.add_assoc]
  | find isMatch drops _ inductionHypothesis =>
      rw [List.cons_append, occurrencesFrom]
      simp only [isMatch]
      rw [List.filterMap_cons_none (drops _ _), inductionHypothesis, getLast?_cons_or, byteLength,
        Nat.add_assoc]

/-- A search that passes over a text keeps nothing of it. -/
theorem filterMap_occurrencesFrom_eq_nil
    (passes : PassesOver pattern keep previous passing text [])
    (offset : Nat) :
    (occurrencesFrom pattern offset previous passing text).filterMap keep = [] := by
  have passed := passes.filterMap_occurrencesFrom offset
  rwa [List.append_nil, occurrencesFrom, List.filterMap_nil] at passed

/-- Stretches of a text are judged one by one. -/
theorem append
    {first second : Text}
    (passesFirst : PassesOver pattern keep previous passing first (second ++ rest))
    (passesSecond : PassesOver pattern keep (first.getLast?.or previous) 0 second rest) :
    PassesOver pattern keep previous passing (first ++ second) rest := by
  generalize isRest : second ++ rest = behind at passesFirst
  induction passesFirst with
  | done =>
      exact passesSecond
  | skip _ inductionHypothesis =>
      rw [getLast?_cons_or] at passesSecond
      exact .skip (inductionHypothesis passesSecond isRest)
  | miss noMatch _ inductionHypothesis =>
      rw [getLast?_cons_or] at passesSecond
      rw [← isRest, ← List.append_assoc] at noMatch
      exact .miss noMatch (inductionHypothesis passesSecond isRest)
  | find isMatch drops _ inductionHypothesis =>
      rw [getLast?_cons_or] at passesSecond
      rw [← isRest, ← List.append_assoc] at isMatch inductionHypothesis
      exact .find isMatch drops (inductionHypothesis passesSecond rfl)

/-- What belongs to the last occurrence is passed over. -/
theorem of_passing
    (previous : Option Char)
    (text rest : Text) :
    PassesOver pattern keep previous text.length text rest := by
  induction text generalizing previous with
  | nil =>
      exact .done
  | cons character later inductionHypothesis =>
      exact .skip (inductionHypothesis (some character))

/-- A search passes over a text if it drops what it finds at any place, and does not leave it. -/
theorem of_places
    (dropsAll : ∀ before place, text = before ++ place → ∀ captured unread,
      pattern (before.getLast?.or previous) (place ++ rest) = some (captured, unread) →
        Drops keep captured ∧ rest.length ≤ unread.length)
    (within : passing ≤ text.length) :
    PassesOver pattern keep previous passing text rest := by
  induction text generalizing previous passing with
  | nil =>
      obtain rfl := Nat.le_zero.mp within
      exact .done
  | cons character later inductionHypothesis =>
      have dropsLater : ∀ before place, later = before ++ place → ∀ captured unread,
          pattern (before.getLast?.or (some character)) (place ++ rest) =
              some (captured, unread) →
            Drops keep captured ∧ rest.length ≤ unread.length := by
        intro before place isLater captured unread isMatch
        rw [← getLast?_cons_or character before previous] at isMatch
        exact dropsAll (character :: before) place (by rw [isLater, List.cons_append]) captured
          unread isMatch
      cases passing with
      | succ passing =>
          exact .skip (inductionHypothesis dropsLater (Nat.le_of_succ_le_succ within))
      | zero =>
          cases isMatch : pattern previous (character :: (later ++ rest)) with
          | none =>
              exact .miss isMatch (inductionHypothesis dropsLater (Nat.zero_le _))
          | some found =>
              obtain ⟨captured, unread⟩ := found
              obtain ⟨drops, staysInside⟩ :=
                dropsAll [] (character :: later) rfl captured unread isMatch
              refine .find isMatch drops (inductionHypothesis dropsLater ?_)
              rw [List.length_append]
              omega

end PassesOver

/-- A search passes over a text in which the pattern is absent. -/
theorem Absent.passesOver
    (absent : Absent pattern text rest)
    (previous : Option Char) :
    PassesOver pattern keep previous 0 text rest := by
  induction text generalizing previous with
  | nil =>
      exact .done
  | cons character later inductionHypothesis =>
      exact .miss (absent.1 previous) (inductionHypothesis absent.2 _)

/-! ## Stops -/

/--
Whether a pattern reads no further than a stop, so that what it captures is that of the text in
front of the stop, with the text that is left unread noted in it.
-/
def ReadsUpTo (pattern : Pattern α) (note : Text → α → α) (stop : Char) : Prop :=
  ∀ previous text rest,
    pattern previous (text ++ stop :: rest) =
      (pattern previous text).map fun (captured, left) =>
        (note (left ++ stop :: rest) captured, left ++ stop :: rest)

namespace ReadsUpTo

variable {note : Text → α → α} {stop : Char}

/-- In front of a stop a pattern is absent if it matches at no place of the text by itself. -/
theorem absent
    (readsUpTo : pattern.ReadsUpTo note stop)
    (noMatch : ∀ place, place <:+ text → place ≠ [] → ∀ previous, pattern previous place = none) :
    pattern.Absent text (stop :: rest) := by
  induction text with
  | nil =>
      trivial
  | cons character later inductionHypothesis =>
      refine ⟨fun previous => ?_, inductionHypothesis fun place isPlace => ?_⟩
      · rw [← List.cons_append, readsUpTo,
          noMatch (character :: later) List.suffix_rfl (List.cons_ne_nil _ _)]
        rfl
      · exact noMatch place (isPlace.trans (List.suffix_cons character later))

/-- In front of a stop a search passes over a text if it drops what it finds at any place. -/
theorem passesOver_of_drops
    (readsUpTo : pattern.ReadsUpTo note stop)
    (dropsAll : ∀ place, place <:+ text → ∀ previous captured left,
      pattern previous place = some (captured, left) →
        Drops keep (note (left ++ stop :: rest) captured)) :
    PassesOver pattern keep previous 0 text (stop :: rest) := by
  refine .of_places (fun before place isText captured unread isMatch => ?_) (Nat.zero_le _)
  rw [readsUpTo, Option.map_eq_some_iff] at isMatch
  obtain ⟨⟨alone, left⟩, isAlone, isNoted⟩ := isMatch
  obtain ⟨rfl, rfl⟩ := Prod.mk.inj isNoted
  refine ⟨dropsAll place ⟨before, isText.symm⟩ _ alone left isAlone, ?_⟩
  rw [List.length_append]
  exact Nat.le_add_left _ _

/--
In front of a stop a search passes over a text if it keeps nothing there when other text stands
behind the stop, and the text behind the stop makes it keep nothing more.
-/
theorem passesOver_of_occurrencesFrom
    {alone : Text}
    {offset : Nat}
    (readsUpTo : pattern.ReadsUpTo note stop)
    (dropsToo : ∀ captured left first last,
      keep ⟨first, last, note (left ++ stop :: alone) captured⟩ = none →
        Drops keep (note (left ++ stop :: rest) captured))
    (keepsNothing : (occurrencesFrom pattern offset previous passing
      (text ++ stop :: alone)).filterMap keep = [])
    (within : passing ≤ text.length) :
    PassesOver pattern keep previous passing text (stop :: rest) := by
  induction text generalizing previous passing offset with
  | nil =>
      obtain rfl := Nat.le_zero.mp within
      exact .done
  | cons character later inductionHypothesis =>
      rw [List.cons_append] at keepsNothing
      cases passing with
      | succ passing =>
          rw [occurrencesFrom] at keepsNothing
          exact .skip (inductionHypothesis keepsNothing (Nat.le_of_succ_le_succ within))
      | zero =>
          have readsAlone := readsUpTo previous (character :: later) alone
          have readsHere := readsUpTo previous (character :: later) rest
          rw [List.cons_append] at readsAlone readsHere
          rw [occurrencesFrom] at keepsNothing
          cases isMatch : pattern previous (character :: later) with
          | none =>
              rw [isMatch] at readsAlone readsHere
              simp only [readsAlone, Option.map_none] at keepsNothing
              exact .miss readsHere (inductionHypothesis keepsNothing (Nat.zero_le _))
          | some found =>
              obtain ⟨captured, left⟩ := found
              rw [isMatch] at readsAlone readsHere
              simp only [readsAlone, Option.map_some, List.filterMap_eq_nil_iff,
                List.forall_mem_cons] at keepsNothing
              obtain ⟨aloneDropped, laterDropped⟩ := keepsNothing
              have sameLength (behind : Text) :
                  (later ++ stop :: behind).length - (left ++ stop :: behind).length =
                    later.length - left.length := by
                simp only [List.length_append]
                omega
              rw [sameLength] at laterDropped
              refine .find readsHere (dropsToo captured left _ _ aloneDropped) ?_
              rw [sameLength]
              exact inductionHypothesis (List.filterMap_eq_nil_iff.mpr laterDropped)
                (Nat.sub_le _ _)

end ReadsUpTo

end Text.Pattern

end ComponentPages
