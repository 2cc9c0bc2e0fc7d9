import ComponentPages.Declaration.Anchor
import ComponentPages.Declaration.Variant
import ComponentPages.Proofs.Declaration.Name
import ComponentPages.Proofs.Text.Blank
import ComponentPages.Proofs.Text.Pattern

namespace ComponentPages

/-!
# Keywords

The head of a declaration starts with its keyword and a blank, and a call of the builder starts
with the builder's name and a parenthesis, perhaps with blanks between them. Neither starts in a
text that lacks the first letters of these words, nor in an identifier.
-/

/-- The words that start a declaration or a call. -/
def keywords : List Text :=
  ["interface".toList, "type".toList, "cva".toList]

/-- Whether a text starts with a blank or a parenthesis. -/
def GoesOn (text : Text) : Prop :=
  ∃ character ∈ text.head?, Text.isBlank character = true ∨ character = '('

/-- A pattern that starts with one of the keywords, with a blank or a parenthesis behind it. -/
structure IsKeywordPattern {α : Type} (pattern : Text.Pattern α) (keyword : Text) : Prop where
  begins : pattern.Begins keyword GoesOn
  isKeyword : keyword ∈ keywords

namespace IsKeywordPattern

variable {α : Type} {pattern : Text.Pattern α} {keyword : Text}

/-- No keyword starts in a text that lacks their first letters. -/
theorem misses
    {text : Text}
    (isPattern : IsKeywordPattern pattern keyword)
    (lacksFirsts : ∀ first ∈ "itc".toList, first ∉ text) :
    pattern.Misses text := by
  have begins := isPattern.begins
  have isKeyword := isPattern.isKeyword
  simp only [keywords, List.mem_cons, List.not_mem_nil, or_false] at isKeyword
  rcases isKeyword with rfl | rfl | rfl
  · exact begins.misses_of_head (lacksFirsts 'i' (by decide))
  · exact begins.misses_of_head (lacksFirsts 't' (by decide))
  · exact begins.misses_of_head (lacksFirsts 'c' (by decide))

/-- A pattern misses a text whose characters are of a kind that no keyword starts with. -/
theorem misses_of_kind
    {kind : Char → Bool}
    {text : Text}
    (isPattern : IsKeywordPattern pattern keyword)
    (lacksFirsts : ∀ first ∈ "itc".toList, kind first = false)
    (areOfKind : ∀ character ∈ text, kind character = true) :
    pattern.Misses text := by
  refine isPattern.misses fun first isFirst member => ?_
  have notOfKind := lacksFirsts first isFirst
  rw [areOfKind first member] at notOfKind
  contradiction

/-- A character that no keyword holds is not in the keyword of a pattern. -/
theorem not_mem_keyword
    {stop : Char}
    (isPattern : IsKeywordPattern pattern keyword)
    (isStop : ∀ keyword ∈ keywords, stop ∉ keyword) :
    stop ∉ keyword :=
  isStop keyword isPattern.isKeyword

/-- In a name there is no keyword that goes on, unless the name ends in one. -/
theorem absent_name
    {name : Text}
    {stop : Char}
    (isPattern : IsKeywordPattern pattern keyword)
    (isIdentifier : Text.IsIdentifier name)
    (isStop : ∀ keyword ∈ keywords, stop ∉ keyword)
    (noneEnds : (Text.isBlank stop = false ∧ stop ≠ '(') ∨ ¬ keyword <:+ name)
    (rest : Text) :
    pattern.Absent name (stop :: rest) := by
  have notOn : ∀ character later, Text.isBlank character = false ∧ character ≠ '(' →
      ¬ GoesOn (character :: later) := by
    rintro character later ⟨notBlank, notParenthesis⟩ ⟨first, isFirst, isGoing⟩
    obtain rfl := Option.some.inj isFirst
    simp [notBlank, notParenthesis] at isGoing
  refine isPattern.begins.absent_of_stops notOn (fun character member => ?_)
    (isPattern.not_mem_keyword isStop) noneEnds rest
  refine ⟨isIdentifier.isBlank_eq_false character member, ?_⟩
  rintro rfl
  exact absurd (isIdentifier.continues _ member) (by decide)

end IsKeywordPattern

/-- The head of a declaration is its keyword, blanks, and a name as long as it can be. -/
theorem Anchor.Form.of_head
    {form : Form}
    {previous : Option Char}
    {text unread : Text}
    {head : Head}
    (isMatch : form.head previous text = some (head, unread)) :
    Text.followsWord previous = false ∧ head.rest = unread ∧
      ∃ afterKeyword afterBlanks afterName,
        text = form.keyword ++ afterKeyword ∧
          Text.afterBlanks? afterKeyword = some afterBlanks ∧
          Text.identifier? afterBlanks = some (head.name, afterName) ∧
          (head.parametric = true ∧ Text.trimStart afterName = '<' :: unread ∨
            head.parametric = false ∧ Text.trimStart afterName = unread ∧
              ∀ later, unread ≠ '<' :: later) := by
  simp only [Form.head, Option.bind_eq_bind, Option.bind_eq_some_iff,
    Text.afterWord?_eq_some_iff] at isMatch
  obtain ⟨afterKeyword, ⟨startsWord, isKeyword⟩, ⟨name, afterName⟩,
    ⟨afterBlanks, isAfterBlanks, isName⟩, isHead⟩ := isMatch
  split at isHead
  · rename_i rest isAngle
    obtain ⟨rfl, rfl⟩ := Prod.mk.inj (Option.some.inj isHead)
    exact ⟨startsWord, rfl, afterKeyword, afterBlanks, afterName, isKeyword, isAfterBlanks, isName,
      .inl ⟨rfl, isAngle⟩⟩
  · rename_i notAngle
    obtain ⟨rfl, rfl⟩ := Prod.mk.inj (Option.some.inj isHead)
    exact ⟨startsWord, rfl, afterKeyword, afterBlanks, afterName, isKeyword, isAfterBlanks, isName,
      .inr ⟨rfl, rfl, notAngle⟩⟩

/-- The heads of declarations start with their keywords. -/
theorem Anchor.Form.isKeywordPattern_head (form : Form) :
    IsKeywordPattern form.head form.keyword where
  begins := by
    intro previous text result isMatch
    obtain ⟨-, -, rest, afterBlanks, -, isText, isBlanks, -⟩ := of_head isMatch
    refine ⟨rest, isText, ?_⟩
    obtain ⟨first, later, rfl, isBlank, -⟩ := Text.afterBlanks?_eq_some_iff.mp isBlanks
    exact ⟨first, rfl, .inl isBlank⟩
  isKeyword := by
    cases form <;> decide

/-- A call of the builder is the builder's name and a parenthesis, perhaps behind blanks. -/
theorem BuilderCall.of_pattern
    {previous : Option Char}
    {text : Text}
    {found : Unit × Text}
    (isMatch : pattern previous text = some found) :
    ∃ afterName, text = builder ++ afterName ∧ Text.trimStart afterName = '(' :: found.2 := by
  simp only [pattern, Option.bind_eq_bind, Option.bind_eq_some_iff, Text.afterWord?_eq_some_iff,
    Text.after?_eq_some_iff] at isMatch
  obtain ⟨afterName, ⟨-, isText⟩, inside, isInside, isFound⟩ := isMatch
  obtain rfl := Option.some.inj isFound
  exact ⟨afterName, isText, isInside⟩

/-- Calls start with the word for the builder. -/
theorem BuilderCall.isKeywordPattern : IsKeywordPattern pattern builder where
  begins := by
    intro previous text result isMatch
    obtain ⟨rest, isText, isParenthesis⟩ := of_pattern isMatch
    refine ⟨rest, isText, ?_⟩
    cases rest with
    | nil =>
        contradiction
    | cons first later =>
        by_cases isBlank : Text.isBlank first = true
        · exact ⟨first, rfl, .inl isBlank⟩
        · rw [Text.trimStart_cons_of_not_blank (by simpa using isBlank)] at isParenthesis
          exact ⟨first, rfl, .inr (List.cons.inj isParenthesis).1⟩
  isKeyword := by
    decide

end ComponentPages
