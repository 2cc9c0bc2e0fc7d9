import ComponentPages.Template.Fragment
import Mathlib.Data.List.TakeWhile

namespace ComponentPages

/-!
# Reading tokens again

Which lists of tokens a template can have is told by the tokens alone: a tag has a name, text has
no brace and no other text behind it, and a brace is not the start of a tag. This shape is kept by
every stretch of the tokens, and a list of this shape is what its source is read as. So a stretch
of a template, cut between two tokens, is read as the tokens that it was cut from.
-/

namespace Token

/-! ## Tags -/

/-- Whether a text can stand as the name in a tag. -/
def IsName (name : Text) : Prop :=
  name ≠ [] ∧ ∀ character ∈ name, isNameCharacter character = true

/-- A tag that has a name. -/
inductive IsTag : Token → Prop where
  | ofOpener {name : Text} : IsName name → IsTag (.opener name)
  | ofCloser {name : Text} : IsName name → IsTag (.closer name)
  | ofVariable {path : Text} : IsName path → IsTag (.variable path)

private theorem closingBrace_not_name : isNameCharacter '}' = false := by
  decide

/-- A name in front of the braces that close its tag is read. -/
private theorem nameAndClose?_append
    {name : Text}
    (isName : IsName name)
    (rest : Text) :
    nameAndClose? (name ++ '}' :: '}' :: rest) = some (name, rest) := by
  have taken :
      (name ++ '}' :: '}' :: rest).takeWhile isNameCharacter = name := by
    rw [List.takeWhile_append_of_pos isName.2,
      List.takeWhile_cons_of_neg (by simp [closingBrace_not_name]), List.append_nil]
  have dropped :
      (name ++ '}' :: '}' :: rest).dropWhile isNameCharacter = '}' :: '}' :: rest := by
    rw [List.dropWhile_append_of_pos isName.2,
      List.dropWhile_cons_of_neg (by simp [closingBrace_not_name])]
  unfold nameAndClose?
  rw [taken, dropped]
  cases name with
  | nil =>
      exact (isName.1 rfl).elim
  | cons first later =>
      rfl

/-- What is read in front of closing braces is a name. -/
private theorem isName_of_nameAndClose?
    {text name rest : Text}
    (found : nameAndClose? text = some (name, rest)) :
    IsName name := by
  unfold nameAndClose? at found
  split at found
  · rename_i first name' rest' taken dropped
    simp only [Option.some.injEq, Prod.mk.injEq] at found
    rw [← found.1]
    refine ⟨by simp, ?_⟩
    intro character member
    rw [← taken] at member
    exact List.mem_takeWhile_imp member
  · simp at found

/-- A tag is read from its source, whatever follows. -/
theorem tag?_of_isTag
    {token : Token}
    (isTag : IsTag token)
    {text rest : Text}
    (sources : '{' :: text = token.source ++ rest) :
    tag? text = some (token, rest) := by
  cases isTag with
  | ofOpener isName =>
      simp only [source, tagSource, List.cons_append, List.append_assoc, List.nil_append,
        List.cons.injEq, true_and] at sources
      simp [sources, tag?, nameAndClose?_append isName]
  | ofCloser isName =>
      simp only [source, tagSource, List.cons_append, List.append_assoc, List.nil_append,
        List.cons.injEq, true_and] at sources
      simp [sources, tag?, nameAndClose?_append isName]
  | @ofVariable path isName =>
      simp only [source, tagSource, List.cons_append, List.append_assoc, List.nil_append,
        List.cons.injEq, true_and] at sources
      obtain ⟨first, later, rfl⟩ := List.exists_cons_of_ne_nil isName.1
      have isCharacter : isNameCharacter first = true :=
        isName.2 first (by simp)
      have notHash : first ≠ '#' := by
        rintro rfl
        exact absurd isCharacter (by decide)
      have notSlash : first ≠ '/' := by
        rintro rfl
        exact absurd isCharacter (by decide)
      have read := nameAndClose?_append isName rest
      rw [List.cons_append] at read
      simp [sources, tag?, notHash, notSlash, read]

/-- What is read as a tag is a tag with a name. -/
theorem isTag_of_tag?
    {text rest : Text}
    {token : Token}
    (found : tag? text = some (token, rest)) :
    IsTag token := by
  unfold tag? at found
  split at found
  · obtain ⟨⟨name, after⟩, read, same⟩ := Option.map_eq_some_iff.mp found
    cases same
    exact .ofOpener (isName_of_nameAndClose? read)
  · obtain ⟨⟨name, after⟩, read, same⟩ := Option.map_eq_some_iff.mp found
    cases same
    exact .ofCloser (isName_of_nameAndClose? read)
  · obtain ⟨⟨name, after⟩, read, same⟩ := Option.map_eq_some_iff.mp found
    cases same
    exact .ofVariable (isName_of_nameAndClose? read)
  · simp at found

/-- Text behind a tag does not keep the tag from being read. -/
private theorem tag?_append
    {text rest : Text}
    {token : Token}
    (found : tag? text = some (token, rest))
    (more : Text) :
    tag? (text ++ more) = some (token, rest ++ more) := by
  apply tag?_of_isTag (isTag_of_tag? found)
  rw [← List.append_assoc, ← tag?_source found, List.cons_append]

/-- A brace that starts no tag starts none when the text ends earlier. -/
private theorem tag?_eq_none_of_append
    {text more : Text}
    (notFound : tag? (text ++ more) = none) :
    tag? text = none := by
  cases read : tag? text with
  | none =>
      rfl
  | some found =>
      rw [tag?_append read more] at notFound
      simp at notFound

/-! ## Shapes of token lists -/

/-- Whether a list of tokens starts with text. -/
def StartsWithText : List Token → Prop
  | .text _ :: _ => True
  | _ => False

/-- The lists of tokens that templates are read as. -/
inductive Lexed : List Token → Prop where
  | nil : Lexed []
  | tag {token : Token} {rest : List Token} :
      IsTag token → Lexed rest → Lexed (token :: rest)
  | text {content : Text} {rest : List Token} :
      content ≠ [] →
      (∀ character ∈ content, character ≠ '{') →
      ¬ StartsWithText rest →
      Lexed rest →
      Lexed (.text content :: rest)
  | brace {rest : List Token} :
      tag? (sourceOf rest) = none → Lexed rest → Lexed (.brace :: rest)

/-- Text is read first only where a template does not start with a brace. -/
theorem not_startsWithText_ofTemplate
    {template : Text}
    (starts : ∀ character ∈ template.head?, character = '{') :
    ¬ StartsWithText (ofTemplate template) := by
  cases template with
  | nil =>
      simp [ofTemplate, StartsWithText]
  | cons character rest =>
      obtain rfl : character = '{' := starts character (by simp)
      rw [ofTemplate]
      split
      · rename_i token after found
        cases isTag_of_tag? found <;> simp [StartsWithText]
      · simp [StartsWithText]

/-- The tokens of a template have the shape of tokens. -/
theorem lexed_ofTemplate (template : Text) : Lexed (ofTemplate template) := by
  fun_induction ofTemplate template with
  | case1 =>
      exact .nil
  | case2 rest token after found inductionHypothesis =>
      exact .tag (isTag_of_tag? found) inductionHypothesis
  | case3 rest notFound inductionHypothesis =>
      refine .brace ?_ inductionHypothesis
      rw [sourceOf_ofTemplate]
      exact notFound
  | case4 character rest notBrace inductionHypothesis =>
      refine .text (by simp) ?_ ?_ inductionHypothesis
      · intro other member
        rcases List.mem_cons.mp member with same | taken
        · rw [same]
          exact notBrace
        · simpa using List.mem_takeWhile_imp taken
      · apply not_startsWithText_ofTemplate
        intro other isHead
        have stopped := List.head?_dropWhile_not (· != '{') rest
        rw [Option.mem_def.mp isHead] at stopped
        simpa using stopped

/-- A list of the shape of tokens does not start with a brace of its source if it starts with
text. -/
theorem Lexed.head?_sourceOf
    {tokens : List Token}
    (lexed : Lexed tokens)
    (notText : ¬ StartsWithText tokens) :
    ∀ character ∈ (sourceOf tokens).head?, character = '{' := by
  intro character isHead
  cases lexed with
  | nil =>
      simp at isHead
  | tag isTag _ =>
      cases isTag <;> simpa [source, tagSource, eq_comm] using isHead
  | text _ _ _ _ =>
      exact (notText trivial).elim
  | brace _ _ =>
      simpa [source, eq_comm] using isHead

/-- The source of a list of the shape of tokens is read as that list. -/
theorem Lexed.ofTemplate_sourceOf
    {tokens : List Token}
    (lexed : Lexed tokens) :
    ofTemplate (sourceOf tokens) = tokens := by
  induction lexed with
  | nil =>
      simp [ofTemplate]
  | @tag token rest isTag _ inductionHypothesis =>
      obtain ⟨behind, shape⟩ : ∃ behind, token.source = '{' :: behind := by
        cases isTag <;> exact ⟨_, rfl⟩
      have found : tag? (behind ++ sourceOf rest) = some (token, sourceOf rest) :=
        tag?_of_isTag isTag (by rw [shape, List.cons_append])
      rw [sourceOf_cons, shape, List.cons_append, ofTemplate]
      split
      · rename_i token' after found'
        rw [found] at found'
        cases found'
        rw [inductionHypothesis]
      · rename_i notFound
        rw [found] at notFound
        simp at notFound
  | @text content rest notEmpty noBrace notText lexedRest inductionHypothesis =>
      -- The text ends where the rest starts, as the rest starts with a brace or is empty.
      obtain ⟨first, later, rfl⟩ := List.exists_cons_of_ne_nil notEmpty
      have keeps : ∀ character ∈ later, (character != '{') = true := by
        intro character member
        simpa using noBrace character (List.mem_cons_of_mem first member)
      have headBrace := lexedRest.head?_sourceOf notText
      have stops :
          (sourceOf rest).takeWhile (· != '{') = [] ∧
            (sourceOf rest).dropWhile (· != '{') = sourceOf rest := by
        cases shape : sourceOf rest with
        | nil =>
            simp
        | cons character behind =>
            have isBrace : character = '{' :=
              headBrace character (by simp [shape])
            simp [isBrace]
      simp only [sourceOf_cons, source, List.cons_append]
      rw [ofTemplate]
      · rw [List.takeWhile_append_of_pos keeps, List.dropWhile_append_of_pos keeps,
          stops.1, stops.2, List.append_nil, inductionHypothesis]
      · exact noBrace first (by simp)
  | @brace rest notFound _ inductionHypothesis =>
      simp only [sourceOf_cons, source, List.cons_append, List.nil_append]
      rw [ofTemplate]
      split
      · rename_i token after found
        rw [notFound] at found
        simp at found
      · rw [inductionHypothesis]

/-! ## Stretches of tokens -/

/-- The end of a list of the shape of tokens is one. -/
theorem Lexed.of_append_right
    {before after : List Token}
    (lexed : Lexed (before ++ after)) :
    Lexed after := by
  induction before with
  | nil =>
      exact lexed
  | cons token rest inductionHypothesis =>
      apply inductionHypothesis
      cases lexed <;> assumption

/-- Tokens in front of others keep their shape. -/
theorem Lexed.of_append_left
    {before after : List Token}
    (lexed : Lexed (before ++ after)) :
    Lexed before := by
  induction before with
  | nil =>
      exact .nil
  | cons token rest inductionHypothesis =>
      cases lexed with
      | tag isTag later =>
          exact .tag isTag (inductionHypothesis later)
      | text notEmpty noBrace notText later =>
          -- Cutting the list behind a text puts no text there.
          refine .text notEmpty noBrace ?_ (inductionHypothesis later)
          intro startsWithText
          cases rest with
          | nil =>
              exact startsWithText
          | cons second others =>
              cases second <;> first
                | exact startsWithText
                | exact notText startsWithText
      | brace notFound later =>
          refine .brace ?_ (inductionHypothesis later)
          have longer : tag? (sourceOf rest ++ sourceOf after) = none := by
            rw [← sourceOf_append]
            exact notFound
          exact tag?_eq_none_of_append longer

/-- A stretch of tokens keeps its shape. -/
theorem Lexed.of_infix
    {inside tokens : List Token}
    (stretch : inside <:+: tokens)
    (lexed : Lexed tokens) :
    Lexed inside := by
  obtain ⟨before, after, rfl⟩ := stretch
  exact lexed.of_append_left.of_append_right

end Token

end ComponentPages
