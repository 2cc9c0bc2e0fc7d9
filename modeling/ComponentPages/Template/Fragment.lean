import ComponentPages.Template.Token

namespace ComponentPages

/-!
# Template fragments

A template is a sequence of blocks and of text between them. A block starts with an opener that
has a closer of the same name behind it, and ends with the first such closer. An opener without a
closer and a closer without an opener are text.

A fragment knows a bound on its length. What stands inside a block is shorter than the template
that the block was taken from.
-/

namespace Token

/-- The tokens before and behind the first closer of a name. -/
def breakAtCloser? (name : Text) : List Token → Option (List Token × List Token)
  | [] => none
  | token :: rest =>
      if token = .closer name then
        some ([], rest)
      else
        (breakAtCloser? name rest).map fun (inside, after) => (token :: inside, after)

/-- The closer and what stands around it make up the tokens. -/
theorem eq_of_breakAtCloser?
    {name : Text}
    {tokens inside after : List Token}
    (found : breakAtCloser? name tokens = some (inside, after)) :
    tokens = inside ++ .closer name :: after := by
  induction tokens generalizing inside with
  | nil =>
      simp [breakAtCloser?] at found
  | cons token rest inductionHypothesis =>
      unfold breakAtCloser? at found
      split at found
      · rename_i isCloser
        cases found
        simp [isCloser]
      · obtain ⟨⟨before, behind⟩, later, same⟩ := Option.map_eq_some_iff.mp found
        cases same
        simp [inductionHypothesis later]

end Token

/-- A stretch of a template, of at most `bound` characters. -/
inductive Fragment (bound : Nat) where
  /-- Text outside blocks. -/
  | text (content : Text) (fits : content.length ≤ bound)
  /-- A block, by its name and what stands between its opener and its closer. -/
  | block (name inner : Text) (fits : inner.length + 2 * (name.length + 5) ≤ bound)

namespace Fragment

def blockSource (name inner : Text) : Text :=
  Token.source (.opener name) ++ inner ++ Token.source (.closer name)

/-- A block is as long as its tags and what stands between them. -/
theorem blockSource_length
    (name inner : Text) :
    (blockSource name inner).length = inner.length + 2 * (name.length + 5) := by
  simp only [blockSource, List.length_append, Token.length_source_opener,
    Token.length_source_closer]
  omega

/-- The text that was gathered in front of a block, if there is any, from its last character
back. -/
def ofRun {bound : Nat} (run : Text) (fits : run.length ≤ bound) : List (Fragment bound) :=
  if run.isEmpty then [] else [.text run.reverse (by rwa [List.length_reverse])]

/-- The fragments of tokens, when `run` is the text gathered in front of them, from its last
character back. -/
def ofTokens
    (bound : Nat)
    (run : Text)
    (tokens : List Token)
    (fits : run.length + (Token.sourceOf tokens).length ≤ bound) :
    List (Fragment bound) :=
  match tokens with
  | [] => ofRun run (by omega)
  | .opener name :: rest =>
      match found : Token.breakAtCloser? name rest with
      | some (inside, after) =>
          have whole := Token.eq_of_breakAtCloser? found
          have room :
              run.length + (name.length + 5) + (Token.sourceOf inside).length +
                (name.length + 5) + (Token.sourceOf after).length ≤ bound := by
            subst whole
            simp only [Token.sourceOf_cons, Token.sourceOf_append, List.length_append,
              Token.length_source_opener, Token.length_source_closer] at fits
            omega
          ofRun run (by omega) ++
            .block name (Token.sourceOf inside) (by omega) ::
              ofTokens bound [] after (by
                simp only [List.length_nil]
                omega)
      | none =>
          ofTokens bound ((Token.source (.opener name)).reverse ++ run) rest (by
            simp only [Token.sourceOf_cons, List.length_append, List.length_reverse] at fits ⊢
            omega)
  | token :: rest =>
      ofTokens bound (token.source.reverse ++ run) rest (by
        simp only [Token.sourceOf_cons, List.length_append, List.length_reverse] at fits ⊢
        omega)
  termination_by tokens.length
  decreasing_by
    · subst whole
      simp only [List.length_cons, List.length_append]
      omega
    · simp
    · simp

end Fragment

namespace Token

/-- The sources of a template's tokens give the template. -/
theorem sourceOf_ofTemplate (template : Text) : sourceOf (ofTemplate template) = template := by
  fun_induction ofTemplate template with
  | case1 => rfl
  | case2 rest token after found inductionHypothesis =>
      rw [sourceOf_cons, inductionHypothesis, tag?_source found]
  | case3 rest none inductionHypothesis =>
      rw [sourceOf_cons, inductionHypothesis]
      rfl
  | case4 character rest notBrace inductionHypothesis =>
      rw [sourceOf_cons, inductionHypothesis]
      simp [source]

end Token

namespace Fragment

/-- The fragments of a template. -/
def ofTemplate (template : Text) : List (Fragment template.length) :=
  ofTokens template.length [] (Token.ofTemplate template) (by
    simp [Token.sourceOf_ofTemplate])

end Fragment

end ComponentPages
