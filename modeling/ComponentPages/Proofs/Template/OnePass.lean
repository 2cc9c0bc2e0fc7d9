import ComponentPages.Proofs.Template.Lexing
import ComponentPages.Template.Render

namespace ComponentPages

/-!
# Rendering in one walk

The three passes of rendering give the same text as one walk over the tokens of the template. The
walk reads each token once and renders what stands inside a section from the tokens themselves,
while the passes read the text of every stretch anew. The passes meet stretches of two kinds:
blocks, and the text that was gathered between them. In gathered text no opener has a closer
behind it, and that stays so when the stretch is read on its own.
-/

namespace Template

/-! ## The walk -/

/-- What a section shows for the value that its name leads to; `inner` renders what stands between
its tags. -/
def sectionText (context : Context) (inner : Context → Text) : Option Value → Text
  | none => []
  | some value =>
      if value.isTruthy then
        match value with
        | .list items => items.flatMap fun item => inner (itemContext context item)
        | _ => inner context
      else
        []

/-- The text of tokens in a context, in one walk over them. -/
def interpret (context : Context) (tokens : List Token) : Text :=
  match tokens with
  | [] => []
  | .opener name :: rest =>
      match _found : Token.breakAtCloser? name rest with
      | some (inside, after) =>
          sectionText context (fun inner => interpret inner inside) (context.lookup? name) ++
            interpret context after
      | none => Token.source (.opener name) ++ interpret context rest
  | .variable path :: rest =>
      ((context.lookup? path).map Value.display).getD [] ++ interpret context rest
  | token :: rest => token.source ++ interpret context rest
  termination_by tokens.length
  decreasing_by
    · have whole := congrArg List.length (Token.eq_of_breakAtCloser? _found)
      simp only [List.length_append, List.length_cons] at whole ⊢
      omega
    · have whole := congrArg List.length (Token.eq_of_breakAtCloser? _found)
      simp only [List.length_append, List.length_cons] at whole ⊢
      omega
    · simp
    · simp
    · simp

/-- No tokens show nothing. -/
@[simp] theorem interpret_nil (context : Context) : interpret context [] = [] := by
  rw [interpret]

/-- A section is walked from its opener to its first closer. -/
theorem interpret_section
    (context : Context)
    {name : Text}
    {rest inside after : List Token}
    (found : Token.breakAtCloser? name rest = some (inside, after)) :
    interpret context (.opener name :: rest) =
      sectionText context (fun inner => interpret inner inside) (context.lookup? name) ++
        interpret context after := by
  rw [interpret]
  split
  · rename_i inside' after' found'
    rw [found] at found'
    cases found'
    rfl
  · rename_i notFound
    rw [found] at notFound
    simp at notFound

/-- A token that opens no section is shown as substitution shows it. -/
theorem interpret_cons
    (context : Context)
    {token : Token}
    {rest : List Token}
    (opensNothing : ∀ name, token = .opener name → Token.breakAtCloser? name rest = none) :
    interpret context (token :: rest) =
      substituteToken context token ++ interpret context rest := by
  cases token with
  | opener name =>
      rw [interpret]
      split
      · rename_i inside after found
        rw [opensNothing name rfl] at found
        simp at found
      · rfl
  | _ =>
      rw [interpret] <;> simp [substituteToken]

end Template

/-! ## Gathered text -/

namespace Token

/-- A section has no end exactly if no closer of its name follows. -/
theorem breakAtCloser?_eq_none_iff
    {name : Text}
    {tokens : List Token} :
    breakAtCloser? name tokens = none ↔ .closer name ∉ tokens := by
  induction tokens with
  | nil =>
      simp [breakAtCloser?]
  | cons token rest inductionHypothesis =>
      unfold breakAtCloser?
      split
      · rename_i isCloser
        simp [isCloser]
      · rename_i notCloser
        simp [inductionHypothesis, Ne.symm notCloser]

/-- A section that starts behind nothing is as long behind more. -/
private theorem breakAtCloser?_append
    {name : Text}
    {tokens inside after : List Token}
    (found : breakAtCloser? name tokens = some (inside, after)) :
    breakAtCloser? name (inside ++ [.closer name]) = some (inside, []) := by
  induction tokens generalizing inside with
  | nil =>
      simp [breakAtCloser?] at found
  | cons token rest inductionHypothesis =>
      unfold breakAtCloser? at found
      split at found
      · cases found
        simp [breakAtCloser?]
      · rename_i notCloser
        obtain ⟨⟨before, behind⟩, later, same⟩ := Option.map_eq_some_iff.mp found
        cases same
        simp [breakAtCloser?, notCloser, inductionHypothesis later]

/-- Whether no opener among tokens has a closer behind it, neither among them nor later. -/
def Loose (later : List Token) : List Token → Prop
  | [] => True
  | token :: rest =>
      (∀ name, token = .opener name → breakAtCloser? name (rest ++ later) = none) ∧
        Loose later rest

/-- A token that opens no section can join loose tokens. -/
private theorem Loose.concat
    {token : Token}
    {later tokens : List Token}
    (loose : Loose (token :: later) tokens)
    (opensNothing : ∀ name, token = .opener name → breakAtCloser? name later = none) :
    Loose later (tokens ++ [token]) := by
  induction tokens with
  | nil =>
      exact ⟨opensNothing, trivial⟩
  | cons first rest inductionHypothesis =>
      refine ⟨?_, inductionHypothesis loose.2⟩
      intro name isOpener
      have noCloser := loose.1 name isOpener
      rwa [List.append_cons] at noCloser

private theorem Loose.alone
    {later tokens : List Token}
    (loose : Loose later tokens) :
    Loose [] tokens := by
  induction tokens with
  | nil =>
      trivial
  | cons first rest inductionHypothesis =>
      refine ⟨?_, inductionHypothesis loose.2⟩
      intro name isOpener
      have noCloser := breakAtCloser?_eq_none_iff.mp (loose.1 name isOpener)
      rw [List.append_nil, breakAtCloser?_eq_none_iff]
      intro member
      exact noCloser (List.mem_append_left later member)

end Token

namespace Fragment

private theorem ofTokens_congr
    {bound : Nat}
    {run : Text}
    {tokens others : List Token}
    (same : tokens = others)
    (fits : run.length + (Token.sourceOf tokens).length ≤ bound)
    (othersFit : run.length + (Token.sourceOf others).length ≤ bound) :
    ofTokens bound run tokens fits = ofTokens bound run others othersFit := by
  subst same
  rfl

private theorem ofRun_congr
    {bound : Nat}
    {run other : Text}
    (same : run = other)
    (fits : run.length ≤ bound)
    (otherFits : other.length ≤ bound) :
    ofRun run fits = ofRun other otherFits := by
  subst same
  rfl

private theorem ofTokens_nil
    {bound : Nat}
    {run : Text}
    (fits : run.length + (Token.sourceOf []).length ≤ bound)
    (runFits : run.length ≤ bound) :
    ofTokens bound run [] fits = ofRun run runFits := by
  rw [ofTokens]

/-- A token that opens no section joins the run. -/
theorem ofTokens_cons
    {bound : Nat}
    {run : Text}
    {token : Token}
    {rest : List Token}
    (opensNothing :
      ∀ name, token = .opener name → Token.breakAtCloser? name rest = none)
    (fits : run.length + (Token.sourceOf (token :: rest)).length ≤ bound)
    (restFits :
      (token.source.reverse ++ run).length + (Token.sourceOf rest).length ≤ bound) :
    ofTokens bound run (token :: rest) fits =
      ofTokens bound (token.source.reverse ++ run) rest restFits := by
  cases token with
  | opener name =>
      rw [ofTokens]
      split
      · rename_i inside after found
        rw [opensNothing name rfl] at found
        simp at found
      · rfl
  | _ =>
      rw [ofTokens]
      intro name _ isOpener
      cases isOpener

/-- A section ends the run and is a block. -/
theorem ofTokens_section
    {bound : Nat}
    {run name : Text}
    {rest inside after : List Token}
    (found : Token.breakAtCloser? name rest = some (inside, after))
    (fits : run.length + (Token.sourceOf (.opener name :: rest)).length ≤ bound)
    (runFits : run.length ≤ bound)
    (blockFits : (Token.sourceOf inside).length + 2 * (name.length + 5) ≤ bound)
    (afterFits : ([] : Text).length + (Token.sourceOf after).length ≤ bound) :
    ofTokens bound run (.opener name :: rest) fits =
      ofRun run runFits ++
        .block name (Token.sourceOf inside) blockFits :: ofTokens bound [] after afterFits := by
  rw [ofTokens]
  split
  · rename_i inside' after' found'
    rw [found] at found'
    cases found'
    rfl
  · rename_i notFound
    rw [found] at notFound
    simp at notFound

/-- Loose tokens are gathered as one text. -/
private theorem ofTokens_loose
    {bound : Nat}
    {run : Text}
    {tokens : List Token}
    (loose : Token.Loose [] tokens)
    (fits : run.length + (Token.sourceOf tokens).length ≤ bound)
    (runFits : ((Token.sourceOf tokens).reverse ++ run).length ≤ bound) :
    ofTokens bound run tokens fits = ofRun ((Token.sourceOf tokens).reverse ++ run) runFits := by
  induction tokens generalizing run with
  | nil =>
      exact ofTokens_nil fits runFits
  | cons token rest inductionHypothesis =>
      have gathered :
          (Token.sourceOf (token :: rest)).reverse ++ run =
            (Token.sourceOf rest).reverse ++ (token.source.reverse ++ run) := by
        rw [Token.sourceOf_cons, List.reverse_append, List.append_assoc]
      have restFits :
          (token.source.reverse ++ run).length + (Token.sourceOf rest).length ≤ bound := by
        rw [gathered] at runFits
        simp only [List.length_append, List.length_reverse] at runFits ⊢
        omega
      rw [ofTokens_cons (fun name isOpener => by simpa using loose.1 name isOpener) fits restFits,
        inductionHypothesis loose.2 restFits (by rwa [← gathered])]
      exact ofRun_congr gathered.symm _ _

/-- The fragments of loose tokens: their source, if there is any. -/
theorem ofTemplate_loose
    {tokens : List Token}
    (lexed : Token.Lexed tokens)
    (loose : Token.Loose [] tokens) :
    ofTemplate (Token.sourceOf tokens) =
      ofRun (Token.sourceOf tokens).reverse (Nat.le_of_eq List.length_reverse) := by
  unfold ofTemplate
  rw [ofTokens_congr lexed.ofTemplate_sourceOf _ (by simp), ofTokens_loose loose _ (by simp)]
  exact ofRun_congr (List.append_nil _) _ _

/-- The source of a section is one block. -/
theorem ofTemplate_blockSource
    {name : Text}
    {inside : List Token}
    (lexed : Token.Lexed (.opener name :: (inside ++ [.closer name])))
    (found : Token.breakAtCloser? name (inside ++ [.closer name]) = some (inside, [])) :
    ofTemplate (blockSource name (Token.sourceOf inside)) =
      [.block name (Token.sourceOf inside) (Nat.le_of_eq (blockSource_length _ _).symm)] := by
  have whole :
      Token.sourceOf (.opener name :: (inside ++ [.closer name])) =
        blockSource name (Token.sourceOf inside) := by
    simp [blockSource]
  have tokens :
      Token.ofTemplate (blockSource name (Token.sourceOf inside)) =
        .opener name :: (inside ++ [.closer name]) := by
    rw [← whole, lexed.ofTemplate_sourceOf]
  have noneAfter :
      ([] : Text).length + (Token.sourceOf []).length ≤
        (blockSource name (Token.sourceOf inside)).length :=
    Nat.zero_le _
  unfold ofTemplate
  rw [ofTokens_congr tokens _ (by simp [whole]),
    ofTokens_section found _ (Nat.zero_le _) (Nat.le_of_eq (blockSource_length _ _).symm) noneAfter,
    ofTokens_nil noneAfter (Nat.zero_le _)]
  rfl

end Fragment

/-! ## The passes are the walk -/

namespace Template

/-- The text that the three passes make of one fragment. -/
def passes {bound : Nat} (context : Context) (fragment : Fragment bound) : Text :=
  ((conditionalPass context (fun inner _ => renderFlat context inner) fragment).flatMap
    (loopPass context fun itemContext inner _ => renderFlat itemContext inner)).flatMap
      (substitute context)

/-- Rendering treats each fragment on its own. -/
theorem renderFlat_eq_flatMap
    (context : Context)
    (template : Text) :
    renderFlat context template = (Fragment.ofTemplate template).flatMap (passes context) := by
  rw [renderFlat]
  simp only [List.flatMap_assoc]
  unfold passes
  simp only [List.flatMap_assoc]

/-- Gathered text is rendered by substitution alone. -/
private theorem passes_text
    {bound : Nat}
    (context : Context)
    {tokens : List Token}
    {content : Text}
    (lexed : Token.Lexed tokens)
    (loose : Token.Loose [] tokens)
    (isSource : content = Token.sourceOf tokens)
    (fits : content.length ≤ bound) :
    passes context (.text content fits) = tokens.flatMap (substituteToken context) := by
  subst isSource
  have whole := lexed.ofTemplate_sourceOf
  simp only [passes, conditionalPass, List.flatMap_cons, List.flatMap_nil, List.append_nil,
    loopPass, Fragment.ofTemplate_loose lexed loose, Fragment.ofRun, List.isEmpty_reverse]
  split
  · rename_i isEmpty
    have noSource := List.isEmpty_iff.mp isEmpty
    rw [noSource, Token.ofTemplate] at whole
    simp [← whole]
  · simp [loopFragment, widen, substitute, whole]

/-- A run of gathered text is rendered by substitution alone. -/
private theorem flatMap_passes_ofRun
    {bound : Nat}
    (context : Context)
    {gathered : List Token}
    (lexed : Token.Lexed gathered)
    (loose : Token.Loose [] gathered)
    (fits : (Token.sourceOf gathered).reverse.length ≤ bound) :
    (Fragment.ofRun (Token.sourceOf gathered).reverse fits).flatMap (passes context) =
      gathered.flatMap (substituteToken context) := by
  unfold Fragment.ofRun
  split
  · rename_i isEmpty
    have whole := lexed.ofTemplate_sourceOf
    have noSource : Token.sourceOf gathered = [] := by
      simpa using isEmpty
    rw [noSource, Token.ofTemplate] at whole
    simp [← whole]
  · rw [List.flatMap_cons, List.flatMap_nil, List.append_nil]
    exact passes_text context lexed loose (List.reverse_reverse _) _

/-- The passes render a section as the walk does. -/
private theorem passes_block
    {bound : Nat}
    (context : Context)
    {name : Text}
    {inside : List Token}
    (lexed : Token.Lexed (.opener name :: (inside ++ [.closer name])))
    (found : Token.breakAtCloser? name (inside ++ [.closer name]) = some (inside, []))
    (fits : (Token.sourceOf inside).length + 2 * (name.length + 5) ≤ bound) :
    passes context (.block name (Token.sourceOf inside) fits) =
      sectionText context (fun inner => renderFlat inner (Token.sourceOf inside))
        (context.lookup? name) := by
  cases looked : context.lookup? name with
  | none =>
      simp [passes, conditionalPass, looked, sectionText]
  | some value =>
      cases value with
      | list items =>
          cases items with
          | nil =>
              simp [passes, conditionalPass, looked, sectionText, Value.isTruthy]
          | cons item items =>
              simp [passes, conditionalPass, looked, sectionText, Value.isTruthy, loopPass,
                Fragment.ofTemplate_blockSource lexed found, loopFragment, widen, substitute]
      | _ =>
          simp only [passes, conditionalPass, looked, sectionText]
          split <;> simp [loopPass, substitute]

/-- The fragments of gathered text, of a section and of what follows it are rendered as the walk
renders them, if this holds of what stands inside the section and of what follows it. -/
private theorem flatMap_passes_section
    {bound : Nat}
    (context : Context)
    {gathered rest inside after : List Token}
    {name : Text}
    (found : Token.breakAtCloser? name rest = some (inside, after))
    (lexed : Token.Lexed (gathered ++ .opener name :: rest))
    (loose : Token.Loose (.opener name :: rest) gathered)
    (insideRendered : ∀ inner,
      renderFlat inner (Token.sourceOf inside) =
        interpret inner (Token.ofTemplate (Token.sourceOf inside)))
    (fits :
      (Token.sourceOf gathered).reverse.length +
        (Token.sourceOf (.opener name :: rest)).length ≤ bound)
    (gatheredFits : (Token.sourceOf gathered).reverse.length ≤ bound)
    (blockFits : (Token.sourceOf inside).length + 2 * (name.length + 5) ≤ bound)
    (afterFits : ([] : Text).length + (Token.sourceOf after).length ≤ bound)
    (afterRendered :
      (Fragment.ofTokens bound [] after afterFits).flatMap (passes context) =
        interpret context after) :
    (Fragment.ofTokens bound (Token.sourceOf gathered).reverse (.opener name :: rest)
        fits).flatMap (passes context) =
      gathered.flatMap (substituteToken context) ++
        interpret context (.opener name :: rest) := by
  have whole := Token.eq_of_breakAtCloser? found
  have blockLexed : Token.Lexed (.opener name :: (inside ++ [.closer name])) :=
    lexed.of_infix ⟨gathered, after, by simp [whole]⟩
  have insideLexed : Token.Lexed inside :=
    lexed.of_infix ⟨gathered ++ [.opener name], .closer name :: after, by simp [whole]⟩
  -- What stands inside is read anew by the passes, but its tokens are those of the template.
  have walked :
      (fun inner => renderFlat inner (Token.sourceOf inside)) =
        fun inner => interpret inner inside := by
    funext inner
    rw [insideRendered, insideLexed.ofTemplate_sourceOf]
  rw [Fragment.ofTokens_section found fits gatheredFits blockFits afterFits,
    interpret_section context found, List.flatMap_append, List.flatMap_cons,
    flatMap_passes_ofRun context lexed.of_append_left loose.alone,
    passes_block context blockLexed (Token.breakAtCloser?_append found), walked, afterRendered]

/-- The fragments of tokens, the gathered ones in front of them included, are rendered as the walk
renders them, if the walk renders what stands inside sections as the passes do. -/
theorem flatMap_passes_ofTokens
    {bound : Nat}
    (context : Context)
    (smaller : ∀ inner context, inner.length < bound →
      renderFlat context inner = interpret context (Token.ofTemplate inner))
    (gathered tokens : List Token)
    (lexed : Token.Lexed (gathered ++ tokens))
    (loose : Token.Loose tokens gathered)
    (fits :
      (Token.sourceOf gathered).reverse.length + (Token.sourceOf tokens).length ≤ bound) :
    (Fragment.ofTokens bound (Token.sourceOf gathered).reverse tokens fits).flatMap
        (passes context) =
      gathered.flatMap (substituteToken context) ++ interpret context tokens := by
  -- A section takes any number of tokens at once, so the induction is on how many are left.
  induction number : tokens.length using Nat.strongRecOn generalizing gathered tokens with
  | _ number inductionHypothesis =>
  subst number
  cases tokens with
  | nil =>
      rw [Fragment.ofTokens_nil fits (by simpa using fits), interpret_nil, List.append_nil]
      exact flatMap_passes_ofRun context (by simpa using lexed) loose _
  | cons token rest =>
      by_cases opensNothing :
          ∀ name, token = .opener name → Token.breakAtCloser? name rest = none
      · have together :
            token.source.reverse ++ (Token.sourceOf gathered).reverse =
              (Token.sourceOf (gathered ++ [token])).reverse := by
          simp
        have restFits :
            (token.source.reverse ++ (Token.sourceOf gathered).reverse).length +
              (Token.sourceOf rest).length ≤ bound := by
          simp only [Token.sourceOf_cons, List.length_append, List.length_reverse] at fits ⊢
          omega
        have joined := inductionHypothesis rest.length (by simp) (gathered ++ [token]) rest
          (by simpa using lexed) (loose.concat opensNothing) (by rwa [← together]) rfl
        rw [Fragment.ofTokens_cons opensNothing fits restFits, interpret_cons context opensNothing]
        simpa [← together] using joined
      · simp only [not_forall] at opensNothing
        obtain ⟨name, rfl, someCloser⟩ := opensNothing
        obtain ⟨⟨inside, after⟩, found⟩ := Option.ne_none_iff_exists'.mp someCloser
        have whole := Token.eq_of_breakAtCloser? found
        have afterLexed : Token.Lexed after :=
          lexed.of_infix ⟨gathered ++ .opener name :: (inside ++ [.closer name]), [], by
            simp [whole]⟩
        have room :
            (Token.sourceOf gathered).length + ((Token.sourceOf inside).length +
              2 * (name.length + 5)) + (Token.sourceOf after).length ≤ bound := by
          simp only [whole, Token.sourceOf_cons, Token.sourceOf_append, List.length_append,
            List.length_reverse, Token.length_source_opener, Token.length_source_closer] at fits
          omega
        have gatheredFits : (Token.sourceOf gathered).reverse.length ≤ bound := by
          rw [List.length_reverse]
          omega
        have afterFits : ([] : Text).length + (Token.sourceOf after).length ≤ bound := by
          simp only [List.length_nil]
          omega
        have shorter : after.length < (Token.opener name :: rest).length := by
          simp only [whole, List.length_append, List.length_cons]
          omega
        apply flatMap_passes_section context found lexed loose _ fits gatheredFits (by omega)
          afterFits
        · exact inductionHypothesis after.length shorter [] after afterLexed trivial afterFits rfl
        · intro inner
          exact smaller _ _ (by omega)

/-- Rendering the source of tokens is walking over them, if the source reads as these tokens. -/
theorem renderFlat_sourceOf
    {tokens : List Token}
    (lexed : Token.Lexed tokens)
    (context : Context) :
    renderFlat context (Token.sourceOf tokens) = interpret context tokens := by
  induction number : (Token.sourceOf tokens).length using Nat.strongRecOn
    generalizing tokens context with
  | _ number inductionHypothesis =>
  subst number
  have smaller : ∀ inner context, inner.length < (Token.sourceOf tokens).length →
      renderFlat context inner = interpret context (Token.ofTemplate inner) := by
    intro inner context shorter
    have isRead := inductionHypothesis (Token.sourceOf (Token.ofTemplate inner)).length
      (by rwa [Token.sourceOf_ofTemplate]) (Token.lexed_ofTemplate inner) context rfl
    rwa [Token.sourceOf_ofTemplate] at isRead
  have fits : ([] : Text).length + (Token.sourceOf tokens).length ≤
      (Token.sourceOf tokens).length := by
    simp
  rw [renderFlat_eq_flatMap, Fragment.ofTemplate,
    Fragment.ofTokens_congr lexed.ofTemplate_sourceOf _ fits]
  exact flatMap_passes_ofTokens context smaller [] tokens lexed trivial fits

/-- What a template shows is told by one walk over its tokens. -/
theorem render_eq_interpret
    (template : Text)
    (context : Context) :
    render template context = interpret context.flatten (Token.ofTemplate template) := by
  have walked := renderFlat_sourceOf (Token.lexed_ofTemplate template) context.flatten
  rwa [Token.sourceOf_ofTemplate] at walked

/-- Rendering in three passes gives the text of one walk over the tokens of the template. -/
theorem renderFlat_eq_interpret
    (template : Text)
    (context : Context) :
    renderFlat context template = interpret context (Token.ofTemplate template) := by
  have walked := renderFlat_sourceOf (Token.lexed_ofTemplate template) context
  rwa [Token.sourceOf_ofTemplate] at walked

end Template

end ComponentPages
