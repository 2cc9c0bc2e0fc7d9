import ComponentPages.Page.DefaultTemplate
import ComponentPages.Proofs.Template.OnePass
import ComponentPages.Proofs.Template.Opacity

namespace ComponentPages

/-!
# What the parts of a template show

Tokens in which every section is closed show the same whatever stands behind them. So a template
that is put together from text, variables and closed sections shows what its parts show, one behind
another.
-/

/-- The characters of a string that is written out. Rewriting with this spares decoding it. -/
theorem Text.toList_literal
    (characters : Text) :
    (no_index (String.ofList characters)).toList = characters :=
  String.toList_ofList

namespace Token

/-- Whether every opener has a closer of its name behind it. -/
def isWhole : List Token → Bool
  | [] => true
  | .opener name :: rest => rest.contains (.closer name) && isWhole rest
  | _ :: rest => isWhole rest

private theorem isWhole_of_append
    {before after : List Token}
    (whole : isWhole (before ++ after) = true) :
    isWhole after = true := by
  induction before with
  | nil =>
      exact whole
  | cons token rest inductionHypothesis =>
      apply inductionHypothesis
      cases token with
      | opener name =>
          exact (Bool.and_eq_true_iff.mp whole).2
      | _ =>
          exact whole

/-- The first closer stays the first one when more tokens stand behind it. -/
private theorem breakAtCloser?_append_right
    {name : Text}
    {tokens inside after : List Token}
    (found : breakAtCloser? name tokens = some (inside, after))
    (more : List Token) :
    breakAtCloser? name (tokens ++ more) = some (inside, after ++ more) := by
  induction tokens generalizing inside with
  | nil =>
      contradiction
  | cons token rest inductionHypothesis =>
      rw [List.cons_append]
      rw [breakAtCloser?] at found ⊢
      split at found
      · rename_i isCloser
        cases found
        rw [if_pos isCloser]
      · rename_i notCloser
        obtain ⟨⟨before, behind⟩, later, same⟩ := Option.map_eq_some_iff.mp found
        cases same
        rw [if_neg notCloser, inductionHypothesis later]
        rfl

/-- A closer that stands behind tokens without it is the first one. -/
private theorem breakAtCloser?_of_not_mem
    {name : Text}
    {inside : List Token}
    (noCloser : .closer name ∉ inside)
    (after : List Token) :
    breakAtCloser? name (inside ++ .closer name :: after) = some (inside, after) := by
  induction inside with
  | nil =>
      exact if_pos rfl
  | cons token rest inductionHypothesis =>
      have different : token ≠ .closer name :=
        fun isCloser => noCloser (isCloser ▸ List.mem_cons_self)
      have notLater : .closer name ∉ rest :=
        fun member => noCloser (List.mem_cons_of_mem token member)
      rw [List.cons_append, breakAtCloser?, if_neg different, inductionHypothesis notLater]
      rfl

/-- Whether a token is a tag that has a name. -/
def isNamedTag : Token → Bool
  | .opener name => !name.isEmpty && name.all isNameCharacter
  | .closer name => !name.isEmpty && name.all isNameCharacter
  | .variable path => !path.isEmpty && path.all isNameCharacter
  | _ => false

private theorem isName_of_checked
    {name : Text}
    (checked : (!name.isEmpty && name.all isNameCharacter) = true) :
    IsName name := by
  simpa [IsName] using checked

private theorem isTag_of_isNamedTag : ∀ {token : Token}, token.isNamedTag = true → IsTag token
  | .opener _, isNamed => .ofOpener (isName_of_checked isNamed)
  | .closer _, isNamed => .ofCloser (isName_of_checked isNamed)
  | .variable _, isNamed => .ofVariable (isName_of_checked isNamed)

/-- Whether the first token is text. -/
def startsWithText : List Token → Bool
  | .text _ :: _ => true
  | _ => false

private theorem startsWithText_iff : ∀ {tokens : List Token},
    startsWithText tokens = true ↔ StartsWithText tokens
  | [] => Bool.false_eq_true.to_iff
  | token :: _ => by cases token <;> simp [startsWithText, StartsWithText]

/-- Whether tokens are tags with names and text without braces, no text behind text. -/
def isReadable : List Token → Bool
  | [] => true
  | .text content :: rest =>
      !content.isEmpty && content.all (· != '{') && !startsWithText rest && isReadable rest
  | token :: rest => token.isNamedTag && isReadable rest

/-- Tokens that pass the check are read as they are. -/
theorem lexed_of_isReadable
    {tokens : List Token}
    (readable : isReadable tokens = true) :
    Lexed tokens := by
  induction tokens with
  | nil =>
      exact .nil
  | cons token rest inductionHypothesis =>
      cases token with
      | text content =>
          simp only [isReadable, Bool.and_eq_true, Bool.not_eq_true', List.isEmpty_eq_false_iff,
            List.all_eq_true, bne_iff_ne] at readable
          obtain ⟨⟨⟨notEmpty, noBrace⟩, notText⟩, restReadable⟩ := readable
          refine .text notEmpty noBrace ?_ (inductionHypothesis restReadable)
          rwa [← startsWithText_iff, Bool.not_eq_true]
      | _ =>
          obtain ⟨isNamed, restReadable⟩ := Bool.and_eq_true_iff.mp readable
          exact .tag (isTag_of_isNamedTag isNamed) (inductionHypothesis restReadable)

end Token

namespace Template

/-- Tokens in which every section is closed show the same whatever stands behind them. -/
theorem interpret_append
    {tokens : List Token}
    (whole : Token.isWhole tokens = true)
    (context : Context)
    (more : List Token) :
    interpret context (tokens ++ more) = interpret context tokens ++ interpret context more := by
  induction size : tokens.length using Nat.strongRecOn generalizing tokens with
  | ind size inductionHypothesis =>
      subst size
      cases tokens with
      | nil =>
          simp
      | cons token rest =>
          have shorter : rest.length < (token :: rest).length :=
            Nat.lt_succ_self _
          cases token with
          | opener name =>
              obtain ⟨hasCloser, restWhole⟩ := Bool.and_eq_true_iff.mp whole
              cases found : Token.breakAtCloser? name rest with
              | none =>
                  exact absurd (List.contains_iff_mem.mp hasCloser)
                    (Token.breakAtCloser?_eq_none_iff.mp found)
              | some parts =>
                  obtain ⟨inside, after⟩ := parts
                  have isRest := Token.eq_of_breakAtCloser? found
                  have afterWhole : Token.isWhole after = true := by
                    rw [isRest, List.append_cons] at restWhole
                    exact Token.isWhole_of_append restWhole
                  have afterShorter : after.length < (Token.opener name :: rest).length := by
                    rw [isRest]
                    simp only [List.length_cons, List.length_append]
                    omega
                  rw [List.cons_append, interpret_section context found,
                    interpret_section context (Token.breakAtCloser?_append_right found more),
                    inductionHypothesis _ afterShorter afterWhole rfl, List.append_assoc]
          | _ =>
              have restWhole : Token.isWhole rest = true := whole
              have others := inductionHypothesis rest.length shorter restWhole rfl
              rw [List.cons_append, interpret_cons context (by simp),
                interpret_cons context (by simp), others, List.append_assoc]

/-! ## Parts -/

/-- Text is shown as it is. -/
theorem interpret_text
    (context : Context)
    (content : String) :
    interpret context (DefaultTemplate.text content) = content.toList := by
  rw [DefaultTemplate.text, interpret_cons context (by simp), interpret_nil, List.append_nil]
  rfl

/-- A tag shows what its path finds, or nothing. -/
theorem interpret_value
    (context : Context)
    (path : String) :
    interpret context (DefaultTemplate.value path) =
      ((context.lookup? path.toList).map Value.display).getD [] := by
  rw [DefaultTemplate.value, interpret_cons context (by simp), interpret_nil, List.append_nil]
  rfl

/-- A section shows what its name finds through what stands in it. -/
theorem interpret_block
    {name : String}
    {inside : List Token}
    (noCloser : .closer name.toList ∉ inside)
    (context : Context) :
    interpret context (DefaultTemplate.block name inside) =
      sectionText context (fun inner => interpret inner inside)
        (context.lookup? name.toList) := by
  have isClosed := Token.breakAtCloser?_of_not_mem noCloser []
  rw [DefaultTemplate.block, List.cons_append, interpret_section context isClosed, interpret_nil,
    List.append_nil]

/-- A section for a truth value is shown if that is true. -/
theorem sectionText_boolean
    (context : Context)
    (inner : Context → Text)
    (flag : Bool) :
    sectionText context inner (some (.boolean flag)) = if flag then inner context else [] := by
  cases flag <;> rfl

/-- A section for a list is shown once for each item. -/
theorem sectionText_list
    (context : Context)
    (inner : Context → Text)
    (items : List Value) :
    sectionText context inner (some (.list items)) =
      items.flatMap fun item => inner (itemContext context item) := by
  cases items <;> rfl

end Template

/-! ## Values -/

namespace Value

/-- A text is displayed as it is. -/
@[simp] theorem display_text (content : Text) : display (.text content) = content := by
  rw [display]

/-- A truth value is displayed as its word. -/
theorem display_boolean
    (flag : Bool) :
    display (.boolean flag) = (if flag then "true" else "false").toList := by
  cases flag <;> rfl

end Value

namespace Context

/-- A path without dots leads to what its name is bound to. -/
theorem lookup?_of_plain
    {name : Text}
    (plain : segments name = [name])
    (context : Context) :
    context.lookup? name = context.find? name := by
  rw [lookup?, plain]
  dsimp only
  cases context.find? name <;> rfl

/-- In a flat context a name leads to what is bound to it, or else to the component's field. -/
theorem lookup?_flatten
    {context : Context}
    {fields : Keyed Value}
    {name : Text}
    (plain : segments name = [name])
    (isComponent : context.find? componentName = some (.map fields.bindings)) :
    context.flatten.lookup? name = (context.find? name).or (fields.find? name) := by
  rw [lookup?_of_plain plain, flatten, Keyed.find?_overlay, componentFields, isComponent,
    Keyed.ofList_bindings]

end Context

/-! ## Pieces -/

namespace Piece

/-- What pieces show when no text is changed. -/
def textOf (pieces : List Piece) : Text :=
  pieces.flatMap (shown id)

/-- No pieces have no text. -/
@[simp] theorem textOf_nil : textOf [] = [] :=
  rfl

/-- A fixed piece gives its content. -/
@[simp] theorem textOf_fixed
    (content : Text)
    (rest : List Piece) :
    textOf (.fixed content :: rest) = content ++ textOf rest :=
  rfl

/-- A bound piece gives its content. -/
@[simp] theorem textOf_bound
    (content : Text)
    (rest : List Piece) :
    textOf (.bound content :: rest) = content ++ textOf rest :=
  rfl

/-- The text of pieces is put together list by list. -/
@[simp] theorem textOf_append
    (pieces others : List Piece) :
    textOf (pieces ++ others) = textOf pieces ++ textOf others :=
  List.flatMap_append

/-- The text of entries is put together entry by entry. -/
@[simp] theorem textOf_flatMap
    {α : Type}
    (items : List α)
    (pieces : α → List Piece) :
    textOf (items.flatMap pieces) = items.flatMap fun item => textOf (pieces item) :=
  List.flatMap_assoc

end Piece

end ComponentPages
