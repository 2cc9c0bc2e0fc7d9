import ComponentPages.Proofs.Template.Sections
import ComponentPages.Proofs.Text.Keyed

namespace ComponentPages

/-!
# Names that a template mentions

A template mentions a name if the path in one of its tags starts with it. What is bound to other
names does not matter to what the template shows, as long as the component stays what it is: two
contexts that are alike but for one name lead every path that does not start with this name to the
same value, in and outside loops, whatever the items of loops bind.
-/

/-! ## Contexts that differ in one name -/

/-- Whether two contexts bind all names but one alike. -/
def Context.AlikeBut (key : Text) (context other : Context) : Prop :=
  ∀ name, name ≠ key → context.find? name = other.find? name

namespace Context

variable {key : Text} {context other : Context}

/-- A context is alike but for the name that is bound anew. -/
private theorem alikeBut_insert
    (key : Text)
    (value : Value)
    (context : Context) :
    AlikeBut key (context.insert key value) context :=
  fun _ different => Keyed.find?_insert_of_ne different context value

/-- Contexts that differ in a name other than that of the component are alike when they are
flat. -/
theorem AlikeBut.flatten
    (alike : AlikeBut key context other)
    (isOther : key ≠ componentName) :
    AlikeBut key context.flatten other.flatten := by
  have sameFields : context.componentFields = other.componentFields := by
    rw [componentFields, componentFields, alike componentName (Ne.symm isOther)]
  intro name different
  rw [Context.flatten, Context.flatten, Keyed.find?_overlay, Keyed.find?_overlay, sameFields,
    alike name different]

/-- Laying the same bindings over both contexts keeps them alike, also where they bind the name. -/
theorem AlikeBut.insertAll
    (alike : AlikeBut key context other)
    (bindings : List (Text × Value)) :
    AlikeBut key (context.insertAll bindings) (other.insertAll bindings) := by
  intro name different
  rw [Keyed.find?_insertAll, Keyed.find?_insertAll, alike name different]

private theorem AlikeBut.itemContext
    (alike : AlikeBut key context other)
    (item : Value) :
    AlikeBut key (Template.itemContext context item) (Template.itemContext other item) := by
  cases item with
  | map fields =>
      exact alike.insertAll fields
  | _ =>
      exact alike

/-- A path that starts with another name leads to the same value. -/
theorem AlikeBut.lookup?
    (alike : AlikeBut key context other)
    {path : Text}
    (startsOtherwise : key ∉ (segments path).head?) :
    context.lookup? path = other.lookup? path := by
  unfold Context.lookup?
  cases isPath : segments path with
  | nil =>
      rfl
  | cons first rest =>
      have different : first ≠ key := by
        rintro rfl
        exact startsOtherwise (by rw [isPath]; rfl)
      dsimp only
      rw [alike first different]

end Context

/-! ## Tokens without the name -/

namespace Token

/-- The path in a tag; a token that is no tag has none. -/
def path? : Token → Option Text
  | .opener name => some name
  | .closer name => some name
  | .variable path => some path
  | .text _ => none
  | .brace => none

/-- Whether the path of a tag among tokens starts with a name. -/
def Mention (tokens : List Token) (name : Text) : Prop :=
  ∃ token ∈ tokens, ∃ path ∈ token.path?, name ∈ (Context.segments path).head?

instance (tokens : List Token) (name : Text) : Decidable (Mention tokens name) :=
  inferInstanceAs (Decidable
    (∃ token ∈ tokens, ∃ path ∈ token.path?, name ∈ (Context.segments path).head?))

private theorem Mention.mono
    {tokens more : List Token}
    {name : Text}
    (within : tokens ⊆ more)
    (mention : Mention tokens name) :
    Mention more name := by
  obtain ⟨token, isToken, mentions⟩ := mention
  exact ⟨token, within isToken, mentions⟩

end Token

namespace Template

variable {key : Text} {context other : Context}

/-- The name is not that of a tag, so the tag leads to the same value in both contexts. -/
private theorem lookup?_of_not_mention
    (alike : context.AlikeBut key other)
    {tokens : List Token}
    (notMentioned : ¬ Token.Mention tokens key)
    {token : Token}
    (isToken : token ∈ tokens)
    {path : Text}
    (isPath : path ∈ token.path?) :
    context.lookup? path = other.lookup? path :=
  alike.lookup? fun starts => notMentioned ⟨token, isToken, path, isPath, starts⟩

/-- A token is shown alike where the name it may not mention is bound differently. -/
theorem substituteToken_congr
    (alike : context.AlikeBut key other)
    {tokens : List Token}
    (notMentioned : ¬ Token.Mention tokens key)
    {token : Token}
    (isToken : token ∈ tokens) :
    substituteToken context token = substituteToken other token := by
  match token with
  | .variable path =>
      have sameValue :=
        lookup?_of_not_mention alike notMentioned isToken (Option.mem_some_self path)
      simp only [substituteToken, sameValue]
  | .opener _ | .closer _ | .text _ | .brace =>
      rfl

/-- A section shows the same if what stands inside it does, in the contexts of all its items. -/
private theorem sectionText_congr
    (alike : context.AlikeBut key other)
    {inner : Context → Text}
    (innerSame : ∀ {context other : Context}, context.AlikeBut key other →
      inner context = inner other)
    (value : Option Value) :
    sectionText context inner value = sectionText other inner value := by
  cases value with
  | none =>
      rfl
  | some value =>
      by_cases isTruthy : value.isTruthy = true
      · cases value with
        | list items =>
            have sameItems :
                (fun item => inner (itemContext context item)) =
                  fun item => inner (itemContext other item) :=
              funext fun item => innerSame (alike.itemContext item)
            simp only [sectionText, sameItems]
        | _ =>
            simp only [sectionText, innerSame alike]
      · simp [sectionText, isTruthy]

/-- What tokens show is the same in contexts that differ in a name they do not mention. -/
theorem interpret_congr
    {tokens : List Token}
    (notMentioned : ¬ Token.Mention tokens key)
    (alike : context.AlikeBut key other) :
    interpret context tokens = interpret other tokens := by
  -- The inside of a section is any stretch of the tokens: the induction is on how many there are.
  induction number : tokens.length using Nat.strongRecOn generalizing tokens context other with
  | _ number inductionHypothesis =>
  subst number
  cases tokens with
  | nil =>
      rw [interpret_nil, interpret_nil]
  | cons token rest =>
      by_cases opensNothing :
          ∀ name, token = .opener name → Token.breakAtCloser? name rest = none
      · have sameToken := substituteToken_congr alike notMentioned List.mem_cons_self
        have restNot : ¬ Token.Mention rest key :=
          fun mention => notMentioned (mention.mono (List.subset_cons_self token rest))
        rw [interpret_cons _ opensNothing, interpret_cons _ opensNothing, sameToken,
          inductionHypothesis rest.length (by simp) restNot alike rfl]
      · simp only [not_forall] at opensNothing
        obtain ⟨name, rfl, someCloser⟩ := opensNothing
        obtain ⟨⟨inside, after⟩, found⟩ := Option.ne_none_iff_exists'.mp someCloser
        have isRest := Token.eq_of_breakAtCloser? found
        have insideNot : ¬ Token.Mention inside key := by
          refine fun mention => notMentioned (mention.mono ?_)
          rw [isRest]
          exact fun token isToken => List.mem_cons_of_mem _ (List.mem_append_left _ isToken)
        have afterNot : ¬ Token.Mention after key := by
          refine fun mention => notMentioned (mention.mono ?_)
          rw [isRest]
          exact fun token isToken =>
            List.mem_cons_of_mem _ (List.mem_append_right _ (List.mem_cons_of_mem _ isToken))
        have sameValue := lookup?_of_not_mention alike notMentioned List.mem_cons_self
          (Option.mem_some_self name)
        have whole := congrArg List.length isRest
        simp only [List.length_append, List.length_cons] at whole
        have sameInside : ∀ {context other : Context}, context.AlikeBut key other →
            interpret context inside = interpret other inside := by
          intro context other alikeInside
          exact inductionHypothesis inside.length (by simp only [List.length_cons]; omega)
            insideNot alikeInside rfl
        have sameAfter := inductionHypothesis after.length
          (by simp only [List.length_cons]; omega) afterNot alike rfl
        rw [interpret_section _ found, interpret_section _ found, sameValue, sameAfter,
          sectionText_congr alike sameInside]

/--
What a template shows does not depend on what is bound to a name that it does not mention, if the
name is not that of the component.
-/
theorem render_insert_of_not_mention
    {template key : Text}
    (isOther : key ≠ Context.componentName)
    (notMentioned : ¬ Token.Mention (Token.ofTemplate template) key)
    (context : Context)
    (value : Value) :
    render template (context.insert key value) = render template context := by
  have alike := (Context.alikeBut_insert key value context).flatten isOther
  rw [render_eq_interpret, render_eq_interpret]
  exact interpret_congr notMentioned alike

/-! ### A section inside a loop -/

/-- A loop over items with a section for their names. -/
def namedItems : List Token :=
  [.opener "items".toList, .opener "name".toList, .variable "name".toList, .text "\n".toList,
    .closer "name".toList, .closer "items".toList, .variable "component.version".toList]

/-- Two items that bind a name and a note, beside a component that binds a note as well. -/
def notedComponent : Context :=
  .ofList
    [("component".toList,
      .map [("note".toList, .text "old".toList), ("version".toList, .text "1.0.0".toList)]),
     ("items".toList,
      .list
        [.map [("name".toList, .text "first".toList), ("note".toList, .null)],
         .map [("name".toList, .text "second".toList), ("note".toList, .boolean true)]])]

/-- The note is bound by the component and by each item, but no tag mentions it. -/
theorem render_insert_note :
    render (Token.sourceOf namedItems)
        (notedComponent.insert "note".toList (.text "new".toList)) =
      render (Token.sourceOf namedItems) notedComponent := by
  have tokens : Token.ofTemplate (Token.sourceOf namedItems) = namedItems :=
    (Token.lexed_of_isReadable (by decide)).ofTemplate_sourceOf
  have notMentioned :
      ¬ Token.Mention (Token.ofTemplate (Token.sourceOf namedItems)) "note".toList := by
    rw [tokens]
    decide
  exact render_insert_of_not_mention (by decide) notMentioned notedComponent _

end Template

end ComponentPages
