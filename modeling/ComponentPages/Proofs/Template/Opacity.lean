import ComponentPages.Proofs.Template.OnePass
import ComponentPages.Proofs.Text.Keyed

namespace ComponentPages

/-!
# Texts of a context are opaque

What a template makes of a context is a sequence of pieces, some of them fixed and some of them
texts of the context. If every text of the context is changed, and no text becomes empty or ceases
to be so, then the same pieces are shown, each text in its changed form. So nothing that stands
inside a text is ever read as a tag.

Everything that rendering asks of a value, where a path leads, whether a section is shown and
which items a loop has, is answered alike before and after the change. The texts themselves are
only ever put behind one another.
-/

/-! ## Changing texts -/

namespace Value

mutual

/-- The value with every text in it changed. -/
def mapText (change : Text → Text) : Value → Value
  | .null => .null
  | .boolean flag => .boolean flag
  | .number amount => .number amount
  | .text content => .text (change content)
  | .list items => .list (mapItems change items)
  | .map fields => .map (mapFields change fields)

/-- The items of a list with every text in them changed. -/
def mapItems (change : Text → Text) : List Value → List Value
  | [] => []
  | item :: rest => mapText change item :: mapItems change rest

/-- The fields of a map with every text in their values changed. -/
def mapFields (change : Text → Text) : List (Text × Value) → List (Text × Value)
  | [] => []
  | (name, value) :: rest => (name, mapText change value) :: mapFields change rest

end

private theorem mapItems_eq_map
    (change : Text → Text)
    (items : List Value) :
    mapItems change items = items.map (mapText change) := by
  induction items with
  | nil =>
      rfl
  | cons item rest inductionHypothesis =>
      rw [mapItems, inductionHypothesis, List.map_cons]

private theorem mapFields_eq_map
    (change : Text → Text)
    (fields : List (Text × Value)) :
    mapFields change fields = fields.map (Prod.map id (mapText change)) := by
  induction fields with
  | nil =>
      rfl
  | cons field rest inductionHypothesis =>
      rw [mapFields, inductionHypothesis, List.map_cons, Prod.map, id]

/-- Whether a text stands somewhere in a value. -/
inductive HasText (content : Text) : Value → Prop where
  /-- The value is the text. -/
  | here : HasText content (.text content)
  /-- The text stands in an item of the list. -/
  | item {items : List Value} {item : Value} :
      item ∈ items → HasText content item → HasText content (.list items)
  /-- The text stands in a field of the map. -/
  | field {fields : List (Text × Value)} {name : Text} {value : Value} :
      (name, value) ∈ fields → HasText content value → HasText content (.map fields)

end Value

namespace Bindings

variable {α β : Type}

private theorem find?_map
    (change : α → β)
    (name : Text)
    (bindings : List (Text × α)) :
    find? name (bindings.map (Prod.map id change)) = (find? name bindings).map change := by
  induction bindings with
  | nil =>
      rfl
  | cons first rest inductionHypothesis =>
      by_cases same : first.1 = name
      · simp [find?, same]
      · simpa [find?, same] using inductionHypothesis

private theorem insert_map
    (change : α → β)
    (name : Text)
    (value : α)
    (bindings : List (Text × α)) :
    insert name (change value) (bindings.map (Prod.map id change)) =
      (insert name value bindings).map (Prod.map id change) := by
  induction bindings with
  | nil =>
      rfl
  | cons first rest inductionHypothesis =>
      rw [List.map_cons]
      simp only [Prod.map, id, insert]
      split
      · rw [inductionHypothesis, List.map_cons, Prod.map, id]
      · split <;> rfl

end Bindings

namespace Keyed

variable {α β : Type}

/-- The same names with their values changed. -/
def map (change : α → β) (keyed : Keyed α) : Keyed β where
  bindings := keyed.bindings.map (Prod.map id change)
  ascending := List.pairwise_map.mpr keyed.ascending

private theorem find?_map
    (change : α → β)
    (keyed : Keyed α)
    (name : Text) :
    (keyed.map change).find? name = (keyed.find? name).map change :=
  Bindings.find?_map change name keyed.bindings

private theorem insertAll_map
    (change : α → β)
    (keyed : Keyed α)
    (bindings : List (Text × α)) :
    (keyed.map change).insertAll (bindings.map (Prod.map id change)) =
      (keyed.insertAll bindings).map change := by
  induction bindings generalizing keyed with
  | nil =>
      rfl
  | cons first rest inductionHypothesis =>
      have inserted :
          (keyed.map change).insert first.1 (change first.2) =
            (keyed.insert first.1 first.2).map change :=
        ext (Bindings.insert_map change first.1 first.2 keyed.bindings)
      have others := inductionHypothesis (keyed.insert first.1 first.2)
      rw [← inserted] at others
      exact others

end Keyed

namespace Context

/-- The context with every text in it changed. -/
def mapText (change : Text → Text) (context : Context) : Context :=
  Keyed.map (Value.mapText change) context

/-- Whether a text stands somewhere in a context. -/
def HasText (context : Context) (content : Text) : Prop :=
  ∃ binding ∈ context.bindings, Value.HasText content binding.2

end Context

/-! ## Looking up -/

namespace Value

private theorem child?_mapText
    (change : Text → Text)
    (segment : Text)
    (value : Value) :
    child? segment (mapText change value) = (child? segment value).map (mapText change) := by
  cases value with
  | list items =>
      rw [mapText, mapItems_eq_map, child?, child?]
      cases position? segment with
      | none =>
          rfl
      | some position =>
          exact List.getElem?_map
  | map fields =>
      rw [mapText, mapFields_eq_map]
      exact Bindings.find?_map (mapText change) segment fields
  | _ =>
      rfl

private theorem descend?_mapText
    (change : Text → Text)
    (value : Value)
    (segments : List Text) :
    descend? (mapText change value) segments =
      (descend? value segments).map (mapText change) := by
  induction segments generalizing value with
  | nil =>
      rfl
  | cons segment rest inductionHypothesis =>
      rw [descend?, descend?, child?_mapText]
      cases child? segment value with
      | none =>
          rfl
      | some child =>
          exact inductionHypothesis child

/-- A text of a child is a text of the value. -/
theorem HasText.of_child?
    {content segment : Text}
    {value child : Value}
    (isChild : child? segment value = some child)
    (hasText : HasText content child) :
    HasText content value := by
  cases value with
  | list items =>
      obtain ⟨position, -, isItem⟩ := Option.bind_eq_some_iff.mp isChild
      exact .item (List.mem_of_getElem? isItem) hasText
  | map fields =>
      exact .field (Bindings.mem_of_find? isChild) hasText
  | _ =>
      contradiction

private theorem HasText.of_descend?
    {content : Text}
    {value lower : Value}
    {segments : List Text}
    (leads : descend? value segments = some lower)
    (hasText : HasText content lower) :
    HasText content value := by
  induction segments generalizing value with
  | nil =>
      obtain rfl := Option.some.inj leads
      exact hasText
  | cons segment rest inductionHypothesis =>
      obtain ⟨child, isChild, leadsOn⟩ := Option.bind_eq_some_iff.mp leads
      exact (inductionHypothesis leadsOn).of_child? isChild

end Value

namespace Context

variable {context : Context}

/-- Looking up finds in changed texts what it found, changed. -/
theorem lookup?_mapText
    (change : Text → Text)
    (context : Context)
    (path : Text) :
    (context.mapText change).lookup? path =
      (context.lookup? path).map (Value.mapText change) := by
  unfold lookup? mapText
  cases segments path with
  | nil =>
      rfl
  | cons first rest =>
      simp only [Keyed.find?_map]
      cases context.find? first with
      | none =>
          rfl
      | some value =>
          exact Value.descend?_mapText change value rest

private theorem HasText.of_find?
    {name content : Text}
    {value : Value}
    (found : context.find? name = some value)
    (hasText : Value.HasText content value) :
    context.HasText content :=
  ⟨(name, value), Bindings.mem_of_find? found, hasText⟩

/-- A text of a value that a path leads to is a text of the context. -/
theorem HasText.of_lookup?
    {path content : Text}
    {value : Value}
    (leads : context.lookup? path = some value)
    (hasText : Value.HasText content value) :
    context.HasText content := by
  unfold lookup? at leads
  split at leads
  · contradiction
  · obtain ⟨upper, found, descends⟩ := Option.bind_eq_some_iff.mp leads
    exact .of_find? found (hasText.of_descend? descends)

/-- The texts of a context with fields laid over it are texts of the context or of the fields. -/
theorem HasText.of_insertAll
    {fields : List (Text × Value)}
    {content : Text}
    (hasText : HasText (context.insertAll fields) content) :
    context.HasText content ∨ Value.HasText content (.map fields) := by
  obtain ⟨⟨name, value⟩, member, inValue⟩ := hasText
  have found := Bindings.find?_of_mem (context.insertAll fields).ascending member
  have isEither := (Keyed.find?_insertAll context fields name).symm.trans found
  rcases Option.or_eq_some_iff.mp isEither with inFields | ⟨-, inContext⟩
  · exact .inr (.field (List.mem_reverse.mp (Bindings.mem_of_find? inFields)) inValue)
  · exact .inl (.of_find? inContext inValue)

private theorem componentFields_mapText
    (change : Text → Text)
    (context : Context) :
    (context.mapText change).componentFields =
      context.componentFields.map (Prod.map id (Value.mapText change)) := by
  unfold componentFields mapText
  rw [Keyed.find?_map]
  cases context.find? componentName with
  | none =>
      rfl
  | some value =>
      cases value with
      | map fields =>
          exact Value.mapFields_eq_map change fields
      | _ =>
          rfl

/-- Flattening and changing texts can be done in either order. -/
theorem flatten_mapText
    (change : Text → Text)
    (context : Context) :
    (context.mapText change).flatten = context.flatten.mapText change := by
  unfold flatten
  rw [componentFields_mapText]
  exact (congrArg (Keyed.overlay · (context.mapText change))
    (Keyed.insertAll_map (Value.mapText change) .empty context.componentFields)).trans
      (Keyed.insertAll_map (Value.mapText change) _ context.bindings)

/-- Flattening brings no text into a context. -/
theorem HasText.of_flatten
    {content : Text}
    (hasText : context.flatten.HasText content) :
    context.HasText content := by
  rcases of_insertAll hasText with inComponent | inContext
  · rcases of_insertAll inComponent with ⟨_, isBinding, _⟩ | inFields
    · contradiction
    · revert inFields
      unfold componentFields
      split
      · rename_i fields isComponent
        exact .of_find? isComponent
      · rintro (_ | _ | ⟨isField, _⟩)
        contradiction
  · cases inContext with
    | field isBinding inValue =>
        exact ⟨_, isBinding, inValue⟩

end Context

/-! ## Pieces -/

/-- A piece of what a template shows. -/
inductive Piece where
  /-- Text that does not come from a text of the context. -/
  | fixed (content : Text)
  /-- A text of the context. -/
  | bound (content : Text)
  deriving Repr, DecidableEq

namespace Piece

/-- What a piece shows when the texts of the context are changed. -/
def shown (change : Text → Text) : Piece → Text
  | .fixed content => content
  | .bound content => change content

end Piece

/-- Whether a change of texts makes no text empty and keeps the empty text empty. -/
def KeepsEmptiness (change : Text → Text) : Prop :=
  ∀ content, change content = [] ↔ content = []

/--
Whether what is shown under a change of texts consists of pieces that do not depend on the change.
The pieces that are changed are among the texts of `holds`.
-/
def IsPieced (holds : Text → Prop) (result : (Text → Text) → Text) : Prop :=
  ∃ pieces : List Piece,
    (∀ content, .bound content ∈ pieces → holds content) ∧
      ∀ change, KeepsEmptiness change → result change = pieces.flatMap (Piece.shown change)

namespace IsPieced

variable {holds : Text → Prop}

/-- A fixed text is one piece. -/
theorem fixed (content : Text) : IsPieced holds fun _ => content :=
  ⟨[.fixed content], by simp, fun _ _ => (List.append_nil content).symm⟩

/-- A bound text is one piece, which is changed. -/
theorem bound {content : Text} (isHeld : holds content) :
    IsPieced holds fun change => change content := by
  refine ⟨[.bound content], ?_, fun change _ => (List.append_nil (change content)).symm⟩
  intro other isPiece
  obtain rfl : other = content := by
    simpa using isPiece
  exact isHeld

/-- What is pieced stays so one after another. -/
theorem append
    {first second : (Text → Text) → Text}
    (firstPieced : IsPieced holds first)
    (secondPieced : IsPieced holds second) :
    IsPieced holds fun change => first change ++ second change := by
  obtain ⟨pieces, areHeld, areShown⟩ := firstPieced
  obtain ⟨others, othersHeld, othersShown⟩ := secondPieced
  refine ⟨pieces ++ others, ?_, ?_⟩
  · intro content isPiece
    rcases List.mem_append.mp isPiece with isFirst | isSecond
    · exact areHeld content isFirst
    · exact othersHeld content isSecond
  · intro change keeps
    rw [List.flatMap_append, ← areShown change keeps, ← othersShown change keeps]

/-- What is shown once for each item consists of pieces if it does so for every item. -/
theorem flatMap
    {α : Type}
    {items : List α}
    {result : α → (Text → Text) → Text}
    (arePieced : ∀ item ∈ items, IsPieced holds (result item)) :
    IsPieced holds fun change => items.flatMap fun item => result item change := by
  induction items with
  | nil =>
      exact fixed []
  | cons item rest inductionHypothesis =>
      have restPieced := inductionHypothesis fun other isLater =>
        arePieced other (List.mem_cons_of_mem item isLater)
      exact (arePieced item List.mem_cons_self).append restPieced

private theorem mono
    {holdsMore : Text → Prop}
    {result : (Text → Text) → Text}
    (isPieced : IsPieced holds result)
    (within : ∀ content, holds content → holdsMore content) :
    IsPieced holdsMore result := by
  obtain ⟨pieces, areHeld, areShown⟩ := isPieced
  exact ⟨pieces, fun content isPiece => within content (areHeld content isPiece), areShown⟩

/-- Only what is shown under changes that keep emptiness matters. -/
theorem congr
    {result other : (Text → Text) → Text}
    (isPieced : IsPieced holds result)
    (same : ∀ change, KeepsEmptiness change → other change = result change) :
    IsPieced holds other := by
  obtain ⟨pieces, areHeld, areShown⟩ := isPieced
  exact ⟨pieces, areHeld, fun change keeps => (same change keeps).trans (areShown change keeps)⟩

end IsPieced

/-! ## Values -/

namespace Value

mutual

/-- What a value shows consists of its texts and of fixed text. -/
theorem isPieced_display (value : Value) :
    IsPieced (HasText · value) fun change => display (mapText change value) := by
  match value with
  | .null | .boolean true | .boolean false | .number _ | .map _ =>
      simp only [mapText, display]
      exact .fixed _
  | .text content =>
      simp only [mapText, display]
      exact .bound .here
  | .list items =>
      simp only [mapText, display]
      exact (isPieced_displayAll items).mono fun content ⟨item, isItem, hasText⟩ =>
        .item isItem hasText

/-- What is shown of the items of a list consists of their texts and of fixed text. -/
theorem isPieced_displayAll (items : List Value) :
    IsPieced (fun content => ∃ item ∈ items, HasText content item) fun change =>
      Text.joinWith ", ".toList (displayAll (mapItems change items)) := by
  match items with
  | [] =>
      exact .fixed []
  | [item] =>
      exact (isPieced_display item).mono fun content hasText =>
        ⟨item, List.mem_singleton_self item, hasText⟩
  | item :: next :: rest =>
      have firstPieced := (isPieced_display item).mono fun content hasText =>
        (⟨item, List.mem_cons_self, hasText⟩ :
          ∃ other ∈ item :: next :: rest, HasText content other)
      have restPieced := (isPieced_displayAll (next :: rest)).mono
        fun content ⟨other, isLater, hasText⟩ =>
          (⟨other, List.mem_cons_of_mem item isLater, hasText⟩ :
            ∃ other ∈ item :: next :: rest, HasText content other)
      exact (firstPieced.append (.fixed ", ".toList)).append restPieced

end

/-- A change that keeps emptiness keeps whether a value counts as yes. -/
theorem isTruthy_mapText
    {change : Text → Text}
    (keeps : KeepsEmptiness change)
    (value : Value) :
    (mapText change value).isTruthy = value.isTruthy := by
  cases value with
  | text content =>
      simp only [mapText, isTruthy]
      rw [Bool.eq_iff_iff]
      simp [keeps content]
  | list items =>
      simp [mapText, mapItems_eq_map, isTruthy]
  | map fields =>
      simp [mapText, mapFields_eq_map, isTruthy]
  | _ =>
      rfl

end Value

/-! ## Templates -/

namespace Template

variable {context : Context}

private theorem itemContext_mapText
    (change : Text → Text)
    (context : Context)
    (item : Value) :
    itemContext (context.mapText change) (item.mapText change) =
      (itemContext context item).mapText change := by
  cases item with
  | map fields =>
      simp only [Value.mapText, itemContext, Value.mapFields_eq_map]
      exact Keyed.insertAll_map (Value.mapText change) context fields
  | _ =>
      rfl

/-- The texts of the context inside a loop are texts of the context or of the item. -/
theorem hasText_of_itemContext
    {content : Text}
    {item : Value}
    (hasText : (itemContext context item).HasText content) :
    context.HasText content ∨ Value.HasText content item := by
  cases item with
  | map fields =>
      exact Context.HasText.of_insertAll hasText
  | _ =>
      exact .inl hasText

/-- What a token becomes where no block is left consists of pieces. -/
theorem isPieced_substituteToken (token : Token) :
    IsPieced context.HasText fun change =>
      substituteToken (context.mapText change) token := by
  match token with
  | .variable path =>
      simp only [substituteToken, Context.lookup?_mapText]
      cases leads : context.lookup? path with
      | none =>
          exact .fixed []
      | some value =>
          exact (Value.isPieced_display value).mono fun content hasText => .of_lookup? leads hasText
  | .opener _ | .closer _ | .text _ | .brace =>
      exact .fixed _

/-- A section consists of pieces if what stands inside does, in the context of the section and in
that of every item of a loop. -/
theorem isPieced_sectionText
    {inner : Context → Text}
    (innerPieced : ∀ context : Context,
      IsPieced context.HasText fun change => inner (context.mapText change))
    (context : Context)
    (name : Text) :
    IsPieced context.HasText fun change =>
      sectionText (context.mapText change) inner
        ((context.mapText change).lookup? name) := by
  simp only [Context.lookup?_mapText]
  cases leads : context.lookup? name with
  | none =>
      exact .fixed []
  | some value =>
      by_cases isTruthy : value.isTruthy = true
      · have staysTruthy : ∀ change, KeepsEmptiness change →
            (Value.mapText change value).isTruthy = true := by
          intro change keeps
          rw [Value.isTruthy_mapText keeps, isTruthy]
        cases value with
        | list items =>
            have itemsPieced : IsPieced context.HasText fun change =>
                items.flatMap fun item => inner ((itemContext context item).mapText change) := by
              refine .flatMap fun item isItem => (innerPieced _).mono fun content hasText => ?_
              rcases hasText_of_itemContext hasText with inContext | inItem
              · exact inContext
              · exact .of_lookup? leads (.item isItem inItem)
            refine itemsPieced.congr fun change keeps => ?_
            simp only [Option.map_some, sectionText, staysTruthy change keeps, if_true]
            simp only [Value.mapText, Value.mapItems_eq_map, List.flatMap_map,
              itemContext_mapText]
        | _ =>
            refine (innerPieced context).congr fun change keeps => ?_
            simp only [Option.map_some, sectionText, staysTruthy change keeps, if_true]
            simp only [Value.mapText]
      · refine (IsPieced.fixed []).congr fun change keeps => ?_
        simp [sectionText, Value.isTruthy_mapText keeps, isTruthy]

/-- What a walk over tokens shows consists of pieces. -/
theorem isPieced_interpret
    (tokens : List Token)
    (context : Context) :
    IsPieced context.HasText fun change => interpret (context.mapText change) tokens := by
  -- The inside of a section is any stretch of the tokens: the induction is on how many there are.
  induction number : tokens.length using Nat.strongRecOn generalizing tokens context with
  | _ number inductionHypothesis =>
  subst number
  cases tokens with
  | nil =>
      simp only [interpret_nil]
      exact .fixed []
  | cons token rest =>
      by_cases opensNothing :
          ∀ name, token = .opener name → Token.breakAtCloser? name rest = none
      · simp only [interpret_cons _ opensNothing]
        exact (isPieced_substituteToken token).append
          (inductionHypothesis rest.length (by simp) rest context rfl)
      · simp only [not_forall] at opensNothing
        obtain ⟨name, rfl, someCloser⟩ := opensNothing
        obtain ⟨⟨inside, after⟩, found⟩ := Option.ne_none_iff_exists'.mp someCloser
        have whole := congrArg List.length (Token.eq_of_breakAtCloser? found)
        simp only [List.length_append, List.length_cons] at whole
        simp only [interpret_section _ found]
        refine (isPieced_sectionText ?_ context name).append ?_
        · intro inner
          exact inductionHypothesis inside.length (by simp only [List.length_cons]; omega) inside
            inner rfl
        · exact inductionHypothesis after.length (by simp only [List.length_cons]; omega) after
            context rfl

/--
What a template shows is one sequence of pieces, each of them fixed or a text of the context. Under
every change of the texts that keeps emptiness the same pieces are shown, each text changed.
-/
theorem exists_pieces_render
    (template : Text)
    (context : Context) :
    ∃ pieces : List Piece,
      (∀ content, .bound content ∈ pieces → context.HasText content) ∧
        ∀ change, KeepsEmptiness change →
          render template (context.mapText change) =
            pieces.flatMap (Piece.shown change) := by
  have flatPieced := isPieced_interpret (Token.ofTemplate template) context.flatten
  have isPieced : IsPieced context.HasText fun change =>
      render template (context.mapText change) := by
    refine (flatPieced.mono fun content => .of_flatten).congr fun change _ => ?_
    rw [render_eq_interpret, Context.flatten_mapText]
  exact isPieced

/-- Every text that is not empty becomes the opener of a section. -/
def intoOpener : Text → Text
  | [] => []
  | first :: rest => Token.source (.opener (first :: rest))

private theorem keepsEmptiness_intoOpener : KeepsEmptiness intoOpener := by
  intro content
  cases content with
  | nil =>
      exact Iff.rfl
  | cons first rest =>
      exact iff_of_false (List.cons_ne_nil _ _) (List.cons_ne_nil first rest)

/-- A note and a list of named items, all of them texts that look like tags. -/
def notedItems : Context :=
  .ofList
    [("note".toList, .text (Token.source (.variable "note".toList))),
     ("items".toList,
      .list
        [.map [("name".toList, .text (Token.source (.closer "items".toList)))],
         .map [("name".toList, .text (Token.source (.opener "items".toList)))]])]

/-- A loop over the items with a section inside, and the items in a row behind it. -/
def listOfItems : Text :=
  Token.sourceOf
    [.opener "items".toList, .opener "note".toList, .variable "name".toList,
     .closer "note".toList, .text ", ".toList, .closer "items".toList, .variable "items".toList]

/-- The names of items stand as they are inside a loop, though they look like its own tags. -/
theorem exists_pieces_render_notedItems :
    KeepsEmptiness intoOpener ∧
      ∃ pieces : List Piece,
        (∀ content, .bound content ∈ pieces → notedItems.HasText content) ∧
          render listOfItems (notedItems.mapText intoOpener) =
            pieces.flatMap (Piece.shown intoOpener) := by
  obtain ⟨pieces, areHeld, areShown⟩ := exists_pieces_render listOfItems notedItems
  exact ⟨keepsEmptiness_intoOpener, pieces, areHeld,
    areShown intoOpener keepsEmptiness_intoOpener⟩

end Template

end ComponentPages
