import ComponentPages.Json.Reader
import ComponentPages.Proofs.Json.Tokens

namespace ComponentPages

/-!
# Reading a printed document

The tokens of a value are put together to that value, whatever lists and objects are open around
it. With the reading of the printed text this gives back every value that is written as a document
shows it.
-/

namespace JsonValue

namespace Assembly

/-- A value inside a list becomes its last item. -/
theorem deliver?_list
    (items : List JsonValue)
    (outer : List Frame)
    (value : JsonValue) :
    deliver? (.list items :: outer) value =
      some ⟨.list (value :: items) :: outer, .commaOrEnd⟩ :=
  rfl

private theorem deliver?_field
    (name : Option Text)
    (fields : List (Option Text × JsonValue))
    (outer : List Frame)
    (value : JsonValue) :
    deliver? (.field name fields :: outer) value =
      some ⟨.object ((name, value) :: fields) :: outer, .commaOrEnd⟩ :=
  rfl

/-- What starts a value also starts the first item of a list. -/
private theorem foldlM_itemOrEnd
    (stack : List Frame)
    (value : JsonValue)
    (more : List JsonToken) :
    (value.tokens ++ more).foldlM step? ⟨stack, .itemOrEnd⟩ =
      (value.tokens ++ more).foldlM step? ⟨stack, .value⟩ := by
  have starts : ∃ token later, value.tokens = token :: later ∧ token ≠ .closeList := by
    cases value with
    | list items =>
        cases items <;> simp [tokens]
    | object fields =>
        cases fields <;> simp [tokens]
    | _ =>
        simp [tokens]
  obtain ⟨token, later, shape, notEnd⟩ := starts
  rw [shape, List.cons_append, List.foldlM_cons, List.foldlM_cons]
  simp [step?, notEnd]

mutual

/-- The tokens of a value are put together to the value. -/
theorem foldlM_tokens
    (stack : List Frame) :
    ∀ value : JsonValue,
      value.tokens.foldlM step? ⟨stack, .value⟩ = deliver? stack value
  | .null => by
      simp [tokens, step?, value?]
  | .boolean _ => by
      simp [tokens, step?, value?]
  | .number _ => by
      simp [tokens, step?, value?]
  | .text _ => by
      simp [tokens, step?, value?]
  | .list [] => by
      simp [tokens, step?, value?, end?]
  -- The first part is delivered to the list that its bracket opened, further ones behind commas.
  | .list (item :: later) => by
      have first := foldlM_tokens (.list [] :: stack) item
      have others := foldlM_laterItemTokens stack [item] later
      simp only [tokens, List.cons_append, List.foldlM_cons, step?, value?, Option.bind_eq_bind,
        Option.bind_some, List.append_assoc]
      rw [foldlM_itemOrEnd, List.foldlM_append, first]
      simp only [deliver?_list, Option.bind_eq_bind, Option.bind_some]
      rw [List.foldlM_append, others]
      simp [step?, end?]
  | .object [] => by
      simp [tokens, step?, value?, end?]
  | .object ((name, value) :: later) => by
      have first := foldlM_tokens (.field name [] :: stack) value
      have others := foldlM_laterFieldTokens stack [(name, value)] later
      simp only [tokens, List.cons_append, List.foldlM_cons, step?, value?, name?,
        Option.bind_eq_bind, Option.bind_some, List.append_assoc, reduceCtorEq, ↓reduceIte]
      rw [List.foldlM_append, first]
      simp only [deliver?_field, Option.bind_eq_bind, Option.bind_some]
      rw [List.foldlM_append, others]
      simp [step?, end?]

/-- The tokens of further items are put together to those items behind the ones read before. -/
theorem foldlM_laterItemTokens
    (stack : List Frame)
    (read : List JsonValue) :
    ∀ items : List JsonValue,
      (laterItemTokens items).foldlM step? ⟨.list read :: stack, .commaOrEnd⟩ =
        some ⟨.list (items.reverse ++ read) :: stack, .commaOrEnd⟩
  | [] => by
      simp [laterItemTokens]
  | item :: later => by
      have first := foldlM_tokens (.list read :: stack) item
      have others := foldlM_laterItemTokens stack (item :: read) later
      simp only [laterItemTokens, List.cons_append, List.foldlM_cons, step?, comma?,
        Option.bind_eq_bind, Option.bind_some, ↓reduceIte]
      rw [List.foldlM_append, first]
      simp only [deliver?_list, Option.bind_eq_bind, Option.bind_some]
      rw [others]
      simp

/-- The tokens of further fields are put together to those fields behind the ones read before. -/
theorem foldlM_laterFieldTokens
    (stack : List Frame)
    (read : List (Option Text × JsonValue)) :
    ∀ fields : List (Option Text × JsonValue),
      (laterFieldTokens fields).foldlM step? ⟨.object read :: stack, .commaOrEnd⟩ =
        some ⟨.object (fields.reverse ++ read) :: stack, .commaOrEnd⟩
  | [] => by
      simp [laterFieldTokens]
  | (name, value) :: later => by
      have first := foldlM_tokens (.field name read :: stack) value
      have others := foldlM_laterFieldTokens stack ((name, value) :: read) later
      simp only [laterFieldTokens, List.cons_append, List.foldlM_cons, step?, comma?, name?,
        Option.bind_eq_bind, Option.bind_some, ↓reduceIte]
      rw [List.foldlM_append, first]
      simp only [deliver?_field, Option.bind_eq_bind, Option.bind_some]
      rw [others]
      simp

end

end Assembly

/-- The tokens of a value are read as that value. -/
theorem ofTokens?_tokens (value : JsonValue) : ofTokens? value.tokens = some value := by
  rw [ofTokens?, Assembly.start, Assembly.foldlM_tokens]
  rfl

/-- The bytes of a printed document are read as the value that was printed. -/
theorem read?_encode_toText
    {value : JsonValue}
    (isWritten : value.IsWritten) :
    read? (Utf8.encode value.toText) = some value := by
  have tokenized : JsonToken.ofBytes? (Utf8.encode value.toText) = some value.tokens := by
    have reads := reads_print 0 isWritten [] JsonToken.endsNumber_nil
    rw [List.append_nil] at reads
    rw [JsonToken.ofBytes?, JsonToken.signsOf_encode, toText, reads]
    simp [JsonToken.ofSignsFrom?]
  rw [read?, tokenized, Option.bind_some, ofTokens?_tokens]

end JsonValue

end ComponentPages
