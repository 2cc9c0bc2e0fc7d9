import ComponentPages.Proofs.Project.Path
import ComponentPages.Proofs.Text.Keyed
import ComponentPages.Template.Render

namespace ComponentPages

/-!
# Contexts laid over one another

Laying contexts over one another is associative, with the empty context as its identity, and the
context inside nested loops is one context laid over the outermost one. A path is looked up in the
topmost context that binds its first segment. A flat context is the component's map below the
context itself: to flatten it again changes nothing, also if the component's map binds the name of
the component, and if that name is bound to a value which is no map.
-/

/-! ## Keyed values -/

namespace Keyed

variable {α : Type}

private theorem overlay_assoc (first second third : Keyed α) :
    (first.overlay second).overlay third = first.overlay (second.overlay third) := by
  refine eq_of_find? fun name => ?_
  rw [find?_overlay, find?_overlay, find?_overlay, find?_overlay, Option.or_assoc]

private theorem overlay_empty (keyed : Keyed α) : keyed.overlay empty = keyed :=
  rfl

private theorem empty_overlay (keyed : Keyed α) : empty.overlay keyed = keyed :=
  ofList_bindings keyed

/-- Bindings that are put in one after another are laid over as a whole. -/
theorem insertAll_eq_overlay (keyed : Keyed α) (bindings : List (Text × α)) :
    keyed.insertAll bindings = keyed.overlay (ofList bindings) := by
  refine eq_of_find? fun name => ?_
  rw [find?_insertAll, find?_overlay, find?_ofList]

end Keyed

/-! ## Contexts -/

namespace Context

/-- The map that is bound under the component's name, as a context; none if there is no such map. -/
def component? (context : Context) : Option Context :=
  match context.find? componentName with
  | some (.map fields) => some (.ofList fields)
  | _ => none

/-- A flat context is the context over the component's map. -/
theorem flatten_eq_overlay (context : Context) :
    context.flatten = (context.component?.getD .empty).overlay context := by
  rw [flatten, componentFields, component?]
  match context.find? componentName with
  | some (.map _) => rfl
  | none | some .null | some (.boolean _) | some (.number _) | some (.text _) | some (.list _) =>
      rfl

/-- What a context binds is bound in the flat context as well; the rest comes from the component. -/
theorem find?_flatten (context : Context) (name : Text) :
    context.flatten.find? name =
      (context.find? name).or (context.component?.bind (·.find? name)) := by
  rw [flatten_eq_overlay, Keyed.find?_overlay]
  cases context.component? <;> rfl

/-- A path leads from what its first segment is bound to along the others. -/
private theorem exists_segments (path : Text) :
    ∃ name rest,
      segments path = name :: rest ∧
        ∀ context : Context,
          context.lookup? path = (context.find? name).bind (Value.descend? · rest) := by
  obtain ⟨name, rest, isPath⟩ := List.exists_cons_of_ne_nil
    (List.splitOnP_ne_nil (· == '.') path)
  rw [← Text.pieces_eq_splitOnP] at isPath
  refine ⟨name, rest, isPath, fun context => ?_⟩
  rw [lookup?, segments, isPath]

/-- To flatten a flat context changes nothing. -/
theorem flatten_flatten (context : Context) : context.flatten.flatten = context.flatten := by
  refine Keyed.eq_of_find? fun name => ?_
  rw [find?_flatten, find?_flatten]
  cases isComponent : context.component? with
  | none =>
      -- Without a map for the component the context is flat already.
      have isFlat : context.flatten = context := by
        rw [flatten_eq_overlay, isComponent]
        exact Keyed.empty_overlay context
      rw [isFlat, isComponent]
      simp
  | some component =>
      -- The name of the component is bound, so that it stays bound to the same map.
      have sameComponent : context.flatten.component? = some component := by
        have isBound : (context.find? componentName).isSome = true := by
          rw [component?] at isComponent
          split at isComponent
          · rename_i isMap
            rw [isMap]
            rfl
          · contradiction
        rw [← isComponent, component?, component?, find?_flatten,
          Option.or_of_isSome isBound]
      rw [sameComponent]
      simp [Option.or_assoc]

/--
Flattening is idempotent and changes nothing for a template. Contexts that are laid over one
another form a monoid with the empty context. A path is looked up above if its first segment is
bound there, and else below; in a flat context the component's map stands below.
-/
theorem flatten_overlay_laws :
    (∀ context : Context, context.flatten.flatten = context.flatten) ∧
      (∀ (template : Text) (context : Context),
        Template.render template context.flatten = Template.render template context) ∧
      (∀ first second third : Context,
        (first.overlay second).overlay third = first.overlay (second.overlay third)) ∧
      (∀ context : Context,
        context.overlay .empty = context ∧ Keyed.empty.overlay context = context) ∧
      ∀ path : Text, ∃ name rest,
        segments path = name :: rest ∧
          (∀ below above : Context,
            lookup? (below.overlay above) path =
              if (above.find? name).isSome then above.lookup? path else below.lookup? path) ∧
          ∀ context : Context,
            context.flatten.lookup? path =
              if (context.find? name).isSome then context.lookup? path
              else context.component?.bind (·.lookup? path) := by
  refine ⟨flatten_flatten, fun template context => ?_, Keyed.overlay_assoc,
    fun context => ⟨Keyed.overlay_empty context, Keyed.empty_overlay context⟩, fun path => ?_⟩
  · rw [Template.render, flatten_flatten, Template.render]
  · obtain ⟨name, rest, isPath, isLookup⟩ := exists_segments path
    refine ⟨name, rest, isPath, fun below above => ?_, fun context => ?_⟩
    · rw [isLookup, isLookup, isLookup, Keyed.find?_overlay]
      cases above.find? name <;> rfl
    · rw [isLookup, isLookup, find?_flatten]
      cases context.find? name with
      | some value =>
          rfl
      | none =>
          cases context.component? with
          | none =>
              rfl
          | some component =>
              exact (isLookup component).symm

end Context

namespace Template

/-- The context inside a loop is that outside with the fields of the item laid over it. -/
theorem itemContext_map (context : Context) (fields : List (Text × Value)) :
    itemContext context (.map fields) = context.overlay (.ofList fields) :=
  Keyed.insertAll_eq_overlay context fields

/-- In nested loops one context, that of all the items, is laid over the outermost one. -/
theorem foldl_itemContext_maps (context : Context) (items : List (List (Text × Value))) :
    (items.map Value.map).foldl itemContext context =
      context.overlay ((items.map Keyed.ofList).foldl Keyed.overlay .empty) := by
  have areLaidOver :
      (items.map Value.map).foldl itemContext context =
        (items.map Keyed.ofList).foldl Keyed.overlay context := by
    induction items generalizing context with
    | nil =>
        rfl
    | cons fields inner inductionHypothesis =>
        rw [List.map_cons, List.foldl_cons, itemContext_map, inductionHypothesis, List.map_cons,
          List.foldl_cons]
  have : Std.Associative (Keyed.overlay : Context → Context → Context) := ⟨Keyed.overlay_assoc⟩
  calc (items.map Value.map).foldl itemContext context
      = (items.map Keyed.ofList).foldl Keyed.overlay (context.overlay .empty) := areLaidOver
    _ = context.overlay ((items.map Keyed.ofList).foldl Keyed.overlay .empty) :=
        List.foldl_assoc

end Template

end ComponentPages
