import ComponentPages.Text.Keyed

namespace ComponentPages

/-!
# Looking up after putting in

Looking up a name after an insertion gives the inserted value under its own name and what was there
before under all others. Bindings that are in order already are kept as they are when they are put
in one after another.
-/

namespace Bindings

variable {κ α : Type} [DecidableEq κ]

/-- A value that is found stands among the bindings. -/
theorem mem_of_find?
    {name : κ}
    {value : α}
    {bindings : List (κ × α)}
    (found : find? name bindings = some value) :
    (name, value) ∈ bindings := by
  induction bindings with
  | nil =>
      simp [find?] at found
  | cons first rest inductionHypothesis =>
      unfold find? at found
      split at found
      · rename_i same
        obtain rfl := Option.some.inj found
        exact List.mem_cons.mpr (.inl (by rw [← same]))
      · exact List.mem_cons_of_mem _ (inductionHypothesis found)

/-- A value that stands among ascending bindings is found. -/
theorem find?_of_mem
    {name : Text}
    {value : α}
    {bindings : List (Text × α)}
    (ascending : Ascending bindings)
    (member : (name, value) ∈ bindings) :
    find? name bindings = some value := by
  induction bindings with
  | nil =>
      contradiction
  | cons first rest inductionHypothesis =>
      obtain ⟨before, restAscending⟩ := List.pairwise_cons.mp ascending
      rcases List.mem_cons.mp member with rfl | isLater
      · exact if_pos rfl
      · have precedes : first.1 < name := before _ isLater
        have different : first.1 ≠ name := by
          rintro rfl
          exact List.lt_irrefl _ precedes
        rw [find?, if_neg different]
        exact inductionHypothesis restAscending isLater

/-- Ascending bindings are equal if the same values are found. -/
theorem eq_of_find?
    {bindings others : List (Text × α)}
    (ascending : Ascending bindings)
    (othersAscending : Ascending others)
    (same : ∀ name, find? name bindings = find? name others) :
    bindings = others := by
  have sameMembers : ∀ binding, binding ∈ bindings ↔ binding ∈ others := by
    rintro ⟨name, value⟩
    constructor
    · intro member
      exact mem_of_find? ((same name).symm.trans (find?_of_mem ascending member))
    · intro member
      exact mem_of_find? ((same name).trans (find?_of_mem othersAscending member))
  have distinct : ∀ {some : List (Text × α)}, Ascending some → some.Nodup := by
    intro some someAscending
    refine someAscending.imp ?_
    rintro earlier later precedes rfl
    exact List.lt_irrefl _ precedes
  have isPermutation :=
    (List.perm_ext_iff_of_nodup (distinct ascending) (distinct othersAscending)).mpr sameMembers
  refine isPermutation.eq_of_pairwise ?_ ascending othersAscending
  intro earlier later _ _ precedes follows
  exact absurd follows (List.lt_asymm precedes)

/-- Leaving out names leaves what is found under the others. -/
theorem find?_filter
    (keep : κ → Bool)
    (name : κ)
    (bindings : List (κ × α)) :
    find? name (bindings.filter fun binding => keep binding.1) =
      if keep name then find? name bindings else none := by
  induction bindings with
  | nil =>
      simp [find?]
  | cons first rest inductionHypothesis =>
      by_cases same : first.1 = name
      · by_cases kept : keep name = true
        · simp [find?, same, kept]
        · simpa [same, kept] using inductionHypothesis
      · by_cases firstKept : keep first.1 = true
        · simp [find?, same, firstKept, inductionHypothesis]
        · simp [find?, same, firstKept, inductionHypothesis]

/-- A name is found in the first of two lists of bindings, or else in the second. -/
private theorem find?_append
    (name : κ)
    (bindings more : List (κ × α)) :
    find? name (bindings ++ more) = (find? name bindings).or (find? name more) := by
  induction bindings with
  | nil =>
      rfl
  | cons first rest inductionHypothesis =>
      by_cases same : first.1 = name
      · simp [find?, same]
      · simp [find?, same, inductionHypothesis]

/-- What bindings have under a name, or else what was found before. The last binding of a name
counts. -/
def findLast (name : κ) (before : Option α) : List (κ × α) → Option α
  | [] => before
  | (known, value) :: later =>
      findLast name (if known = name then some value else before) later

private theorem findLast_eq
    (name : κ)
    (before : Option α)
    (bindings : List (κ × α)) :
    findLast name before bindings = (find? name bindings.reverse).or before := by
  induction bindings generalizing before with
  | nil =>
      rfl
  | cons first later inductionHypothesis =>
      rw [findLast, inductionHypothesis, List.reverse_cons, find?_append, Option.or_assoc]
      by_cases same : first.1 = name
      · simp [find?, same]
      · simp [find?, same]

variable [LT κ] [DecidableLT κ]

/-- What was inserted under a name is found. -/
theorem find?_insert_self
    [irreflexive : Std.Irrefl ((· < ·) : κ → κ → Prop)]
    (name : κ)
    (value : α)
    (bindings : List (κ × α)) :
    find? name (insert name value bindings) = some value := by
  induction bindings with
  | nil =>
      simp [insert, find?]
  | cons first rest inductionHypothesis =>
      unfold insert
      split
      · rename_i precedes
        have different : first.1 ≠ name := by
          intro same
          exact irreflexive.irrefl name (same ▸ precedes)
        simpa [find?, different] using inductionHypothesis
      · split <;> simp [find?]

/-- What is found under a name stays when a value is put under another one. -/
theorem find?_insert_of_ne
    {name other : κ}
    (different : other ≠ name)
    (value : α)
    (bindings : List (κ × α)) :
    find? other (insert name value bindings) = find? other bindings := by
  induction bindings with
  | nil =>
      simp [insert, find?, Ne.symm different]
  | cons first rest inductionHypothesis =>
      unfold insert
      split
      · simp only [find?, inductionHypothesis]
      · split
        · rename_i same
          simp [find?, same, Ne.symm different]
        · simp [find?, Ne.symm different]

/-- A binding with a name behind all others is put at the end. -/
private theorem insert_eq_append
    {name : κ}
    (value : α)
    {bindings : List (κ × α)}
    (behind : ∀ binding ∈ bindings, binding.1 < name) :
    insert name value bindings = bindings ++ [(name, value)] := by
  induction bindings with
  | nil =>
      rfl
  | cons first rest inductionHypothesis =>
      have firstBefore := behind first List.mem_cons_self
      have restBefore : ∀ binding ∈ rest, binding.1 < name := by
        intro binding member
        exact behind binding (List.mem_cons_of_mem _ member)
      simp [insert, firstBefore, inductionHypothesis restBefore]

/-- Putting a value under a name that has it already changes nothing. -/
theorem insert_eq_self
    {name : Text}
    {value : α}
    {bindings : List (Text × α)}
    (ascending : Ascending bindings)
    (found : find? name bindings = some value) :
    insert name value bindings = bindings := by
  induction bindings with
  | nil =>
      simp [find?] at found
  | cons first rest inductionHypothesis =>
      obtain ⟨before, restAscending⟩ := List.pairwise_cons.mp ascending
      unfold find? at found
      split at found
      · rename_i same
        obtain rfl := Option.some.inj found
        obtain ⟨known, old⟩ := first
        obtain rfl : known = name := same
        rw [insert, if_neg (List.lt_irrefl known), if_pos rfl]
      · -- The name stands behind the first one, because it is found in the rest.
        have precedes := before _ (mem_of_find? found)
        simp [insert, precedes, inductionHypothesis restAscending found]

end Bindings

namespace Keyed

variable {α : Type}

/-- What was inserted under a name is found. -/
@[simp]
theorem find?_insert_self
    (keyed : Keyed α)
    (name : Text)
    (value : α) :
    (keyed.insert name value).find? name = some value :=
  Bindings.find?_insert_self name value keyed.bindings

/-- What is found under a name stays when a value is put under another one. -/
theorem find?_insert_of_ne
    {name other : Text}
    (different : other ≠ name)
    (keyed : Keyed α)
    (value : α) :
    (keyed.insert name value).find? other = keyed.find? other :=
  Bindings.find?_insert_of_ne different value keyed.bindings

/-- Putting a value under a name that has it already changes nothing. -/
theorem insert_eq_self
    {keyed : Keyed α}
    {name : Text}
    {value : α}
    (found : keyed.find? name = some value) :
    keyed.insert name value = keyed :=
  ext (Bindings.insert_eq_self keyed.ascending found)

/-- Keyed values are equal if the same values are found. -/
theorem eq_of_find?
    {keyed other : Keyed α}
    (same : ∀ name, keyed.find? name = other.find? name) :
    keyed = other :=
  ext (Bindings.eq_of_find? keyed.ascending other.ascending same)

@[simp]
private theorem find?_empty (name : Text) : (empty : Keyed α).find? name = none :=
  rfl

/-- Of the values put under one name the last is found. -/
theorem find?_insertAll
    (keyed : Keyed α)
    (more : List (Text × α))
    (name : Text) :
    (keyed.insertAll more).find? name =
      (Bindings.find? name more.reverse).or (keyed.find? name) := by
  induction more generalizing keyed with
  | nil =>
      rfl
  | cons first rest inductionHypothesis =>
      have others := inductionHypothesis (keyed.insert first.1 first.2)
      rw [List.reverse_cons, Bindings.find?_append, Option.or_assoc]
      refine others.trans (congrArg _ ?_)
      by_cases same : first.1 = name
      · rw [← same, find?_insert_self]
        simp [Bindings.find?]
      · rw [find?_insert_of_ne (Ne.symm same)]
        simp [Bindings.find?, same]

/-- Of the values of bindings under one name the last is found. -/
theorem find?_ofList
    (bindings : List (Text × α))
    (name : Text) :
    (ofList bindings).find? name = Bindings.find? name bindings.reverse := by
  rw [ofList, find?_insertAll, find?_empty, Option.or_none]

/-- Of bindings of one name the last is found, or else what was there before. -/
theorem find?_ofList_or
    (bindings : List (Text × α))
    (name : Text)
    (before : Option α) :
    ((ofList bindings).find? name).or before = Bindings.findLast name before bindings := by
  rw [find?_ofList, Bindings.findLast_eq]

/-- Of bindings of one name the last is found. -/
theorem find?_ofList_eq_findLast
    (bindings : List (Text × α))
    (name : Text) :
    (ofList bindings).find? name = Bindings.findLast name none bindings := by
  rw [← find?_ofList_or, Option.or_none]

/-- Bindings that continue ascending ones are put behind them. -/
theorem insertAll_bindings
    (keyed : Keyed α)
    (more : List (Text × α))
    (ascending : Bindings.Ascending (keyed.bindings ++ more)) :
    (keyed.insertAll more).bindings = keyed.bindings ++ more := by
  induction more generalizing keyed with
  | nil =>
      simp [insertAll]
  | cons first rest inductionHypothesis =>
      have behind : ∀ binding ∈ keyed.bindings, binding.1 < first.1 := by
        intro binding member
        exact (List.pairwise_append.mp ascending).2.2 binding member first List.mem_cons_self
      have grown : (keyed.insert first.1 first.2).bindings = keyed.bindings ++ [first] :=
        Bindings.insert_eq_append first.2 behind
      have continued : Bindings.Ascending ((keyed.insert first.1 first.2).bindings ++ rest) := by
        rw [grown]
        simpa using ascending
      have others := inductionHypothesis (keyed.insert first.1 first.2) continued
      rw [grown, List.append_assoc] at others
      exact others

/-- The bindings of keyed values give these values again. -/
theorem ofList_bindings (keyed : Keyed α) : ofList keyed.bindings = keyed := by
  apply ext
  exact insertAll_bindings empty keyed.bindings keyed.ascending

/-- A name is found in the values that are laid over, or else in those below. -/
theorem find?_overlay
    (keyed other : Keyed α)
    (name : Text) :
    (keyed.overlay other).find? name = (other.find? name).or (keyed.find? name) := by
  rw [overlay, find?_insertAll, ← find?_ofList, ofList_bindings]

end Keyed

end ComponentPages
