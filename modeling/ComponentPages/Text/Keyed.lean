import ComponentPages.Text.Basic

namespace ComponentPages

/-!
# Values under names

Values are kept under names in ascending order of the names, each name once. Texts are ordered
character by character, which is also the order of their UTF-8 bytes. Looking up a name gives the
value that was put under it last.
-/

namespace Bindings

variable {κ α : Type} [DecidableEq κ] [LT κ] [DecidableLT κ]

/-- The value under a name. -/
def find? (name : κ) : List (κ × α) → Option α
  | [] => none
  | (known, value) :: rest => if known = name then some value else find? name rest

/-- The bindings with a value put under a name, before the first name that is greater. -/
def insert (name : κ) (value : α) : List (κ × α) → List (κ × α)
  | [] => [(name, value)]
  | (known, old) :: rest =>
      if known < name then
        (known, old) :: insert name value rest
      else if known = name then
        (name, value) :: rest
      else
        (name, value) :: (known, old) :: rest

/-- Whether names that are texts ascend strictly. -/
def Ascending (bindings : List (Text × α)) : Prop :=
  bindings.Pairwise fun earlier later => earlier.1 < later.1

/-- The names after an insertion. -/
theorem mem_insert
    {name : κ}
    {value : α}
    {bindings : List (κ × α)}
    {binding : κ × α}
    (member : binding ∈ insert name value bindings) :
    binding = (name, value) ∨ binding ∈ bindings := by
  induction bindings with
  | nil =>
      simpa [insert] using member
  | cons first rest inductionHypothesis =>
      unfold insert at member
      split at member
      · rcases List.mem_cons.mp member with same | later
        · exact .inr (List.mem_cons.mpr (.inl same))
        · rcases inductionHypothesis later with new | old
          · exact .inl new
          · exact .inr (List.mem_cons_of_mem _ old)
      · split at member
        · rcases List.mem_cons.mp member with same | later
          · exact .inl same
          · exact .inr (List.mem_cons_of_mem _ later)
        · rcases List.mem_cons.mp member with same | later
          · exact .inl same
          · exact .inr later

/-- An insertion keeps the names in strict order. -/
theorem insert_ascending
    (name : Text)
    (value : α)
    {bindings : List (Text × α)}
    (ascending : Ascending bindings) :
    Ascending (insert name value bindings) := by
  induction bindings with
  | nil =>
      simp [insert, Ascending]
  | cons first rest inductionHypothesis =>
      obtain ⟨before, restAscending⟩ := List.pairwise_cons.mp ascending
      unfold insert
      split
      · rename_i precedes
        refine List.pairwise_cons.mpr ⟨?_, inductionHypothesis restAscending⟩
        intro binding member
        rcases mem_insert member with new | old
        · rw [new]
          exact precedes
        · exact before binding old
      · rename_i notBefore
        split
        · rename_i same
          refine List.pairwise_cons.mpr ⟨?_, restAscending⟩
          intro binding member
          exact same ▸ before binding member
        · rename_i different
          refine List.pairwise_cons.mpr ⟨?_, ascending⟩
          have follows : name < first.1 := by
            refine Decidable.byContradiction fun notAfter => different ?_
            exact List.le_antisymm notAfter notBefore
          intro binding member
          rcases List.mem_cons.mp member with same | later
          · rw [same]
            exact follows
          · exact List.lt_trans follows (before binding later)

end Bindings

/-- Values under names, in strictly ascending order of the names. -/
structure Keyed (α : Type) where
  bindings : List (Text × α)
  ascending : Bindings.Ascending bindings

namespace Keyed

variable {α : Type}

def empty : Keyed α where
  bindings := []
  ascending := List.Pairwise.nil

/-- The value under a name. -/
def find? (keyed : Keyed α) (name : Text) : Option α :=
  Bindings.find? name keyed.bindings

/-- The same values with one put under a name. -/
def insert (keyed : Keyed α) (name : Text) (value : α) : Keyed α where
  bindings := Bindings.insert name value keyed.bindings
  ascending := Bindings.insert_ascending name value keyed.ascending

/-- The same values with others put under their names, in order. -/
def insertAll (keyed : Keyed α) (bindings : List (Text × α)) : Keyed α :=
  bindings.foldl (fun keyed (name, value) => keyed.insert name value) keyed

/-- The values of bindings; of two under one name the later counts. -/
def ofList (bindings : List (Text × α)) : Keyed α :=
  empty.insertAll bindings

/-- The values of `keyed` with those of `other` laid over them. -/
def overlay (keyed other : Keyed α) : Keyed α :=
  keyed.insertAll other.bindings

def size (keyed : Keyed α) : Nat :=
  keyed.bindings.length

/-- Two keyed families are equal if their bindings are. -/
theorem ext
    {keyed other : Keyed α}
    (same : keyed.bindings = other.bindings) :
    keyed = other := by
  cases keyed
  cases other
  simp_all

instance [DecidableEq α] : DecidableEq (Keyed α) := fun keyed other =>
  if same : keyed.bindings = other.bindings then
    isTrue (ext same)
  else
    isFalse fun equal => same (equal ▸ rfl)

end Keyed

end ComponentPages
