-- Sets of names, kept in ascending order: equal sets are equal lists, and a
-- set is written out in one way only.

namespace MarkerInjection

/-! ## The set -/

/-- A set of names: its list is strictly ascending, by code points. -/
structure NameSet where
  toList : List String
  ascending : toList.Pairwise (· < ·)
  deriving Repr, DecidableEq

namespace NameSet

/-! ## Insertion -/

/-- Puts a name into an ascending list, where it belongs. A name that is there already is not
put in again. -/
def insertName (name : String) : List String → List String
  | [] => [name]
  | n :: ns =>
    if name < n then name :: n :: ns
    else if name = n then n :: ns
    else n :: insertName name ns

/-- The list holds the new name and those it held before, and no other. -/
theorem mem_insertName {name x : String} {ns : List String} :
    x ∈ insertName name ns ↔ x = name ∨ x ∈ ns := by
  induction ns with
  | nil => simp [insertName]
  | cons n ns ih =>
    unfold insertName
    split
    · simp
    · split
      · rename_i h
        simp [h]
      · simp only [List.mem_cons, ih]
        constructor
        · rintro (h | h | h) <;> simp [h]
        · rintro (h | h | h) <;> simp [h]

/-- The list stays ascending. -/
theorem insertName_ascending {name : String} {ns : List String}
    (h : ns.Pairwise (· < ·)) : (insertName name ns).Pairwise (· < ·) := by
  induction ns with
  | nil => simp [insertName]
  | cons n ns ih =>
    rw [List.pairwise_cons] at h
    unfold insertName
    split
    · rename_i hlt
      refine List.pairwise_cons.2 ⟨?_, List.pairwise_cons.2 h⟩
      intro x hx
      rcases List.mem_cons.1 hx with rfl | hx
      · exact hlt
      · exact String.lt_trans hlt (h.1 x hx)
    · split
      · exact List.pairwise_cons.2 h
      · rename_i hlt hne
        refine List.pairwise_cons.2 ⟨?_, ih h.2⟩
        intro x hx
        rcases mem_insertName.1 hx with rfl | hx
        · have hle : n ≤ x := String.not_lt.1 hlt
          exact Std.lt_of_le_of_ne hle (fun he => hne he.symm)
        · exact h.1 x hx

/-! ## Operations -/

/-- No name. -/
def empty : NameSet := ⟨[], .nil⟩

/-- The set with one more name. -/
def insert (s : NameSet) (name : String) : NameSet :=
  ⟨insertName name s.toList, insertName_ascending s.ascending⟩

/-- The set of the names in a list, whatever their order and however often each is there. -/
def ofList (names : List String) : NameSet := names.foldl insert empty

def contains (s : NameSet) (name : String) : Bool := s.toList.contains name

/-! ## Members -/

theorem mem_insert {s : NameSet} {name x : String} :
    x ∈ (s.insert name).toList ↔ x = name ∨ x ∈ s.toList := mem_insertName

/-- The set of a list has the members of the list. -/
theorem mem_ofList {names : List String} {x : String} : x ∈ (ofList names).toList ↔ x ∈ names := by
  have hfold (s : NameSet) : x ∈ (names.foldl insert s).toList ↔ x ∈ s.toList ∨ x ∈ names := by
    induction names generalizing s with
    | nil => simp
    | cons name names ih =>
      rw [List.foldl_cons, ih, mem_insert, List.mem_cons]
      constructor
      · rintro ((h | h) | h)
        · exact Or.inr (Or.inl h)
        · exact Or.inl h
        · exact Or.inr (Or.inr h)
      · rintro (h | h | h)
        · exact Or.inl (Or.inr h)
        · exact Or.inl (Or.inl h)
        · exact Or.inr h
  simpa [ofList, empty] using hfold empty

end NameSet

end MarkerInjection
