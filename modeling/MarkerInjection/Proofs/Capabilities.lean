-- Capabilities by what they support. A list of names never supports all types, as
-- some name is always left out, and two lists support the same types exactly if
-- they differ in nothing but the empty name, which is the name of no type.
import MarkerInjection.ArtefactType
import Mathlib.Data.Fintype.EquivFin
import Mathlib.Data.List.Sort

namespace MarkerInjection

/-! ## Sets of names -/

namespace NameSet

variable {s s' : NameSet}

/-- Sets with the same members are the same. -/
theorem eq_of_mem_iff (hmem : ∀ name, name ∈ s.toList ↔ name ∈ s'.toList) : s = s' := by
  have hlists : s.toList = s'.toList := s.ascending.eq_of_mem_iff s'.ascending hmem
  cases s
  cases s'
  cases hlists
  rfl

/-- The set without one name. -/
def without (s : NameSet) (name : String) : NameSet :=
  ⟨s.toList.filter (· ≠ name), s.ascending.filter _⟩

theorem mem_without {name x : String} : x ∈ (s.without name).toList ↔ x ∈ s.toList ∧ x ≠ name := by
  simp [without]

theorem without_eq_iff {name : String} :
    s.without name = s'.without name ↔ ∀ x, x ≠ name → (x ∈ s.toList ↔ x ∈ s'.toList) := by
  constructor
  · intro hsame x hx
    have hmem : x ∈ (s.without name).toList ↔ x ∈ (s'.without name).toList := by rw [hsame]
    simpa only [mem_without, hx, ne_eq, not_false_eq_true, and_true] using hmem
  · intro hsame
    refine eq_of_mem_iff fun x => ?_
    rw [mem_without, mem_without]
    constructor
    · rintro ⟨hx, hne⟩
      exact ⟨(hsame x hne).mp hx, hne⟩
    · rintro ⟨hx, hne⟩
      exact ⟨(hsame x hne).mpr hx, hne⟩

/-- The sets of two lists are the same exactly if the lists have the same members. -/
theorem ofList_eq_iff {names names' : List String} :
    ofList names = ofList names' ↔ ∀ name, name ∈ names ↔ name ∈ names' := by
  constructor
  · intro hsame name
    rw [← mem_ofList, hsame, mem_ofList]
  · intro hmem
    refine eq_of_mem_iff fun name => ?_
    rw [mem_ofList, mem_ofList]
    exact hmem name

/-- However many names there are, some type has none of them. -/
theorem exists_type_not_mem (s : NameSet) : ∃ type : ArtefactType, type.name ∉ s.toList := by
  obtain ⟨name, hname⟩ := Infinite.exists_notMem_finset ("" :: s.toList).toFinset
  rw [List.mem_toFinset, List.mem_cons, not_or] at hname
  exact ⟨⟨name, hname.1⟩, hname.2⟩

end NameSet

/-! ## Support -/

namespace Capability

/-- The capability is a list with this name. -/
def Lists (c : Capability) (name : String) : Prop :=
  ∃ types, c = only types ∧ name ∈ types.toList

theorem lists_only_iff {types : NameSet} {name : String} :
    (only types).Lists name ↔ name ∈ types.toList := by
  simp [Lists]

theorem mem_listed_iff {c : Capability} {name : String} : name ∈ c.listed ↔ c.Lists name := by
  cases c with
  | universal => simp [listed, Lists]
  | only types => exact lists_only_iff.symm

theorem supports_universal (type : ArtefactType) : universal.supports type = true := rfl

theorem supports_only_iff {types : NameSet} {type : ArtefactType} :
    (only types).supports type = true ↔ type.name ∈ types.toList := by
  simp [supports, NameSet.contains]

theorem supports_iff {c : Capability} {type : ArtefactType} :
    c.supports type = true ↔ c = universal ∨ c.Lists type.name := by
  cases c with
  | universal => simp [supports_universal]
  | only types => simp [supports_only_iff, lists_only_iff]

/-- A list supports fewer types than there are. -/
theorem exists_not_supports (types : NameSet) : ∃ type, (only types).supports type = false := by
  obtain ⟨type, htype⟩ := types.exists_type_not_mem
  refine ⟨type, ?_⟩
  rwa [← Bool.not_eq_true, supports_only_iff]

/-- Lists support the same types exactly if they have the same names, the empty one left out. -/
theorem only_supports_eq_iff {types types' : NameSet} :
    (∀ type, (only types).supports type = (only types').supports type) ↔
      types.without "" = types'.without "" := by
  have hlisted (type : ArtefactType) : (only types).supports type = (only types').supports type ↔
      (type.name ∈ types.toList ↔ type.name ∈ types'.toList) := by
    rw [Bool.eq_iff_iff, supports_only_iff, supports_only_iff]
  rw [NameSet.without_eq_iff]
  constructor
  · exact fun hsame name hname => (hlisted ⟨name, hname⟩).mp (hsame ⟨name, hname⟩)
  · exact fun hsame type => (hlisted type).mpr (hsame type.name type.nonempty)

/-! ## The law -/

/-- Capabilities support the same types exactly if both are universal or both are lists that are
the same without the empty name. A list never supports all types, whatever is in it. The lists
made from names are the same exactly if the names are, in any order and however often. -/
theorem capabilities_differ_in_what_they_support (a b : Capability) :
    ((∀ type, a.supports type = b.supports type) ↔
      (a = universal ∧ b = universal) ∨
        ∃ types types', a = only types ∧ b = only types' ∧
          types.without "" = types'.without "") ∧
    (∀ types, ∃ type, (only types).supports type ≠ universal.supports type) ∧
    ∀ names names' : List String, only (.ofList names) = only (.ofList names') ↔
      ∀ name, name ∈ names ↔ name ∈ names' := by
  have hdiffers (types : NameSet) :
      ∃ type, (only types).supports type ≠ universal.supports type := by
    obtain ⟨type, htype⟩ := exists_not_supports types
    exact ⟨type, by rw [htype, supports_universal]; decide⟩
  refine ⟨?_, hdiffers, fun names names' => ?_⟩
  · cases a with
    | universal =>
      cases b with
      | universal => simp
      | only types' =>
        obtain ⟨type, htype⟩ := hdiffers types'
        simpa using ⟨type, htype.symm⟩
    | only types =>
      cases b with
      | universal => simpa using hdiffers types
      | only types' => simp [only_supports_eq_iff]
  · rw [only.injEq, NameSet.ofList_eq_iff]

/-- The empty name tells lists apart, although these two support the same types. -/
example : only (.ofList ["Service", ""]) ≠ only (.ofList ["Service", "Service"]) := by decide

end Capability

end MarkerInjection
