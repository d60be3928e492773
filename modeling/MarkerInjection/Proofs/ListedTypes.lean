-- The types that a registry lists, and what the list tells of the injectors that
-- apply: for a listed type there are more than those for all types, for any other
-- there are just these. Injectors apply in the order of the registry.
import MarkerInjection.Proofs.ByteOrder
import MarkerInjection.Proofs.Capabilities
import MarkerInjection.Registry

namespace MarkerInjection

variable {h : Host}

/-! ## Selections -/

/-- The second list holds what stands in the first at the places where the property holds: place
by place, in the same order and as often. -/
def Selects {α : Type} (p : α → Prop) (xs ys : List α) : Prop :=
  ∃ places : List Nat, places.Pairwise (· < ·) ∧
    (∀ k, k ∈ places ↔ ∃ x, xs[k]? = some x ∧ p x) ∧ ys.map some = places.map (xs[·]?)

section Selections

variable {α : Type} {p q : α → Prop} {xs ys zs : List α}

/-- No other list is selected. -/
theorem Selects.unique (hys : Selects p xs ys) (hzs : Selects p xs zs) : ys = zs := by
  obtain ⟨places, hascends, hplaces, hvalues⟩ := hys
  obtain ⟨places', hascends', hplaces', hvalues'⟩ := hzs
  have hsame : places = places' :=
    hascends.eq_of_mem_iff hascends' fun k => by rw [hplaces, hplaces']
  have hmaps : ys.map some = zs.map some := by rw [hvalues, hvalues', hsame]
  exact (Option.some_injective α).list_map hmaps

theorem Selects.holds (hys : Selects p xs ys) {y : α} (hy : y ∈ ys) : p y := by
  obtain ⟨places, -, hplaces, hvalues⟩ := hys
  have hmem : some y ∈ places.map (xs[·]?) := hvalues ▸ List.mem_map_of_mem hy
  obtain ⟨k, hk, hget⟩ := List.mem_map.mp hmem
  obtain ⟨x, hx, hp⟩ := (hplaces k).mp hk
  rw [hx] at hget
  exact Option.some.inj hget ▸ hp

/-- Only what the property says of the members counts. -/
theorem Selects.congr (hys : Selects p xs ys) (hpq : ∀ x ∈ xs, p x ↔ q x) : Selects q xs ys := by
  obtain ⟨places, hascends, hplaces, hvalues⟩ := hys
  refine ⟨places, hascends, fun k => ?_, hvalues⟩
  rw [hplaces]
  refine exists_congr fun x => and_congr_right fun hx => ?_
  exact hpq x (List.mem_of_getElem? hx)

theorem selects_filter (test : α → Bool) (xs : List α) :
    Selects (test · = true) xs (xs.filter test) := by
  -- The places of what the filter keeps are found by filtering the list with its places.
  let kept := xs.zipIdx.filter (test ·.1)
  refine ⟨kept.map Prod.snd, ?_, ?_, ?_⟩
  · have hall : (xs.zipIdx.map Prod.snd).Pairwise (· < ·) := by
      rw [List.zipIdx_map_snd]
      exact List.pairwise_lt_range' 1
    exact hall.sublist (List.filter_sublist.map _)
  · intro k
    simp [kept, List.mem_zipIdx_iff_getElem?]
  · have hvalues : xs.filter test = kept.map Prod.fst := by
      conv_lhs => rw [← List.zipIdx_map_fst 0 xs, List.filter_map]
      rfl
    rw [hvalues, List.map_map, List.map_map]
    refine List.map_congr_left fun x hx => ?_
    exact (List.mem_zipIdx_iff_getElem?.mp (List.mem_filter.mp hx).1).symm

end Selections

/-! ## Lists of types -/

namespace Registry

variable (r : Registry h)

theorem mem_listedTypes_iff (name : String) :
    name ∈ r.listedTypes.toList ↔ ∃ d ∈ r.descriptors, d.capability.Lists name := by
  rw [listedTypes, NameSet.mem_ofList, List.mem_flatMap]
  simp only [Capability.mem_listed_iff]

/-- The listed types ascend by their bytes, so none is there twice. -/
theorem listedTypes_ascend :
    r.listedTypes.toList.Pairwise fun a b => bytesOf a < bytesOf b :=
  r.listedTypes.ascending.imp fun hlt => (lt_iff_bytesOf_lt _ _).mp hlt

/-! ## Injectors that apply -/

/-- What applies to a type is selected from the registry, and nothing else is. -/
theorem selects_iff_matching (type : ArtefactType) (ds : List (Descriptor h)) :
    Selects (fun d => d.capability = .universal ∨ d.capability.Lists type.name) r.descriptors ds ↔
      ds = r.matching type := by
  have hselects : Selects (fun d => d.capability = .universal ∨ d.capability.Lists type.name)
      r.descriptors (r.matching type) :=
    (selects_filter (·.supports type) r.descriptors).congr fun d _ => Capability.supports_iff
  constructor
  · exact fun hds => hds.unique hselects
  · rintro rfl
    exact hselects

/-- A type is listed exactly if an injector applies to it that is not for all types. -/
theorem mem_listedTypes_iff_matching (type : ArtefactType) :
    type.name ∈ r.listedTypes.toList ↔
      ∃ d ∈ r.matching type, ∃ types, d.capability = .only types := by
  rw [mem_listedTypes_iff]
  constructor
  · rintro ⟨d, hd, types, hcapability, hname⟩
    have hsupports : d.supports type = true :=
      Capability.supports_iff.mpr (Or.inr ⟨types, hcapability, hname⟩)
    exact ⟨d, List.mem_filter.mpr ⟨hd, hsupports⟩, types, hcapability⟩
  · rintro ⟨d, hd, types, hcapability⟩
    obtain ⟨hmem, hsupports⟩ := List.mem_filter.mp hd
    rcases Capability.supports_iff.mp hsupports with huniversal | hlists
    · rw [huniversal] at hcapability
      contradiction
    · exact ⟨d, hmem, hlists⟩

/-- Just the injectors for all types apply to a type exactly if it is not listed. -/
theorem selects_universal_iff (type : ArtefactType) :
    Selects (fun d => d.capability = .universal) r.descriptors (r.matching type) ↔
      type.name ∉ r.listedTypes.toList := by
  constructor
  · intro hselects hlisted
    obtain ⟨d, hd, types, hcapability⟩ := (r.mem_listedTypes_iff_matching type).mp hlisted
    have huniversal : d.capability = .universal := hselects.holds hd
    rw [huniversal] at hcapability
    contradiction
  · intro hnot
    refine ((r.selects_iff_matching type _).mpr rfl).congr fun d hd => ?_
    have hunlisted : ¬ d.capability.Lists type.name :=
      fun hlists => hnot ((r.mem_listedTypes_iff _).mpr ⟨d, hd, hlists⟩)
    exact or_iff_left hunlisted

/-! ## The law -/

/-- A registry lists the names in its capabilities and no others, each once, in the order of their
bytes. A type is listed exactly if an injector applies to it that is not for all types; otherwise,
and only then, just those for all types apply. What applies to a type is what is for all types or
lists it, in the order of the registry and as often. -/
theorem a_listed_type_gets_more_than_all_types (r : Registry h) :
    r.listedTypes.toList.Pairwise (fun a b => bytesOf a < bytesOf b) ∧
    (∀ name, name ∈ r.listedTypes.toList ↔
      ∃ d ∈ r.descriptors, ∃ types, d.capability = .only types ∧ name ∈ types.toList) ∧
    ∀ type : ArtefactType,
      (type.name ∈ r.listedTypes.toList ↔
        ∃ d ∈ r.matching type, ∃ types, d.capability = .only types) ∧
      (type.name ∉ r.listedTypes.toList ↔
        Selects (fun d => d.capability = .universal) r.descriptors (r.matching type)) ∧
      ∀ ds, ds = r.matching type ↔
        Selects (fun d => d.capability = .universal ∨
          ∃ types, d.capability = .only types ∧ type.name ∈ types.toList) r.descriptors ds := by
  refine ⟨r.listedTypes_ascend, r.mem_listedTypes_iff, fun type => ⟨?_, ?_, fun ds => ?_⟩⟩
  · exact r.mem_listedTypes_iff_matching type
  · exact (r.selects_universal_iff type).symm
  · exact (r.selects_iff_matching type ds).symm

end Registry

end MarkerInjection
