-- Registrations and the registry that they give. There is one exactly if the names
-- differ from each other; otherwise the first that stands for a second time is
-- the reason. A name leads to the one registration under it.
import MarkerInjection.Proofs.Lookups

namespace MarkerInjection

variable {h : Host}

/-! ## Registrations -/

/-- The registration is for this type. -/
def Registration.Covers (type : ArtefactType) : Registration h → Prop
  | universal _ _ => True
  | only _ types _ => type.name ∈ types
  | prepared d => d.supports type = true

theorem Registration.supports_iff_covers (x : Registration h) (type : ArtefactType) :
    x.descriptor.supports type = true ↔ x.Covers type := by
  cases x with
  | universal name inject => simp [descriptor, Descriptor.supports, Capability.supports, Covers]
  | only name types inject =>
    simp [descriptor, Descriptor.supports, Capability.supports, NameSet.contains,
      NameSet.mem_ofList, Covers]
  | prepared d => exact Iff.rfl

/-! ## The first name that is repeated -/

/-- A repeated name stands behind names that repeat none, and it is one of them or of those seen
before. -/
theorem split_of_firstRepeated? {seen ns : List String} {n : String}
    (hn : firstRepeated? seen ns = some n) :
    ∃ pre post, ns = pre ++ n :: post ∧ (n ∈ seen ∨ n ∈ pre) ∧ pre.Nodup ∧
      ∀ m ∈ pre, m ∉ seen := by
  induction ns generalizing seen with
  | nil => simp [firstRepeated?] at hn
  | cons m ns ih =>
    unfold firstRepeated? at hn
    split at hn
    · rename_i hseen
      obtain rfl : m = n := by simpa using hn
      exact ⟨[], ns, rfl, Or.inl (by simpa using hseen), List.nodup_nil, by simp⟩
    · rename_i hseen
      -- From here on `m` counts as seen, so no later name of the part before `n` is `m`.
      obtain ⟨pre, post, rfl, hrepeats, hnodup, hout⟩ := ih hn
      refine ⟨m :: pre, post, rfl, ?_, ?_, ?_⟩
      · rcases hrepeats with hold | hpre
        · rcases List.mem_cons.mp hold with rfl | hold
          · exact Or.inr (by simp)
          · exact Or.inl hold
        · exact Or.inr (List.mem_cons_of_mem m hpre)
      · exact List.nodup_cons.mpr ⟨fun hmem => hout m hmem (by simp), hnodup⟩
      · intro x hx
        rcases List.mem_cons.mp hx with rfl | hx
        · simpa using hseen
        · exact fun hs => hout x hx (List.mem_cons_of_mem m hs)

/-- At this position stands the first descriptor whose name an earlier one has. -/
structure RepeatsFirst (ds : List (Descriptor h)) (k : Nat) (d : Descriptor h) : Prop where
  here : ds[k]? = some d
  repeats : ∃ e ∈ ds.take k, e.name = d.name
  earlier : ∀ j < k, ∀ e, ds[j]? = some e → ∀ e' ∈ ds.take j, e'.name ≠ e.name

theorem repeatsFirst_of_firstRepeated? {ds : List (Descriptor h)} {n : String}
    (hn : firstRepeated? [] (ds.map (·.name)) = some n) :
    ∃ k d, RepeatsFirst ds k d ∧ d.name = n := by
  obtain ⟨names, more, hnames, hrepeats, hnodup, -⟩ := split_of_firstRepeated? hn
  obtain ⟨pre, behind, rfl, rfl, hbehind⟩ := List.map_eq_append_iff.mp hnames
  obtain ⟨d, post, rfl, rfl, -⟩ := List.map_eq_cons_iff.mp hbehind
  refine ⟨pre.length, d, ⟨by simp, ?_, ?_⟩, rfl⟩
  · rw [List.take_left]
    simpa using hrepeats
  · intro j hj e he e' he'
    rw [List.getElem?_append_left hj] at he
    rw [List.take_append_of_le_length (Nat.le_of_lt hj)] at he'
    have hsplit : pre = pre.take j ++ e :: pre.drop (j + 1) := by
      obtain ⟨_, rfl⟩ := List.getElem?_eq_some_iff.mp he
      rw [← List.drop_eq_getElem_cons hj, List.take_append_drop]
    rw [hsplit, List.map_append, List.map_cons] at hnodup
    have hapart := (List.nodup_append.mp hnodup).2.2
    exact hapart e'.name (List.mem_map_of_mem he') e.name (by simp)

namespace Registry

/-! ## Building -/

/-- A registry can be built exactly of what has distinct names. -/
theorem build_ok_iff (ds : List (Descriptor h)) :
    (∃ r, Registry.build ds = .ok r) ↔ (ds.map (·.name)).Nodup := by
  constructor
  · rintro ⟨r, hr⟩
    rw [← descriptors_of_build hr]
    exact r.distinct
  · exact fun hdistinct => ⟨⟨ds, hdistinct⟩, build_descriptors ⟨ds, hdistinct⟩⟩

theorem build_of_repeated {ds : List (Descriptor h)} (hds : ¬ (ds.map (·.name)).Nodup) :
    ∃ k d, RepeatsFirst ds k d ∧ Registry.build ds = .error (.duplicateInjector d.name) := by
  rcases hn : firstRepeated? [] (ds.map (·.name)) with _ | n
  · exact absurd (nodup_of_firstRepeated? hn).1 hds
  · obtain ⟨k, d, hfirst, rfl⟩ := repeatsFirst_of_firstRepeated? hn
    refine ⟨k, d, hfirst, ?_⟩
    unfold build
    split
    · rename_i name hname
      obtain rfl : name = d.name := by simpa [hname] using hn
      rfl
    · rename_i hnone
      simp [hnone] at hn

/-! ## Searching -/

/-- A search by name ends at the one descriptor of this name. -/
theorem get?_eq_some_iff (r : Registry h) (name : String) (d : Descriptor h) :
    r.get? name = some d ↔ ∃ pre post, r.descriptors = pre ++ d :: post ∧ d.name = name ∧
      ∀ e ∈ pre ++ post, e.name ≠ name := by
  constructor
  · intro hfound
    have hname : d.name = name := by simpa [get?] using List.find?_some hfound
    obtain ⟨pre, post, hsplit⟩ := List.append_of_mem (List.mem_of_find?_eq_some hfound)
    exact ⟨pre, post, hsplit, hname, hname ▸ name_unique hsplit⟩
  · rintro ⟨pre, post, hsplit, rfl, -⟩
    exact get?_name (hsplit ▸ by simp)

theorem get?_eq_none_iff (r : Registry h) (name : String) :
    r.get? name = none ↔ ∀ d ∈ r.descriptors, d.name ≠ name := by
  simp [get?]

end Registry

/-! ## The law -/

/-- Registrations give a registry exactly if their names differ from each other. Otherwise the
building fails with the name of the first registration whose name an earlier one has. A registry
holds what was registered, in this order and for the same types, and a name leads to the only
registration under it, or to nothing if there is none. -/
theorem a_registry_is_built_of_distinct_names (xs : List (Registration h)) :
    let ds := xs.map (·.descriptor)
    ((∃ r, Registry.build ds = .ok r) ↔ ds.Pairwise (·.name ≠ ·.name)) ∧
    (¬ ds.Pairwise (·.name ≠ ·.name) → ∃ k d, RepeatsFirst ds k d ∧
      Registry.build ds = .error (.duplicateInjector d.name)) ∧
    (∀ r, Registry.build ds = .ok r → r.descriptors = ds ∧ ∀ name,
      (∀ d, r.get? name = some d ↔ ∃ pre post, ds = pre ++ d :: post ∧ d.name = name ∧
        ∀ e ∈ pre ++ post, e.name ≠ name) ∧
      (r.get? name = none ↔ ∀ d ∈ ds, d.name ≠ name)) ∧
    (∀ x ∈ xs, ∀ type, x.descriptor.supports type = true ↔ x.Covers type) := by
  intro ds
  have hdistinct : (ds.map (·.name)).Nodup ↔ ds.Pairwise (·.name ≠ ·.name) := List.pairwise_map
  refine ⟨?_, ?_, ?_, fun x _ type => x.supports_iff_covers type⟩
  · rw [Registry.build_ok_iff, hdistinct]
  · intro hrepeats
    exact Registry.build_of_repeated (hdistinct.not.mpr hrepeats)
  · intro r hbuild
    have hds := Registry.descriptors_of_build hbuild
    refine ⟨hds, fun name => ⟨fun d => ?_, ?_⟩⟩
    · rw [Registry.get?_eq_some_iff, hds]
    · rw [Registry.get?_eq_none_iff, hds]

end MarkerInjection
