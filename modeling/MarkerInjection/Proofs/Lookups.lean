-- Registries as they are built and searched. No name stands twice in one, so
-- a search by name finds the injector that is meant, wherever it stands. The
-- place of an injector among those that apply counts those that were registered
-- before it and apply, too.
import MarkerInjection.Proofs.Calls

namespace MarkerInjection

variable {h : Host}

/-! ## Building -/

/-- Names that differ from each other and from those seen before repeat none. -/
theorem firstRepeated?_of_nodup {seen ns : List String} (hns : ns.Nodup)
    (hseen : ∀ n ∈ ns, n ∉ seen) : firstRepeated? seen ns = none := by
  induction ns generalizing seen with
  | nil => rfl
  | cons n ns ih =>
    obtain ⟨hn, hrest⟩ := List.nodup_cons.mp hns
    have hnew : seen.contains n = false := by simpa using hseen n (by simp)
    rw [firstRepeated?, hnew]
    refine ih hrest fun m hm => ?_
    rw [List.mem_cons, not_or]
    exact ⟨fun heq => hn (heq ▸ hm), hseen m (List.mem_cons_of_mem n hm)⟩

namespace Registry

/-- Every registry is one that can be built. -/
theorem build_descriptors (r : Registry h) : Registry.build r.descriptors = .ok r := by
  have hnone : firstRepeated? [] (r.descriptors.map (·.name)) = none :=
    firstRepeated?_of_nodup r.distinct (by simp)
  unfold build
  split
  · rename_i hrepeated
    rw [hnone] at hrepeated
    simp at hrepeated
  · rfl

/-- A registry that was built holds what was registered, in the same order. -/
theorem descriptors_of_build {ds : List (Descriptor h)} {r : Registry h}
    (hbuild : Registry.build ds = .ok r) : r.descriptors = ds := by
  unfold build at hbuild
  split at hbuild
  · simp at hbuild
  · exact (congrArg descriptors (Except.ok.inj hbuild)).symm

section Search

variable {r : Registry h} {d : Descriptor h}

/-! ## Searching by name -/

/-- The name of an injector leads back to it. -/
theorem get?_name (hd : d ∈ r.descriptors) : r.get? d.name = some d := by
  unfold get?
  rcases hfound : r.descriptors.find? (·.name == d.name) with _ | e
  · have hnone := List.find?_eq_none.mp hfound d hd
    simp at hnone
  · have hname : e.name = d.name := by simpa using List.find?_some hfound
    obtain rfl := eq_of_name hd (List.mem_of_find?_eq_some hfound) hname
    exact hfound

/-- Around an injector no other has its name. -/
theorem name_unique {pre post : List (Descriptor h)} (hsplit : r.descriptors = pre ++ d :: post) :
    ∀ e ∈ pre ++ post, e.name ≠ d.name := by
  have hdistinct := r.distinct
  rw [hsplit, List.map_append, List.map_cons, List.nodup_middle, List.nodup_cons,
    ← List.map_append] at hdistinct
  intro e he hname
  exact hdistinct.1 (hname ▸ List.mem_map_of_mem he)

/-! ## Searching by type -/

theorem mem_of_matching {type : ArtefactType} (hd : d ∈ r.matching type) :
    d ∈ r.descriptors := (List.mem_filter.mp hd).1

/-- An injector that applies stands in the registry behind those that stand before it among
all that apply. -/
theorem split_of_matching {type : ArtefactType} {k : Nat} (hd : (r.matching type)[k]? = some d) :
    ∃ pre post, r.descriptors = pre ++ d :: post ∧ d.supports type = true ∧
      pre.filter (·.supports type) = (r.matching type).take k := by
  obtain ⟨hk, rfl⟩ := List.getElem?_eq_some_iff.mp hd
  have hparts : r.matching type =
      (r.matching type).take k ++ (r.matching type)[k] :: (r.matching type).drop (k + 1) := by
    rw [← List.drop_eq_getElem_cons hk, List.take_append_drop]
  obtain ⟨first, rest, hfirst, hbefore, hrest⟩ := List.filter_eq_append_iff.mp hparts
  obtain ⟨skipped, post, rfl, hskipped, hsupports, -⟩ := List.filter_eq_cons_iff.mp hrest
  refine ⟨first ++ skipped, post, by rw [hfirst, List.append_assoc], hsupports, ?_⟩
  rw [List.filter_append, hbefore, List.filter_eq_nil_iff.mpr hskipped, List.append_nil]

end Search

end Registry

end MarkerInjection
