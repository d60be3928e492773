-- Injectors that keep nothing between calls. What they do follows from the
-- unit and the class alone, so a visit does the same in any two worlds of the
-- same time: only what lies in the memory may differ.
import MarkerInjection.Proofs.Traces

namespace MarkerInjection

variable {h : Host}

/-- The injector may write to the memory, but does the same to unit and class whatever is
there. -/
def Descriptor.Forgetful (d : Descriptor h) : Prop :=
  ∀ memory memory' unit target, (d.inject memory unit target).2 = (d.inject memory' unit target).2

/-- All injectors of the registry are forgetful. -/
def Registry.Forgetful (r : Registry h) : Prop := ∀ d ∈ r.descriptors, d.Forgetful

/-! ## Other memories -/

/-- The same world with another memory. -/
def World.withMemory (w : World h) (memory : h.Memory) : World h := { w with memory }

def Scene.withMemory (s : Scene h) (memory : h.Memory) : Scene h :=
  { s with world := s.world.withMemory memory }

theorem emit_withMemory (sink : Sink) (d : Diagnostic) (w : World h) (memory : h.Memory) :
    sink.emit d (w.withMemory memory) = (sink.emit d w).withMemory memory := by
  cases sink <;> rfl

theorem received_withMemory (sink : Sink) (w : World h) (memory : h.Memory) :
    sink.received (w.withMemory memory) = sink.received w := by
  cases sink <;> rfl

/-! ## Steps with another memory -/

theorem call_withMemory {d : Descriptor h} (hd : d.Forgetful) (s : Scene h) (memory : h.Memory) :
    ∃ memory', d.call (s.withMemory memory) =
      ((d.call s).1.withMemory memory', (d.call s).2) := by
  have hsame := hd memory s.world.memory s.unit s.target
  refine ⟨(d.inject memory s.unit s.target).1, ?_⟩
  simp only [Descriptor.call, Scene.withMemory, World.withMemory, hsame]

theorem applyFrom_withMemory {ds : List (Descriptor h)} (hds : ∀ d ∈ ds, d.Forgetful)
    (ch : Channel) (type : ArtefactType) (index : Nat) (s : Scene h) (memory : h.Memory) :
    ∃ memory', ch.applyFrom type index ds (s.withMemory memory) =
      ((ch.applyFrom type index ds s).1.withMemory memory',
        (ch.applyFrom type index ds s).2) := by
  induction ds generalizing index s memory with
  | nil => exact ⟨memory, rfl⟩
  | cons d ds ih =>
    obtain ⟨memory', hcall⟩ := call_withMemory (hds d (by simp)) (s.announced type d) memory
    change d.call ((s.withMemory memory).announced type d) = _ at hcall
    rcases hd : d.call (s.announced type d) with ⟨stop, cause | ⟨⟩⟩
    · rw [hd] at hcall
      refine ⟨memory', ?_⟩
      rw [applyFrom_cons_error ch index ds hcall, applyFrom_cons_error ch index ds hd]
      simp only [Scene.withMemory, emit_withMemory]
      rfl
    · rw [hd] at hcall
      rw [applyFrom_cons_ok ch index ds hcall, applyFrom_cons_ok ch index ds hd]
      exact ih (fun e he => hds e (by simp [he])) (index + 1) stop memory'

section Visits

variable {t : Transform h} (ht : t.registry.Forgetful)

include ht

theorem perform_withMemory (type : ArtefactType) (s : Scene h) (memory : h.Memory) :
    ∃ memory', t.perform type (s.withMemory memory) =
      ((t.perform type s).1.withMemory memory', (t.perform type s).2) :=
  applyFrom_withMemory (fun d hd => ht d ((List.mem_filter.mp hd).1)) t.channel type 0
    { s with world := s.world.logged (.matched _ type (h.className s.target)) } memory

theorem visit_withMemory (nodes : List (Node h)) (unit : h.SourceUnit) (w : World h)
    (memory : h.Memory) :
    ∃ memory', t.visit nodes unit (w.withMemory memory) =
      { t.visit nodes unit w with
        world := (t.visit nodes unit w).world.withMemory memory' } := by
  match nodes with
  | [] => exact ⟨memory, rfl⟩
  | [_] => exact ⟨memory, rfl⟩
  | _ :: _ :: _ :: _ => exact ⟨memory, rfl⟩
  | [first, second] =>
    simp only [Transform.visit]
    cases validate t.config.marker t.config.valueMember first second with
    | error failure => exact ⟨memory, rfl⟩
    | ok verdict =>
      cases verdict with
      | ignored => exact ⟨memory, rfl⟩
      | refused className reason => exact ⟨memory, rfl⟩
      | accepted c type =>
        obtain ⟨memory', hperform⟩ := perform_withMemory ht type ⟨w, unit, c⟩ memory
        refine ⟨memory', ?_⟩
        simp only [Scene.withMemory] at hperform ⊢
        rw [hperform]

theorem runSite_withMemory (p : Progress h) (unit : h.SourceUnit) (site : Site h)
    (memory : h.Memory) :
    ∃ memory', t.runSite { p with world := p.world.withMemory memory } unit site =
      ({ (t.runSite p unit site).1 with
          world := (t.runSite p unit site).1.world.withMemory memory' },
        (t.runSite p unit site).2) := by
  obtain ⟨memory', hvisit⟩ :=
    visit_withMemory ht [.tag site.tag, site.target.node] unit p.world memory
  unfold Transform.runSite
  simp only [hvisit]
  split
  · exact ⟨memory, rfl⟩
  · split
    · exact ⟨memory', rfl⟩
    · exact ⟨memory', rfl⟩

/-- Two runs at the same time do the same at a site, whatever came before in each. The
diagnostics that reach the sink are the same, too. -/
theorem runSite_alike {p q : Progress h} (hnow : p.world.now = q.world.now)
    (hstopped : p.stopped = q.stopped) (unit : h.SourceUnit) (site : Site h) :
    (t.runSite p unit site).2 = (t.runSite q unit site).2 ∧
      ∃ news,
        t.channel.sink.received (t.runSite p unit site).1.world =
          t.channel.sink.received p.world ++ news ∧
        t.channel.sink.received (t.runSite q unit site).1.world =
          t.channel.sink.received q.world ++ news := by
  obtain ⟨w, stopped⟩ := p
  obtain ⟨w', stopped'⟩ := q
  obtain rfl : stopped = stopped' := hstopped
  -- Both are the run from the empty world with the memory of `w`, after what each has behind it.
  have hp := runSite_after t ⟨World.initial w.memory w.now, stopped⟩ w unit site
  have hq := runSite_after t ⟨World.initial w'.memory w'.now, stopped⟩ w' unit site
  obtain ⟨memory', hmemory⟩ := runSite_withMemory ht ⟨World.initial w.memory w.now, stopped⟩
    unit site w'.memory
  have hempty : (World.initial w.memory w.now).withMemory w'.memory =
      World.initial w'.memory w'.now := by
    rw [show w'.now = w.now from hnow.symm]
    rfl
  simp only [initial_after] at hp hq
  simp only [hempty] at hmemory
  rw [hmemory] at hq
  refine ⟨?_, t.channel.sink.received
    (t.runSite ⟨World.initial w.memory w.now, stopped⟩ unit site).1.world, ?_, ?_⟩
  · rw [hp, hq]
  · rw [hp, received_after]
  · rw [hq, received_after, received_withMemory]

end Visits

end MarkerInjection
