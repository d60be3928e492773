-- The calls of injectors. What is due at a site follows from its report: all
-- injectors that apply where it was completed, those up to the failure where an
-- injector failed, and none otherwise. A run makes the calls that are due, each
-- once, and no others.
import MarkerInjection.Proofs.Turns
import MarkerInjection.Scripted
import Mathlib.Data.List.Nodup

namespace MarkerInjection

variable {h : Host}

/-! ## What is due -/

namespace Transform

/-- The injectors that are due at a site which ended with this report. -/
def due (t : Transform h) (site : Site h) (r : SiteReport) : List (Descriptor h) :=
  match r.outcome, r.failure with
  | .completed _, _ =>
    (declaredType? site.tag t.config.valueMember).elim [] t.registry.matching
  | _, some (.injection _ type _ index _) =>
    (ArtefactType.ofName? type).elim [] fun type => (t.registry.matching type).take (index + 1)
  | _, _ => []

/-- The site was completed with a type that the injector supports. -/
def completes (t : Transform h) (d : Descriptor h) (site : Site h) (r : SiteReport) : Bool :=
  match r.outcome with
  | .completed _ => (declaredType? site.tag t.config.valueMember).any d.supports
  | _ => false

/-- An injector failed at the site with a type that this one supports, and this one does not
stand behind it among those that apply. -/
def reaches (t : Transform h) (d : Descriptor h) (r : SiteReport) : Bool :=
  match r.failure with
  | some (.injection _ type _ index _) =>
    (ArtefactType.ofName? type).any fun type =>
      d.supports type && ((t.registry.matching type).map (·.name)).idxOf d.name ≤ index
  | _ => false

end Transform

/-- A number that every call of this injector of the registry raises by one, and that the others
leave as it is. -/
structure Registry.Counts (r : Registry h) (d : Descriptor h) (count : h.Memory → Nat) :
    Prop where
  own : ∀ w : Workpiece h, count (d.work w).1.memory = count w.memory + 1
  others : ∀ e ∈ r.descriptors, e.name ≠ d.name → ∀ w : Workpiece h,
    count (e.work w).1.memory = count w.memory

/-! ## Each injector once -/

namespace Registry

variable {r : Registry h} {d : Descriptor h}

theorem eq_of_name (hd : d ∈ r.descriptors) {e : Descriptor h} (he : e ∈ r.descriptors)
    (hname : e.name = d.name) : e = d :=
  List.inj_on_of_nodup_map r.distinct he hd hname

theorem name_mem_matching (hd : d ∈ r.descriptors) (type : ArtefactType) :
    d.name ∈ (r.matching type).map (·.name) ↔ d.supports type = true := by
  rw [List.mem_map]
  constructor
  · rintro ⟨e, he, hname⟩
    obtain ⟨hmem, hsupports⟩ := List.mem_filter.mp he
    obtain rfl := eq_of_name hd hmem hname
    exact hsupports
  · exact fun hsupports => ⟨d, List.mem_filter.mpr ⟨hd, hsupports⟩, rfl⟩

theorem nodup_matching (r : Registry h) (type : ArtefactType) :
    ((r.matching type).map (·.name)).Nodup :=
  r.distinct.sublist (List.filter_sublist.map _)

/-- Among the injectors that apply, each stands once. -/
theorem count_matching (hd : d ∈ r.descriptors) (type : ArtefactType) :
    ((r.matching type).map (·.name)).count d.name = (d.supports type).toNat := by
  rw [(r.nodup_matching type).count]
  simp only [name_mem_matching hd]
  cases d.supports type <;> rfl

/-- Among the first injectors that apply, each stands once whose position is one of theirs. -/
theorem count_take_matching (hd : d ∈ r.descriptors) (type : ArtefactType) (k : Nat) :
    (((r.matching type).take (k + 1)).map (·.name)).count d.name =
      (d.supports type && decide (((r.matching type).map (·.name)).idxOf d.name ≤ k)).toNat := by
  -- No name stands twice, so the count asks only whether the name is there.
  rw [List.map_take, ((r.nodup_matching type).sublist (List.take_sublist _ _)).count]
  cases hsupports : d.supports type with
  | false =>
    have hnone : d.name ∉ (r.matching type).map (·.name) := by
      rw [name_mem_matching hd, hsupports]
      simp
    rw [if_neg fun hmem => hnone (List.mem_of_mem_take hmem)]
    rfl
  | true =>
    have hplace := List.mem_take_iff_idxOf_lt (n := k + 1)
      ((name_mem_matching hd type).mpr hsupports)
    rw [Nat.lt_succ_iff] at hplace
    by_cases hle : ((r.matching type).map (·.name)).idxOf d.name ≤ k
    · rw [if_pos (hplace.mpr hle)]
      simp [hle]
    · rw [if_neg fun hmem => hle (hplace.mp hmem)]
      simp [hle]

/-- The calls of a list of injectors raise the number as often as this one stands in it. -/
theorem count_after {count : h.Memory → Nat} (hcount : r.Counts d count)
    (hd : d ∈ r.descriptors) {ds : List (Descriptor h)} (hds : ∀ e ∈ ds, e ∈ r.descriptors)
    (w : Workpiece h) :
    count (w.after ds).memory = count w.memory + (ds.map (·.name)).count d.name := by
  induction ds generalizing w with
  | nil => rfl
  | cons e ds ih =>
    have hrest := ih (fun e' he' => hds e' (by simp [he'])) (e.work w).1
    rw [Workpiece.after, List.foldl_cons, ← Workpiece.after, hrest, List.map_cons,
      List.count_cons]
    by_cases hname : e.name = d.name
    · obtain rfl := eq_of_name hd (hds e (by simp)) hname
      rw [hcount.own]
      simp
      omega
    · rw [hcount.others e (hds e (by simp)) hname]
      simp [hname]

end Registry

/-- The calls that scripted injectors count are such a number. -/
theorem counts_of_scripted {r : Registry Scripted.host} {d : Descriptor Scripted.host}
    (hd : d ∈ r.descriptors)
    (hr : ∀ e ∈ r.descriptors, ∃ script, e.inject = Scripted.injector e.name script) :
    r.Counts d (fun calls : String → Nat => calls d.name) where
  own := by
    intro w
    obtain ⟨script, hscript⟩ := hr d hd
    simp [Descriptor.work, hscript, Scripted.injector]
  others := by
    intro e he hname w
    obtain ⟨script, hscript⟩ := hr e he
    have hother : d.name ≠ e.name := fun heq => hname heq.symm
    simp [Descriptor.work, hscript, Scripted.injector, hother]

/-! ## One turn -/

/-- The turn calls these injectors, which are those that are due by its report. -/
structure Turn.Calls (t : Transform h) (x : Turn h) (ds : List (Descriptor h)) : Prop where
  due : t.due x.site (t.reportOn x) = ds
  called : (t.runTurn x).1.world.calls = x.progress.world.calls ++ ds.map (·.name)
  counted : ∀ d ∈ t.registry.descriptors, ∀ count, t.registry.Counts d count →
    count (t.runTurn x).1.world.memory =
      count x.progress.world.memory + (ds.map (·.name)).count d.name
  once : ∀ d ∈ t.registry.descriptors, (ds.map (·.name)).count d.name =
    (t.completes d x.site (t.reportOn x)).toNat + (t.reaches d (t.reportOn x)).toNat
  applied : ∀ n, (t.reportOn x).outcome = .completed n →
    ∃ type, declaredType? x.site.tag t.config.valueMember = some type ∧
      n = t.registry.descriptors.countP (·.supports type)

section Turns

variable {t : Transform h} {x : Turn h}

theorem calls_of_idle (hidle : x.Idle t) : x.Calls t [] := by
  obtain ⟨hopen, hfine⟩ := hidle.report
  refine ⟨?_, ?_, ?_, ?_, ?_⟩
  · unfold Transform.due
    split
    · rename_i hn
      exact absurd hn (hopen _)
    · rename_i hfailure _
      have hkind := hfine _ hfailure
      simp [Failure.isInjectorFailure] at hkind
    · rfl
  · rw [calls_of_sameWork hidle.world]
    exact (List.append_nil _).symm
  · intro d _ count _
    rw [memory_of_sameWork hidle.world]
    rfl
  · intro d _
    have hcompletes : t.completes d x.site (t.reportOn x) = false := by
      unfold Transform.completes
      split
      · rename_i n hn
        exact absurd hn (hopen n)
      · rfl
    have hreaches : t.reaches d (t.reportOn x) = false := by
      unfold Transform.reaches
      split
      · rename_i hfailure
        have hkind := hfine _ hfailure
        simp [Failure.isInjectorFailure] at hkind
      · rfl
    rw [hcompletes, hreaches]
    rfl
  · exact fun n hn => absurd hn (hopen n)

section Injects

variable {c : h.Class} {type : ArtefactType} (hinjects : x.Injects t c type)

include hinjects

theorem report_of_ranThrough (hran : RanThrough t.channel type (t.registry.matching type)
    (Scene.matched ⟨x.progress.world, x.unit, c⟩ t type)) :
    (t.reportOn x).outcome = .completed (t.registry.matching type).length ∧
      (t.reportOn x).failure = none := by
  rw [hinjects.report, perform_eq_apply, hran.result]
  exact ⟨rfl, rfl⟩

theorem report_of_stoppedAt {k : Nat} {e : Descriptor h} {cause : Cause}
    (hstop : StoppedAt t.channel type (t.registry.matching type)
      (Scene.matched ⟨x.progress.world, x.unit, c⟩ t type) k e cause) :
    (t.reportOn x).outcome = .failed ∧ ∃ className,
      (t.reportOn x).failure = some (.injection className type.name e.name k cause) := by
  rw [hinjects.report, perform_eq_apply, hstop.result]
  exact ⟨rfl, _, rfl⟩

theorem calls_of_ranThrough (hran : RanThrough t.channel type (t.registry.matching type)
    (Scene.matched ⟨x.progress.world, x.unit, c⟩ t type)) :
    x.Calls t (t.registry.matching type) := by
  have hdeclared := declaredType?_of_literal hinjects.accepts.2.2.2
  obtain ⟨houtcome, hfailure⟩ := report_of_ranThrough hinjects hran
  have hmemory := congrArg Workpiece.memory hran.workpiece
  refine ⟨?_, ?_, ?_, ?_, ?_⟩
  · simp [Transform.due, houtcome, hdeclared]
  · rw [calls_of_sameWork hinjects.world, perform_eq_apply, hran.calls, calls_matched]
  · intro d hd count hcount
    rw [memory_of_sameWork hinjects.world, perform_eq_apply]
    refine (congrArg count hmemory).trans ?_
    exact Registry.count_after hcount hd (fun e he => (List.mem_filter.mp he).1) _
  · intro d hd
    rw [Registry.count_matching hd]
    simp [Transform.completes, Transform.reaches, houtcome, hfailure, hdeclared]
  · intro n hn
    obtain rfl : (t.registry.matching type).length = n := by simpa [houtcome] using hn
    exact ⟨type, hdeclared, List.countP_eq_length_filter.symm⟩

theorem calls_of_stoppedAt {k : Nat} {e : Descriptor h} {cause : Cause}
    (hstop : StoppedAt t.channel type (t.registry.matching type)
      (Scene.matched ⟨x.progress.world, x.unit, c⟩ t type) k e cause) :
    x.Calls t ((t.registry.matching type).take (k + 1)) := by
  obtain ⟨houtcome, className, hfailure⟩ := report_of_stoppedAt hinjects hstop
  have hmemory := congrArg Workpiece.memory hstop.workpiece
  refine ⟨?_, ?_, ?_, ?_, ?_⟩
  · simp [Transform.due, houtcome, hfailure, ArtefactType.ofName?_name]
  · rw [calls_of_sameWork hinjects.world, perform_eq_apply, hstop.calls, calls_matched]
  · intro d hd count hcount
    rw [memory_of_sameWork hinjects.world, perform_eq_apply]
    refine (congrArg count hmemory).trans ?_
    exact Registry.count_after hcount hd
      (fun e he => (List.mem_filter.mp (List.mem_of_mem_take he)).1) _
  · intro d hd
    rw [Registry.count_take_matching hd]
    simp [Transform.completes, Transform.reaches, houtcome, hfailure, ArtefactType.ofName?_name]
  · intro n hn
    simp [houtcome] at hn

end Injects

/-- A turn makes the calls that are due by its report. -/
theorem calls_turn (t : Transform h) (x : Turn h) :
    x.Calls t (t.due x.site (t.reportOn x)) := by
  rcases idle_or_injects t x with hidle | ⟨c, type, hinjects⟩
  · have hcalls := calls_of_idle hidle
    rwa [← hcalls.due] at hcalls
  · rcases ranThrough_or_stoppedAt t.channel type (t.registry.matching type)
      (Scene.matched ⟨x.progress.world, x.unit, c⟩ t type) with hran | ⟨k, e, cause, hstop⟩
    · have hcalls := calls_of_ranThrough hinjects hran
      rwa [← hcalls.due] at hcalls
    · have hcalls := calls_of_stoppedAt hinjects hstop
      rwa [← hcalls.due] at hcalls

/-- The site was ignored, turned away or skipped, or it was not what was agreed on. -/
def SiteReport.CallsNothing (r : SiteReport) : Prop :=
  r.outcome = .ignored ∨ r.outcome = .rejected ∨ r.outcome = .skipped ∨
    ∃ failure, r.failure = some failure ∧ failure.isContractViolation = true

theorem idle_of_callsNothing (hreport : (t.reportOn x).CallsNothing) : x.Idle t := by
  rcases idle_or_injects t x with hidle | ⟨c, type, hinjects⟩
  · exact hidle
  · exfalso
    rcases ranThrough_or_stoppedAt t.channel type (t.registry.matching type)
      (Scene.matched ⟨x.progress.world, x.unit, c⟩ t type) with hran | ⟨k, e, cause, hstop⟩
    · obtain ⟨houtcome, hfailure⟩ := report_of_ranThrough hinjects hran
      simp [SiteReport.CallsNothing, houtcome, hfailure] at hreport
    · obtain ⟨houtcome, className, hfailure⟩ := report_of_stoppedAt hinjects hstop
      simp [SiteReport.CallsNothing, houtcome, hfailure, Failure.isContractViolation] at hreport

/-- A course makes the calls that are due by the reports of its turns. -/
theorem calls_course {p q : Progress h} {xs : List (Turn h)} (hxs : t.Course p xs q) :
    q.world.calls = p.world.calls ++
      (xs.flatMap fun x => t.due x.site (t.reportOn x)).map (·.name) := by
  induction hxs with
  | done p => simp
  | turn x _ ih =>
    rw [ih, (calls_turn t x).called, List.flatMap_cons, List.map_append, List.append_assoc]

theorem count_course {p q : Progress h} {xs : List (Turn h)} (hxs : t.Course p xs q)
    {d : Descriptor h} (hd : d ∈ t.registry.descriptors) {count : h.Memory → Nat}
    (hcount : t.registry.Counts d count) :
    count q.world.memory = count p.world.memory +
      ((xs.flatMap fun x => t.due x.site (t.reportOn x)).map (·.name)).count d.name := by
  induction hxs with
  | done p => rfl
  | turn x _ ih =>
    rw [ih, (calls_turn t x).counted d hd count hcount, List.flatMap_cons, List.map_append,
      List.count_append, Nat.add_assoc]

/-- In the calls that are due, an injector stands once for each site that was completed with it
and for each that failed at it or behind it. -/
theorem count_due (xs : List (Turn h)) {d : Descriptor h} (hd : d ∈ t.registry.descriptors) :
    ((xs.flatMap fun x => t.due x.site (t.reportOn x)).map (·.name)).count d.name =
      xs.countP (fun x => t.completes d x.site (t.reportOn x)) +
        xs.countP (fun x => t.reaches d (t.reportOn x)) := by
  have htoNat (b : Bool) : b.toNat = if b = true then 1 else 0 := by
    cases b with
    | false => rfl
    | true => rfl
  induction xs with
  | nil => rfl
  | cons x xs ih =>
    rw [List.flatMap_cons, List.map_append, List.count_append, ih, (calls_turn t x).once d hd,
      List.countP_cons, List.countP_cons, htoNat, htoNat]
    omega

end Turns

/-- A run makes the calls that are due by the reports of its sites, in their order, and no
others. An injector is called once for each site that was completed with a type it supports, and
once for each that failed at it or behind it among those that apply. Whatever counts its calls
counts as many. A site that is ignored, turned away, skipped or not as agreed calls nothing, and
a site that is completed tells how many injectors of the registry support its type. -/
theorem every_due_injection_happens_once (t : Transform h) (jobs : List (Job h))
    (world : World h) :
    let run := t.run jobs world
    let turns := t.turns jobs world
    let due := turns.flatMap fun x => t.due x.site (t.reportOn x)
    turns.map (·.site) = jobs.flatMap (·.sites) ∧ turns.map t.reportOn = run.2.2.sites ∧
    run.1.calls = world.calls ++ due.map (·.name) ∧
    (∀ d ∈ t.registry.descriptors,
      let times := turns.countP (fun x => t.completes d x.site (t.reportOn x)) +
        turns.countP (fun x => t.reaches d (t.reportOn x))
      (due.map (·.name)).count d.name = times ∧
      ∀ count, t.registry.Counts d count → count run.1.memory = count world.memory + times) ∧
    (∀ x ∈ turns, (t.reportOn x).CallsNothing →
      (t.runTurn x).1.world.calls = x.progress.world.calls ∧
      (t.runTurn x).1.world.memory = x.progress.world.memory) ∧
    (∀ x ∈ turns, ∀ n, (t.reportOn x).outcome = .completed n →
      ∃ type, declaredType? x.site.tag t.config.valueMember = some type ∧
        n = t.registry.descriptors.countP (·.supports type)) := by
  intro run turns due
  obtain ⟨p, q, hp, -, hq, hxs⟩ := t.course_run jobs world
  refine ⟨t.site_turns jobs world, t.reportOn_turns jobs world, ?_, ?_, ?_, ?_⟩
  · rw [calls_of_sameWork hq, calls_course hxs, calls_of_sameWork hp]
  · intro d hd times
    have htimes := count_due turns hd
    refine ⟨htimes, fun count hcount => ?_⟩
    rw [memory_of_sameWork hq, count_course hxs hd hcount, memory_of_sameWork hp, htimes]
  · intro x _ hreport
    have hidle := idle_of_callsNothing hreport
    exact ⟨calls_of_sameWork hidle.world, memory_of_sameWork hidle.world⟩
  · exact fun x _ => (calls_turn t x).applied

end MarkerInjection
