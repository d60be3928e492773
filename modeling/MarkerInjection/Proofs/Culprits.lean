-- The injector behind a failure. A failure names an injector and its place
-- among those that apply, and both lead back to the one that failed: the name
-- through the registry, the place through the order of registration.
import MarkerInjection.Proofs.Lookups
import MarkerInjection.Proofs.Records
import Mathlib.Data.List.Induction

namespace MarkerInjection

variable {h : Host}

/-! ## One injection -/

/-- A failure of the injector of this name at this index, traced back to the injector `d`, which
was registered behind `pre` and before `post`. Of those before it the ones that apply ran to
success, each on what the one before left, and then `d` failed; no other was called. -/
structure Transform.TracedTo (t : Transform h) (ds : List (Descriptor h)) (type : ArtefactType)
    (name : String) (index : Nat) (cause : Cause) (start stop : Scene h)
    (pre : List (Descriptor h)) (d : Descriptor h) (post : List (Descriptor h)) : Prop where
  registered : ds = pre ++ d :: post
  found : t.registry.get? name = some d
  supports : d.supports type = true
  only : d.name = name ∧ ∀ e ∈ pre ++ post, e.name ≠ name
  place : (t.registry.matching type)[index]? = some d
  before : pre.countP (·.supports type) = index
  succeeded : AllSucceed (pre.filter (·.supports type)) start.workpiece
  failed : d.work (start.workpiece.after (pre.filter (·.supports type))) =
    (stop.workpiece, .error cause)
  calls : stop.world.calls =
    start.world.calls ++ (pre.filter (·.supports type)).map (·.name) ++ [d.name]

/-- The injectors before the first that fails succeed. -/
theorem allSucceed_take {ds : List (Descriptor h)} {w : Workpiece h} {k : Nat} {cause : Cause}
    (hk : FirstFailure ds w k cause) : AllSucceed (ds.take k) w := by
  intro j hj
  have hlt : j < k := Nat.lt_of_lt_of_le hj (List.length_take_le k ds)
  have hok := hk.earlier j hlt
  unfold resultAt at hok ⊢
  rw [List.getElem?_take_of_lt hlt, List.take_take, Nat.min_eq_left (Nat.le_of_lt hlt)]
  exact hok

section Tracing

variable {t : Transform h} {ds : List (Descriptor h)} (hbuild : Registry.build ds = .ok t.registry)

include hbuild

theorem tracedTo_of_stoppedAt {type : ArtefactType} {start : Scene h} {k : Nat}
    {d : Descriptor h} {cause : Cause}
    (hstop : StoppedAt t.channel type (t.registry.matching type) (start.matched t type) k d
      cause) :
    ∃ pre post, t.TracedTo ds type d.name k cause start (t.perform type start).1 pre d post := by
  obtain ⟨pre, post, hsplit, hsupports, hbefore⟩ := Registry.split_of_matching hstop.here
  have hk := hstop.first.lt_length
  have hleft := work_of_firstFailure hstop.first hstop.here
  refine ⟨pre, post, ?_, ?_, hsupports, ⟨rfl, Registry.name_unique hsplit⟩, hstop.here, ?_, ?_,
    ?_, ?_⟩
  · rw [← hsplit, Registry.descriptors_of_build hbuild]
  · exact Registry.get?_name (hsplit ▸ by simp)
  · rw [List.countP_eq_length_filter, hbefore, List.length_take, Nat.min_eq_left (Nat.le_of_lt hk)]
  · rw [hbefore]
    exact allSucceed_take hstop.first
  · rw [hbefore, perform_eq_apply, hstop.workpiece]
    exact hleft
  · rw [hbefore, perform_eq_apply, hstop.calls, calls_matched, List.take_add_one, hstop.here,
      List.map_append, List.append_assoc]
    rfl

/-- What `perform` reports as the failure of an injector is traced back to it. -/
theorem tracedTo_of_perform {type : ArtefactType} {start : Scene h}
    {className typeName name : String} {index : Nat} {cause : Cause}
    (hfailed : (t.perform type start).2 =
      .error (.injection className typeName name index cause)) :
    typeName = type.name ∧ ∃ pre d post,
      t.TracedTo ds type name index cause start (t.perform type start).1 pre d post := by
  rcases ranThrough_or_stoppedAt t.channel type (t.registry.matching type)
    (start.matched t type) with hran | ⟨k, d, cause', hstop⟩
  · rw [perform_eq_apply, hran.result] at hfailed
    simp at hfailed
  · rw [perform_eq_apply, hstop.result] at hfailed
    obtain ⟨-, rfl, rfl, rfl, rfl⟩ : _ ∧ type.name = typeName ∧ d.name = name ∧ k = index ∧
        cause' = cause := by simpa using hfailed
    obtain ⟨pre, post, htraced⟩ := tracedTo_of_stoppedAt hbuild hstop
    exact ⟨rfl, pre, d, post, htraced⟩

/-! ## One visit -/

/-- Only a visit that comes to an injection reports the failure of an injector. -/
theorem tracedTo_of_visit {nodes : List (Node h)} {unit : h.SourceUnit} {world : World h}
    {className typeName name : String} {index : Nat} {cause : Cause}
    (hfailed : (t.visit nodes unit world).result =
      .error (.injection className typeName name index cause)) :
    ∃ tag c type c', t.Accepts nodes tag c type ∧ typeName = type.name ∧
      (t.visit nodes unit world).nodes = [.tag tag, .ofClass c'] ∧ ∃ pre d post,
        t.TracedTo ds type name index cause ⟨world, unit, c⟩
          ⟨(t.visit nodes unit world).world, (t.visit nodes unit world).unit, c'⟩ pre d post := by
  rcases withoutInjection_or_accepts t nodes unit world with
    ⟨result, huntouched, hresult⟩ | ⟨tag, c, type, haccepts⟩
  · unfold Transform.Untouched at huntouched
    rw [huntouched] at hfailed
    subst hfailed
    simp [WithoutInjection, Failure.isUsageError, Failure.isContractViolation] at hresult
  · have hvisit := visit_of_accepts haccepts unit world
    rw [hvisit] at hfailed
    have hperform : (t.perform type ⟨world, unit, c⟩).2 =
        .error (.injection className typeName name index cause) := by
      rcases hresult : (t.perform type ⟨world, unit, c⟩).2 with failure | n
      · simpa [hresult, Except.map] using hfailed
      · simp [hresult, Except.map] at hfailed
    obtain ⟨htype, htraced⟩ := tracedTo_of_perform hbuild hperform
    rw [hvisit]
    exact ⟨tag, c, type, _, haccepts, htype, rfl, htraced⟩

/-! ## One turn of a run -/

theorem tracedTo_of_turn {x : Turn h} {className typeName name : String} {index : Nat}
    {cause : Cause} (hfailed : (t.reportOn x).failure =
      some (.injection className typeName name index cause)) :
    ∃ c type c', x.site.target = .ofClass c ∧ typeName = type.name ∧
      (t.runTurn x).2.2.1.target = .ofClass c' ∧ ∃ pre d post,
        t.TracedTo ds type name index cause ⟨x.progress.world, x.unit, c⟩
          ⟨(t.runTurn x).1.world, (t.runTurn x).2.1, c'⟩ pre d post := by
  rcases idle_or_injects t x with hidle | ⟨c, type, hinjects⟩
  · have hkind := hidle.report.2 _ hfailed
    simp [Failure.isInjectorFailure] at hkind
  · have hperform : (t.perform type ⟨x.progress.world, x.unit, c⟩).2 =
        .error (.injection className typeName name index cause) := by
      rw [hinjects.report] at hfailed
      rcases hresult : (t.perform type ⟨x.progress.world, x.unit, c⟩).2 with failure | n
      · simpa [hresult, Except.map, Transform.reportOf] using hfailed
      · simp [hresult, Except.map, Transform.reportOf] at hfailed
    obtain ⟨htype, pre, d, post, htraced⟩ := tracedTo_of_perform hbuild hperform
    refine ⟨c, type, _, target_of_injects hinjects, htype, by rw [hinjects.site], pre, d, post, ?_⟩
    -- A run logs a warning behind the injection, which is no call and touches no memory.
    refine { htraced with failed := ?_, calls := ?_ }
    · rw [htraced.failed]
      simp only [Scene.workpiece, hinjects.unit, memory_of_sameWork hinjects.world]
    · rw [← htraced.calls]
      exact calls_of_sameWork hinjects.world

end Tracing

/-! ## The turns behind a history -/

namespace Batch

/-- The turn of the next site of the unit at a place. -/
def turn? (b : Batch h) (place : Nat) : Option (Turn h) :=
  match b.lanes[place]? with
  | some ⟨unit, _, site :: _⟩ => some ⟨b.progress, unit, site⟩
  | _ => none

theorem history_of_turn (t : Transform h) (b : Batch h) (place : Nat) :
    (b.visit t place).history =
      b.history ++ ((b.turn? place).map fun x => (place, t.reportOn x)).toList := by
  rcases next_or_none b place with ⟨unit, visited, site, ahead, hl⟩ | hnone
  · rw [visit_of_next t hl, turn?, hl]
    rfl
  · have hturn : b.turn? place = none := by
      unfold turn?
      split
      · rename_i hl
        simpa using hnone _ hl
      · rfl
    rw [visit_of_none t hnone, hturn]
    simp

/-- Each report of a batch is that of a turn which one of its visits took. -/
theorem turn_of_history (t : Transform h) (p : Progress h) (jobs : List (Job h))
    (places : List Nat) :
    ∀ r ∈ ((start p jobs).visitAll t places).history, ∃ n x,
      places[n]? = some r.1 ∧ ((start p jobs).visitAll t (places.take n)).turn? r.1 = some x ∧
        t.reportOn x = r.2 := by
  induction places using List.reverseRecOn with
  | nil => simp [visitAll, start]
  | append_singleton places place ih =>
    intro r hr
    rw [visitAll_append] at hr
    change r ∈ (((start p jobs).visitAll t places).visit t place).history at hr
    rw [history_of_turn] at hr
    rcases List.mem_append.mp hr with hold | hnew
    · obtain ⟨n, x, hplace, hturn, hreport⟩ := ih r hold
      have hn := (List.getElem?_eq_some_iff.mp hplace).1
      refine ⟨n, x, ?_, ?_, hreport⟩
      · rw [List.getElem?_append_left hn, hplace]
      · rw [List.take_append_of_le_length (Nat.le_of_lt hn), hturn]
    · obtain ⟨x, hturn, rfl⟩ : ∃ x, ((start p jobs).visitAll t places).turn? place = some x ∧
          (place, t.reportOn x) = r := by simpa using hnew
      exact ⟨places.length, x, by simp, by simpa using hturn, rfl⟩

end Batch

/-! ## A script -/

namespace Scripted

/-- Four injectors, of which two apply to controllers. The last one fails. -/
def mixed : Transform host where
  registry := ⟨[⟨"endpoints", .only (.ofList ["Service"]), injector "endpoints" []⟩,
    ⟨"label", .universal, injector "label" [.record "label"]⟩,
    ⟨"audit", .only (.ofList ["Admin", "Service"]), injector "audit" [.fail []]⟩,
    ⟨"guard", .only (.ofList ["Controller"]), injector "guard" [.fail ["closed", "at night"]]⟩],
    by decide⟩
  config := .standard
  channel := ⟨.memory, ⟨0⟩⟩

/-- A class of no interest, in its unit. -/
def scene : Scene host := ⟨world, ⟨"unit", 0⟩, ⟨"A", false, []⟩⟩

def controller : ArtefactType := ⟨"Controller", by decide⟩

end Scripted

/-! ## The law -/

/-- Whoever reports the failure of an injector, a visit, `perform` or a run that takes its sites in
any order: the name in the failure is that of one injector of the registry, which supports the
type. It stands at the reported index among those that apply, and so many of those registered
before it support the type. In that call exactly these ran to success, in the order of
registration, and then it failed. -/
theorem a_failure_leads_to_its_injector (t : Transform h) (ds : List (Descriptor h))
    (hbuild : Registry.build ds = .ok t.registry) (className typeName name : String)
    (index : Nat) (cause : Cause) :
    let failure := Failure.injection className typeName name index cause
    (∀ type start, (t.perform type start).2 = .error failure →
      typeName = type.name ∧ ∃ pre d post,
        t.TracedTo ds type name index cause start (t.perform type start).1 pre d post) ∧
    (∀ nodes unit world, (t.visit nodes unit world).result = .error failure →
      ∃ tag c type c', t.Accepts nodes tag c type ∧ typeName = type.name ∧
        (t.visit nodes unit world).nodes = [.tag tag, .ofClass c'] ∧ ∃ pre d post,
          t.TracedTo ds type name index cause ⟨world, unit, c⟩
            ⟨(t.visit nodes unit world).world, (t.visit nodes unit world).unit, c'⟩
            pre d post) ∧
    (∀ jobs world places, ∀ r ∈ (t.visiting jobs world places).history,
      r.2.failure = some failure → ∃ n x,
        (t.visiting jobs world (places.take n)).turn? r.1 = some x ∧ t.reportOn x = r.2 ∧
        ∃ c type c', x.site.target = .ofClass c ∧ typeName = type.name ∧
          (t.runTurn x).2.2.1.target = .ofClass c' ∧ ∃ pre d post,
            t.TracedTo ds type name index cause ⟨x.progress.world, x.unit, c⟩
              ⟨(t.runTurn x).1.world, (t.runTurn x).2.1, c'⟩ pre d post) ∧
    (∀ jobs world, (t.run jobs world).2.2.sites =
      (t.visiting jobs world (inOrder jobs)).history.map (·.2)) := by
  intro failure
  refine ⟨?_, ?_, ?_, ?_⟩
  · exact fun type start hfailed => tracedTo_of_perform hbuild hfailed
  · exact fun nodes unit world hfailed => tracedTo_of_visit hbuild hfailed
  · intro jobs world places r hr hfailed
    obtain ⟨n, x, -, hturn, hreport⟩ := Batch.turn_of_history t _ jobs places r hr
    rw [← hreport] at hfailed
    exact ⟨n, x, hturn, hreport, tracedTo_of_turn hbuild hfailed⟩
  · intro jobs world
    rw [Transform.run_eq_visiting]

/-- The fourth injector of the registry is the second that applies to controllers. -/
theorem a_failure_at_the_second_that_applies :
    (Scripted.mixed.perform Scripted.controller Scripted.scene).2 =
        .error (.injection "A" "Controller" "guard" 1 ⟨"closed", ["at night"]⟩) ∧
      ∃ pre d post, Scripted.mixed.TracedTo Scripted.mixed.registry.descriptors
        Scripted.controller "guard" 1 ⟨"closed", ["at night"]⟩ Scripted.scene
        (Scripted.mixed.perform Scripted.controller Scripted.scene).1 pre d post := by
  have hfailed : (Scripted.mixed.perform Scripted.controller Scripted.scene).2 =
      .error (.injection "A" "Controller" "guard" 1 ⟨"closed", ["at night"]⟩) := rfl
  refine ⟨hfailed, ?_⟩
  exact ((a_failure_leads_to_its_injector Scripted.mixed _ (Registry.build_descriptors _)
    "A" "Controller" "guard" 1 ⟨"closed", ["at night"]⟩).1 _ _ hfailed).2

end MarkerInjection
