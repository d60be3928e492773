-- Four ways to an injection: a visit of a marked class, `perform` without the
-- visit, a list of injectors for itself, and calls of single injectors that are
-- looked up by name. They lead to the same class, unit and memory, and they
-- tell the same of how it went.
import MarkerInjection.Proofs.Culprits

namespace MarkerInjection

variable {h : Host}

/-! ## Calls by name -/

/-- How calls of injectors by name end. -/
inductive CallsEnd
  /-- All succeeded, so many. -/
  | through (count : Nat)
  | failed (injector : String) (index : Nat) (cause : Cause)
  /-- The registry has no injector of this name. -/
  | unknown (name : String)
  deriving Repr, DecidableEq

/-- Looks up injectors by name and calls each on what the one before left, the first of which has
the given position. The first failure ends it. -/
def Registry.callByName (r : Registry h) :
    Nat → List String → Scene h → Scene h × CallsEnd
  | index, [], s => (s, .through index)
  | index, name :: names, s =>
    match r.get? name with
    | none => (s, .unknown name)
    | some d =>
      match d.call s with
      | (after, .ok ()) => r.callByName (index + 1) names after
      | (after, .error cause) => (after, .failed name index cause)

/-- The scene with what injectors left. Diagnostics, log and time are as they were. -/
def Scene.left (s : Scene h) (w : Workpiece h) : Scene h :=
  ⟨{ s.world with memory := w.memory }, w.unit, w.target⟩

theorem call_eq_left (d : Descriptor h) (s : Scene h) :
    d.call s = (s.left (d.work s.workpiece).1, (d.work s.workpiece).2) := rfl

section ByName

variable {r : Registry h} {ds : List (Descriptor h)}

theorem callByName_of_allSucceed (hds : ∀ d ∈ ds, d ∈ r.descriptors) (index : Nat) (s : Scene h)
    (hall : AllSucceed ds s.workpiece) :
    r.callByName index (ds.map (·.name)) s =
      (s.left (s.workpiece.after ds), .through (index + ds.length)) := by
  induction ds generalizing index s with
  | nil => rfl
  | cons d ds ih =>
    obtain ⟨hd, hrest⟩ := allSucceed_cons.mp hall
    rw [List.map_cons, Registry.callByName, Registry.get?_name (hds d (by simp))]
    simp only [call_eq_left, hd]
    rw [ih (fun e he => hds e (List.mem_cons_of_mem d he)) (index + 1)
      (s.left (d.work s.workpiece).1) hrest,
      List.length_cons, Nat.add_assoc, Nat.add_comm 1]
    rfl

theorem callByName_of_firstFailure (hds : ∀ d ∈ ds, d ∈ r.descriptors) (index : Nat)
    (s : Scene h) {k : Nat} {cause : Cause} {d : Descriptor h}
    (hk : FirstFailure ds s.workpiece k cause) (hd : ds[k]? = some d) :
    r.callByName index (ds.map (·.name)) s =
      (s.left (s.workpiece.after (ds.take (k + 1))), .failed d.name (index + k) cause) := by
  induction ds generalizing index s k with
  | nil => simp at hd
  | cons e ds ih =>
    have hhead := Registry.get?_name (hds e (by simp))
    cases k with
    | zero =>
      obtain rfl : e = d := by simpa using hd
      rw [List.map_cons, Registry.callByName, hhead]
      simp only [call_eq_left, work_of_firstFailure_zero hk]
      rfl
    | succ k =>
      obtain ⟨hok, htail⟩ := firstFailure_tail hk
      rw [List.map_cons, Registry.callByName, hhead]
      simp only [call_eq_left, hok]
      rw [ih (fun e' he' => hds e' (List.mem_cons_of_mem e he')) (index + 1)
        (s.left (e.work s.workpiece).1) htail (by simpa using hd), Nat.add_assoc, Nat.add_comm 1]
      rfl

end ByName

/-! ## The routes -/

/-- The ways to an injection. -/
inductive Route
  | visit
  | perform
  /-- The list of the injectors that apply, under an executor of its own. -/
  | list
  /-- The names of the injectors that apply. -/
  | names
  deriving Repr, DecidableEq

/-- What comes of each way. -/
structure Routes (h : Host) where
  visit : Visit h
  perform : Scene h × Except Failure Nat
  list : Scene h × Except Failure Nat
  names : Scene h × CallsEnd

/-- Takes each way from a world of its own. -/
def Transform.routes (t : Transform h) (executor : Channel) (nodes : List (Node h))
    (type : ArtefactType) (unit : h.SourceUnit) (c : h.Class) (start : Route → World h) :
    Routes h where
  visit := t.visit nodes unit (start .visit)
  perform := t.perform type ⟨start .perform, unit, c⟩
  list := executor.apply type (t.registry.matching type) ⟨start .list, unit, c⟩
  names := t.registry.callByName 0 ((t.registry.matching type).map (·.name))
    ⟨start .names, unit, c⟩

/-- Between the two worlds the sink was given this diagnostic, if it is one, under the id of the
channel and with the time of the first world. -/
def Channel.Gave (ch : Channel) (before after : World h) (report : Option Diagnostic) : Prop :=
  ch.sink.received after = ch.sink.received before ++
    (report.map fun d => { d with runId := ch.runId, time := before.now }).toList

/-- An injection that started in the world `before` and stopped at `stop` has left this and has
given its sink this diagnostic. -/
structure Ending (ch : Channel) (before : World h) (stop : Scene h) (left : Workpiece h)
    (report : Option Diagnostic) : Prop where
  left : stop.workpiece = left
  gave : ch.Gave before stop.world report

namespace Routes

/-- All ways leave this class, this unit and this memory, and their sinks are given the same
diagnostic. The calls by name give a sink nothing. -/
structure Leave (r : Routes h) (t : Transform h) (executor : Channel) (start : Route → World h)
    (tag : h.Tag) (left : Workpiece h) (report : Option Diagnostic) : Prop where
  visit : r.visit.nodes = [.tag tag, .ofClass left.target] ∧
    Ending t.channel (start .visit) ⟨r.visit.world, r.visit.unit, left.target⟩ left report
  perform : Ending t.channel (start .perform) r.perform.1 left report
  list : Ending executor (start .list) r.list.1 left report
  names : r.names.1 = ⟨{ start .names with memory := left.memory }, left.unit, left.target⟩

/-- On all ways so many injectors succeed. -/
structure Succeed (r : Routes h) (n : Nat) : Prop where
  visit : r.visit.result = .ok (.completed n)
  perform : r.perform.2 = .ok n
  list : r.list.2 = .ok n
  names : r.names.2 = .through n

/-- On all ways the same injector fails for the same cause. -/
structure Fail (r : Routes h) (className : String) (type : ArtefactType) (injector : String)
    (index : Nat) (cause : Cause) : Prop where
  visit : r.visit.result = .error (.injection className type.name injector index cause)
  perform : r.perform.2 = .error (.injection className type.name injector index cause)
  list : r.list.2 = .error (.injection className type.name injector index cause)
  names : r.names.2 = .failed injector index cause

end Routes

/-! ## Where they lead -/

/-- Of a diagnostic only the id and the time depend on where the injection is run. -/
theorem diagnostic_elsewhere (ch ch' : Channel) (type : ArtefactType) (injector : String)
    (index : Nat) (cause : Cause) {s s' : Scene h} (hunit : s.unit = s'.unit)
    (htarget : s.target = s'.target) :
    ch.diagnostic type injector index cause s =
      { ch'.diagnostic type injector index cause s' with
        runId := ch.runId, time := s.world.now } := by
  simp only [Channel.diagnostic, hunit, htarget]

theorem now_apply (ch : Channel) (type : ArtefactType) (ds : List (Descriptor h)) (s : Scene h) :
    (ch.apply type ds s).1.world.now = s.world.now :=
  lasting_applyFrom (lasting_now s.world.now) ch type ds 0 rfl

section Endings

variable {type : ArtefactType} {ds : List (Descriptor h)} {s : Scene h} {k : Nat} {cause : Cause}
  {d : Descriptor h} {left : Workpiece h}

theorem gave_of_ranThrough {ch : Channel} (hran : RanThrough ch type ds s) :
    ch.Gave s.world (ch.apply type ds s).1.world none := by
  unfold Channel.Gave
  rw [hran.received]
  simp

/-- The diagnostic is the one that any other channel is given in any other scene with the unit and
the class that the injection left. -/
theorem gave_of_stoppedAt {ch : Channel} (hstop : StoppedAt ch type ds s k d cause)
    (ch' : Channel) {s' : Scene h} (hunit : (ch.apply type ds s).1.unit = s'.unit)
    (htarget : (ch.apply type ds s).1.target = s'.target) :
    ch.Gave s.world (ch.apply type ds s).1.world
      (some (ch'.diagnostic type d.name k cause s')) := by
  unfold Channel.Gave
  rw [hstop.received, diagnostic_elsewhere ch ch' type d.name k cause hunit htarget, now_apply]
  rfl

theorem gave_matched {ch : Channel} {t : Transform h} {after : World h}
    {report : Option Diagnostic} (hgave : ch.Gave (s.matched t type).world after report) :
    ch.Gave s.world after report := by
  unfold Channel.Gave at hgave ⊢
  rw [hgave, received_matched]
  rfl

theorem ending_of_ranThrough {ch : Channel} (hran : RanThrough ch type ds s)
    (hleft : s.workpiece.after ds = left) :
    Ending ch s.world (ch.apply type ds s).1 left none :=
  ⟨hran.workpiece.trans hleft, gave_of_ranThrough hran⟩

theorem ending_of_stoppedAt {ch : Channel} (hstop : StoppedAt ch type ds s k d cause)
    (hleft : s.workpiece.after (ds.take (k + 1)) = left) (ch' : Channel) {s' : Scene h}
    (hs' : s'.workpiece = left) :
    Ending ch s.world (ch.apply type ds s).1 left
      (some (ch'.diagnostic type d.name k cause s')) := by
  have hstopped := hstop.workpiece.trans hleft
  have hsame := hstopped.trans hs'.symm
  exact ⟨hstopped, gave_of_stoppedAt hstop ch' (congrArg Workpiece.unit hsame)
    (congrArg Workpiece.target hsame)⟩

theorem ending_matched {ch : Channel} {t : Transform h} {stop : Scene h}
    {report : Option Diagnostic} (hend : Ending ch (s.matched t type).world stop left report) :
    Ending ch s.world stop left report := ⟨hend.left, gave_matched hend.gave⟩

end Endings

section Agreement

variable {t : Transform h} {nodes : List (Node h)} {tag : h.Tag} {c : h.Class}
  {type : ArtefactType} (haccepts : t.Accepts nodes tag c type) (executor : Channel)
  (unit : h.SourceUnit) {memory : h.Memory} {start : Route → World h}

section Visit

include haccepts

/-- A visit leaves what `perform` leaves. -/
theorem leave_of_endings {left : Workpiece h} {report : Option Diagnostic}
    (hperform : ∀ route, Ending t.channel (start route)
      (t.perform type ⟨start route, unit, c⟩).1 left report)
    (hlist : Ending executor (start .list)
      (executor.apply type (t.registry.matching type) ⟨start .list, unit, c⟩).1 left report)
    (hnames : (t.routes executor nodes type unit c start).names.1 =
      ⟨{ start .names with memory := left.memory }, left.unit, left.target⟩) :
    (t.routes executor nodes type unit c start).Leave t executor start tag left report := by
  have hvisit := visit_of_accepts haccepts unit (start .visit)
  obtain ⟨hleft, hgave⟩ := hperform .visit
  have htarget : (t.perform type ⟨start .visit, unit, c⟩).1.target = left.target :=
    congrArg Workpiece.target hleft
  refine ⟨⟨?_, ?_, ?_⟩, hperform .perform, hlist, hnames⟩
  · simp only [Transform.routes, hvisit, htarget]
  · simp only [Transform.routes, hvisit, ← htarget]
    exact hleft
  · simp only [Transform.routes, hvisit]
    exact hgave

theorem result_of_route {result : Except Failure Nat}
    (hresult : ∀ route, (t.perform type ⟨start route, unit, c⟩).2 = result) :
    (t.routes executor nodes type unit c start).visit.result = result.map .completed ∧
      (t.routes executor nodes type unit c start).perform.2 = result := by
  have hvisit := visit_of_accepts haccepts unit (start .visit)
  refine ⟨?_, hresult .perform⟩
  simp only [Transform.routes, hvisit, hresult]

end Visit

variable (hstart : ∀ route, (start route).memory = memory)

include hstart in
theorem workpiece_of_start (route : Route) :
    (⟨start route, unit, c⟩ : Scene h).workpiece = ⟨memory, unit, c⟩ := by
  rw [Scene.workpiece, hstart]

include haccepts hstart

theorem routes_succeed (hall : AllSucceed (t.registry.matching type) ⟨memory, unit, c⟩) :
    let r := t.routes executor nodes type unit c start
    r.Leave t executor start tag
        ((⟨memory, unit, c⟩ : Workpiece h).after (t.registry.matching type)) none ∧
      r.Succeed (t.registry.matching type).length := by
  intro r
  have hpiece := workpiece_of_start (c := c) unit hstart
  have hran (route : Route) : RanThrough t.channel type (t.registry.matching type)
      (Scene.matched ⟨start route, unit, c⟩ t type) :=
    ranThrough_of_allSucceed t.channel type ((hpiece route).symm ▸ hall)
  have hlist : RanThrough executor type (t.registry.matching type) ⟨start .list, unit, c⟩ :=
    ranThrough_of_allSucceed executor type ((hpiece .list).symm ▸ hall)
  have hnames := callByName_of_allSucceed (fun _ => Registry.mem_of_matching) 0
    ⟨start .names, unit, c⟩ ((hpiece .names).symm ▸ hall)
  have hsame (route : Route) : (⟨start route, unit, c⟩ : Scene h).workpiece.after
      (t.registry.matching type) =
        (⟨memory, unit, c⟩ : Workpiece h).after (t.registry.matching type) := by
    rw [hpiece route]
  have hresult := result_of_route haccepts executor unit fun route => (hran route).result
  refine ⟨leave_of_endings haccepts executor unit (fun route => ?_) ?_ ?_, ?_⟩
  · exact ending_matched (ending_of_ranThrough (hran route) (hsame route))
  · exact ending_of_ranThrough hlist (hsame .list)
  · rw [← hsame .names]
    exact congrArg Prod.fst hnames
  · refine ⟨hresult.1, hresult.2, hlist.result, ?_⟩
    rw [← Nat.zero_add (t.registry.matching type).length]
    exact congrArg Prod.snd hnames

theorem routes_fail {k : Nat} {cause : Cause} {d : Descriptor h}
    (hk : FirstFailure (t.registry.matching type) ⟨memory, unit, c⟩ k cause)
    (hd : (t.registry.matching type)[k]? = some d) :
    let r := t.routes executor nodes type unit c start
    let left := (⟨memory, unit, c⟩ : Workpiece h).after ((t.registry.matching type).take (k + 1))
    r.Fail (h.className left.target) type d.name k cause ∧
      ∃ report, r.Leave t executor start tag left (some report) := by
  intro r left
  have hpiece := workpiece_of_start (c := c) unit hstart
  have hstop (route : Route) : StoppedAt t.channel type (t.registry.matching type)
      (Scene.matched ⟨start route, unit, c⟩ t type) k d cause :=
    stoppedAt_of_firstFailure t.channel type ((hpiece route).symm ▸ hk) hd
  have hlist : StoppedAt executor type (t.registry.matching type) ⟨start .list, unit, c⟩ k d
      cause :=
    stoppedAt_of_firstFailure executor type ((hpiece .list).symm ▸ hk) hd
  have hnames := callByName_of_firstFailure (fun _ => Registry.mem_of_matching) 0
    ⟨start .names, unit, c⟩ ((hpiece .names).symm ▸ hk) hd
  have hsame (route : Route) : (⟨start route, unit, c⟩ : Scene h).workpiece.after
      ((t.registry.matching type).take (k + 1)) = left := by rw [hpiece route]
  -- Every way stops with the same class, so all failures have the same class name in them.
  have htarget (route : Route) : (t.perform type ⟨start route, unit, c⟩).1.target = left.target :=
    congrArg Workpiece.target ((hstop route).workpiece.trans (hsame route))
  have hlistTarget : r.list.1.target = left.target :=
    congrArg Workpiece.target (hlist.workpiece.trans (hsame .list))
  have hresult := result_of_route haccepts executor unit fun route =>
    (hstop route).result.trans (congrArg (fun target => Except.error (Failure.injection
      (h.className target) type.name d.name k cause)) (htarget route))
  refine ⟨⟨hresult.1, hresult.2, ?_, ?_⟩, t.channel.diagnostic type d.name k cause
    ((⟨start .visit, unit, c⟩ : Scene h).left left),
    leave_of_endings haccepts executor unit (fun route => ?_) ?_ ?_⟩
  · rw [← hlistTarget]
    exact hlist.result
  · rw [← Nat.zero_add k]
    exact congrArg Prod.snd hnames
  · exact ending_matched (ending_of_stoppedAt (hstop route) (hsame route) t.channel rfl)
  · exact ending_of_stoppedAt hlist (hsame .list) t.channel rfl
  · rw [← hsame .names]
    exact congrArg Prod.fst hnames

end Agreement

/-! ## The law -/

/-- A marked class with a type that is known can be injected into in four ways: by a visit, by
`perform`, by running the injectors that apply under an executor of their own, and by looking up
their names one after the other and calling each up to the first failure. From worlds with the
same memory they leave the same class, unit and memory. Either all injectors succeed on each, and
all count the same, or the same one fails on each for the same cause. Then the first three return
the same failure and give their sinks the same diagnostic, but for its time and the id of the
executor, and the calls by name record nothing. -/
theorem four_routes_to_one_injection (t : Transform h) (executor : Channel)
    (nodes : List (Node h)) (tag : h.Tag) (c : h.Class) (type : ArtefactType)
    (haccepts : t.Accepts nodes tag c type) (unit : h.SourceUnit) (memory : h.Memory)
    (start : Route → World h) (hstart : ∀ route, (start route).memory = memory) :
    let r := t.routes executor nodes type unit c start
    let ds := t.registry.matching type
    let piece : Workpiece h := ⟨memory, unit, c⟩
    (AllSucceed ds piece ∧ r.Leave t executor start tag (piece.after ds) none ∧
      r.Succeed ds.length) ∨
    ∃ d index cause report, ds[index]? = some d ∧ FirstFailure ds piece index cause ∧
      let left := piece.after (ds.take (index + 1))
      r.Leave t executor start tag left (some report) ∧
        r.Fail (h.className left.target) type d.name index cause := by
  intro r ds piece
  rcases allSucceed_or_firstFailure ds piece with hall | ⟨k, cause, hk⟩
  · obtain ⟨hleave, hsucceed⟩ := routes_succeed haccepts executor unit hstart hall
    exact Or.inl ⟨hall, hleave, hsucceed⟩
  · have hd := List.getElem?_eq_getElem hk.lt_length
    obtain ⟨hfail, report, hleave⟩ := routes_fail haccepts executor unit hstart hk hd
    exact Or.inr ⟨_, k, cause, report, hd, hk, hleave, hfail⟩

namespace Scripted

/-- A tag that marks controllers. -/
def controllerTag : Tag := ⟨"Artefact", [("value", .literal "Controller")]⟩

/-- The list is run a minute after the others. -/
def atTwoTimes : Route → World host
  | .list => { world with now := { Instant.epoch with seconds := 60, inRange := by decide } }
  | _ => world

end Scripted

/-- The guard fails on all four ways, under two ids and at two times. -/
theorem four_routes_to_a_closed_class :
    let nodes : List (Node Scripted.host) :=
      [.tag Scripted.controllerTag, .ofClass ⟨"A", false, []⟩]
    let executor : Channel := ⟨.log, ⟨7⟩⟩
    let r := Scripted.mixed.routes executor nodes Scripted.controller ⟨"unit", 0⟩
      ⟨"A", false, []⟩ Scripted.atTwoTimes
    ∃ left report,
      r.Leave Scripted.mixed executor Scripted.atTwoTimes Scripted.controllerTag left
        (some report) ∧
      r.Fail "A" Scripted.controller "guard" 1 ⟨"closed", ["at night"]⟩ := by
  intro nodes executor r
  have hstart (route : Route) : (Scripted.atTwoTimes route).memory = fun _ => 0 := by
    cases route <;> rfl
  have hperform : r.perform.2 =
      .error (.injection "A" "Controller" "guard" 1 ⟨"closed", ["at night"]⟩) := rfl
  rcases four_routes_to_one_injection Scripted.mixed executor nodes Scripted.controllerTag
      ⟨"A", false, []⟩ Scripted.controller ⟨rfl, rfl, rfl, rfl⟩ ⟨"unit", 0⟩ (fun _ => 0)
      Scripted.atTwoTimes hstart with
    ⟨-, -, hsucceed⟩ | ⟨d, index, cause, report, -, -, hleave, hfail⟩
  · rw [hsucceed.perform] at hperform
    simp at hperform
  · rw [hfail.perform] at hperform
    obtain ⟨hclass, -, hname, rfl, rfl⟩ : _ ∧ _ ∧ d.name = "guard" ∧ index = 1 ∧
        cause = ⟨"closed", ["at night"]⟩ := by simpa using hperform
    rw [hclass, hname] at hfail
    exact ⟨_, report, hleave, hfail⟩

end MarkerInjection
