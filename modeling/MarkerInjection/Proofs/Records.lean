-- The records of failures. Whatever is done, a sink is given one diagnostic for
-- each injector that fails in an injection, in the order of the failures, and
-- none for anything else. Each tells what the failure says that is returned.
import MarkerInjection.Proofs.Turns
import MarkerInjection.Session
import Mathlib.Data.List.Forall2

namespace MarkerInjection

variable {h : Host}

/-! ## Diagnostics and failures -/

/-- The diagnostic tells of a failure of one of these injectors, which left the workpiece as it
is. The message names the first of the causes that the failure has, and the cause all of them;
unit and class have the names that the injector left. -/
structure Diagnostic.TellsOf (d : Diagnostic) (runId : RunId) (ds : List (Descriptor h))
    (failure : Failure) (left : Workpiece h) : Prop where
  runId : d.runId = runId
  returned : ∃ (e : Descriptor h) (before : Workpiece h) (cause : Cause),
    ds[d.index]? = some e ∧ e.name = d.injector ∧ e.work before = (left, .error cause) ∧
      failure = .injection d.className d.type.name d.injector d.index cause
  message : ∃ first deeper, failure.causes = first :: deeper ∧
    d.message = "Error occurred calling AST injector: " ++ first
  cause : d.cause = ": ".intercalate failure.causes
  unitName : d.unitName = h.unitName left.unit
  className : d.className = h.className left.target

theorem work_of_firstFailure {ds : List (Descriptor h)} {w : Workpiece h} {k : Nat}
    {cause : Cause} {e : Descriptor h} (hk : FirstFailure ds w k cause) (he : ds[k]? = some e) :
    e.work (w.after (ds.take k)) = (w.after (ds.take (k + 1)), .error cause) := by
  have hfails := hk.fails
  rw [resultAt, he, Option.map_some, Option.some.injEq] at hfails
  have hleft : w.after (ds.take (k + 1)) = (e.work (w.after (ds.take k))).1 := by
    rw [List.take_add_one, he, Workpiece.after, List.foldl_append]
    rfl
  rw [hleft, ← hfails]

theorem tellsOf_of_stoppedAt {ch : Channel} {type : ArtefactType} {ds : List (Descriptor h)}
    {s : Scene h} {k : Nat} {e : Descriptor h} {cause : Cause}
    (hstop : StoppedAt ch type ds s k e cause) :
    (ch.diagnostic type e.name k cause (ch.apply type ds s).1).TellsOf ch.runId ds
      (Channel.failure type e.name k cause (ch.apply type ds s).1)
      (ch.apply type ds s).1.workpiece where
  runId := rfl
  returned := by
    refine ⟨e, s.workpiece.after (ds.take k), cause, hstop.here, rfl, ?_, rfl⟩
    rw [hstop.workpiece]
    exact work_of_firstFailure hstop.first hstop.here
  message := ⟨cause.outermost, cause.deeper, rfl, rfl⟩
  cause := rfl
  unitName := rfl
  className := rfl

/-- What an injection gives the sink: nothing if it succeeds, and else one diagnostic that tells
of its failure. -/
inductive Reports (type : ArtefactType) (runId : RunId) (ds : List (Descriptor h))
    (before after : List Diagnostic) (left : Workpiece h) : Except Failure Nat → Prop
  | nothing (n : Nat) (hsame : after = before) : Reports type runId ds before after left (.ok n)
  | failure {failure : Failure} {d : Diagnostic} (hkind : failure.isInjectorFailure = true)
      (hmore : after = before ++ [d]) (htype : d.type = type)
      (htells : d.TellsOf runId ds failure left) :
    Reports type runId ds before after left (.error failure)

theorem apply_reports (ch : Channel) (type : ArtefactType) (ds : List (Descriptor h))
    (s : Scene h) :
    Reports type ch.runId ds (ch.sink.received s.world)
      (ch.sink.received (ch.apply type ds s).1.world) (ch.apply type ds s).1.workpiece
      (ch.apply type ds s).2 := by
  rcases ranThrough_or_stoppedAt ch type ds s with hran | ⟨k, e, cause, hstop⟩
  · rw [hran.result]
    exact .nothing ds.length hran.received
  · rw [hstop.result]
    exact .failure rfl hstop.received rfl (tellsOf_of_stoppedAt hstop)

theorem perform_reports (t : Transform h) (type : ArtefactType) (s : Scene h) :
    Reports type t.channel.runId (t.registry.matching type) (t.channel.sink.received s.world)
      (t.channel.sink.received (t.perform type s).1.world) (t.perform type s).1.workpiece
      (t.perform type s).2 := by
  have hreports := apply_reports t.channel type (t.registry.matching type) (s.matched t type)
  rw [received_matched] at hreports
  exact hreports

/-! ## One diagnostic for each failure -/

/-- The list `after` is `before` and then one diagnostic for each of the `xs` that failed, in
their order. -/
def OneForEach {α : Type} (failed : α → Bool) (tells : α → Diagnostic → Prop) (xs : List α)
    (before after : List Diagnostic) : Prop :=
  ∃ news, after = before ++ news ∧ List.Forall₂ tells (xs.filter failed) news

section OneForEach

variable {α : Type} {failed : α → Bool} {tells : α → Diagnostic → Prop}
  {before between after : List Diagnostic}

theorem oneForEach_nil (before : List Diagnostic) : OneForEach failed tells [] before before :=
  ⟨[], by simp, .nil⟩

theorem oneForEach_of_fine {x : α} (hx : failed x = false) (hafter : after = before) :
    OneForEach failed tells [x] before after :=
  ⟨[], by simp [hafter], by simp [hx]⟩

theorem oneForEach_of_failed {x : α} {d : Diagnostic} (hx : failed x = true)
    (hafter : after = before ++ [d]) (hd : tells x d) :
    OneForEach failed tells [x] before after :=
  ⟨[d], hafter, by simpa [hx] using hd⟩

theorem OneForEach.append {xs ys : List α} (hxs : OneForEach failed tells xs before between)
    (hys : OneForEach failed tells ys between after) :
    OneForEach failed tells (xs ++ ys) before after := by
  obtain ⟨first, rfl, hfirst⟩ := hxs
  obtain ⟨more, rfl, hmore⟩ := hys
  refine ⟨first ++ more, List.append_assoc _ _ _, ?_⟩
  rw [List.filter_append]
  exact List.rel_append hfirst hmore

end OneForEach

/-! ## Runs -/

/-- An injector failed in the turn. -/
def Turn.failed (t : Transform h) (x : Turn h) : Bool :=
  (t.reportOn x).failure.any (·.isInjectorFailure)

/-- The diagnostic tells of the failure that the turn reports. Its names are those that the turn
left; the names in the report are those from before, so they differ exactly where unit or class
got another name. -/
structure Turn.RecordedAs (t : Transform h) (x : Turn h) (d : Diagnostic) (failure : Failure)
    (c : h.Class) (left : Workpiece h) : Prop where
  reported : (t.reportOn x).failure = some failure
  target : x.site.target = .ofClass c
  tells : d.TellsOf t.channel.runId (t.registry.matching d.type) failure left
  unit : (t.runTurn x).2.1 = left.unit
  site : (t.runTurn x).2.2.1 = ⟨x.site.tag, .ofClass left.target⟩
  memory : (t.runTurn x).1.world.memory = left.memory
  unitName : d.unitName = (t.reportOn x).unitName ↔ h.unitName left.unit = h.unitName x.unit
  className : some d.className = (t.reportOn x).className ↔
    h.className left.target = h.className c

theorem recordedAs_of_injects {t : Transform h} {x : Turn h} {c : h.Class} {type : ArtefactType}
    (hinjects : x.Injects t c type) {failure : Failure} {d : Diagnostic}
    (hresult : (t.perform type ⟨x.progress.world, x.unit, c⟩).2 = .error failure)
    (htells : d.TellsOf t.channel.runId (t.registry.matching d.type) failure
      (t.perform type ⟨x.progress.world, x.unit, c⟩).1.workpiece) :
    x.RecordedAs t d failure c (t.perform type ⟨x.progress.world, x.unit, c⟩).1.workpiece := by
  have htarget := target_of_injects hinjects
  have hreport := hinjects.report
  rw [hresult] at hreport
  refine ⟨?_, htarget, htells, hinjects.unit, hinjects.site, memory_of_sameWork hinjects.world,
    ?_, ?_⟩
  · rw [hreport]
    rfl
  · rw [hreport, htells.unitName]
    rfl
  · rw [hreport, htells.className]
    simp [Transform.reportOf, htarget, Target.class?]

theorem oneForEach_turn (t : Transform h) (x : Turn h) :
    OneForEach (Turn.failed t) (fun x d => ∃ failure c left, x.RecordedAs t d failure c left) [x]
      (t.channel.sink.received x.progress.world)
      (t.channel.sink.received (t.runTurn x).1.world) := by
  rcases idle_or_injects t x with hidle | ⟨c, type, hinjects⟩
  · refine oneForEach_of_fine ?_ (received_of_sameWork hidle.world _)
    have hnone := hidle.report.2
    rcases hf : (t.reportOn x).failure with _ | failure
    · simp [Turn.failed, hf]
    · simp [Turn.failed, hf, hnone failure hf]
  · have hworld := received_of_sameWork hinjects.world t.channel.sink
    have hreport := hinjects.report
    -- The report and the diagnostics speak of one result, so they are split together.
    have hreports := perform_reports t type ⟨x.progress.world, x.unit, c⟩
    generalize hresult : (t.perform type ⟨x.progress.world, x.unit, c⟩).2 = result
      at hreport hreports
    cases hreports with
    | nothing n hsame =>
      refine oneForEach_of_fine ?_ (hworld.trans hsame)
      simp [Turn.failed, hreport, Except.map, Transform.reportOf]
    | failure hkind hmore htype htells =>
      subst htype
      refine oneForEach_of_failed ?_ (hworld.trans hmore)
        ⟨_, c, _, recordedAs_of_injects hinjects hresult htells⟩
      simp [Turn.failed, hreport, Except.map, Transform.reportOf, hkind]

theorem oneForEach_course {t : Transform h} {p q : Progress h} {xs : List (Turn h)}
    (hxs : t.Course p xs q) :
    OneForEach (Turn.failed t) (fun x d => ∃ failure c left, x.RecordedAs t d failure c left) xs
      (t.channel.sink.received p.world) (t.channel.sink.received q.world) := by
  induction hxs with
  | done p => exact oneForEach_nil _
  | turn x _ ih => exact (oneForEach_turn t x).append ih

theorem oneForEach_run (t : Transform h) (jobs : List (Job h)) (world : World h) :
    OneForEach (Turn.failed t) (fun x d => ∃ failure c left, x.RecordedAs t d failure c left)
      (t.turns jobs world) (t.channel.sink.received world)
      (t.channel.sink.received (t.run jobs world).1) := by
  obtain ⟨p, q, hp, -, hq, hxs⟩ := t.course_run jobs world
  rw [← received_of_sameWork hp, received_of_sameWork hq]
  exact oneForEach_course hxs

theorem oneForEach_runs (t : Transform h) (n : Nat) (p : Project h) :
    OneForEach (Turn.failed t) (fun x d => ∃ failure c left, x.RecordedAs t d failure c left)
      (t.turnsOfRuns n p) (t.channel.sink.received p.world)
      (t.channel.sink.received (t.runs n p).1.world) := by
  induction n with
  | zero => exact oneForEach_nil _
  | succ n ih =>
    exact ih.append (oneForEach_run t (t.runs n p).1.jobs (t.runs n p).1.world)

/-! ## Sessions -/

/-- The same visitor, which reports under another id. -/
def Transform.under (t : Transform h) (runId : RunId) : Transform h :=
  { t with channel := { t.channel with runId } }

/-- The same visitor, whose diagnostics are kept. -/
def Transform.keeping (t : Transform h) : Transform h :=
  { t with channel := { t.channel with sink := .memory } }

/-- Takes a step of a session in which exact lists of injectors are run under an id of their
own. -/
def Session.stepUnder (executor : RunId) (t : Transform h) (s : Session h) (step : SessionStep) :
    Option (Session h × StepResult h) :=
  match step with
  | .apply unit target type places => s.step (t.under executor) (.apply unit target type places)
  | step => s.step t step

/-- A step that was taken, under which id it runs exact lists, and what came of it. -/
structure Taken (h : Host) where
  executor : RunId
  step : SessionStep
  after : Session h
  result : StepResult h

/-- Takes steps one after the other. A step that names what is not there is left out. -/
def Session.takeAll (t : Transform h) : Session h → List (RunId × SessionStep) →
    Session h × List (Taken h)
  | s, [] => (s, [])
  | s, (executor, step) :: steps =>
    match s.stepUnder executor t step with
    | none => s.takeAll t steps
    | some (after, result) =>
      let (last, more) := after.takeAll t steps
      (last, ⟨executor, step, after, result⟩ :: more)

/-- The failure that a result holds. -/
def failureOf {α : Type} : Except Failure α → Option Failure
  | .ok _ => none
  | .error failure => some failure

theorem failureOf_map {α β : Type} (f : α → β) (result : Except Failure α) :
    failureOf (result.map f) = failureOf result := by
  cases result <;> rfl

/-- The failure that a step gives. What a single call gives is a cause, and no failure. -/
def StepResult.failure? : StepResult h → Option Failure
  | .visited result => failureOf result
  | .applied result => failureOf result
  | .judged result => failureOf result
  | _ => none

/-- An injector failed in an injection of the step. -/
def Taken.failed (x : Taken h) : Bool := x.result.failure?.any (·.isInjectorFailure)

/-- The step runs these injectors of a type on a unit and a class, and reports under this id. -/
inductive SessionStep.Injects (t : Transform h) (executor : RunId) : SessionStep → Nat → Nat →
    ArtefactType → RunId → List (Descriptor h) → Prop
  | visit (unit tag target : Nat) (type : ArtefactType) :
    Injects t executor (.visit unit [.tag tag, .ofClass target]) unit target type t.channel.runId
      (t.registry.matching type)
  | perform (unit target : Nat) (type : ArtefactType) :
    Injects t executor (.perform unit target type) unit target type t.channel.runId
      (t.registry.matching type)
  | apply (unit target : Nat) (type : ArtefactType) {places : List Nat}
      {ds : List (Descriptor h)}
      (hds : places.mapM (fun place => t.registry.descriptors[place]?) = some ds) :
    Injects t executor (.apply unit target type places) unit target type executor ds

/-- The diagnostic tells of the failure that the step gives. Its names are those of unit and
class after the step. -/
structure Taken.RecordedAs (t : Transform h) (x : Taken h) (d : Diagnostic) (failure : Failure)
    (left : Workpiece h) : Prop where
  returned : x.result.failure? = some failure
  tells : ∃ unit target runId ds, x.step.Injects t x.executor unit target d.type runId ds ∧
    d.TellsOf runId ds failure left ∧
    x.after.units[unit]? = some left.unit ∧ x.after.classes[target]? = some left.target
  memory : x.after.world.memory = left.memory

section Steps

variable {t : Transform h} {s s' : Session h}

/-- A step on a unit and a class needs both, and puts both back. -/
theorem onScene_eq_some {α : Type} {unit target : Nat} {work : Scene h → Scene h × α} {result : α}
    (hstep : s.onScene unit target work = some (s', result)) :
    ∃ u c, s.units[unit]? = some u ∧ s.classes[target]? = some c ∧
      result = (work ⟨s.world, u, c⟩).2 ∧
      s' = { s with
        world := (work ⟨s.world, u, c⟩).1.world
        units := s.units.set unit (work ⟨s.world, u, c⟩).1.unit
        classes := s.classes.set target (work ⟨s.world, u, c⟩).1.target } := by
  unfold Session.onScene at hstep
  rcases hu : s.units[unit]? with _ | u
  · simp [hu] at hstep
  · rcases hc : s.classes[target]? with _ | c
    · simp [hu, hc] at hstep
    · simp only [hu, hc, Option.bind_eq_bind, Option.bind_some, Option.pure_def,
        Option.some.injEq, Prod.mk.injEq] at hstep
      exact ⟨u, c, rfl, rfl, hstep.2.symm, hstep.1.symm⟩

theorem forall₂_of_mapM {α β : Type} {f : α → Option β} {xs : List α} {ys : List β}
    (hys : xs.mapM f = some ys) : List.Forall₂ (fun x y => f x = some y) xs ys := by
  induction xs generalizing ys with
  | nil =>
    obtain rfl : [] = ys := by simpa using hys
    exact .nil
  | cons x xs ih =>
    rw [List.mapM_cons] at hys
    rcases hx : f x with _ | y
    · simp [hx] at hys
    · rcases hrest : xs.mapM f with _ | ys'
      · simp [hx, hrest] at hys
      · obtain rfl : y :: ys' = ys := by simpa [hx, hrest] using hys
        exact .cons hx (ih hrest)

/-- Only a tag and a class of the session stand for a tag and a class. -/
theorem refs_of_mapM_node? {refs : List NodeRef} {tag : h.Tag} {c : h.Class}
    (hrefs : refs.mapM s.node? = some [.tag tag, .ofClass c]) :
    ∃ i j, refs = [.tag i, .ofClass j] ∧ s.classes[j]? = some c := by
  rcases forall₂_of_mapM hrefs with _ | ⟨hfirst, _ | ⟨hsecond, _ | _⟩⟩
  rename_i first second
  cases first with
  | tag i =>
    cases second with
    | ofClass j => exact ⟨i, j, rfl, by simpa [Session.node?] using hsecond⟩
    | tag j => simp [Session.node?] at hsecond
    | declaration kind => simp [Session.node?] at hsecond
    | expression => simp [Session.node?] at hsecond
  | ofClass i => simp [Session.node?] at hfirst
  | declaration kind => simp [Session.node?] at hfirst
  | expression => simp [Session.node?] at hfirst

/-- A step that comes to an injection gets a diagnostic for its failure, and none without. -/
theorem oneForEach_of_reports {x : Taken h} {unit target : Nat} {type : ArtefactType}
    {runId : RunId} {ds : List (Descriptor h)} {before : List Diagnostic} {left : Workpiece h}
    {result : Except Failure Nat} (hinjects : x.step.Injects t x.executor unit target type runId ds)
    (hfailure : x.result.failure? = failureOf result)
    (hunit : x.after.units[unit]? = some left.unit)
    (hclass : x.after.classes[target]? = some left.target)
    (hmemory : x.after.world.memory = left.memory)
    (hreports : Reports type runId ds before x.after.world.records left result) :
    OneForEach Taken.failed (fun x d => ∃ failure left, x.RecordedAs t d failure left)
      [x] before x.after.world.records := by
  cases hreports with
  | nothing n hsame =>
    refine oneForEach_of_fine ?_ hsame
    simp [Taken.failed, hfailure, failureOf]
  | failure hkind hmore htype htells =>
    subst htype
    refine oneForEach_of_failed ?_ hmore ⟨_, left, hfailure,
      ⟨unit, target, runId, ds, hinjects, htells, hunit, hclass⟩, hmemory⟩
    simp [Taken.failed, hfailure, failureOf, hkind]

theorem oneForEach_onScene {executor runId : RunId} {step : SessionStep} {unit target : Nat}
    {type : ArtefactType} {ds : List (Descriptor h)}
    (hinjects : step.Injects t executor unit target type runId ds)
    {work : Scene h → Scene h × Except Failure Nat}
    (hwork : ∀ scene, Reports type runId ds scene.world.records (work scene).1.world.records
      (work scene).1.workpiece (work scene).2)
    {result : Except Failure Nat} (hstep : s.onScene unit target work = some (s', result)) :
    OneForEach Taken.failed (fun x d => ∃ failure left, x.RecordedAs t d failure left)
      [⟨executor, step, s', .applied result⟩] s.world.records s'.world.records := by
  obtain ⟨u, c, hu, hc, rfl, rfl⟩ := onScene_eq_some hstep
  refine oneForEach_of_reports hinjects rfl ?_ ?_ rfl (hwork ⟨s.world, u, c⟩)
  · exact List.getElem?_set_self (List.getElem?_eq_some_iff.mp hu).1
  · exact List.getElem?_set_self (List.getElem?_eq_some_iff.mp hc).1

theorem oneForEach_visit (ht : t.channel.sink = .memory) (executor : RunId) {unit : Nat}
    {refs : List NodeRef} {result : Except Failure Outcome}
    (hstep : s.visit t unit refs = some (s', result)) :
    OneForEach Taken.failed (fun x d => ∃ failure left, x.RecordedAs t d failure left)
      [⟨executor, .visit unit refs, s', .visited result⟩] s.world.records s'.world.records := by
  unfold Session.visit at hstep
  rcases hrefs : refs.mapM s.node? with _ | nodes
  · simp [hrefs] at hstep
  rcases hu : s.units[unit]? with _ | u
  · simp [hu, hrefs] at hstep
  simp only [hrefs, hu, Option.bind_eq_bind, Option.bind_some, Option.pure_def,
    Option.some.injEq, Prod.mk.injEq] at hstep
  obtain ⟨rfl, rfl⟩ := hstep
  rcases withoutInjection_or_accepts t nodes u s.world with
    ⟨result, huntouched, hresult⟩ | ⟨tag, c, type, haccepts⟩
  · -- No injection, so no failure of an injector, whatever the visit answers.
    unfold Transform.Untouched at huntouched
    rw [huntouched]
    refine oneForEach_of_fine ?_ rfl
    cases result with
    | ok outcome => rfl
    | error failure => exact isInjectorFailure_of_withoutInjection hresult
  · obtain rfl := haccepts.1
    obtain ⟨i, j, rfl, hc⟩ := refs_of_mapM_node? hrefs
    have hreports := perform_reports t type ⟨s.world, u, c⟩
    rw [ht] at hreports
    rw [visit_of_accepts haccepts u s.world]
    refine oneForEach_of_reports (.visit unit i j type) (failureOf_map _ _) ?_ ?_ rfl hreports
    · exact List.getElem?_set_self (List.getElem?_eq_some_iff.mp hu).1
    · exact List.getElem?_set_self (List.getElem?_eq_some_iff.mp hc).1

/-- A step that wraps what a part of it gives has had that part give it. -/
theorem eq_some_of_wrapped {α : Type} {part : Option (Session h × α)} {wrap : α → StepResult h}
    {result : StepResult h}
    (hstep : (part.bind fun found => some (found.1, wrap found.2)) = some (s', result)) :
    ∃ x, part = some (s', x) ∧ wrap x = result := by
  obtain ⟨⟨after, x⟩, hpart, hend⟩ := Option.bind_eq_some_iff.mp hstep
  obtain ⟨rfl, rfl⟩ : after = s' ∧ wrap x = result := by simpa using hend
  exact ⟨x, hpart, rfl⟩

/-- Every step adds a diagnostic for each injector that failed in it, which is one at most. -/
theorem oneForEach_step (ht : t.channel.sink = .memory) (executor : RunId) {step : SessionStep}
    {result : StepResult h} (hstep : s.stepUnder executor t step = some (s', result)) :
    OneForEach Taken.failed (fun x d => ∃ failure left, x.RecordedAs t d failure left)
      [⟨executor, step, s', result⟩] s.world.records s'.world.records := by
  cases step with
  | visit unit refs =>
    obtain ⟨outcome, hvisit, rfl⟩ := eq_some_of_wrapped hstep
    exact oneForEach_visit ht executor hvisit
  | perform unit target type =>
    obtain ⟨outcome, hscene, rfl⟩ := eq_some_of_wrapped hstep
    refine oneForEach_onScene (.perform unit target type) (fun scene => ?_) hscene
    have hreports := perform_reports t type scene
    rw [ht] at hreports
    exact hreports
  | apply unit target type places =>
    obtain ⟨ds, hds, hrest⟩ := Option.bind_eq_some_iff.mp hstep
    obtain ⟨outcome, hscene, rfl⟩ := eq_some_of_wrapped hrest
    have hinjects : SessionStep.Injects t executor (.apply unit target type places) unit target
        type executor ds := .apply unit target type hds
    exact oneForEach_onScene hinjects
      (fun scene => apply_reports ⟨.memory, executor⟩ type ds scene) hscene
  | inject unit target injector =>
    simp only [Session.stepUnder, Session.step] at hstep
    split at hstep
    · obtain ⟨rfl, rfl⟩ : s = s' ∧ .noInjector = result := by simpa using hstep
      exact oneForEach_of_fine rfl rfl
    · -- A single call may fail, but with a bare cause: no executor is there to report it.
      obtain ⟨outcome, hscene, rfl⟩ := eq_some_of_wrapped hstep
      obtain ⟨u, c, -, -, -, rfl⟩ := onScene_eq_some hscene
      exact oneForEach_of_fine rfl rfl
  | validate marker valueMember first second =>
    obtain ⟨node, -, hrest⟩ := Option.bind_eq_some_iff.mp hstep
    obtain ⟨node', -, hend⟩ := Option.bind_eq_some_iff.mp hrest
    obtain ⟨rfl, rfl⟩ : s = s' ∧ .judged (validate marker valueMember node node') = result := by
      simpa using hend
    refine oneForEach_of_fine ?_ rfl
    rcases hv : validate marker valueMember node node' with failure | verdict
    · simp [Taken.failed, StepResult.failure?, failureOf, validate_error hv,
        Failure.isInjectorFailure]
    · simp [Taken.failed, StepResult.failure?, failureOf]
  | kinds refs =>
    obtain ⟨nodes, -, hend⟩ := Option.bind_eq_some_iff.mp hstep
    obtain ⟨rfl, rfl⟩ : s = s' ∧ .kinds (nodes.map fun n => (n.kind, n.isDeclared)) = result := by
      simpa using hend
    exact oneForEach_of_fine rfl rfl

theorem oneForEach_takeAll (ht : t.channel.sink = .memory) (s : Session h)
    (steps : List (RunId × SessionStep)) :
    OneForEach Taken.failed (fun x d => ∃ failure left, x.RecordedAs t d failure left)
      (s.takeAll t steps).2 s.world.records (s.takeAll t steps).1.world.records := by
  induction steps generalizing s with
  | nil => exact oneForEach_nil _
  | cons step steps ih =>
    obtain ⟨executor, step⟩ := step
    rcases hstep : s.stepUnder executor t step with _ | ⟨after, result⟩
    · simp only [Session.takeAll, hstep]
      exact ih s
    · simp only [Session.takeAll, hstep]
      exact (oneForEach_step ht executor hstep).append (ih after)

end Steps

/-- The records are the history of the injectors that failed. In a session of any steps, and in
any number of runs in either scope, there is one for each failure of an injector that a step
returns or a site reports, in the same order, and none for anything else. Each tells of its
failure. -/
theorem every_record_tells_of_one_failure (t : Transform h) :
    (∀ (s : Session h) (steps : List (RunId × SessionStep)),
      let session := s.takeAll t.keeping steps
      OneForEach Taken.failed (fun x d => ∃ failure left, x.RecordedAs t.keeping d failure left)
        session.2 s.world.records session.1.world.records) ∧
    (∀ (p : Project h) (r : Nat),
      (t.turnsOfRuns r p).map t.reportOn = (t.runs r p).2.flatMap (·.sites) ∧
      OneForEach (Turn.failed t) (fun x d => ∃ failure c left, x.RecordedAs t d failure c left)
        (t.turnsOfRuns r p) (t.channel.sink.received p.world)
        (t.channel.sink.received (t.runs r p).1.world)) ∧
    (∀ (type : ArtefactType) (ds : List (Descriptor h)) (s : Scene h),
      let performed := t.channel.apply type ds s
      Reports type t.channel.runId ds (t.channel.sink.received s.world)
        (t.channel.sink.received performed.1.world) performed.1.workpiece performed.2) := by
  refine ⟨?_, ?_, ?_⟩
  · exact fun s steps => oneForEach_takeAll rfl s steps
  · exact fun p r => ⟨t.reportOn_turnsOfRuns r p, oneForEach_runs t r p⟩
  · exact apply_reports t.channel

end MarkerInjection
