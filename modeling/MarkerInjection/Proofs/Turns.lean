-- The sites of a run, each when its turn comes. A turn holds what the run
-- carries by then, and the next turn starts with what this one left. A law of
-- one turn becomes a law of a run by induction over its turns.
import MarkerInjection.Proofs.FailureScopes
import MarkerInjection.Proofs.FirstFailure

namespace MarkerInjection

variable {h : Host}

/-! ## What only runs log -/

/-- The lines that only runs log: those that open and close them, and the warning about a site
that failed. -/
def Event.ofRuns : Event → Bool
  | .started _ _ _ => true
  | .siteFailed _ _ => true
  | .finished _ _ _ => true
  | _ => false

theorem silent_ofRuns {e : Event} (he : e.ofRuns = true) :
    e.reported? = none ∧ e.called? = none := by
  cases e with
  | started _ _ _ => exact ⟨rfl, rfl⟩
  | siteFailed _ _ => exact ⟨rfl, rfl⟩
  | finished _ _ _ => exact ⟨rfl, rfl⟩
  | _ => simp [Event.ofRuns] at he

/-- The two worlds differ in nothing but lines that only runs log. -/
def World.SameWork (w w' : World h) : Prop := w.without Event.ofRuns = w'.without Event.ofRuns

section SameWork

variable {w w' : World h} (hw : w.SameWork w')

theorem sameWork_logged {e : Event} (he : e.ofRuns = true) (w : World h) :
    (w.logged e).SameWork w := without_logged he w

include hw

theorem memory_of_sameWork : w.memory = w'.memory := (congrArg World.memory hw :)

theorem now_of_sameWork : w.now = w'.now := (congrArg World.now hw :)

theorem received_of_sameWork (sink : Sink) : sink.received w = sink.received w' := by
  have hquiet : ∀ e : Event, e.ofRuns = true → e.reported? = none :=
    fun _ he => (silent_ofRuns he).1
  rw [← received_without hquiet sink w, hw, received_without hquiet]

theorem calls_of_sameWork : w.calls = w'.calls := by
  have hquiet : ∀ e : Event, e.ofRuns = true → e.called? = none :=
    fun _ he => (silent_ofRuns he).2
  rw [← calls_without hquiet w, hw, calls_without hquiet]

end SameWork

/-- A visit does the same in worlds that differ in lines of runs only. -/
theorem visit_sameWork (t : Transform h) (nodes : List (Node h)) (unit : h.SourceUnit)
    {w w' : World h} (hw : w.SameWork w') :
    (t.visit nodes unit w).nodes = (t.visit nodes unit w').nodes ∧
      (t.visit nodes unit w).unit = (t.visit nodes unit w').unit ∧
      (t.visit nodes unit w).result = (t.visit nodes unit w').result ∧
      (t.visit nodes unit w).world.SameWork (t.visit nodes unit w').world := by
  -- Both are the visit in the empty world, after what each has behind it.
  have hleft := visit_after t nodes unit (World.initial w.memory w.now) w
  have hright := visit_after t nodes unit (World.initial w'.memory w'.now) w'
  rw [initial_after] at hleft hright
  rw [hleft, hright, memory_of_sameWork hw, now_of_sameWork hw]
  refine ⟨rfl, rfl, rfl, ?_⟩
  rw [World.SameWork, without_after, without_after, hw]

namespace Transform

/-- A run that is under way does at a site what a visit by itself does, and reports it. -/
theorem runSite_eq_visitSite (t : Transform h) {p : Progress h} (hp : p.stopped = false)
    (unit : h.SourceUnit) (site : Site h) :
    let v := t.visitSite p.world unit site
    (t.runSite p unit site).2 =
        (v.unit, { site with target := site.target.after v.nodes },
          reportOf unit site v.result) ∧
      (t.runSite p unit site).1.world.SameWork v.world := by
  rcases hv : (t.visitSite p.world unit site).result with failure | outcome
  · rw [runSite_of_error hp hv]
    exact ⟨rfl, sameWork_logged rfl _⟩
  · rw [runSite_of_ok hp hv]
    exact ⟨rfl, rfl⟩

end Transform

/-! ## Turns -/

/-- A site when its turn comes, with its unit and what the run carries by then. -/
structure Turn (h : Host) where
  progress : Progress h
  unit : h.SourceUnit
  site : Site h

namespace Transform

/-- What a run makes of a turn: what it carries then, the unit, the site and the report. -/
def runTurn (t : Transform h) (x : Turn h) : Progress h × h.SourceUnit × Site h × SiteReport :=
  t.runSite x.progress x.unit x.site

/-- The report of a turn. -/
def reportOn (t : Transform h) (x : Turn h) : SiteReport := (t.runTurn x).2.2.2

/-- The turns of the sites of one unit. -/
def turnsOfSites (t : Transform h) : Progress h → h.SourceUnit → List (Site h) → List (Turn h)
  | _, _, [] => []
  | p, unit, site :: sites =>
    ⟨p, unit, site⟩ ::
      t.turnsOfSites (t.runSite p unit site).1 (t.runSite p unit site).2.1 sites

/-- The turns of the sites of all units. -/
def turnsOfJobs (t : Transform h) : Progress h → List (Job h) → List (Turn h)
  | _, [] => []
  | p, job :: jobs => t.turnsOfSites p job.unit job.sites ++ t.turnsOfJobs (t.runJob p job).1 jobs

/-- The turns of a run. -/
def turns (t : Transform h) (jobs : List (Job h)) (world : World h) : List (Turn h) :=
  t.turnsOfJobs ⟨world.logged (t.opening jobs), false⟩ jobs

/-- The turns follow each other: each starts with what the one before left. -/
inductive Course (t : Transform h) : Progress h → List (Turn h) → Progress h → Prop
  | done (p : Progress h) : t.Course p [] p
  | turn (x : Turn h) {xs : List (Turn h)} {q : Progress h}
      (rest : t.Course (t.runTurn x).1 xs q) : t.Course x.progress (x :: xs) q

section Turns

variable {t : Transform h}

theorem Course.append {p q r : Progress h} {xs ys : List (Turn h)} (hxs : t.Course p xs q)
    (hys : t.Course q ys r) : t.Course p (xs ++ ys) r := by
  induction hxs with
  | done p => exact hys
  | turn x _ ih => exact .turn x (ih hys)

theorem course_runSites (t : Transform h) (p : Progress h) (unit : h.SourceUnit)
    (sites : List (Site h)) :
    t.Course p (t.turnsOfSites p unit sites) (t.runSites p unit sites).1 := by
  induction sites generalizing p unit with
  | nil => exact .done p
  | cons site sites ih =>
    exact .turn ⟨p, unit, site⟩ (ih (t.runSite p unit site).1 (t.runSite p unit site).2.1)

theorem course_runJobs (t : Transform h) (p : Progress h) (jobs : List (Job h)) :
    t.Course p (t.turnsOfJobs p jobs) (t.runJobs p jobs).1 := by
  induction jobs generalizing p with
  | nil => exact .done p
  | cons job jobs ih =>
    exact (course_runSites t p job.unit job.sites).append (ih (t.runJob p job).1)

/-- A run goes through its turns, but for the lines that open and close it. -/
theorem course_run (t : Transform h) (jobs : List (Job h)) (world : World h) :
    ∃ p q, p.world.SameWork world ∧ p.stopped = false ∧ (t.run jobs world).1.SameWork q.world ∧
      t.Course p (t.turns jobs world) q := by
  refine ⟨⟨world.logged (t.opening jobs), false⟩, _, sameWork_logged rfl _, rfl, ?_,
    course_runJobs t _ jobs⟩
  exact sameWork_logged rfl _

theorem reportOn_turnsOfSites (t : Transform h) (p : Progress h) (unit : h.SourceUnit)
    (sites : List (Site h)) :
    (t.turnsOfSites p unit sites).map t.reportOn = (t.runSites p unit sites).2.2.2 := by
  induction sites generalizing p unit with
  | nil => rfl
  | cons site sites ih =>
    rw [turnsOfSites, List.map_cons, ih]
    rfl

theorem reportOn_turnsOfJobs (t : Transform h) (p : Progress h) (jobs : List (Job h)) :
    (t.turnsOfJobs p jobs).map t.reportOn = (t.runJobs p jobs).2.2 := by
  induction jobs generalizing p with
  | nil => rfl
  | cons job jobs ih =>
    rw [turnsOfJobs, List.map_append, ih, reportOn_turnsOfSites]
    rfl

/-- The reports of a run are those of its turns. -/
theorem reportOn_turns (t : Transform h) (jobs : List (Job h)) (world : World h) :
    (t.turns jobs world).map t.reportOn = (t.run jobs world).2.2.sites :=
  reportOn_turnsOfJobs t _ jobs

theorem site_turnsOfSites (t : Transform h) (p : Progress h) (unit : h.SourceUnit)
    (sites : List (Site h)) : (t.turnsOfSites p unit sites).map (·.site) = sites := by
  induction sites generalizing p unit with
  | nil => rfl
  | cons site sites ih => rw [turnsOfSites, List.map_cons, ih]

/-- All sites have their turn, in job order and within a job in site order. -/
theorem site_turns (t : Transform h) (jobs : List (Job h)) (world : World h) :
    (t.turns jobs world).map (·.site) = jobs.flatMap (·.sites) := by
  have hjobs (p : Progress h) : (t.turnsOfJobs p jobs).map (·.site) = jobs.flatMap (·.sites) := by
    induction jobs generalizing p with
    | nil => rfl
    | cons job jobs ih =>
      rw [turnsOfJobs, List.map_append, ih, site_turnsOfSites, List.flatMap_cons]
  exact hjobs _

end Turns

end Transform

/-! ## Runs one after the other -/

/-- The units of a project with their sites, and the world in which they are visited. -/
structure Project (h : Host) where
  jobs : List (Job h)
  world : World h

namespace Transform

/-- So many runs over all sites, each on what the one before left, with their reports. -/
def runs (t : Transform h) : Nat → Project h → Project h × List Report
  | 0, p => (p, [])
  | n + 1, p =>
    let (before, reports) := t.runs n p
    let (world, jobs, report) := t.run before.jobs before.world
    (⟨jobs, world⟩, reports ++ [report])

/-- The turns of so many runs. -/
def turnsOfRuns (t : Transform h) : Nat → Project h → List (Turn h)
  | 0, _ => []
  | n + 1, p =>
    let before := (t.runs n p).1
    t.turnsOfRuns n p ++ t.turns before.jobs before.world

theorem reportOn_turnsOfRuns (t : Transform h) (n : Nat) (p : Project h) :
    (t.turnsOfRuns n p).map t.reportOn = (t.runs n p).2.flatMap (·.sites) := by
  induction n with
  | zero => rfl
  | succ n ih =>
    simp only [turnsOfRuns, runs, List.map_append, List.flatMap_append, ih, reportOn_turns,
      List.flatMap_singleton]

end Transform

/-! ## What becomes of a turn -/

/-- The report is none of an injection: nothing was completed, and no injector failed. -/
def SiteReport.WithoutInjection (r : SiteReport) : Prop :=
  (∀ n, r.outcome ≠ .completed n) ∧ ∀ failure, r.failure = some failure →
    failure.isInjectorFailure = false

/-- The turn leaves the unit, the site and the memory as they are, and nothing is called or
reported to a sink. -/
structure Turn.Idle (t : Transform h) (x : Turn h) : Prop where
  world : (t.runTurn x).1.world.SameWork x.progress.world
  unit : (t.runTurn x).2.1 = x.unit
  site : (t.runTurn x).2.2.1 = x.site
  report : (t.reportOn x).WithoutInjection

/-- The turn comes to an injection: of the type that the tag names, into the class that it
stands on. -/
structure Turn.Injects (t : Transform h) (x : Turn h) (c : h.Class) (type : ArtefactType) :
    Prop where
  going : x.progress.stopped = false
  accepts : t.Accepts [.tag x.site.tag, x.site.target.node] x.site.tag c type
  world : (t.runTurn x).1.world.SameWork
    (t.perform type ⟨x.progress.world, x.unit, c⟩).1.world
  unit : (t.runTurn x).2.1 = (t.perform type ⟨x.progress.world, x.unit, c⟩).1.unit
  site : (t.runTurn x).2.2.1 =
    ⟨x.site.tag, .ofClass (t.perform type ⟨x.progress.world, x.unit, c⟩).1.target⟩
  report : t.reportOn x = Transform.reportOf x.unit x.site
    ((t.perform type ⟨x.progress.world, x.unit, c⟩).2.map .completed)

theorem withoutInjection_reportOf (unit : h.SourceUnit) (site : Site h)
    {result : Except Failure Outcome} (hresult : WithoutInjection result) :
    (Transform.reportOf unit site result).WithoutInjection := by
  cases result with
  | ok outcome =>
    obtain rfl : outcome = .ignored := hresult
    exact ⟨by simp [Transform.reportOf, Transform.outcomeOf], by simp [Transform.reportOf]⟩
  | error failure =>
    refine ⟨fun n => ?_, ?_⟩
    · rcases Transform.outcomeOf_error failure with hout | hout
      · simp [Transform.reportOf, hout]
      · simp [Transform.reportOf, hout]
    · rintro _ ⟨⟩
      exact isInjectorFailure_of_withoutInjection hresult

theorem after_same (target : Target h) (first : Node h) :
    target.after [first, target.node] = target := by
  cases target with
  | ofClass c => rfl
  | declaration kind => rfl
  | expression => rfl

theorem idle_of_untouched {t : Transform h} {x : Turn h} (hp : x.progress.stopped = false)
    {result : Except Failure Outcome}
    (huntouched : t.Untouched [.tag x.site.tag, x.site.target.node] x.unit x.progress.world result)
    (hresult : WithoutInjection result) : x.Idle t := by
  have hvisit : t.visitSite x.progress.world x.unit x.site =
      ⟨[.tag x.site.tag, x.site.target.node], x.unit, x.progress.world, result⟩ := huntouched
  obtain ⟨hsame, hworld⟩ := t.runSite_eq_visitSite hp x.unit x.site
  simp only [hvisit, after_same] at hsame hworld
  refine ⟨hworld, congrArg (·.1) hsame, congrArg (·.2.1) hsame, ?_⟩
  rw [Transform.reportOn, Transform.runTurn, hsame]
  exact withoutInjection_reportOf x.unit x.site hresult

theorem idle_of_stopped {t : Transform h} {x : Turn h} (hp : x.progress.stopped = true) :
    x.Idle t := by
  have hskipped : t.runSite x.progress x.unit x.site = _ := Transform.runSite_of_stopped hp
  refine ⟨?_, ?_, ?_, ?_⟩
  · rw [Transform.runTurn, hskipped]
    rfl
  · rw [Transform.runTurn, hskipped]
  · rw [Transform.runTurn, hskipped]
  · rw [Transform.reportOn, Transform.runTurn, hskipped]
    exact ⟨by simp, by simp⟩

theorem injects_of_accepts {t : Transform h} {x : Turn h} (hp : x.progress.stopped = false)
    {tag : h.Tag} {c : h.Class} {type : ArtefactType}
    (haccepts : t.Accepts [.tag x.site.tag, x.site.target.node] tag c type) :
    x.Injects t c type := by
  obtain rfl : x.site.tag = tag := by simpa using congrArg List.head? haccepts.1
  have hvisit : t.visitSite x.progress.world x.unit x.site = _ :=
    visit_of_accepts haccepts x.unit x.progress.world
  obtain ⟨hsame, hworld⟩ := t.runSite_eq_visitSite hp x.unit x.site
  simp only [hvisit] at hsame hworld
  exact ⟨hp, haccepts, hworld, congrArg (·.1) hsame, congrArg (·.2.1) hsame,
    congrArg (·.2.2) hsame⟩

theorem target_of_injects {t : Transform h} {x : Turn h} {c : h.Class} {type : ArtefactType}
    (hinjects : x.Injects t c type) : x.site.target = .ofClass c := by
  have hnode : x.site.target.node = .ofClass c := by simpa using hinjects.accepts.1
  cases htarget : x.site.target with
  | ofClass c' =>
    rw [htarget] at hnode
    exact congrArg Target.ofClass (by simpa [Target.node] using hnode)
  | declaration kind => simp [htarget, Target.node] at hnode
  | expression => simp [htarget, Target.node] at hnode

/-- A turn is idle, or it comes to an injection. -/
theorem idle_or_injects (t : Transform h) (x : Turn h) :
    x.Idle t ∨ ∃ c type, x.Injects t c type := by
  rcases hp : x.progress.stopped with _ | _
  · rcases withoutInjection_or_accepts t [.tag x.site.tag, x.site.target.node] x.unit
        x.progress.world with ⟨result, huntouched, hresult⟩ | ⟨tag, c, type, haccepts⟩
    · exact Or.inl (idle_of_untouched hp huntouched hresult)
    · exact Or.inr ⟨c, type, injects_of_accepts hp haccepts⟩
  · exact Or.inl (idle_of_stopped hp)

/-! ## Injections -/

/-- The scene once the visitor has logged how many injectors apply. -/
def Scene.matched (s : Scene h) (t : Transform h) (type : ArtefactType) : Scene h :=
  { s with
    world := s.world.logged
      (.matched (t.registry.matching type).length type (h.className s.target)) }

theorem perform_eq_apply (t : Transform h) (type : ArtefactType) (s : Scene h) :
    t.perform type s = t.channel.apply type (t.registry.matching type) (s.matched t type) := rfl

theorem received_matched (sink : Sink) (s : Scene h) (t : Transform h) (type : ArtefactType) :
    sink.received (s.matched t type).world = sink.received s.world :=
  received_logged sink _ s.world rfl

theorem calls_matched (s : Scene h) (t : Transform h) (type : ArtefactType) :
    (s.matched t type).world.calls = s.world.calls := by
  unfold Scene.matched
  rw [calls_logged]
  exact List.append_nil _

end MarkerInjection
