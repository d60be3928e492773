-- Single visits. A host that visits the sites of a project one by one, in job
-- order and within a job in site order, has after each site what a run per
-- class has: the same units, classes, memory and diagnostics. What a site
-- leaves to those after it lies in its unit and in the memory of the injectors.
import MarkerInjection.Proofs.FreshStarts
import MarkerInjection.Proofs.Turns

namespace MarkerInjection

variable {h : Host}

/-! ## Projects -/

/-- The places of sites in order: that of the unit, counted from the first one, and that of the
site in its unit. -/
def sitePlacesFrom (first : Nat) : List (Job h) → List (Nat × Nat)
  | [] => []
  | job :: jobs =>
    (List.range job.sites.length).map (fun place => (first, place)) ++
      sitePlacesFrom (first + 1) jobs

namespace Project

/-- The places of all sites, in job order and within a job in site order. -/
def places (p : Project h) : List (Nat × Nat) := sitePlacesFrom 0 p.jobs

/-- The unit and the site at a place. -/
def site? (p : Project h) (place : Nat × Nat) : Option (h.SourceUnit × Site h) :=
  match p.jobs[place.1]? with
  | none => none
  | some job => job.sites[place.2]?.map fun site => (job.unit, site)

/-- Visits the site at a place by itself, and keeps unit and class as the visit left them. -/
def visit (t : Transform h) (p : Project h) (place : Nat × Nat) : Project h :=
  match p.jobs[place.1]? with
  | none => p
  | some job =>
    match job.sites[place.2]? with
    | none => p
    | some site =>
      let v := t.visit [.tag site.tag, site.target.node] job.unit p.world
      let site := { site with target := site.target.after v.nodes }
      ⟨p.jobs.set place.1 ⟨v.unit, job.sites.set place.2 site⟩, v.world⟩

/-- Visits the sites at these places, one after the other. -/
def visitAll (t : Transform h) (p : Project h) (places : List (Nat × Nat)) : Project h :=
  places.foldl (visit t) p

/-- So many passes over all sites, each on what the one before left. -/
def passes (t : Transform h) : Nat → Project h → Project h
  | 0, p => p
  | n + 1, p => (passes t n p).visitAll t (passes t n p).places

end Project

/-! ## What runs and single visits have in common -/

/-- Units, classes and memory are the same, sinks were given the same diagnostics, and the logs
differ in lines that only runs log. -/
structure Project.Alike (p q : Project h) : Prop where
  jobs : p.jobs = q.jobs
  memory : p.world.memory = q.world.memory
  received : ∀ sink : Sink, sink.received p.world = sink.received q.world
  world : p.world.SameWork q.world

theorem alike_of_sameWork {p q : Project h} (hjobs : p.jobs = q.jobs)
    (hworld : p.world.SameWork q.world) : p.Alike q :=
  ⟨hjobs, memory_of_sameWork hworld, received_of_sameWork hworld, hworld⟩

/-! ## Reports -/

/-- The report tells what a visit gave, with the names that unit and class had before it. -/
structure SiteReport.Tells (r : SiteReport) (unit : h.SourceUnit) (site : Site h)
    (result : Except Failure Outcome) : Prop where
  unitName : r.unitName = h.unitName unit
  className : r.className = site.target.class?.map h.className
  done : ∀ outcome, result = .ok outcome → r.outcome = outcome ∧ r.failure = none
  refused : ∀ failure, result = .error failure → failure.isUsageError = true →
    r.outcome = .rejected ∧ r.failure = some failure
  failed : ∀ failure, result = .error failure → failure.isUsageError = false →
    r.outcome = .failed ∧ r.failure = some failure

theorem tells_reportOf (unit : h.SourceUnit) (site : Site h) (result : Except Failure Outcome) :
    (Transform.reportOf unit site result).Tells unit site result where
  unitName := rfl
  className := rfl
  done := by
    rintro outcome rfl
    exact ⟨rfl, rfl⟩
  refused := by
    rintro failure rfl husage
    exact ⟨by simp [Transform.reportOf, Transform.outcomeOf, husage], rfl⟩
  failed := by
    rintro failure rfl husage
    exact ⟨by simp [Transform.reportOf, Transform.outcomeOf, husage], rfl⟩

/-! ## Sites to come -/

/-- The places of the sites to come, in order. -/
def pendingFrom (first : Nat) : List (Lane h) → List (Nat × Nat)
  | [] => []
  | l :: lanes =>
    (List.range' l.visited.length l.ahead.length).map (fun place => (first, place)) ++
      pendingFrom (first + 1) lanes

theorem pendingFrom_append (first : Nat) (ls ms : List (Lane h)) :
    pendingFrom first (ls ++ ms) = pendingFrom first ls ++ pendingFrom (first + ls.length) ms := by
  induction ls generalizing first with
  | nil => rfl
  | cons l ls ih =>
    rw [List.cons_append, pendingFrom, pendingFrom, ih, List.append_assoc, List.length_cons,
      Nat.add_assoc, Nat.add_comm 1]

theorem pendingFrom_of_done (first : Nat) {lanes : List (Lane h)}
    (hdone : ∀ l ∈ lanes, l.ahead = []) : pendingFrom first lanes = [] := by
  induction lanes generalizing first with
  | nil => rfl
  | cons l lanes ih =>
    have hl : l.ahead = [] := hdone l (by simp)
    have hrest := ih (first + 1) (fun l' hl' => hdone l' (by simp [hl']))
    simpa [pendingFrom, hl] using hrest

theorem map_fst_pendingFrom (first : Nat) (lanes : List (Lane h)) :
    (pendingFrom first lanes).map (·.1) = inOrderFrom first (lanes.map Lane.rest) := by
  induction lanes generalizing first with
  | nil => rfl
  | cons l lanes ih =>
    rw [pendingFrom, List.map_append, ih, List.map_cons, inOrderFrom]
    simp [Lane.rest, Function.comp_def, List.map_const']

theorem pendingFrom_ofJob (first : Nat) (jobs : List (Job h)) :
    pendingFrom first (jobs.map Lane.ofJob) = sitePlacesFrom first jobs := by
  induction jobs generalizing first with
  | nil => rfl
  | cons job jobs ih =>
    rw [List.map_cons, pendingFrom, ih, sitePlacesFrom, List.range_eq_range']
    rfl

/-- The next place is that of a site with only visited units before it, and with only visited
sites before it in its unit. -/
theorem next_pendingFrom {place : Nat × Nat} {places : List (Nat × Nat)} {lanes : List (Lane h)}
    (hnext : pendingFrom 0 lanes = place :: places) :
    ∃ pre unit visited site ahead post,
      lanes = pre ++ ⟨unit, visited, site :: ahead⟩ :: post ∧
        place = (pre.length, visited.length) ∧
        ∀ unit' site',
          pendingFrom 0 (pre ++ ⟨unit', visited ++ [site'], ahead⟩ :: post) = places := by
  have horder := map_fst_pendingFrom 0 lanes
  rw [hnext, List.map_cons] at horder
  obtain ⟨pre, unit, visited, site, ahead, post, rfl, hplace, hpre⟩ :=
    Batch.next_inOrderFrom 0 horder.symm
  have hdone := pendingFrom_of_done 0 hpre
  rw [pendingFrom_append, hdone, List.nil_append, pendingFrom, List.length_cons,
    List.range'_succ, List.map_cons, List.cons_append, List.cons.injEq] at hnext
  obtain ⟨rfl, rfl⟩ := hnext
  refine ⟨pre, unit, visited, site, ahead, post, rfl, by simp, fun unit' site' => ?_⟩
  rw [pendingFrom_append, hdone, List.nil_append, pendingFrom, List.length_append,
    List.length_singleton]

/-! ## One visit after the other -/

namespace Batch

/-- The units of the batch with their sites, as they stand, and its world. -/
def project (b : Batch h) : Project h := ⟨b.jobs, b.progress.world⟩

end Batch

section Simulation

variable {t : Transform h} {b : Batch h} {p : Project h}

/-- A batch and a project that are alike stay so when both visit the next site, and the batch
writes the report of that visit. -/
theorem alike_visit (hgoing : b.progress.stopped = false) (hp : b.project.Alike p)
    {place : Nat × Nat} {places : List (Nat × Nat)}
    (hnext : pendingFrom 0 b.lanes = place :: places) :
    (b.visit t place.1).project.Alike (p.visit t place) ∧
      pendingFrom 0 (b.visit t place.1).lanes = places ∧
      ∃ unit site, p.site? place = some (unit, site) ∧
        (b.visit t place.1).history = b.history ++ [(place.1, Transform.reportOf unit site
          (t.visitSite p.world unit site).result)] := by
  obtain ⟨pre, unit, visited, site, ahead, post, hlanes, rfl, hpending⟩ := next_pendingFrom hnext
  have hl : b.lanes[pre.length]? = some ⟨unit, visited, site :: ahead⟩ := by simp [hlanes]
  have hjob : p.jobs[pre.length]? = some ⟨unit, visited ++ site :: ahead⟩ := by
    rw [← hp.jobs]
    simp [Batch.project, Batch.jobs, hlanes, Lane.job]
  have hsite : (visited ++ site :: ahead)[visited.length]? = some site := by simp
  obtain ⟨hsame, hworld⟩ := t.runSite_eq_visitSite hgoing unit site
  obtain ⟨hnodes, hunit, hresult, hlog⟩ :=
    visit_sameWork t [.tag site.tag, site.target.node] unit hp.world
  simp only [Transform.visitSite] at hsame hworld
  simp only [Batch.project] at hnodes hunit hresult hlog
  have hvisit : p.visit t (pre.length, visited.length) =
      let v := t.visitSite p.world unit site
      let site := { site with target := site.target.after v.nodes }
      ⟨p.jobs.set pre.length ⟨v.unit, (visited ++ [site]) ++ ahead⟩, v.world⟩ := by
    simp [Project.visit, hjob, Transform.visitSite]
  refine ⟨alike_of_sameWork ?_ ?_, ?_, unit, site, ?_, ?_⟩
  · simp only [Batch.visit_of_next t hl, hsame, hvisit, Transform.visitSite, Batch.project,
      Batch.jobs, hlanes, hnodes, hunit, ← hp.jobs]
    simp [Lane.job]
  · simp only [Batch.visit_of_next t hl, hvisit, Transform.visitSite, Batch.project]
    exact hworld.trans hlog
  · simp only [Batch.visit_of_next t hl, hlanes, List.set_append_right _ _ (Nat.le_refl _),
      Nat.sub_self, List.set_cons_zero, hpending]
  · simp only [Project.site?, hjob, hsite, Option.map_some]
  · simp only [Batch.visit_of_next t hl, hsame, Transform.visitSite, hresult]

theorem alike_visitAll (ht : t.config.failureScope = .perClass)
    (hgoing : b.progress.stopped = false) (hp : b.project.Alike p)
    {places rest : List (Nat × Nat)} (hnext : pendingFrom 0 b.lanes = places ++ rest) :
    (b.visitAll t (places.map (·.1))).project.Alike (p.visitAll t places) ∧
      pendingFrom 0 (b.visitAll t (places.map (·.1))).lanes = rest := by
  induction places generalizing b p with
  | nil => exact ⟨hp, hnext⟩
  | cons place places ih =>
    obtain ⟨hvisit, hpending, -⟩ := alike_visit (t := t) hgoing hp hnext
    exact ih (Batch.visit_perClass ht hgoing place.1) hvisit hpending

end Simulation

/-! ## Runs and passes -/

/-- A run that starts from `p` does step for step what single visits do that start from `q`.
After each number of sites they are alike, and the report of each site tells of its visit. -/
structure StepByStep (t : Transform h) (p q : Project h) : Prop where
  total : (t.run p.jobs p.world).2.2.sites.length = q.places.length
  states : ∀ n, (t.underWay p.jobs p.world n).project.Alike (q.visitAll t (q.places.take n))
  reports : ∀ n place, q.places[n]? = some place →
    let before := q.visitAll t (q.places.take n)
    ∃ unit site r, before.site? place = some (unit, site) ∧
      (t.run p.jobs p.world).2.2.sites[n]? = some r ∧
      r.Tells unit site (t.visit [.tag site.tag, site.target.node] unit before.world).result
  finish : Project.Alike ⟨(t.run p.jobs p.world).2.1, (t.run p.jobs p.world).1⟩
    (q.visitAll t q.places)

section Runs

variable {t : Transform h} (ht : t.config.failureScope = .perClass) {p q : Project h}
  (hpq : p.Alike q)

include hpq

theorem inOrder_eq_places : inOrder p.jobs = q.places.map (·.1) := by
  have hfirst := map_fst_pendingFrom 0 (q.jobs.map Lane.ofJob)
  rw [pendingFrom_ofJob] at hfirst
  rw [hpq.jobs, Project.places, hfirst]
  exact congrArg (inOrderFrom 0) (Batch.rest_start ⟨q.world, false⟩ q.jobs).symm

include ht

theorem alike_underWay (n : Nat) :
    (t.underWay p.jobs p.world n).project.Alike (q.visitAll t (q.places.take n)) ∧
      pendingFrom 0 (t.underWay p.jobs p.world n).lanes = q.places.drop n := by
  have hstart : (Batch.start ⟨p.world.logged (t.opening p.jobs), false⟩ p.jobs).project.Alike
      q := by
    refine alike_of_sameWork ?_ ((sameWork_logged rfl _).trans hpq.world)
    rw [← hpq.jobs]
    simp [Batch.project, Batch.jobs, Batch.start, Lane.job, Lane.ofJob, Function.comp_def]
  have hnext : pendingFrom 0 (p.jobs.map Lane.ofJob) = q.places.take n ++ q.places.drop n := by
    rw [List.take_append_drop, pendingFrom_ofJob, hpq.jobs, Project.places]
  have hall := alike_visitAll (p := q) ht rfl hstart hnext
  rw [List.map_take, ← inOrder_eq_places hpq] at hall
  exact hall

/-- The report of a site is that of the visit which a project makes that is alike by then. -/
theorem report_underWay {n : Nat} {place : Nat × Nat} (hplace : q.places[n]? = some place) :
    let before := q.visitAll t (q.places.take n)
    ∃ unit site, before.site? place = some (unit, site) ∧
      (t.run p.jobs p.world).2.2.sites[n]? = some (Transform.reportOf unit site
        (t.visitSite before.world unit site).result) := by
  intro before
  obtain ⟨hn, rfl⟩ := List.getElem?_eq_some_iff.mp hplace
  have horder : n < (inOrder p.jobs).length := by
    rw [inOrder_eq_places hpq, List.length_map]
    exact hn
  obtain ⟨halike, hpending⟩ := alike_underWay ht hpq n
  rw [List.drop_eq_getElem_cons hn] at hpending
  obtain ⟨-, -, unit, site, hsite, hhistory⟩ :=
    alike_visit (t := t) (Transform.underWay_going ht p.jobs p.world n) halike hpending
  refine ⟨unit, site, hsite, ?_⟩
  have hnext : t.underWay p.jobs p.world (n + 1) =
      (t.underWay p.jobs p.world n).visit t q.places[n].1 := by
    have hhere : (inOrder p.jobs)[n] = q.places[n].1 := by
      simp [inOrder_eq_places hpq]
    rw [← hhere]
    exact Batch.visitAll_take_succ t _ horder
  -- The reports up to here and those one site further differ in the report of this site.
  have hafter := t.underWay_reports p.jobs p.world horder
  rw [hnext, hhistory, List.map_append, t.underWay_reports p.jobs p.world (Nat.le_of_lt horder),
    List.take_add_one] at hafter
  exact Option.toList_eq_singleton_iff.mp (List.append_cancel_left hafter).symm

theorem stepByStep_of_perClass : StepByStep t p q := by
  have hlength : (inOrder p.jobs).length = q.places.length := by
    rw [inOrder_eq_places hpq, List.length_map]
  refine ⟨?_, ?_, ?_, ?_⟩
  · rw [Transform.length_run_sites, hlength]
  · exact fun n => (alike_underWay ht hpq n).1
  · intro n place hplace before
    obtain ⟨unit, site, hsite, hreport⟩ := report_underWay ht hpq hplace
    exact ⟨unit, site, _, hsite, hreport, tells_reportOf unit site _⟩
  · have hall := (alike_underWay ht hpq q.places.length).1
    -- All sites taken is the whole run, but for the line that closes it.
    rw [Transform.underWay, ← hlength, List.take_length, hlength, List.take_length] at hall
    rw [Transform.run_eq_visiting]
    exact alike_of_sameWork hall.jobs ((sameWork_logged rfl _).trans hall.world)

end Runs

/-- So many runs are alike so many passes of single visits. -/
theorem alike_runs {t : Transform h} (ht : t.config.failureScope = .perClass) (p : Project h)
    (r : Nat) : (t.runs r p).1.Alike (p.passes t r) := by
  induction r with
  | zero => exact alike_of_sameWork rfl rfl
  | succ r ih => exact (stepByStep_of_perClass ht ih).finish

/-- Runs per class over a project are passes of single visits over it, each on what the one
before left: after any number of them all is alike, and the next run goes step for step with the
next pass. Whatever became of the first sites of a run, the others depend on the units and the
memory that those left, and on nothing else. -/
theorem a_run_is_made_of_single_visits (t : Transform h) (p : Project h) (r : Nat) :
    let perClass := t.inScope .perClass
    let before := (perClass.runs r p).1
    before.Alike (p.passes perClass r) ∧
    StepByStep perClass before (p.passes perClass r) ∧
    ∀ n ≤ (inOrder before.jobs).length,
      let first := perClass.underWay before.jobs before.world n
      GoesOnAnew before.jobs (perClass.run before.jobs before.world) n first
        (perClass.run first.rest
          (World.initial first.progress.world.memory first.progress.world.now)) := by
  intro perClass before
  have hscope := t.failureScope_inScope .perClass
  have halike := alike_runs hscope p r
  exact ⟨halike, stepByStep_of_perClass hscope halike,
    fun n hn => goesOnAnew_of_perClass hscope before.jobs before.world hn⟩

end MarkerInjection
