-- The books of a run: one report for each site, in order, and totals that agree with
-- them. First what can be entered for each kind of target, then that every visit
-- enters the next site of its unit, then the sums.
import MarkerInjection.Proofs.Interleavings
import MarkerInjection.Proofs.Turns
import Mathlib.Data.List.Forall2

namespace MarkerInjection

variable {h : Host}

/-! ## Entries -/

/-- The outcomes and failures that can be entered for a target. -/
inductive Entry : Target h → Outcome → Option Failure → Prop
  | skipped (target : Target h) : Entry target .skipped none
  | contract (first second : NodeKind) :
    Entry .expression .failed (some (.nodeKinds first second))
  | declaration (kind : DeclarationKind) : Entry (.declaration kind) .ignored none
  | unmarked (c : h.Class) : Entry (.ofClass c) .ignored none
  | refused (c : h.Class) (className : String) (reason : Refusal) (message : String) :
    Entry (.ofClass c) .rejected (some (.refused className reason message))
  | completed (c : h.Class) (n : Nat) : Entry (.ofClass c) (.completed n) none
  | injection (c : h.Class) (className type injector : String) (index : Nat) (cause : Cause) :
    Entry (.ofClass c) .failed (some (.injection className type injector index cause))

/-- The failure of a result, if it is one. -/
def failure? : Except Failure Outcome → Option Failure
  | .ok _ => none
  | .error failure => some failure

namespace Transform

theorem entry_perform (t : Transform h) (type : ArtefactType) (s : Scene h) (c : h.Class) :
    let result := (t.perform type s).2.map Outcome.completed
    Entry (.ofClass c) (outcomeOf result) (failure? result) := by
  rw [perform_eq_apply]
  rcases ranThrough_or_stoppedAt t.channel type (t.registry.matching type) (s.matched t type) with
    hran | ⟨k, d, cause, hstop⟩
  · rw [hran.result]
    exact .completed c _
  · rw [hstop.result]
    exact .injection c _ _ _ _ _

theorem entry_class (t : Transform h) (tag : h.Tag) (c : h.Class) (unit : h.SourceUnit)
    (world : World h) :
    let result := (t.visit [.tag tag, .ofClass c] unit world).result
    Entry (.ofClass c) (outcomeOf result) (failure? result) := by
  rcases hv : validate t.config.marker t.config.valueMember (.tag tag) (.ofClass c) with
    failure | verdict
  · simp [validate] at hv
  · cases verdict with
    | ignored =>
      rw [untouched_of_ignored hv]
      exact .unmarked c
    | refused className reason =>
      rw [untouched_of_refused hv]
      exact .refused c _ _ _
    | accepted c' type =>
      rw [visit_of_accepted hv]
      exact t.entry_perform type ⟨world, unit, c'⟩ c

theorem entry_visitSite (t : Transform h) (world : World h) (unit : h.SourceUnit)
    (site : Site h) :
    let result := (t.visitSite world unit site).result
    Entry site.target (outcomeOf result) (failure? result) := by
  obtain ⟨tag, target⟩ := site
  cases target with
  | ofClass c => exact t.entry_class tag c unit world
  | declaration kind => exact .declaration kind
  | expression => exact .contract _ _

/-- A turn is entered with the name that its class has before it. -/
theorem entry_reportOn (t : Transform h) (x : Turn h) :
    Entry x.site.target (t.reportOn x).outcome (t.reportOn x).failure ∧
      (t.reportOn x).className = x.site.target.class?.map h.className := by
  rcases hp : x.progress.stopped with _ | _
  · have hentry := t.entry_visitSite x.progress.world x.unit x.site
    have hsame := congrArg (·.2.2) (t.runSite_eq_visitSite hp x.unit x.site).1
    have hreport : t.reportOn x = reportOf x.unit x.site _ := hsame
    rw [hreport]
    generalize (t.visitSite x.progress.world x.unit x.site).result = result at hentry
    refine ⟨?_, rfl⟩
    cases result with
    | ok outcome => exact hentry
    | error failure => exact hentry
  · have hreport : t.runTurn x = _ := runSite_of_stopped hp
    rw [reportOn, hreport]
    exact ⟨.skipped _, rfl⟩

end Transform

/-! ## What a report says -/

/-- What a report says of its site. -/
structure SiteReport.TellsOf (r : SiteReport) (site : Site h) : Prop where
  className : r.className = site.target.class?.map h.className
  ofClass : r.className.isSome = true ↔ ∃ c, site.target = .ofClass c
  failure : r.failure.isSome = true ↔ r.outcome = .rejected ∨ r.outcome = .failed
  rejected : r.outcome = .rejected ↔
    ∃ failure, r.failure = some failure ∧ failure.isUsageError = true
  failed : r.outcome = .failed ↔ ∃ failure, r.failure = some failure ∧
    (failure.isContractViolation = true ∨ failure.isInjectorFailure = true)
  expression : site.target = .expression → r.outcome ≠ .skipped → r.outcome = .failed
  declaration : ∀ kind, site.target = .declaration kind → r.outcome ≠ .skipped →
    r.outcome = .ignored

theorem isSome_className (target : Target h) :
    (target.class?.map h.className).isSome = true ↔ ∃ c, target = .ofClass c := by
  cases target with
  | ofClass c => simp [Target.class?]
  | declaration kind => simp [Target.class?]
  | expression => simp [Target.class?]

theorem tellsOf_of_entry {r : SiteReport} {site : Site h}
    (hentry : Entry site.target r.outcome r.failure)
    (hname : r.className = site.target.class?.map h.className) : r.TellsOf site := by
  have hclass := isSome_className site.target
  rw [← hname] at hclass
  obtain ⟨tag, target⟩ := site
  obtain ⟨unitName, className, outcome, failure⟩ := r
  refine ⟨hname, hclass, ?_, ?_, ?_, ?_, ?_⟩
  all_goals
    cases hentry <;>
      simp [Failure.isUsageError, Failure.isContractViolation, Failure.isInjectorFailure]

theorem tellsOf_reportOn (t : Transform h) (x : Turn h) : (t.reportOn x).TellsOf x.site :=
  tellsOf_of_entry (t.entry_reportOn x).1 (t.entry_reportOn x).2

theorem isError_of_tellsOf {r : SiteReport} {site : Site h} (htells : r.TellsOf site) :
    r.outcome.isError = r.failure.isSome := by
  rw [Bool.eq_iff_iff, htells.failure]
  cases r.outcome with
  | _ => simp [Outcome.isError]

/-! ## Sums -/

/-- The sums of a report agree with the reports of its sites: the failures are those of the sites
that were rejected or failed, in their order. -/
structure Report.Balances (r : Report) : Prop where
  success : r.isSuccess = true ↔ r.failures = []
  failures : r.failures.map some = (r.sites.filter (·.outcome.isError)).map (·.failure)
  errors : r.failures.length = r.rejected + r.failed

/-- Each outcome is counted by one of the counters. -/
theorem total_eq_length (r : Report) :
    r.completed + r.skipped + r.ignored + r.rejected + r.failed = r.sites.length := by
  obtain ⟨runId, sites⟩ := r
  induction sites with
  | nil => rfl
  | cons site sites ih =>
    simp only [Report.completed, Report.skipped, Report.ignored, Report.rejected, Report.failed,
      Report.countSites, List.countP_cons, List.length_cons] at ih ⊢
    cases hout : site.outcome with
    | _ =>
      simp only [reduceCtorEq, beq_iff_eq, if_true, if_false]
      omega

theorem failures_eq_errors {r : Report}
    (herror : ∀ site ∈ r.sites, site.outcome.isError = site.failure.isSome) :
    r.failures.map some = (r.sites.filter (·.outcome.isError)).map (·.failure) := by
  obtain ⟨runId, sites⟩ := r
  induction sites with
  | nil => rfl
  | cons site sites ih =>
    have hrest := ih fun s hs => herror s (List.mem_cons_of_mem site hs)
    have hsite := herror site (by simp)
    simp only [Report.failures] at hrest ⊢
    cases hf : site.failure with
    | none => simp [hf, hsite, hrest]
    | some failure => simp [hf, hsite, hrest]

theorem countP_isError (r : Report) :
    r.sites.countP (·.outcome.isError) = r.rejected + r.failed := by
  have hone : ∀ o : Outcome, (if o.isError = true then 1 else 0) =
      (if (o == .rejected) = true then 1 else 0) + if (o == .failed) = true then 1 else 0 := by
    intro o
    cases o with
    | _ => rfl
  obtain ⟨runId, sites⟩ := r
  induction sites with
  | nil => rfl
  | cons site sites ih =>
    simp only [Report.rejected, Report.failed, Report.countSites, List.countP_cons] at ih ⊢
    have hsite := hone site.outcome
    omega

theorem balances {r : Report}
    (herror : ∀ site ∈ r.sites, site.outcome.isError = site.failure.isSome) : r.Balances := by
  have hfailures := failures_eq_errors herror
  have hlength : r.failures.length = r.sites.countP (·.outcome.isError) := by
    have hlen := congrArg List.length hfailures
    rwa [List.length_map, List.length_map, ← List.countP_eq_length_filter] at hlen
  refine ⟨?_, hfailures, hlength.trans (countP_isError r)⟩
  rw [← List.length_eq_zero_iff, hlength, List.countP_eq_zero, Report.isSuccess, List.all_eq_true]
  simp

/-! ## One report for each site -/

/-- The report is what some turn of the site writes. -/
def Transform.Writes (t : Transform h) (r : SiteReport) (site : Site h) : Prop :=
  ∃ x : Turn h, x.site = site ∧ t.reportOn x = r

theorem tellsOf_of_writes {t : Transform h} {r : SiteReport} {site : Site h}
    (hwrites : t.Writes r site) : r.TellsOf site := by
  obtain ⟨x, rfl, rfl⟩ := hwrites
  exact tellsOf_reportOn t x

namespace Batch

/-- Each unit has a report for each of the sites that were visited, in their order. -/
def Booked (t : Transform h) (jobs : List (Job h)) (b : Batch h) : Prop :=
  ∀ (place : Nat) (l : Lane h), b.lanes[place]? = some l →
    ∃ job first, jobs[place]? = some job ∧ job.sites = first ++ l.ahead ∧
      List.Forall₂ t.Writes (b.reportsAt place) first

theorem booked_start (t : Transform h) (p : Progress h) (jobs : List (Job h)) :
    Booked t jobs (start p jobs) := by
  intro place l hplace
  simp only [start, List.getElem?_map, Option.map_eq_some_iff] at hplace
  obtain ⟨job, hjob, rfl⟩ := hplace
  exact ⟨job, [], hjob, rfl, .nil⟩

theorem booked_visit {t : Transform h} {jobs : List (Job h)} {b : Batch h}
    (hb : Booked t jobs b) (here : Nat) : Booked t jobs (b.visit t here) := by
  intro place l hplace
  rcases next_or_none b here with ⟨unit, visited, site, ahead, hl⟩ | hnone
  · rw [visit_of_next t hl] at hplace ⊢
    unfold reportsAt
    rw [ofPlace_append]
    by_cases heq : here = place
    · subst heq
      have hlt := (List.getElem?_eq_some_iff.mp hl).1
      rw [List.getElem?_set_self hlt] at hplace
      cases hplace
      obtain ⟨job, first, hjob, hsites, hwritten⟩ := hb here _ hl
      refine ⟨job, first ++ [site], hjob, by simp [hsites], ?_⟩
      rw [ofPlace_singleton]
      exact List.rel_append hwritten (.cons ⟨⟨b.progress, unit, site⟩, rfl, rfl⟩ .nil)
    · rw [List.getElem?_set_ne heq] at hplace
      obtain ⟨job, first, hjob, hsites, hwritten⟩ := hb place l hplace
      have helsewhere : ofPlace place [(here, (t.runSite b.progress unit site).2.2.2)] = [] :=
        ofPlace_elsewhere (by simpa using heq)
      refine ⟨job, first, hjob, hsites, ?_⟩
      rw [helsewhere, List.append_nil]
      exact hwritten
  · rw [visit_of_none t hnone] at hplace ⊢
    exact hb place l hplace

/-- A visit leaves one site less to come for its unit, and as many as before for the others. -/
theorem ahead_visit (t : Transform h) (b : Batch h) (here place : Nat) :
    (b.visit t here).lanes[place]?.map Lane.ahead =
      b.lanes[place]?.map fun l => if here = place then l.ahead.tail else l.ahead := by
  rcases next_or_none b here with ⟨unit, visited, site, ahead, hl⟩ | hnone
  · rw [visit_of_next t hl]
    by_cases heq : here = place
    · subst heq
      have hlt := (List.getElem?_eq_some_iff.mp hl).1
      simp [List.getElem?_set_self hlt, hl]
    · simp [List.getElem?_set_ne heq, heq]
  · rw [visit_of_none t hnone]
    rcases hl : b.lanes[place]? with _ | l
    · rfl
    · by_cases heq : here = place
      · subst heq
        simp [hnone l hl]
      · simp [heq]

theorem ahead_visitAll_count (t : Transform h) (b : Batch h) (places : List Nat) (place : Nat) :
    (b.visitAll t places).lanes[place]?.map Lane.ahead =
      b.lanes[place]?.map fun l => l.ahead.drop (places.count place) := by
  induction places generalizing b with
  | nil => simp [visitAll]
  | cons here places ih =>
    have hrest := ih (b.visit t here)
    have hone := ahead_visit t b here place
    unfold visitAll at hrest ⊢
    rw [List.foldl_cons, hrest]
    have hdrop := congrArg (Option.map (List.drop (places.count place))) hone
    rw [Option.map_map, Option.map_map] at hdrop
    refine hdrop.trans (congrArg (fun f => b.lanes[place]?.map f) (funext fun l => ?_))
    by_cases heq : here = place
    · simp [heq, List.drop_tail]
    · simp [heq, List.count_cons_of_ne heq]

/-- After the visits of a run, in whatever order, no site is to come. -/
theorem ahead_of_perm {t : Transform h} {p : Progress h} {jobs : List (Job h)} {places : List Nat}
    (hplaces : places.Perm (inOrder jobs)) {place : Nat} {l : Lane h}
    (hl : ((start p jobs).visitAll t places).lanes[place]? = some l) : l.ahead = [] := by
  have hahead := ahead_visitAll_count t (start p jobs) places place
  rw [hl] at hahead
  simp only [start, List.getElem?_map, Option.map_map] at hahead
  rcases hjob : jobs[place]? with _ | job
  · simp [hjob] at hahead
  · have hcount := count_inOrderFrom 0 hjob
    rw [Nat.zero_add] at hcount
    have hall : places.count place = job.sites.length := (hplaces.count_eq place).trans hcount
    simpa [hjob, Lane.ofJob, hall] using hahead

/-- After the visits of a run, in whatever order, each unit has a report for each of its sites. -/
theorem writes_of_perm {t : Transform h} {p : Progress h} {jobs : List (Job h)}
    {places : List Nat} (hplaces : places.Perm (inOrder jobs)) {place : Nat} {job : Job h}
    (hjob : jobs[place]? = some job) :
    List.Forall₂ t.Writes (((start p jobs).visitAll t places).reportsAt place) job.sites := by
  have hbooked : Booked t jobs ((start p jobs).visitAll t places) :=
    visitAll_preserves (P := Booked t jobs) t (fun _ place hb => booked_visit hb place)
      (booked_start t p jobs) places
  have hlt : place < ((start p jobs).visitAll t places).lanes.length := by
    rw [(places_visitAll t p jobs places).1]
    exact (List.getElem?_eq_some_iff.mp hjob).1
  have hl := List.getElem?_eq_getElem hlt
  obtain ⟨job', first, hjob', hsites, hwritten⟩ := hbooked place _ hl
  obtain rfl : job' = job := Option.some.inj (hjob'.symm.trans hjob)
  rw [ahead_of_perm hplaces hl, List.append_nil] at hsites
  exact hsites ▸ hwritten

end Batch

/-- Lists that stand for each place of others, one after the other. -/
theorem forall₂_flatMap_range {α : Type} {R : SiteReport → α → Prop} {f : Nat → List SiteReport}
    {g : Job h → List α} {jobs : List (Job h)}
    (hf : ∀ place job, jobs[place]? = some job → List.Forall₂ R (f place) (g job)) :
    List.Forall₂ R ((List.range jobs.length).flatMap f) (jobs.flatMap g) := by
  have hplaces : List.Forall₂ (fun place job => jobs[place]? = some job)
      (List.range jobs.length) jobs := by
    refine List.forall₂_iff_get.mpr ⟨by simp, fun i hi hi' => ?_⟩
    simp
  exact List.rel_flatMap hplaces fun place job hjob => hf place job hjob

/-! ## Books -/

/-- A report that has, for each site of the jobs, in their order, what a turn of the site writes.
It tells of the site, and the sums agree. -/
structure Books (t : Transform h) (jobs : List (Job h)) (r : Report) : Prop where
  written : List.Forall₂ t.Writes r.sites (jobs.flatMap (·.sites))
  tells : List.Forall₂ SiteReport.TellsOf r.sites (jobs.flatMap (·.sites))
  balances : r.Balances
  total : r.completed + r.skipped + r.ignored + r.rejected + r.failed =
    (jobs.flatMap (·.sites)).length

theorem books_of_written {t : Transform h} {jobs : List (Job h)} {r : Report}
    (hwritten : List.Forall₂ t.Writes r.sites (jobs.flatMap (·.sites))) : Books t jobs r := by
  have htells : List.Forall₂ SiteReport.TellsOf r.sites (jobs.flatMap (·.sites)) :=
    hwritten.imp fun _ _ => tellsOf_of_writes
  refine ⟨hwritten, htells, balances fun site hsite => ?_, ?_⟩
  · obtain ⟨i, hi, rfl⟩ := List.getElem_of_mem hsite
    have hi' : i < (jobs.flatMap (·.sites)).length := htells.length_eq ▸ hi
    exact isError_of_tellsOf (htells.get hi hi')
  · rw [total_eq_length, htells.length_eq]

theorem books_runAlong (t : Transform h) (world : World h) {jobs : List (Job h)}
    {places : List Nat} (hplaces : places.Perm (inOrder jobs)) :
    Books t jobs (t.runAlong jobs world places).2.2 := by
  refine books_of_written ?_
  change List.Forall₂ _ ((t.resultsAlong jobs world places).flatMap (·.reports)) _
  rw [Transform.results_reports]
  exact forall₂_flatMap_range fun place job hjob => Batch.writes_of_perm hplaces hjob

theorem books_run (t : Transform h) (jobs : List (Job h)) (world : World h) :
    Books t jobs (t.run jobs world).2.2 := by
  rw [Transform.run_eq_runAlong]
  exact books_runAlong t world (List.Perm.refl _)

/-! ## Threads -/

/-- The host as one of several threads sees it: before each of its calls the others may change
the memory. What they are going to do to it is kept beside it. -/
def Host.shared (h : Host) : Host :=
  { h with Memory := h.Memory × (Nat → h.Memory → h.Memory) }

def Descriptor.shared (d : Descriptor h) : Descriptor h.shared where
  name := d.name
  capability := d.capability
  inject seen unit c :=
    let (memory, unit, c, result) := d.inject (seen.2 0 seen.1) unit c
    ((memory, fun n => seen.2 (n + 1)), unit, c, result)

def Target.shared : Target h → Target h.shared
  | .ofClass c => .ofClass c
  | .declaration kind => .declaration kind
  | .expression => .expression

/-- The job in the hands of a thread. -/
def Job.shared (j : Job h) : Job h.shared := ⟨j.unit, j.sites.map fun s => ⟨s.tag, s.target.shared⟩⟩

namespace Transform

def shared (t : Transform h) : Transform h.shared where
  registry := ⟨t.registry.descriptors.map Descriptor.shared, by
    simpa [Descriptor.shared, Function.comp_def] using t.registry.distinct⟩
  config := t.config
  channel := t.channel

/-- The report of a run whose jobs have a thread each. A world tells what its thread finds. -/
def onThreads (t : Transform h) (threads : List (Job h × World h.shared)) : Report :=
  ⟨t.channel.runId, threads.flatMap fun x => (t.shared.run [x.1.shared] x.2).2.2.sites⟩

end Transform

theorem books_onThreads (t : Transform h) (threads : List (Job h × World h.shared)) :
    Books t.shared (threads.map (·.1.shared)) (t.onThreads threads) := by
  refine books_of_written ?_
  rw [List.flatMap_map]
  induction threads with
  | nil => exact .nil
  | cons x threads ih =>
    have hone := (books_run t.shared [x.1.shared] x.2).written
    rw [List.flatMap_singleton] at hone
    exact List.rel_append hone ih

/-! ## The law -/

/-- The books of a run balance, whatever the jobs, the registry and the scope are: in job order,
in any order that the units take turns in, and with a thread for each job, which sees the others
change the memory of the injectors between its calls. -/
theorem the_books_of_a_run_balance (t : Transform h) (jobs : List (Job h)) (world : World h)
    (places : List Nat) (hplaces : places.Perm (inOrder jobs)) :
    Books t jobs (t.run jobs world).2.2 ∧
    Books t jobs (t.runAlong jobs world places).2.2 ∧
    ∀ threads : List (Job h × World h.shared), threads.map (·.1) = jobs →
      Books t.shared (jobs.map Job.shared) (t.onThreads threads) := by
  refine ⟨books_run t jobs world, books_runAlong t world hplaces, ?_⟩
  rintro threads rfl
  rw [List.map_map]
  exact books_onThreads t threads

/-- The sites of the second unit before those of the first. -/
theorem the_books_of_two_units :
    [1, 1, 0, 0].Perm (inOrder Scripted.twoUnits) ∧
      Books Scripted.guarded Scripted.twoUnits
        (Scripted.guarded.runAlong Scripted.twoUnits Scripted.world [1, 1, 0, 0]).2.2 := by
  have horder : [1, 1, 0, 0].Perm (inOrder Scripted.twoUnits) := by decide
  exact ⟨horder, (the_books_of_a_run_balance Scripted.guarded Scripted.twoUnits Scripted.world
    [1, 1, 0, 0] horder).2.1⟩

end MarkerInjection
