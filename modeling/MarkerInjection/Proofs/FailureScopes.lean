-- The two failure scopes compared. A run that stops the whole build does what
-- a run per class does up to the first failure, and nothing after it.
import MarkerInjection.Proofs.Batches
import MarkerInjection.Proofs.Visits

namespace MarkerInjection

variable {h : Host}

/-! ## One transform in two scopes -/

namespace Transform

/-- The same transform with another failure scope. -/
def inScope (t : Transform h) (scope : FailureScope) : Transform h :=
  { t with config := { t.config with failureScope := scope } }

theorem failureScope_inScope (t : Transform h) (scope : FailureScope) :
    (t.inScope scope).config.failureScope = scope := rfl

theorem visitSite_inScope (t : Transform h) (scope : FailureScope) (world : World h)
    (unit : h.SourceUnit) (site : Site h) :
    (t.inScope scope).visitSite world unit site = t.visitSite world unit site := rfl

/-- The scope of the whole build differs in the flag only, which an error sets. -/
theorem runSite_wholeBuild (t : Transform h) {p : Progress h} (hp : p.stopped = false)
    (unit : h.SourceUnit) (site : Site h) :
    (t.inScope .wholeBuild).runSite p unit site =
      (⟨((t.inScope .perClass).runSite p unit site).1.world,
          ((t.inScope .perClass).runSite p unit site).2.2.2.outcome.isError⟩,
        ((t.inScope .perClass).runSite p unit site).2) := by
  rw [isError_runSite]
  rcases hv : (t.visitSite p.world unit site).result with failure | outcome
  · have hbuild := hv
    rw [← visitSite_inScope t .wholeBuild] at hbuild
    have hclass := hv
    rw [← visitSite_inScope t .perClass] at hclass
    rw [runSite_of_error hp hbuild, runSite_of_error hp hclass]
    simp only [visitSite_inScope, failureScope_inScope, reportOf, hv]
    rfl
  · have hbuild := hv
    rw [← visitSite_inScope t .wholeBuild] at hbuild
    have hclass := hv
    rw [← visitSite_inScope t .perClass] at hclass
    rw [runSite_of_ok hp hbuild, runSite_of_ok hp hclass]
    simp only [visitSite_inScope, reportOf, hv]
    rfl

end Transform

/-! ## One visit in two scopes -/

namespace Batch

variable {t : Transform h} {b : Batch h}

/-- A visit that writes no report of an error is the same in both scopes. -/
theorem visit_wholeBuild_of_fine (hb : b.progress.stopped = false) (place : Nat)
    (hfine : ∀ x ∈ (b.visit (t.inScope .perClass) place).history, x.2.outcome.isError = false) :
    b.visit (t.inScope .wholeBuild) place = b.visit (t.inScope .perClass) place := by
  rcases next_or_none b place with ⟨unit, visited, site, ahead, hl⟩ | hnone
  · rw [visit_of_next _ hl] at hfine
    rw [visit_of_next _ hl, visit_of_next _ hl, t.runSite_wholeBuild hb]
    have hreport := hfine _ (List.mem_append_right _ (List.mem_singleton_self _))
    have hflag : ((t.inScope .perClass).runSite b.progress unit site).1.stopped = false :=
      Transform.runSite_perClass (t.failureScope_inScope .perClass) hb
    simp only at hreport ⊢
    rw [hreport, ← hflag]
  · rw [visit_of_none _ hnone, visit_of_none _ hnone]

/-- A visit whose last report is one of an error sets the flag, and else is the same in both
scopes. -/
theorem visit_wholeBuild_of_error (hb : b.progress.stopped = false) (place : Nat)
    {x : Nat × SiteReport}
    (hx : (b.visit (t.inScope .perClass) place).history = b.history ++ [x])
    (herror : x.2.outcome.isError = true) :
    b.visit (t.inScope .wholeBuild) place =
      let visited := b.visit (t.inScope .perClass) place
      ⟨⟨visited.progress.world, true⟩, visited.lanes, visited.history⟩ := by
  rcases next_or_none b place with ⟨unit, visited, site, ahead, hl⟩ | hnone
  · rw [visit_of_next _ hl] at hx
    rw [visit_of_next _ hl, visit_of_next _ hl, t.runSite_wholeBuild hb]
    obtain rfl := List.singleton_inj.mp (List.append_cancel_left hx)
    simp only at herror ⊢
    rw [herror]
  · rw [visit_of_none _ hnone] at hx
    simp at hx

/-! ## Many visits in two scopes -/

theorem visitAll_perClass_stopped (hb : b.progress.stopped = false) (places : List Nat) :
    (b.visitAll (t.inScope .perClass) places).progress.stopped = false :=
  visitAll_preserves (P := fun b => b.progress.stopped = false) (t.inScope .perClass)
    (fun _ place hb => visit_perClass (t.failureScope_inScope .perClass) hb place) hb places

theorem visitAll_wholeBuild_of_fine (hb : b.progress.stopped = false) (places : List Nat)
    (hfine : ∀ x ∈ (b.visitAll (t.inScope .perClass) places).history,
      x.2.outcome.isError = false) :
    b.visitAll (t.inScope .wholeBuild) places = b.visitAll (t.inScope .perClass) places := by
  induction places generalizing b with
  | nil => rfl
  | cons place places ih =>
    have hearlier := (history_visitAll (t.inScope .perClass)
      (b.visit (t.inScope .perClass) place) places).1
    have hone := visit_wholeBuild_of_fine hb place
      (fun x hx => hfine x (hearlier.subset hx))
    have hrest := ih (visit_perClass (t.failureScope_inScope .perClass) hb place) hfine
    simp only [visitAll, List.foldl_cons] at hrest ⊢
    rw [hone, hrest]

end Batch

/-! ## Sites that are skipped -/

/-- The reports of a unit's sites when none of them is started. -/
def Job.skips (j : Job h) : List SiteReport :=
  j.sites.map fun site =>
    ⟨h.unitName j.unit, site.target.class?.map h.className, .skipped, none⟩

theorem length_skips (place : Nat) (jobs : List (Job h)) :
    (jobs.flatMap Job.skips).length = (inOrderFrom place jobs).length := by
  induction jobs generalizing place with
  | nil => rfl
  | cons job jobs ih => simp only [List.flatMap_cons, inOrderFrom, List.length_append,
      List.length_replicate, ih (place + 1), Job.skips, List.length_map]

namespace Batch

variable {t : Transform h} {b : Batch h}

/-- A visit that comes too late leaves all as it is and reports that the site was skipped. -/
theorem visit_of_stopped (hb : b.progress.stopped = true) {place : Nat} {places : List Nat}
    (hnext : inOrder b.rest = place :: places) :
    (b.visit t place).progress = b.progress ∧ (b.visit t place).jobs = b.jobs ∧
      b.history.map (·.2) ++ b.rest.flatMap Job.skips =
        (b.visit t place).history.map (·.2) ++ (b.visit t place).rest.flatMap Job.skips := by
  obtain ⟨pre, unit, visited, site, ahead, post, hlanes, rfl, hpre⟩ := next_inOrderFrom 0 hnext
  have hl : b.lanes[0 + pre.length]? = some ⟨unit, visited, site :: ahead⟩ := by simp [hlanes]
  have hskips : (pre.map Lane.rest).flatMap Job.skips = [] := by
    simpa [Job.skips, Lane.rest] using hpre
  rw [visit_of_next t hl, Transform.runSite_of_stopped hb]
  refine ⟨rfl, ?_, ?_⟩
  · simp [jobs, hlanes, Lane.job]
  · unfold rest
    rw [hlanes]
    simp only [Nat.zero_add, List.set_append_right _ _ (Nat.le_refl _), Nat.sub_self,
      List.set_cons_zero, List.map_append, List.map_cons, List.flatMap_append, List.flatMap_cons,
      hskips, Job.skips, Lane.rest]
    simp

/-- All visits in order that come too late. -/
theorem visitAll_of_stopped (hb : b.progress.stopped = true) {places : List Nat}
    (hnext : inOrder b.rest = places) :
    (b.visitAll t places).progress = b.progress ∧ (b.visitAll t places).jobs = b.jobs ∧
      (b.visitAll t places).history.map (·.2) =
        b.history.map (·.2) ++ b.rest.flatMap Job.skips := by
  induction places generalizing b with
  | nil =>
    have hskips : b.rest.flatMap Job.skips = [] := by
      rw [← List.length_eq_zero_iff, length_skips 0]
      exact congrArg List.length hnext
    exact ⟨rfl, rfl, by simp [visitAll, hskips]⟩
  | cons place places ih =>
    obtain ⟨hprogress, hjobs, hhistory⟩ := visit_of_stopped (t := t) hb hnext
    obtain ⟨hprogress', hjobs', hhistory'⟩ :=
      ih (by rw [hprogress]; exact hb) (inOrder_rest_visit t hnext)
    exact ⟨hprogress'.trans hprogress, hjobs'.trans hjobs, hhistory'.trans hhistory.symm⟩

/-- A batch per class whose report at position `k` is the first of an error. In the scope of the
whole build it goes as far as the visit that wrote it. -/
theorem visitAll_wholeBuild_cut {p : Progress h} (hp : p.stopped = false) (jobs : List (Job h))
    {k : Nat} {x : Nat × SiteReport}
    (hx : ((start p jobs).visitAll (t.inScope .perClass) (inOrder jobs)).history[k]? = some x)
    (herror : x.2.outcome.isError = true)
    (hfine : ∀ y ∈ ((start p jobs).visitAll (t.inScope .perClass) (inOrder jobs)).history.take k,
      y.2.outcome.isError = false) :
    let cut := (start p jobs).visitAll (t.inScope .perClass) ((inOrder jobs).take (k + 1))
    let build := (start p jobs).visitAll (t.inScope .wholeBuild) (inOrder jobs)
    build.progress.world = cut.progress.world ∧ build.jobs = cut.jobs ∧
      build.history.map (·.2) = cut.history.map (·.2) ++ cut.rest.flatMap Job.skips := by
  have hk : k < (inOrder jobs).length := by
    rw [← length_history_inOrder (t.inScope .perClass) p jobs]
    exact (List.getElem?_eq_some_iff.mp hx).1
  -- Up to the site of the error the scopes agree, and its visit sets the flag.
  have hbefore := history_take (t.inScope .perClass) p jobs (Nat.le_of_lt hk)
  have hafter := history_take (t.inScope .perClass) p jobs hk
  rw [← hbefore] at hfine
  have hsame := visitAll_wholeBuild_of_fine (b := start p jobs) hp _ hfine
  have hhistory : ((start p jobs).visitAll (t.inScope .perClass)
      ((inOrder jobs).take (k + 1))).history =
        ((start p jobs).visitAll (t.inScope .perClass) ((inOrder jobs).take k)).history ++ [x] := by
    rw [hafter, hbefore, List.take_add_one, hx]
    rfl
  rw [visitAll_take_succ _ _ hk] at hhistory
  have hset := visit_wholeBuild_of_error
    (visitAll_perClass_stopped (b := start p jobs) hp _) _ hhistory herror
  rw [← hsame, ← visitAll_take_succ _ _ hk, hsame, ← visitAll_take_succ _ _ hk] at hset
  -- Behind it all sites are skipped.
  have hrest : inOrder ((start p jobs).visitAll (t.inScope .wholeBuild)
      ((inOrder jobs).take (k + 1))).rest = (inOrder jobs).drop (k + 1) := by
    apply inOrder_rest_visitAll
    rw [List.take_append_drop, rest_start]
  obtain ⟨hprogress, hjobs, hskipped⟩ := visitAll_of_stopped (t := t.inScope .wholeBuild)
    (by rw [hset]) hrest
  rw [← visitAll_append, List.take_append_drop, hset] at hprogress hjobs hskipped
  refine ⟨?_, hjobs, hskipped⟩
  rw [hprogress]

end Batch

/-! ## What the scopes have in common -/

/-- The lines that open and close a run. They name the scope and count the reports. -/
def Event.frames : Event → Bool
  | .started _ _ _ => true
  | .finished _ _ _ => true
  | _ => false

/-- The world without the lines that open and close runs. -/
def World.unframed (w : World h) : World h := { w with log := w.log.filter (!·.frames) }

theorem silent_of_frames {e : Event} (he : e.frames = true) :
    e.reported? = none ∧ e.called? = none := by
  cases e with
  | started _ _ _ => exact ⟨rfl, rfl⟩
  | finished _ _ _ => exact ⟨rfl, rfl⟩
  | _ => simp [Event.frames] at he

theorem unframed_logged {e : Event} (he : e.frames = true) (w : World h) :
    (w.logged e).unframed = w.unframed := without_logged he w

theorem unframed_after (w old : World h) :
    (w.after old).unframed = w.unframed.after old.unframed := without_after w old

theorem received_unframed (sink : Sink) (w : World h) :
    sink.received w.unframed = sink.received w :=
  received_without (fun _ he => (silent_of_frames he).1) sink w

theorem calls_unframed (w : World h) : w.unframed.calls = w.calls :=
  calls_without (fun _ he => (silent_of_frames he).2) w

namespace Transform

/-- The visits of a run that no line has opened and nothing came before. -/
def unopened (t : Transform h) (jobs : List (Job h)) (world : World h) (places : List Nat) :
    Batch h :=
  (Batch.start ⟨World.initial world.memory world.now, false⟩ jobs).visitAll t places

theorem visiting_eq_unopened (t : Transform h) (jobs : List (Job h)) (world : World h)
    (places : List Nat) :
    t.visiting jobs world places =
      (t.unopened jobs world places).after (world.logged (t.opening jobs)) := by
  rw [unopened, ← Batch.visitAll_after]
  simp [visiting, Batch.start, Batch.after, World.initial, World.after, World.logged]

theorem visiting_unframed (t : Transform h) (jobs : List (Job h)) (world : World h)
    (places : List Nat) :
    (t.visiting jobs world places).progress.world.unframed =
      (t.unopened jobs world places).progress.world.unframed.after world.unframed := by
  rw [visiting_eq_unopened]
  exact (unframed_after _ _).trans (by rw [unframed_logged rfl])

theorem run_unframed (t : Transform h) (jobs : List (Job h)) (world : World h) :
    (t.run jobs world).1.unframed =
      (t.visiting jobs world (inOrder jobs)).progress.world.unframed := by
  rw [run_eq_visiting]
  exact unframed_logged rfl _

/-- The units and the report of a run do not depend on what came before it. -/
theorem run_eq_unopened (t : Transform h) (jobs : List (Job h)) (world : World h) :
    (t.run jobs world).2 =
      ((t.unopened jobs world (inOrder jobs)).jobs,
        ⟨t.channel.runId, (t.unopened jobs world (inOrder jobs)).history.map (·.2)⟩) := by
  rw [run_eq_visiting, visiting_eq_unopened]
  rfl

/-- The world after runs over these lists of units, one run after the other. -/
def worldAfter (t : Transform h) (earlier : List (List (Job h))) (world : World h) : World h :=
  earlier.foldl (fun w jobs => (t.run jobs w).1) world

end Transform

/-! ## The cut -/

/-- A run is cut after the report at position `k` of a full one: it leaves all as the batch left
it after that report, and skips the sites that the batch has still to come. -/
structure CutAfter (sink : Sink) (k : Nat) (full : Report) (batch : Batch h)
    (run : World h × List (Job h) × Report) : Prop where
  reached : batch.history.map (·.2) = full.sites.take (k + 1)
  report : run.2.2 = ⟨full.runId, full.sites.take (k + 1) ++ batch.rest.flatMap Job.skips⟩
  total : run.2.2.sites.length = full.sites.length
  units : run.2.1 = batch.jobs
  state : run.1.unframed = batch.progress.world.unframed
  received : sink.received run.1 = sink.received batch.progress.world
  calls : run.1.calls = batch.progress.world.calls

namespace Transform

variable {t : Transform h} {jobs : List (Job h)} {world : World h}

theorem length_run_sites (t : Transform h) (jobs : List (Job h)) (world : World h) :
    (t.run jobs world).2.2.sites.length = (inOrder jobs).length :=
  Batch.length_runJobs t ⟨world.logged (t.opening jobs), false⟩ 0 jobs

theorem run_sites_eq_unopened (t : Transform h) (jobs : List (Job h)) (world : World h) :
    (t.run jobs world).2.2.sites =
      (t.unopened jobs world (inOrder jobs)).history.map (·.2) :=
  congrArg (·.2.sites) (run_eq_unopened t jobs world)

theorem cutAfter_of_first_error {k : Nat} {r : SiteReport}
    (hr : ((t.inScope .perClass).run jobs world).2.2.sites[k]? = some r)
    (herror : r.outcome.isError = true)
    (hfine : ∀ r ∈ ((t.inScope .perClass).run jobs world).2.2.sites.take k,
      r.outcome.isError = false) :
    CutAfter t.channel.sink k ((t.inScope .perClass).run jobs world).2.2
      ((t.inScope .perClass).underWay jobs world (k + 1))
      ((t.inScope .wholeBuild).run jobs world) := by
  have hk : k < (inOrder jobs).length := by
    rw [← length_run_sites (t.inScope .perClass) jobs world]
    exact (List.getElem?_eq_some_iff.mp hr).1
  have hreached := underWay_reports (t.inScope .perClass) jobs world hk
  have htotal := (length_run_sites (t.inScope .wholeBuild) jobs world).trans
    (length_run_sites (t.inScope .perClass) jobs world).symm
  -- The runs without a past are cut, and the past only puts the same lines in front.
  rw [run_sites_eq_unopened, List.getElem?_map, Option.map_eq_some_iff] at hr
  obtain ⟨x, hx, rfl⟩ := hr
  rw [run_sites_eq_unopened, ← List.map_take] at hfine
  obtain ⟨hworld, hjobs, hhistory⟩ := Batch.visitAll_wholeBuild_cut (t := t) rfl jobs hx herror
    (fun y hy => hfine y.2 (List.mem_map_of_mem hy))
  have hstate : ((t.inScope .wholeBuild).run jobs world).1.unframed =
      ((t.inScope .perClass).underWay jobs world (k + 1)).progress.world.unframed := by
    rw [run_unframed, visiting_unframed, underWay, visiting_unframed]
    simp only [unopened, hworld]
  have hrun := run_eq_unopened (t.inScope .wholeBuild) jobs world
  simp only [unopened, hjobs, hhistory] at hrun
  refine ⟨hreached, ?_, htotal, ?_, hstate, ?_, ?_⟩
  · rw [hrun, ← hreached, underWay, visiting_eq_unopened]
    rfl
  · rw [hrun, underWay, visiting_eq_unopened]
    rfl
  · rw [← received_unframed, hstate, received_unframed]
  · rw [← calls_unframed, hstate, calls_unframed]

theorem run_wholeBuild_of_fine
    (hfine : ∀ r ∈ ((t.inScope .perClass).run jobs world).2.2.sites, r.outcome.isError = false) :
    ((t.inScope .wholeBuild).run jobs world).2 = ((t.inScope .perClass).run jobs world).2 ∧
      ((t.inScope .wholeBuild).run jobs world).1.unframed =
        ((t.inScope .perClass).run jobs world).1.unframed := by
  rw [run_sites_eq_unopened] at hfine
  have hsame : (t.inScope .wholeBuild).unopened jobs world (inOrder jobs) =
      (t.inScope .perClass).unopened jobs world (inOrder jobs) :=
    Batch.visitAll_wholeBuild_of_fine rfl _ (fun x hx => hfine x.2 (List.mem_map_of_mem hx))
  refine ⟨?_, ?_⟩
  · rw [run_eq_unopened, run_eq_unopened, hsame]
    rfl
  · rw [run_unframed, run_unframed, visiting_unframed, visiting_unframed, hsame]

/-- Of all the reports of a run, those of an error are those with a failure. -/
theorem isError_run (t : Transform h) (jobs : List (Job h)) (world : World h) :
    ∀ r ∈ (t.run jobs world).2.2.sites, r.outcome.isError = r.failure.isSome := by
  rw [run_sites_eq_unopened]
  intro r hr
  obtain ⟨x, hx, rfl⟩ := List.mem_map.mp hr
  exact Batch.visitAll_reports (P := fun _ => True)
    (Q := fun r => r.outcome.isError = r.failure.isSome)
    (fun p unit site _ => ⟨trivial, isError_runSite t p unit site⟩) trivial jobs _ x hx

end Transform

/-- A run of the whole build is a run per class from the same world, cut after its first error,
whatever runs came before. Every failure of a site counts as an error. Without an error the two
runs leave the same, but for the lines that open and close them. -/
theorem a_build_is_cut_after_its_first_error (t : Transform h) (earlier : List (List (Job h)))
    (before : World h) (jobs : List (Job h)) :
    let world := (t.inScope .wholeBuild).worldAfter earlier before
    let perClass := (t.inScope .perClass).run jobs world
    let wholeBuild := (t.inScope .wholeBuild).run jobs world
    (∀ r ∈ perClass.2.2.sites, r.outcome.isError = r.failure.isSome) ∧
    ((∀ r ∈ perClass.2.2.sites, r.outcome.isError = false) →
      wholeBuild.2 = perClass.2 ∧ wholeBuild.1.unframed = perClass.1.unframed) ∧
    (∀ k r, perClass.2.2.sites[k]? = some r → r.outcome.isError = true →
      (∀ r ∈ perClass.2.2.sites.take k, r.outcome.isError = false) →
      CutAfter t.channel.sink k perClass.2.2
        ((t.inScope .perClass).underWay jobs world (k + 1)) wholeBuild) := by
  refine ⟨?_, ?_, ?_⟩
  · exact Transform.isError_run (t.inScope .perClass) jobs _
  · exact Transform.run_wholeBuild_of_fine
  · exact fun k r => Transform.cutAfter_of_first_error

end MarkerInjection
