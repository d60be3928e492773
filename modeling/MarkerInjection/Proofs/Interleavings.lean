-- Runs per class that visit the units in any order. If the injectors keep
-- nothing between calls, a unit is under way as if it were the only one, so
-- each job has the results that it has alone.
import MarkerInjection.Proofs.Batches
import MarkerInjection.Proofs.Forgetful
import MarkerInjection.Scripted

namespace MarkerInjection

variable {h : Host}

/-! ## Diagnostics of visits -/

namespace Batch

/-- The diagnostics that the sink was given so far. -/
def received (t : Transform h) (b : Batch h) : List Diagnostic :=
  t.channel.sink.received b.progress.world

/-- The diagnostics of the next visit of the unit at a place, each with the place. -/
def news (t : Transform h) (b : Batch h) (place : Nat) : List (Nat × Diagnostic) :=
  (((b.visit t place).received t).drop (b.received t).length).map fun d => (place, d)

/-- The diagnostics of visits one after the other, each with the place of its unit. -/
def newsAll (t : Transform h) : Batch h → List Nat → List (Nat × Diagnostic)
  | _, [] => []
  | b, place :: places => b.news t place ++ newsAll t (b.visit t place) places

theorem received_visit (t : Transform h) (b : Batch h) (place : Nat) :
    (b.visit t place).received t = b.received t ++ (b.news t place).map (·.2) := by
  have hearlier : b.received t <+: (b.visit t place).received t := by
    rcases next_or_none b place with ⟨unit, visited, site, ahead, hl⟩ | hnone
    · rw [visit_of_next t hl]
      exact received_runSite t.channel.sink t b.progress unit site
    · simp only [visit_of_none t hnone, List.prefix_rfl]
  obtain ⟨later, hlater⟩ := hearlier
  rw [news, ← hlater, List.drop_left]
  simp [Function.comp_def]

theorem received_visitAll (t : Transform h) (b : Batch h) (places : List Nat) :
    (b.visitAll t places).received t = b.received t ++ (b.newsAll t places).map (·.2) := by
  induction places generalizing b with
  | nil => simp [visitAll, newsAll]
  | cons place places ih =>
    have hrest := ih (b.visit t place)
    unfold visitAll at hrest ⊢
    rw [List.foldl_cons, hrest, received_visit, newsAll, List.map_append, List.append_assoc]

theorem mem_news {t : Transform h} {b : Batch h} {place : Nat} {x : Nat × Diagnostic}
    (hx : x ∈ b.news t place) : x.1 = place := by
  obtain ⟨d, -, rfl⟩ := List.mem_map.mp hx
  rfl

theorem mem_newsAll {t : Transform h} {b : Batch h} {places : List Nat} {x : Nat × Diagnostic}
    (hx : x ∈ b.newsAll t places) : x.1 ∈ places := by
  induction places generalizing b with
  | nil => simp [newsAll] at hx
  | cons place places ih =>
    rcases List.mem_append.mp hx with hnow | hlater
    · exact List.mem_cons.mpr (Or.inl (mem_news hnow))
    · exact List.mem_cons_of_mem place (ih hlater)

end Batch

/-! ## One unit among others -/

/-- The unit at place `i` of the batch `b` stands as the first of the batch `c` does. -/
structure Mirrors (b c : Batch h) (i : Nat) : Prop where
  now : b.progress.world.now = c.progress.world.now
  going : b.progress.stopped = false
  goingAlone : c.progress.stopped = false
  lane : b.lanes[i]? = c.lanes[0]?
  reports : b.reportsAt i = c.reportsAt 0

namespace Batch

variable {t : Transform h}

/-- A visit of another unit changes nothing about this one. -/
theorem mirrors_elsewhere (hclass : t.config.failureScope = .perClass) {b c : Batch h}
    {i place : Nat} (hplace : place ≠ i) (hm : Mirrors b c i) : Mirrors (b.visit t place) c i := by
  refine ⟨(now_visit t b place).trans hm.now, visit_perClass hclass hm.going place,
    hm.goingAlone, ?_, ?_⟩
  · rw [← hm.lane]
    rcases next_or_none b place with ⟨unit, visited, site, ahead, hl⟩ | hnone
    · rw [visit_of_next t hl]
      exact List.getElem?_set_ne hplace
    · rw [visit_of_none t hnone]
  · rw [← hm.reports]
    rcases next_or_none b place with ⟨unit, visited, site, ahead, hl⟩ | hnone
    · rw [visit_of_next t hl]
      have hother : ofPlace i [(place, (t.runSite b.progress unit site).2.2.2)] = [] :=
        ofPlace_elsewhere (by simpa using hplace)
      unfold reportsAt
      rw [ofPlace_append, hother, List.append_nil]
    · rw [visit_of_none t hnone]

/-- A visit of this unit does what a visit of the only unit does. -/
theorem mirrors_here (hclass : t.config.failureScope = .perClass) (ht : t.registry.Forgetful)
    {b c : Batch h} {i : Nat} (hm : Mirrors b c i) :
    Mirrors (b.visit t i) (c.visit t 0) i ∧
      (b.news t i).map (·.2) = (c.news t 0).map (·.2) := by
  have hnow : (b.visit t i).progress.world.now = (c.visit t 0).progress.world.now := by
    rw [now_visit, now_visit, hm.now]
  have hgoing := visit_perClass hclass hm.going i
  have hgoingAlone := visit_perClass hclass hm.goingAlone 0
  rcases next_or_none c 0 with ⟨unit, visited, site, ahead, hc⟩ | hnone
  · have hb : b.lanes[i]? = some ⟨unit, visited, site :: ahead⟩ := hm.lane.trans hc
    have hbPlace := (List.getElem?_eq_some_iff.mp hb).1
    have hcPlace := (List.getElem?_eq_some_iff.mp hc).1
    obtain ⟨hsame, fresh, hbNews, hcNews⟩ :=
      runSite_alike ht hm.now (hm.going.trans hm.goingAlone.symm) unit site
    refine ⟨⟨hnow, hgoing, hgoingAlone, ?_, ?_⟩, ?_⟩
    · rw [visit_of_next t hb, visit_of_next t hc]
      simp only [List.getElem?_set_self hbPlace, List.getElem?_set_self hcPlace, hsame]
    · have hreports := hm.reports
      unfold reportsAt at hreports ⊢
      rw [visit_of_next t hb, visit_of_next t hc]
      simp only [ofPlace_append, hreports, hsame, ofPlace_singleton]
    · unfold news
      rw [visit_of_next t hb, visit_of_next t hc]
      simp [received, hbNews, hcNews, Function.comp_def]
  · have hnone' : ∀ l, b.lanes[i]? = some l → l.ahead = [] := by
      rw [hm.lane]
      exact hnone
    unfold news
    rw [visit_of_none t hnone, visit_of_none t hnone']
    exact ⟨hm, by simp⟩

/-- Visits of all units in any order do to this one what so many visits of the only unit do. -/
theorem mirrors_visitAll (hclass : t.config.failureScope = .perClass)
    (ht : t.registry.Forgetful) {b c : Batch h} {i : Nat} (hm : Mirrors b c i)
    (places : List Nat) :
    Mirrors (b.visitAll t places) (c.visitAll t (List.replicate (places.count i) 0)) i ∧
      ofPlace i (b.newsAll t places) =
        (c.newsAll t (List.replicate (places.count i) 0)).map (·.2) := by
  induction places generalizing b c with
  | nil => exact ⟨hm, rfl⟩
  | cons place places ih =>
    by_cases hplace : place = i
    · subst hplace
      obtain ⟨hhere, hnews⟩ := mirrors_here hclass ht hm
      obtain ⟨hrest, hnewsRest⟩ := ih hhere
      rw [List.count_cons_self, List.replicate_succ]
      refine ⟨hrest, ?_⟩
      rw [newsAll, newsAll, ofPlace_append, List.map_append, hnewsRest, ← hnews,
        ofPlace_here (fun x hx => mem_news hx)]
    · obtain ⟨hrest, hnewsRest⟩ := ih (mirrors_elsewhere hclass hplace hm)
      rw [List.count_cons_of_ne hplace]
      refine ⟨hrest, ?_⟩
      rw [newsAll, ofPlace_append, hnewsRest,
        ofPlace_elsewhere (fun x hx => (mem_news hx).trans_ne hplace), List.nil_append]

end Batch

/-! ## Runs in any order -/

/-- What a run made of one job: the unit with its sites, their reports and their diagnostics. -/
structure JobResult (h : Host) where
  job : Job h
  reports : List SiteReport
  diagnostics : List Diagnostic

namespace Transform

/-- The diagnostics of a run along these places, each with the place of its unit. -/
def newsAlong (t : Transform h) (jobs : List (Job h)) (world : World h) (places : List Nat) :
    List (Nat × Diagnostic) :=
  (Batch.start ⟨world.logged (t.opening jobs), false⟩ jobs).newsAll t places

/-- The results of a run along these places, in job order. -/
def resultsAlong (t : Transform h) (jobs : List (Job h)) (world : World h)
    (places : List Nat) : List (JobResult h) :=
  (t.visiting jobs world places).lanes.mapIdx fun place lane =>
    ⟨lane.job, (t.visiting jobs world places).reportsAt place,
      ofPlace place (t.newsAlong jobs world places)⟩

/-- A run that visits the units at these places, one after the other. -/
def runAlong (t : Transform h) (jobs : List (Job h)) (world : World h) (places : List Nat) :
    World h × List (Job h) × Report :=
  let results := t.resultsAlong jobs world places
  let sites := results.flatMap (·.reports)
  ((t.visiting jobs world places).progress.world.logged (closing sites t.channel.runId),
    results.map (·.job), ⟨t.channel.runId, sites⟩)

section Results

variable (t : Transform h) (jobs : List (Job h)) (world : World h) (places : List Nat)

theorem getElem?_resultsAlong (place : Nat) :
    (t.resultsAlong jobs world places)[place]? =
      (t.visiting jobs world places).lanes[place]?.map fun lane =>
        ⟨lane.job, (t.visiting jobs world places).reportsAt place,
          ofPlace place (t.newsAlong jobs world places)⟩ := by
  simp [resultsAlong, List.getElem?_mapIdx]

theorem length_lanes : (t.visiting jobs world places).lanes.length = jobs.length :=
  (Batch.places_visitAll t _ jobs places).1

theorem length_resultsAlong : (t.resultsAlong jobs world places).length = jobs.length := by
  rw [resultsAlong, List.length_mapIdx, length_lanes]

theorem results_jobs :
    (t.resultsAlong jobs world places).map (·.job) = (t.visiting jobs world places).jobs := by
  refine List.ext_getElem? fun place => ?_
  rw [List.getElem?_map, getElem?_resultsAlong, Option.map_map]
  simp [Batch.jobs, Function.comp_def]

/-- What a result says about the place of its job alone, the results say in order. -/
theorem flatMap_resultsAlong {α : Type} (f : JobResult h → List α) (g : Nat → List α)
    (hfg : ∀ place (lane : Lane h), f ⟨lane.job, (t.visiting jobs world places).reportsAt place,
      ofPlace place (t.newsAlong jobs world places)⟩ = g place) :
    (t.resultsAlong jobs world places).flatMap f = (List.range jobs.length).flatMap g := by
  have hmap : (t.resultsAlong jobs world places).map f = (List.range jobs.length).map g := by
    refine List.ext_getElem? fun place => ?_
    rw [List.getElem?_map, getElem?_resultsAlong, Option.map_map, List.getElem?_map]
    rcases Nat.lt_or_ge place jobs.length with hlt | hge
    · rw [List.getElem?_range hlt, List.getElem?_eq_getElem (by rw [length_lanes]; exact hlt)]
      simp [hfg]
    · rw [List.getElem?_eq_none (by rw [length_lanes]; exact hge),
        List.getElem?_eq_none (by simpa using hge)]
      rfl
  rw [List.flatMap_def, List.flatMap_def, hmap]

theorem results_reports :
    (t.resultsAlong jobs world places).flatMap (·.reports) =
      (List.range jobs.length).flatMap (t.visiting jobs world places).reportsAt :=
  flatMap_resultsAlong t jobs world places (·.reports)
    (t.visiting jobs world places).reportsAt (fun _ _ => rfl)

theorem received_runAlong :
    t.channel.sink.received (t.runAlong jobs world places).1 =
      t.channel.sink.received world ++ (t.newsAlong jobs world places).map (·.2) := by
  have hall := Batch.received_visitAll t
    (Batch.start ⟨world.logged (t.opening jobs), false⟩ jobs) places
  rw [runAlong, received_logged _ _ _ rfl]
  refine hall.trans ?_
  rw [Batch.received, Batch.start, received_logged _ _ _ rfl]
  rfl

/-- What the sink was given is what the results hold, in another order. -/
theorem results_diagnostics (hplaces : places.Perm (inOrder jobs)) :
    ((t.newsAlong jobs world places).map (·.2)).Perm
      ((t.resultsAlong jobs world places).flatMap (·.diagnostics)) := by
  rw [flatMap_resultsAlong t jobs world places (·.diagnostics)
    (fun place => ofPlace place (t.newsAlong jobs world places)) (fun _ _ => rfl)]
  exact perm_flatMap_ofPlace jobs.length (fun x hx =>
    lt_of_perm_inOrder hplaces (Batch.mem_newsAll hx))

end Results

/-- The order of a run is one of those that it can take. -/
theorem run_eq_runAlong (t : Transform h) (jobs : List (Job h)) (world : World h) :
    t.run jobs world = t.runAlong jobs world (inOrder jobs) := by
  rw [run_eq_visiting, runAlong, results_jobs, results_reports, visiting,
    Batch.flatMap_reportsAt_inOrder]

/-! ## Each job as if alone -/

/-- A list that has at each place what `f` gives there is all that `f` gives. -/
theorem eq_flatMap_of_getElem? {α β : Type} {f : α → List β} {as : List α} {bs : List β}
    (hlen : bs.length = as.length)
    (hf : ∀ (i : Nat) a, as[i]? = some a → f a = bs[i]?.toList) : bs = as.flatMap f := by
  induction as generalizing bs with
  | nil => exact List.eq_nil_of_length_eq_zero hlen
  | cons a as ih =>
    cases bs with
    | nil => simp at hlen
    | cons b bs =>
      have hhead : f a = [b] := hf 0 a rfl
      have htail := @ih bs (by simpa using hlen) (fun i a' ha' => hf (i + 1) a' ha')
      rw [List.flatMap_cons, hhead, ← htail]
      rfl

section Alone

variable {t : Transform h} (hclass : t.config.failureScope = .perClass)
  (ht : t.registry.Forgetful) (world : World h)

include hclass ht

/-- In any order of the visits, the unit of a job stands as in the run over it alone. -/
theorem mirrors_alone {jobs : List (Job h)} {places : List Nat}
    (hplaces : places.Perm (inOrder jobs)) {place : Nat} {job : Job h}
    (hjob : jobs[place]? = some job) :
    Mirrors (t.visiting jobs world places) (t.visiting [job] world (inOrder [job])) place ∧
      ofPlace place (t.newsAlong jobs world places) =
        (t.newsAlong [job] world (inOrder [job])).map (·.2) := by
  have hstart : Mirrors (Batch.start ⟨world.logged (t.opening jobs), false⟩ jobs)
      (Batch.start ⟨world.logged (t.opening [job]), false⟩ [job]) place := by
    refine ⟨rfl, rfl, rfl, ?_, rfl⟩
    simp [Batch.start, hjob]
  have hall := Batch.mirrors_visitAll hclass ht hstart places
  have hcount : places.count place = job.sites.length := by
    have hinOrder := count_inOrderFrom 0 hjob
    rw [Nat.zero_add] at hinOrder
    rw [hplaces.count_eq]
    exact hinOrder
  have halone : inOrder [job] = List.replicate (places.count place) 0 := by
    rw [hcount]
    exact List.append_nil _
  rw [← halone] at hall
  exact hall

theorem result_eq_alone {jobs : List (Job h)} {places : List Nat}
    (hplaces : places.Perm (inOrder jobs)) {place : Nat} {job : Job h}
    (hjob : jobs[place]? = some job) :
    (t.resultsAlong jobs world places)[place]? =
      (t.resultsAlong [job] world (inOrder [job]))[0]? := by
  obtain ⟨hmirrors, hnews⟩ := mirrors_alone hclass ht world hplaces hjob
  have hown : ofPlace 0 (t.newsAlong [job] world (inOrder [job])) =
      (t.newsAlong [job] world (inOrder [job])).map (·.2) := by
    refine ofPlace_here fun x hx => ?_
    have hbounds := mem_inOrderFrom (Batch.mem_newsAll hx)
    simp only [List.length_singleton] at hbounds
    omega
  rw [getElem?_resultsAlong, getElem?_resultsAlong, hmirrors.lane, hmirrors.reports, hnews, hown]

/-- The results are those of each job alone, one after the other. -/
theorem resultsAlong_eq_alone {jobs : List (Job h)} {places : List Nat}
    (hplaces : places.Perm (inOrder jobs)) :
    t.resultsAlong jobs world places =
      jobs.flatMap fun job => t.resultsAlong [job] world (inOrder [job]) := by
  refine eq_flatMap_of_getElem? (length_resultsAlong t jobs world places) fun place job hjob => ?_
  rw [result_eq_alone hclass ht world hplaces hjob]
  obtain ⟨result, hresult⟩ := List.length_eq_one_iff.mp
    (length_resultsAlong t [job] world (inOrder [job]))
  rw [hresult]
  rfl

/-- The diagnostics of a job alone are those that bear its place. -/
theorem received_alone {jobs : List (Job h)} {places : List Nat}
    (hplaces : places.Perm (inOrder jobs)) {place : Nat} {job : Job h}
    (hjob : jobs[place]? = some job) :
    t.channel.sink.received (t.run [job] world).1 =
      t.channel.sink.received world ++ ofPlace place (t.newsAlong jobs world places) := by
  rw [(mirrors_alone hclass ht world hplaces hjob).2, run_eq_runAlong, received_runAlong]

end Alone

/-- No visit of a run per class is skipped. -/
theorem runAlong_not_skipped {t : Transform h} (hclass : t.config.failureScope = .perClass)
    (jobs : List (Job h)) (world : World h) (places : List Nat) :
    ∀ r ∈ (t.runAlong jobs world places).2.2.sites, r.outcome ≠ .skipped := by
  intro r hr
  change r ∈ (t.resultsAlong jobs world places).flatMap (·.reports) at hr
  rw [results_reports] at hr
  obtain ⟨place, -, hat⟩ := List.mem_flatMap.mp hr
  obtain ⟨x, hx, rfl⟩ := List.mem_map.mp hat
  exact Batch.visitAll_reports (P := fun p => p.stopped = false)
    (Q := fun r => r.outcome ≠ .skipped)
    (fun _ _ _ hp => ⟨runSite_perClass hclass hp, runSite_not_skipped hp⟩) rfl jobs places x
    (List.mem_filter.mp hx).1

end Transform

/-! ## The order of the visits -/

/-- What a run along these places leaves is made of what each job leaves alone, and so is what
a run in job order leaves. -/
structure JobByJob (t : Transform h) (jobs : List (Job h)) (world : World h)
    (places : List Nat) : Prop where
  units : (t.runAlong jobs world places).2.1 = jobs.flatMap fun job => (t.run [job] world).2.1
  reports : (t.runAlong jobs world places).2.2.sites =
    jobs.flatMap fun job => (t.run [job] world).2.2.sites
  /-- What the sink is given bears the places of the jobs. -/
  received : t.channel.sink.received (t.runAlong jobs world places).1 =
    t.channel.sink.received world ++ (t.newsAlong jobs world places).map (·.2)
  placed : ∀ x ∈ t.newsAlong jobs world places, x.1 < jobs.length
  /-- A job has the same diagnostics alone, in the same order. -/
  diagnostics : ∀ place job, jobs[place]? = some job →
    t.channel.sink.received (t.run [job] world).1 =
      t.channel.sink.received world ++ ofPlace place (t.newsAlong jobs world places)
  sequential : (t.runAlong jobs world places).2 = (t.run jobs world).2
  sameDiagnostics : (t.channel.sink.received (t.runAlong jobs world places).1).Perm
    (t.channel.sink.received (t.run jobs world).1)
  started : ∀ r ∈ (t.runAlong jobs world places).2.2.sites, r.outcome ≠ .skipped

section Order

variable {t : Transform h} (hclass : t.config.failureScope = .perClass)
  (ht : t.registry.Forgetful) (world : World h)

include hclass ht

theorem resultsAlong_perm {jobs jobs' : List (Job h)} {places places' : List Nat}
    (hplaces : places.Perm (inOrder jobs)) (hplaces' : places'.Perm (inOrder jobs'))
    (hjobs : jobs'.Perm jobs) :
    (t.resultsAlong jobs' world places').Perm (t.resultsAlong jobs world places) := by
  rw [Transform.resultsAlong_eq_alone hclass ht world hplaces,
    Transform.resultsAlong_eq_alone hclass ht world hplaces']
  exact hjobs.flatMap_right _

theorem received_perm {jobs jobs' : List (Job h)} {places places' : List Nat}
    (hplaces : places.Perm (inOrder jobs)) (hplaces' : places'.Perm (inOrder jobs'))
    (hjobs : jobs'.Perm jobs) :
    (t.channel.sink.received (t.runAlong jobs' world places').1).Perm
      (t.channel.sink.received (t.runAlong jobs world places).1) := by
  have hresults := resultsAlong_perm hclass ht world hplaces hplaces' hjobs
  rw [Transform.received_runAlong, Transform.received_runAlong]
  refine List.Perm.append_left _ ?_
  refine (Transform.results_diagnostics t jobs' world places' hplaces').trans ?_
  refine (hresults.flatMap_right _).trans ?_
  exact (Transform.results_diagnostics t jobs world places hplaces).symm

theorem jobByJob {jobs : List (Job h)} {places : List Nat}
    (hplaces : places.Perm (inOrder jobs)) : JobByJob t jobs world places := by
  have halone := Transform.resultsAlong_eq_alone hclass ht world hplaces
  have hsame : t.resultsAlong jobs world places = t.resultsAlong jobs world (inOrder jobs) :=
    halone.trans (Transform.resultsAlong_eq_alone hclass ht world (List.Perm.refl _)).symm
  refine ⟨?_, ?_, Transform.received_runAlong t jobs world places, ?_, ?_, ?_, ?_,
    Transform.runAlong_not_skipped hclass jobs world places⟩
  · simp only [Transform.run_eq_runAlong, Transform.runAlong, halone, List.map_flatMap]
  · simp only [Transform.run_eq_runAlong, Transform.runAlong, halone, List.flatMap_assoc]
  · exact fun x hx => lt_of_perm_inOrder hplaces (Batch.mem_newsAll hx)
  · exact fun place job hjob => Transform.received_alone hclass ht world hplaces hjob
  · rw [Transform.run_eq_runAlong]
    unfold Transform.runAlong
    rw [hsame]
  · rw [Transform.run_eq_runAlong]
    exact received_perm hclass ht world (List.Perm.refl _) hplaces (List.Perm.refl _)

end Order

/-! ## Scripts -/

namespace Scripted

theorem perform_call (act : Act) (hact : ∀ n, act ≠ .failOnCall n) (call call' : Nat)
    (u : SourceUnit) (c : Class) : act.perform call u c = act.perform call' u c := by
  cases act with
  | failOnCall n => exact absurd rfl (hact n)
  | record _ => rfl
  | fail _ => rfl
  | renameClass _ => rfl
  | renameUnit _ => rfl
  | setInterface _ => rfl
  | failIfInjected _ => rfl
  | failIfTouched _ => rfl

theorem performAll_call {script : List Act} (hscript : ∀ n, .failOnCall n ∉ script)
    (call call' : Nat) (u : SourceUnit) (c : Class) :
    performAll call u c script = performAll call' u c script := by
  induction script generalizing u c with
  | nil => rfl
  | cons act acts ih =>
    have hact := perform_call act
      (fun n hn => hscript n (List.mem_cons.mpr (Or.inl hn.symm))) call call' u c
    have hrest := ih (fun n hn => hscript n (List.mem_cons_of_mem act hn))
    simp only [performAll, hact, hrest]

/-- An injector counts its calls, but only an act that asks for the count can tell. -/
theorem forgetful_injector (name : String) (capability : Capability) {script : List Act}
    (hscript : ∀ n, .failOnCall n ∉ script) :
    Descriptor.Forgetful ⟨name, capability, injector name script⟩ := by
  intro calls calls' u c
  have hsame := performAll_call hscript (calls name + 1) (calls' name + 1) u c
  simp only [injector]
  rw [hsame]

/-- Two injectors. The second fails from the second class of a unit on. -/
def guarded : Transform host where
  registry := ⟨[⟨"label", .universal, injector "label" [.record "label"]⟩,
    ⟨"guard", .universal, injector "guard" [.failIfTouched 2]⟩], by decide⟩
  config := .standard
  channel := ⟨.memory, ⟨0⟩⟩

/-- A marked class of this name. -/
def marked (name : String) : Site host :=
  ⟨⟨"Artefact", [("value", .literal "Controller")]⟩, .ofClass ⟨name, false, []⟩⟩

def twoUnits : List (Job host) :=
  [⟨⟨"first", 0⟩, [marked "A", marked "B"]⟩, ⟨⟨"second", 0⟩, [marked "C", marked "D"]⟩]

end Scripted

/-! ## The law -/

/-- Let the injectors keep nothing between calls, and let each unit's sites be visited in their
order. Then it does not matter how the visits of different units are ordered: each job has the
results that it has alone. Other orders of the jobs bring the same results in their order. -/
theorem the_order_of_visits_does_not_matter (t : Transform h)
    (hclass : t.config.failureScope = .perClass) (ht : t.registry.Forgetful)
    (jobs : List (Job h)) (world : World h) (places : List Nat)
    (hplaces : places.Perm (inOrder jobs)) :
    JobByJob t jobs world places ∧
    ∀ jobs' places', jobs'.Perm jobs → places'.Perm (inOrder jobs') →
      (t.resultsAlong jobs' world places').Perm (t.resultsAlong jobs world places) ∧
      (∀ i j : Nat, jobs'[i]? = jobs[j]? →
        (t.resultsAlong jobs' world places')[i]? = (t.resultsAlong jobs world places)[j]?) ∧
      (t.channel.sink.received (t.runAlong jobs' world places').1).Perm
        (t.channel.sink.received (t.runAlong jobs world places).1) := by
  refine ⟨jobByJob hclass ht world hplaces, fun jobs' places' hjobs hplaces' => ⟨?_, ?_, ?_⟩⟩
  · exact resultsAlong_perm hclass ht world hplaces hplaces' hjobs
  · intro i j hij
    rcases hj : jobs[j]? with _ | job
    · rw [hj] at hij
      rw [List.getElem?_eq_none, List.getElem?_eq_none]
      · rw [Transform.length_resultsAlong]
        exact List.getElem?_eq_none_iff.mp hj
      · rw [Transform.length_resultsAlong]
        exact List.getElem?_eq_none_iff.mp hij
    · rw [Transform.result_eq_alone hclass ht world hplaces' (hij.trans hj),
        Transform.result_eq_alone hclass ht world hplaces hj]
  · exact received_perm hclass ht world hplaces hplaces' hjobs

/-- The second unit before the first: the diagnostics come in another order than in a run. -/
theorem two_units_in_another_order :
    [1, 1, 0, 0].Perm (inOrder Scripted.twoUnits) ∧
      (Scripted.guarded.newsAlong Scripted.twoUnits Scripted.world [1, 1, 0, 0]).map (·.1) =
        [1, 0] ∧
      JobByJob Scripted.guarded Scripted.twoUnits Scripted.world [1, 1, 0, 0] := by
  have hforget : Scripted.guarded.registry.Forgetful := by
    intro d hd
    simp only [Scripted.guarded, List.mem_cons, List.not_mem_nil, or_false] at hd
    rcases hd with rfl | rfl
    · exact Scripted.forgetful_injector _ _ (by simp)
    · exact Scripted.forgetful_injector _ _ (by simp)
  have horder : [1, 1, 0, 0].Perm (inOrder Scripted.twoUnits) := by decide
  refine ⟨horder, by decide, ?_⟩
  exact (the_order_of_visits_does_not_matter Scripted.guarded rfl hforget Scripted.twoUnits
    Scripted.world [1, 1, 0, 0] horder).1

end MarkerInjection
