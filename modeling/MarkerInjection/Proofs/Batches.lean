-- A run seen site by site. A batch holds the units under way; one visit takes
-- the next site of one unit, and an order of visits is a list of places of
-- units. The order of a run is one of them: all sites of the first unit, then
-- all of the second, and so on.
import MarkerInjection.Proofs.Traces
import MarkerInjection.Proofs.Visits

namespace MarkerInjection

variable {h : Host}

/-! ## Lists with places -/

/-- What stands in a list for one place, in the order of the list. -/
def ofPlace {α : Type} (place : Nat) (xs : List (Nat × α)) : List α :=
  (xs.filter (·.1 = place)).map (·.2)

section Places

variable {α : Type}

theorem ofPlace_append (place : Nat) (xs ys : List (Nat × α)) :
    ofPlace place (xs ++ ys) = ofPlace place xs ++ ofPlace place ys := by
  simp [ofPlace]

theorem ofPlace_here {place : Nat} {xs : List (Nat × α)} (hxs : ∀ x ∈ xs, x.1 = place) :
    ofPlace place xs = xs.map (·.2) := by
  unfold ofPlace
  rw [List.filter_eq_self.mpr (by simpa using hxs)]

theorem ofPlace_singleton (place : Nat) (a : α) : ofPlace place [(place, a)] = [a] :=
  ofPlace_here (by simp)

theorem ofPlace_elsewhere {place : Nat} {xs : List (Nat × α)} (hxs : ∀ x ∈ xs, x.1 ≠ place) :
    ofPlace place xs = [] := by
  unfold ofPlace
  rw [List.filter_eq_nil_iff.mpr (by simpa using hxs), List.map_nil]

theorem zip_replicate_left (place : Nat) (xs : List α) :
    (List.replicate xs.length place).zip xs = xs.map fun x => (place, x) := by
  induction xs with
  | nil => rfl
  | cons r xs ih => simp [List.replicate_succ, ih]

/-- Sorted by place, a list keeps what stands in it. -/
theorem perm_flatMap_ofPlace (n : Nat) {xs : List (Nat × α)} (hxs : ∀ x ∈ xs, x.1 < n) :
    (xs.map (·.2)).Perm ((List.range n).flatMap fun place => ofPlace place xs) := by
  induction n generalizing xs with
  | zero =>
    obtain rfl : xs = [] := List.eq_nil_iff_forall_not_mem.mpr
      (fun x hx => absurd (hxs x hx) (by omega))
    simp
  | succ n ih =>
    have hsplit := (List.filter_append_perm (fun x : Nat × α => decide (x.1 < n)) xs).symm.map (·.2)
    rw [List.map_append] at hsplit
    have hlow : ((xs.filter (fun x => decide (x.1 < n))).map (·.2)).Perm
        ((List.range n).flatMap fun place => ofPlace place xs) := by
      have hfiltered := @ih (xs.filter (fun x => decide (x.1 < n))) (by simp)
      refine hfiltered.trans (List.Perm.of_eq (List.flatMap_congr fun place hplace => ?_))
      have hlt := List.mem_range.mp hplace
      rw [ofPlace, ofPlace, List.filter_filter]
      congr 1
      refine List.filter_congr fun x _ => ?_
      by_cases hx : x.1 = place
      · simp [hx, hlt]
      · simp [hx]
    have hhigh : xs.filter (fun x => !decide (x.1 < n)) = xs.filter (·.1 = n) := by
      refine List.filter_congr fun x hx => ?_
      have hlt := hxs x hx
      by_cases hn : x.1 = n
      · simp [hn]
      · simp [hn]
        omega
    rw [hhigh] at hsplit
    rw [List.range_succ, List.flatMap_append, List.flatMap_singleton]
    exact hsplit.trans (hlow.append_right _)

end Places

/-! ## Units under way -/

/-- A unit under way: the sites that were visited and those to come. -/
structure Lane (h : Host) where
  unit : h.SourceUnit
  visited : List (Site h)
  ahead : List (Site h)

namespace Lane

/-- A unit that no one has visited yet. -/
def ofJob (j : Job h) : Lane h := ⟨j.unit, [], j.sites⟩

/-- A unit with no site to come. -/
def done (j : Job h) : Lane h := ⟨j.unit, j.sites, []⟩

/-- The unit with all its sites. -/
def job (l : Lane h) : Job h := ⟨l.unit, l.visited ++ l.ahead⟩

/-- The unit with the sites to come. -/
def rest (l : Lane h) : Job h := ⟨l.unit, l.ahead⟩

end Lane

/-- Units under way, each at its place. -/
structure Batch (h : Host) where
  progress : Progress h
  lanes : List (Lane h)
  /-- The reports in the order of the visits, each with the place of its unit. -/
  history : List (Nat × SiteReport)

namespace Batch

/-- The batch before the first visit. -/
def start (p : Progress h) (jobs : List (Job h)) : Batch h := ⟨p, jobs.map Lane.ofJob, []⟩

/-- The units with their sites, as they stand. -/
def jobs (b : Batch h) : List (Job h) := b.lanes.map Lane.job

/-- The units with their sites to come. -/
def rest (b : Batch h) : List (Job h) := b.lanes.map Lane.rest

/-- The reports of the unit at a place, in the order of its visits. -/
def reportsAt (b : Batch h) (place : Nat) : List SiteReport :=
  ofPlace place b.history

/-- Visits the next site of the unit at a place, if there is one. -/
def visit (t : Transform h) (b : Batch h) (place : Nat) : Batch h :=
  match b.lanes[place]? with
  | some ⟨unit, visited, site :: ahead⟩ =>
    let (p, unit, site, report) := t.runSite b.progress unit site
    ⟨p, b.lanes.set place ⟨unit, visited ++ [site], ahead⟩, b.history ++ [(place, report)]⟩
  | _ => b

/-- Visits the next sites of the units at these places, one after the other. -/
def visitAll (t : Transform h) (b : Batch h) (places : List Nat) : Batch h :=
  places.foldl (visit t) b

theorem visitAll_append (t : Transform h) (b : Batch h) (ps qs : List Nat) :
    b.visitAll t (ps ++ qs) = (b.visitAll t ps).visitAll t qs := List.foldl_append

theorem visitAll_take_succ (t : Transform h) (b : Batch h) {places : List Nat} {k : Nat}
    (hk : k < places.length) :
    b.visitAll t (places.take (k + 1)) = (b.visitAll t (places.take k)).visit t places[k] := by
  rw [List.take_succ_eq_append_getElem hk, visitAll_append]
  rfl

/-- What every visit preserves, an order of visits preserves. -/
theorem visitAll_preserves {P : Batch h → Prop} (t : Transform h)
    (hvisit : ∀ b place, P b → P (b.visit t place)) {b : Batch h} (hb : P b)
    (places : List Nat) : P (b.visitAll t places) := by
  induction places generalizing b with
  | nil => exact hb
  | cons place places ih => exact ih (hvisit b place hb)

theorem visit_of_next (t : Transform h) {b : Batch h} {place : Nat} {unit : h.SourceUnit}
    {visited ahead : List (Site h)} {site : Site h}
    (hl : b.lanes[place]? = some ⟨unit, visited, site :: ahead⟩) :
    b.visit t place =
      let step := t.runSite b.progress unit site
      ⟨step.1, b.lanes.set place ⟨step.2.1, visited ++ [step.2.2.1], ahead⟩,
        b.history ++ [(place, step.2.2.2)]⟩ := by
  simp only [visit, hl]

/-- Where no site is to come, a visit does nothing. -/
theorem visit_of_none (t : Transform h) {b : Batch h} {place : Nat}
    (hl : ∀ l, b.lanes[place]? = some l → l.ahead = []) : b.visit t place = b := by
  unfold visit
  split
  · rename_i hs
    exact absurd (hl _ hs) (by simp)
  · rfl

/-- At a place there is a next site or there is none. -/
theorem next_or_none (b : Batch h) (place : Nat) :
    (∃ unit visited site ahead, b.lanes[place]? = some ⟨unit, visited, site :: ahead⟩) ∨
      ∀ l, b.lanes[place]? = some l → l.ahead = [] := by
  rcases hl : b.lanes[place]? with _ | ⟨unit, visited, ahead⟩
  · exact Or.inr (by simp)
  · cases ahead with
    | nil => exact Or.inr (by simp)
    | cons site ahead => exact Or.inl ⟨unit, visited, site, ahead, rfl⟩

section Keeps

variable {t : Transform h} {P : Progress h → Prop}

/-- What the progress keeps at every site, it keeps at a visit. -/
theorem visit_keeps (hstep : ∀ p unit site, P p → P (t.runSite p unit site).1) {b : Batch h}
    (hb : P b.progress) (place : Nat) : P (b.visit t place).progress := by
  rcases next_or_none b place with ⟨unit, visited, site, ahead, hl⟩ | hnone
  · rw [visit_of_next t hl]
    exact hstep b.progress unit site hb
  · rw [visit_of_none t hnone]
    exact hb

/-- What holds of the report of every site holds of all reports. -/
theorem visitAll_reports {Q : SiteReport → Prop}
    (hstep : ∀ p unit site, P p → P (t.runSite p unit site).1 ∧ Q (t.runSite p unit site).2.2.2)
    {p : Progress h} (hp : P p) (jobs : List (Job h)) (places : List Nat) :
    ∀ x ∈ ((start p jobs).visitAll t places).history, Q x.2 := by
  have hvisit (b : Batch h) (place : Nat) (hb : P b.progress ∧ ∀ x ∈ b.history, Q x.2) :
      P (b.visit t place).progress ∧ ∀ x ∈ (b.visit t place).history, Q x.2 := by
    refine ⟨visit_keeps (fun p unit site hp => (hstep p unit site hp).1) hb.1 place, ?_⟩
    rcases next_or_none b place with ⟨unit, visited, site, ahead, hl⟩ | hnone
    · rw [visit_of_next t hl]
      intro x hx
      rcases List.mem_append.mp hx with hold | hnew
      · exact hb.2 x hold
      · obtain rfl := List.mem_singleton.mp hnew
        exact (hstep b.progress unit site hb.1).2
    · rw [visit_of_none t hnone]
      exact hb.2
  exact (visitAll_preserves t hvisit ⟨hp, by simp [start]⟩ places).2

/-- In a run per class nothing sets the flag. -/
theorem visit_perClass (ht : t.config.failureScope = .perClass) {b : Batch h}
    (hb : b.progress.stopped = false) (place : Nat) :
    (b.visit t place).progress.stopped = false :=
  visit_keeps (P := fun p => p.stopped = false)
    (fun _ _ _ hp => Transform.runSite_perClass ht hp) hb place

theorem now_visit (t : Transform h) (b : Batch h) (place : Nat) :
    (b.visit t place).progress.world.now = b.progress.world.now :=
  visit_keeps (P := fun p => p.world.now = b.progress.world.now)
    (fun _ unit site hp => lasting_runSite (lasting_now _) t unit site hp) rfl place

end Keeps

end Batch

/-! ## The order of a run -/

/-- Each place as often as its unit has sites, from the given place on. -/
def inOrderFrom (place : Nat) : List (Job h) → List Nat
  | [] => []
  | job :: jobs => List.replicate job.sites.length place ++ inOrderFrom (place + 1) jobs

/-- The places of the units, in the order in which a run visits their sites. -/
def inOrder (jobs : List (Job h)) : List Nat := inOrderFrom 0 jobs

theorem inOrderFrom_append (place : Nat) (js ks : List (Job h)) :
    inOrderFrom place (js ++ ks) =
      inOrderFrom place js ++ inOrderFrom (place + js.length) ks := by
  induction js generalizing place with
  | nil => rfl
  | cons j js ih =>
    rw [List.cons_append, inOrderFrom, inOrderFrom, ih, List.append_assoc, List.length_cons,
      Nat.add_assoc, Nat.add_comm 1]

theorem mem_inOrderFrom {start place : Nat} {jobs : List (Job h)}
    (hplace : place ∈ inOrderFrom start jobs) :
    start ≤ place ∧ place < start + jobs.length := by
  induction jobs generalizing start with
  | nil => simp [inOrderFrom] at hplace
  | cons job jobs ih =>
    rw [List.length_cons]
    rcases List.mem_append.mp hplace with hhere | hthere
    · have heq := List.eq_of_mem_replicate hhere
      omega
    · have hbounds := ih hthere
      omega

theorem lt_of_perm_inOrder {places : List Nat} {jobs : List (Job h)}
    (hplaces : places.Perm (inOrder jobs)) {place : Nat} (hplace : place ∈ places) :
    place < jobs.length := by
  have hbounds := mem_inOrderFrom (hplaces.mem_iff.mp hplace)
  omega

/-- Each place stands in the order as often as its unit has sites. -/
theorem count_inOrderFrom (start : Nat) {jobs : List (Job h)} {place : Nat} {job : Job h}
    (hjob : jobs[place]? = some job) :
    (inOrderFrom start jobs).count (start + place) = job.sites.length := by
  induction jobs generalizing start place with
  | nil => simp at hjob
  | cons first jobs ih =>
    rw [inOrderFrom, List.count_append, List.count_replicate]
    cases place with
    | zero =>
      obtain rfl : first = job := by simpa using hjob
      have hnone : (inOrderFrom (start + 1) jobs).count (start + 0) = 0 := by
        refine List.count_eq_zero.mpr fun hmem => ?_
        have hbounds := mem_inOrderFrom hmem
        omega
      rw [hnone]
      simp
    | succ place =>
      have hrest := @ih (start + 1) place (by simpa using hjob)
      rw [show start + 1 + place = start + (place + 1) by omega] at hrest
      rw [hrest]
      simp

/-- Reports that are written in order are in job order. -/
theorem flatMap_ofPlace_inOrderFrom (start : Nat) (jobs : List (Job h)) {rs : List SiteReport}
    (hlen : rs.length = (inOrderFrom start jobs).length) :
    (List.range' start jobs.length).flatMap
      (fun place => ofPlace place ((inOrderFrom start jobs).zip rs)) = rs := by
  induction jobs generalizing start rs with
  | nil =>
    obtain rfl : rs = [] := List.eq_nil_of_length_eq_zero hlen
    rfl
  | cons job jobs ih =>
    obtain ⟨own, rest, rfl, hown⟩ : ∃ own rest, rs = own ++ rest ∧
        own.length = job.sites.length := by
      refine ⟨rs.take job.sites.length, rs.drop job.sites.length, by simp, ?_⟩
      rw [inOrderFrom, List.length_append, List.length_replicate] at hlen
      rw [List.length_take]
      omega
    have hrest : rest.length = (inOrderFrom (start + 1) jobs).length := by
      rw [inOrderFrom, List.length_append, List.length_append, List.length_replicate] at hlen
      omega
    rw [inOrderFrom, ← hown, List.zip_append (by simp), zip_replicate_left, List.length_cons,
      List.range'_succ, List.flatMap_cons]
    have hhead : ofPlace start (own.map (fun r => (start, r)) ++
        (inOrderFrom (start + 1) jobs).zip rest) = own := by
      rw [ofPlace_append, ofPlace_here (by simp), ofPlace_elsewhere]
      · simp [Function.comp_def]
      · intro x hx
        have hbounds := mem_inOrderFrom (List.of_mem_zip (a := x.1) (b := x.2) hx).1
        omega
    have htail : (List.range' (start + 1) jobs.length).flatMap (fun place =>
        ofPlace place (own.map (fun r => (start, r)) ++
          (inOrderFrom (start + 1) jobs).zip rest)) = rest := by
      refine (List.flatMap_congr fun place hplace => ?_).trans (ih (start + 1) hrest)
      have hlater := (List.mem_range'_1.mp hplace).1
      rw [ofPlace_append, ofPlace_elsewhere, List.nil_append]
      intro x hx
      obtain ⟨r, -, rfl⟩ := List.mem_map.mp hx
      simp only
      omega
    rw [hhead, htail]

namespace Batch

/-- All sites of one unit, among others that stay as they are. -/
theorem visitAll_lane (t : Transform h) (p : Progress h) (pre post : List (Lane h))
    (unit : h.SourceUnit) (visited sites : List (Site h)) (history : List (Nat × SiteReport)) :
    (⟨p, pre ++ ⟨unit, visited, sites⟩ :: post, history⟩ : Batch h).visitAll t
        (List.replicate sites.length pre.length) =
      let run := t.runSites p unit sites
      ⟨run.1, pre ++ ⟨run.2.1, visited ++ run.2.2.1, []⟩ :: post,
        history ++ run.2.2.2.map fun r => (pre.length, r)⟩ := by
  induction sites generalizing p unit visited history with
  | nil => simp [visitAll, Transform.runSites]
  | cons site sites ih =>
    have hl : (pre ++ ⟨unit, visited, site :: sites⟩ :: post)[pre.length]? =
        some ⟨unit, visited, site :: sites⟩ := by simp
    unfold visitAll at ih ⊢
    rw [List.length_cons, List.replicate_succ, List.foldl_cons, visit_of_next t hl]
    simp only [List.set_append_right _ _ (Nat.le_refl _), Nat.sub_self, List.set_cons_zero]
    rw [ih]
    simp [Transform.runSites]

theorem length_runSites (t : Transform h) (p : Progress h) (unit : h.SourceUnit)
    (sites : List (Site h)) : (t.runSites p unit sites).2.2.2.length = sites.length := by
  induction sites generalizing p unit with
  | nil => rfl
  | cons site sites ih => simp [Transform.runSites, ih]

theorem length_runJobs (t : Transform h) (p : Progress h) (place : Nat) (jobs : List (Job h)) :
    (t.runJobs p jobs).2.2.length = (inOrderFrom place jobs).length := by
  induction jobs generalizing p place with
  | nil => rfl
  | cons job jobs ih =>
    simp [Transform.runJobs, Transform.runJob, inOrderFrom, length_runSites, ih _ (place + 1)]

/-- All sites of the units to come, after those before them are done. -/
theorem visitAll_inOrderFrom (t : Transform h) (p : Progress h) (pre : List (Lane h))
    (jobs : List (Job h)) (history : List (Nat × SiteReport)) :
    (⟨p, pre ++ jobs.map Lane.ofJob, history⟩ : Batch h).visitAll t
        (inOrderFrom pre.length jobs) =
      let run := t.runJobs p jobs
      ⟨run.1, pre ++ run.2.1.map Lane.done,
        history ++ (inOrderFrom pre.length jobs).zip run.2.2⟩ := by
  induction jobs generalizing p pre history with
  | nil => simp [visitAll, inOrderFrom, Transform.runJobs]
  | cons job jobs ih =>
    have hlane := visitAll_lane t p pre (jobs.map Lane.ofJob) job.unit [] job.sites history
    have hreports := length_runSites t p job.unit job.sites
    generalize hr : t.runSites p job.unit job.sites = run at hlane hreports
    obtain ⟨q, unit, sites, reports⟩ := run
    have hrest := ih q (pre ++ [Lane.done ⟨unit, sites⟩])
      (history ++ reports.map fun r => (pre.length, r))
    simp only [List.length_append, List.length_singleton, List.append_assoc,
      List.singleton_append] at hrest
    simp only [List.nil_append] at hlane
    rw [inOrderFrom, visitAll_append, List.map_cons, Lane.ofJob, hlane]
    simp only [Lane.done] at hrest ⊢
    rw [hrest]
    simp only [Transform.runJobs, Transform.runJob, hr]
    rw [List.zip_append (by simp [hreports]), ← hreports, zip_replicate_left]
    simp [Lane.done]

/-- A run is the visit of all sites in order: with the same progress, the same units and sites,
and the same reports. -/
theorem runJobs_eq_visitAll (t : Transform h) (p : Progress h) (jobs : List (Job h)) :
    let b := (start p jobs).visitAll t (inOrder jobs)
    t.runJobs p jobs = (b.progress, b.jobs, b.history.map (·.2)) := by
  have hall := visitAll_inOrderFrom t p [] jobs []
  simp only [List.nil_append, List.length_nil] at hall
  simp only [start, inOrder, hall, Batch.jobs, List.map_map]
  rw [List.map_snd_zip (Nat.le_of_eq (length_runJobs t p 0 jobs))]
  have hdone : (Lane.job ∘ Lane.done : Job h → Job h) = id := by
    funext j
    simp [Lane.job, Lane.done]
  rw [hdone, List.map_id]

/-! ## The history -/

theorem history_visit (t : Transform h) (b : Batch h) (place : Nat) :
    b.history <+: (b.visit t place).history ∧
      (b.visit t place).history.length ≤ b.history.length + 1 := by
  rcases next_or_none b place with ⟨unit, visited, site, ahead, hl⟩ | hnone
  · rw [visit_of_next t hl]
    simp
  · rw [visit_of_none t hnone]
    simp

/-- A visit takes back no report and writes one at most. -/
theorem history_visitAll (t : Transform h) (b : Batch h) (places : List Nat) :
    b.history <+: (b.visitAll t places).history ∧
      (b.visitAll t places).history.length ≤ b.history.length + places.length := by
  induction places generalizing b with
  | nil => simp [visitAll]
  | cons place places ih =>
    obtain ⟨hone, hlen⟩ := history_visit t b place
    obtain ⟨hrest, hlens⟩ := ih (b.visit t place)
    refine ⟨hone.trans hrest, ?_⟩
    simp only [visitAll, List.foldl_cons, List.length_cons] at hlens ⊢
    omega

theorem length_history_inOrder (t : Transform h) (p : Progress h) (jobs : List (Job h)) :
    ((start p jobs).visitAll t (inOrder jobs)).history.length = (inOrder jobs).length := by
  have hreports := length_runJobs t p 0 jobs
  rw [runJobs_eq_visitAll, List.length_map] at hreports
  exact hreports

/-- After the first `n` sites in order, the history is that of all sites, cut after `n`. -/
theorem history_take (t : Transform h) (p : Progress h) (jobs : List (Job h)) {n : Nat}
    (hn : n ≤ (inOrder jobs).length) :
    ((start p jobs).visitAll t ((inOrder jobs).take n)).history =
      ((start p jobs).visitAll t (inOrder jobs)).history.take n := by
  have hsplit := visitAll_append t (start p jobs) ((inOrder jobs).take n) ((inOrder jobs).drop n)
  rw [List.take_append_drop] at hsplit
  have hfirst := (history_visitAll t (start p jobs) ((inOrder jobs).take n)).2
  have hrest := history_visitAll t ((start p jobs).visitAll t ((inOrder jobs).take n))
    ((inOrder jobs).drop n)
  rw [← hsplit, length_history_inOrder, List.length_drop] at hrest
  have hlen : ((start p jobs).visitAll t ((inOrder jobs).take n)).history.length = n := by
    simp only [start, List.length_nil, List.length_take] at hfirst
    have := hrest.2
    simp only [start] at this ⊢
    omega
  have hearlier := List.prefix_iff_eq_take.mp hrest.1
  rw [hlen] at hearlier
  exact hearlier

/-- No unit comes or goes, and each report has the place of a unit. -/
theorem places_visitAll (t : Transform h) (p : Progress h) (jobs : List (Job h))
    (places : List Nat) :
    ((start p jobs).visitAll t places).lanes.length = jobs.length ∧
      ∀ x ∈ ((start p jobs).visitAll t places).history, x.1 < jobs.length := by
  refine visitAll_preserves (P := fun b : Batch h => b.lanes.length = jobs.length ∧
    ∀ x ∈ b.history, x.1 < jobs.length) t ?_ (by simp [start]) places
  rintro b place ⟨hlen, hhistory⟩
  rcases next_or_none b place with ⟨unit, visited, site, ahead, hl⟩ | hnone
  · rw [visit_of_next t hl]
    have hplace := (List.getElem?_eq_some_iff.mp hl).1
    refine ⟨by simpa using hlen, fun x hx => ?_⟩
    rcases List.mem_append.mp hx with hold | hnew
    · exact hhistory x hold
    · obtain rfl := List.mem_singleton.mp hnew
      exact hlen ▸ hplace
  · rw [visit_of_none t hnone]
    exact ⟨hlen, hhistory⟩

/-! ## The sites to come -/

theorem rest_start (p : Progress h) (jobs : List (Job h)) : (start p jobs).rest = jobs := by
  simp [start, rest, Lane.rest, Lane.ofJob, Function.comp_def]

/-- The next place in order is that of the first unit with a site to come. -/
theorem next_inOrderFrom (start : Nat) {place : Nat} {places : List Nat} {lanes : List (Lane h)}
    (hnext : inOrderFrom start (lanes.map Lane.rest) = place :: places) :
    ∃ pre unit visited site ahead post,
      lanes = pre ++ ⟨unit, visited, site :: ahead⟩ :: post ∧ place = start + pre.length ∧
        ∀ l ∈ pre, l.ahead = [] := by
  induction lanes generalizing start with
  | nil => simp [inOrderFrom] at hnext
  | cons l lanes ih =>
    obtain ⟨unit, visited, ahead⟩ := l
    cases ahead with
    | nil =>
      obtain ⟨pre, unit', visited', site, ahead, post, rfl, rfl, hpre⟩ := ih (start + 1)
        (by simpa [inOrderFrom, Lane.rest] using hnext)
      refine ⟨⟨unit, visited, []⟩ :: pre, unit', visited', site, ahead, post, rfl, ?_, ?_⟩
      · rw [List.length_cons]
        omega
      · simpa using hpre
    | cons site ahead =>
      refine ⟨[], unit, visited, site, ahead, lanes, rfl, ?_, by simp⟩
      have hhead := congrArg List.head? hnext
      simp [inOrderFrom, Lane.rest, List.replicate_succ] at hhead
      simpa using hhead.symm

theorem inOrderFrom_of_done (place : Nat) {lanes : List (Lane h)}
    (hdone : ∀ l ∈ lanes, l.ahead = []) : inOrderFrom place (lanes.map Lane.rest) = [] := by
  induction lanes generalizing place with
  | nil => rfl
  | cons l lanes ih =>
    have hl : l.ahead = [] := hdone l (by simp)
    have hrest := ih (place + 1) (fun l' hl' => hdone l' (by simp [hl']))
    simpa [inOrderFrom, Lane.rest, hl] using hrest

theorem flatMap_reportsAt_inOrder (t : Transform h) (p : Progress h) (jobs : List (Job h)) :
    (List.range jobs.length).flatMap ((start p jobs).visitAll t (inOrder jobs)).reportsAt =
      ((start p jobs).visitAll t (inOrder jobs)).history.map (·.2) := by
  have hall := visitAll_inOrderFrom t p [] jobs []
  simp only [List.nil_append, List.length_nil] at hall
  have hlen := length_runJobs t p 0 jobs
  simp only [start, inOrder, hall]
  rw [List.map_snd_zip (Nat.le_of_eq hlen), List.range_eq_range']
  exact flatMap_ofPlace_inOrderFrom 0 jobs hlen

/-- What is to come in order after the first visits is what came after them before. -/
theorem inOrder_rest_visit (t : Transform h) {b : Batch h} {place : Nat} {places : List Nat}
    (hnext : inOrder b.rest = place :: places) : inOrder (b.visit t place).rest = places := by
  obtain ⟨pre, unit, visited, site, ahead, post, hlanes, rfl, hpre⟩ := next_inOrderFrom 0 hnext
  have hl : b.lanes[0 + pre.length]? = some ⟨unit, visited, site :: ahead⟩ := by simp [hlanes]
  rw [visit_of_next t hl]
  unfold inOrder rest at hnext ⊢
  rw [hlanes] at hnext ⊢
  simpa [inOrderFrom_append, inOrderFrom_of_done _ hpre, inOrderFrom, Lane.rest,
    List.replicate_succ] using hnext

theorem inOrder_rest_visitAll (t : Transform h) {b : Batch h} {ps qs : List Nat}
    (hnext : inOrder b.rest = ps ++ qs) : inOrder (b.visitAll t ps).rest = qs := by
  induction ps generalizing b with
  | nil => exact hnext
  | cons place ps ih => exact ih (inOrder_rest_visit t hnext)

/-! ## Batches after a past -/

/-- The batch with the diagnostics and the log of an older world before its own. -/
def after (b : Batch h) (old : World h) : Batch h :=
  { b with progress := { b.progress with world := b.progress.world.after old } }

theorem visit_after (t : Transform h) (b : Batch h) (old : World h) (place : Nat) :
    (b.after old).visit t place = (b.visit t place).after old := by
  rcases next_or_none b place with ⟨unit, visited, site, ahead, hl⟩ | hnone
  · have hl' : (b.after old).lanes[place]? = some ⟨unit, visited, site :: ahead⟩ := hl
    rw [visit_of_next t hl, visit_of_next t hl']
    simp only [after, runSite_after]
  · rw [visit_of_none t hnone]
    exact visit_of_none t hnone

theorem visitAll_after (t : Transform h) (b : Batch h) (old : World h) (places : List Nat) :
    (b.after old).visitAll t places = (b.visitAll t places).after old := by
  induction places generalizing b with
  | nil => rfl
  | cons place places ih =>
    unfold visitAll at ih ⊢
    rw [List.foldl_cons, List.foldl_cons, visit_after, ih]

end Batch

/-! ## Runs under way -/

namespace Transform

/-- The log line that opens a run. -/
def opening (t : Transform h) (jobs : List (Job h)) : Event :=
  .started jobs.length t.config.threads t.config.failureScope

/-- A run that has visited the units at these places, one after the other. -/
def visiting (t : Transform h) (jobs : List (Job h)) (world : World h) (places : List Nat) :
    Batch h :=
  (Batch.start ⟨world.logged (t.opening jobs), false⟩ jobs).visitAll t places

/-- A run after its first `n` sites, in job order and within a job in site order. -/
def underWay (t : Transform h) (jobs : List (Job h)) (world : World h) (n : Nat) : Batch h :=
  t.visiting jobs world ((inOrder jobs).take n)

/-- The log line that closes a run with these reports. -/
def closing (sites : List SiteReport) (runId : RunId) : Event :=
  let report : Report := ⟨runId, sites⟩
  .finished report.completed report.failures.length report.skipped

/-- A run ends where it is after all its sites, but for the line that closes it. -/
theorem run_eq_visiting (t : Transform h) (jobs : List (Job h)) (world : World h) :
    let b := t.visiting jobs world (inOrder jobs)
    t.run jobs world =
      (b.progress.world.logged (closing (b.history.map (·.2)) t.channel.runId), b.jobs,
        ⟨t.channel.runId, b.history.map (·.2)⟩) := by
  have hrun := Batch.runJobs_eq_visitAll t ⟨world.logged (t.opening jobs), false⟩ jobs
  unfold opening at hrun
  simp only [visiting, opening, closing, run, hrun]

/-- The reports of a run under way are the first ones of the whole run. -/
theorem underWay_reports (t : Transform h) (jobs : List (Job h)) (world : World h) {n : Nat}
    (hn : n ≤ (inOrder jobs).length) :
    (t.underWay jobs world n).history.map (·.2) = (t.run jobs world).2.2.sites.take n := by
  rw [run_eq_visiting, underWay, visiting, Batch.history_take t _ jobs hn, List.map_take, visiting]

end Transform

end MarkerInjection
