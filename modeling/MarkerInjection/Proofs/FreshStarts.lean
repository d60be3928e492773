-- Fresh starts. What is left of a run after its first sites is a run of its
-- own, over the units as they stand. It starts with the memory that the
-- injectors have by then, and knows nothing else of the sites before it.
import MarkerInjection.Proofs.FailureScopes

namespace MarkerInjection

variable {h : Host}

/-! ## One unit taken up again -/

namespace Lane

/-- The unit of `l`, whose sites to come were taken up anew and have come as far as `m`. -/
def following (m l : Lane h) : Lane h := ⟨m.unit, l.visited ++ m.visited, m.ahead⟩

theorem ofJob_rest_following (l : Lane h) : (ofJob l.rest).following l = l := by
  simp [following, ofJob, rest]

end Lane

/-! ## A batch taken up again -/

namespace Batch

/-- The batch `old`, whose sites to come were taken up anew and have come as far as `b`. -/
def following (b old : Batch h) : Batch h :=
  ⟨{ b.progress with world := b.progress.world.after old.progress.world },
    List.zipWith Lane.following b.lanes old.lanes, old.history ++ b.history⟩

/-- The sites to come before any of them is visited, in the world as it stands. -/
def anew (b : Batch h) : Batch h :=
  start ⟨World.initial b.progress.world.memory b.progress.world.now, b.progress.stopped⟩ b.rest

theorem anew_following (b : Batch h) : b.anew.following b = b := by
  have hlanes : List.zipWith Lane.following (b.rest.map Lane.ofJob) b.lanes = b.lanes := by
    simp [rest, List.zipWith_map_left, Lane.ofJob_rest_following]
  simp only [anew, start, following, initial_after, hlanes, List.append_nil]

section Following

variable (t : Transform h) {b old : Batch h}

theorem zipWith_set_left {α β γ : Type} (f : α → β → γ) {xs : List α} {ys : List β} {place : Nat}
    {y : β} (hy : ys[place]? = some y) (x : α) :
    List.zipWith f (xs.set place x) ys = (List.zipWith f xs ys).set place (f x y) := by
  induction xs generalizing ys place with
  | nil => rfl
  | cons x' xs ih =>
    cases ys with
    | nil => simp at hy
    | cons y' ys =>
      cases place with
      | zero =>
        obtain rfl : y' = y := by simpa using hy
        rfl
      | succ place =>
        have hrest := ih (by simpa using hy)
        simp only [List.set_cons_succ, List.zipWith_cons_cons, hrest]

theorem length_lanes_visit (b : Batch h) (place : Nat) :
    (b.visit t place).lanes.length = b.lanes.length := by
  rcases next_or_none b place with ⟨unit, visited, site, ahead, hl⟩ | hnone
  · simp only [visit_of_next t hl, List.length_set]
  · rw [visit_of_none t hnone]

theorem visit_following (hlen : b.lanes.length = old.lanes.length) (place : Nat) :
    (b.following old).visit t place = (b.visit t place).following old := by
  rcases next_or_none b place with ⟨unit, visited, site, ahead, hl⟩ | hnone
  · have hlt : place < old.lanes.length := by
      rw [← hlen]
      exact (List.getElem?_eq_some_iff.mp hl).1
    have hold := List.getElem?_eq_getElem hlt
    have hfollowing : (b.following old).lanes[place]? =
        some (Lane.following ⟨unit, visited, site :: ahead⟩ old.lanes[place]) := by
      simp only [following, List.getElem?_zipWith, hl, hold]
    rw [visit_of_next t hfollowing, visit_of_next t hl]
    simp only [following, runSite_after, Lane.following, zipWith_set_left _ hold,
      List.append_assoc]
  · have hnone' : ∀ m, (b.following old).lanes[place]? = some m → m.ahead = [] := by
      intro m hm
      obtain ⟨m', l, hm', -, rfl⟩ := List.getElem?_zipWith_eq_some.mp hm
      exact hnone m' hm'
    rw [visit_of_none t hnone, visit_of_none t hnone']

theorem visitAll_following (hlen : b.lanes.length = old.lanes.length) (places : List Nat) :
    (b.following old).visitAll t places = (b.visitAll t places).following old := by
  induction places generalizing b with
  | nil => rfl
  | cons place places ih =>
    unfold visitAll at ih ⊢
    rw [List.foldl_cons, List.foldl_cons, visit_following t hlen,
      ih ((length_lanes_visit t b place).trans hlen)]

end Following

/-- The sites to come of a unit are its last ones, as they were at the start. -/
theorem ahead_visitAll (t : Transform h) (p : Progress h) (jobs : List (Job h))
    (places : List Nat) :
    ∀ (place : Nat) (l : Lane h), ((start p jobs).visitAll t places).lanes[place]? = some l →
      ∃ job, jobs[place]? = some job ∧ l.ahead = job.sites.drop l.visited.length := by
  refine visitAll_preserves (P := fun b : Batch h => ∀ (place : Nat) (l : Lane h),
    b.lanes[place]? = some l →
      ∃ job, jobs[place]? = some job ∧ l.ahead = job.sites.drop l.visited.length) t ?_ ?_ places
  · intro b here hb place l hplace
    rcases next_or_none b here with ⟨unit, visited, site, ahead, hl⟩ | hnone
    · rw [visit_of_next t hl, List.getElem?_set] at hplace
      split at hplace
      · rename_i heq
        obtain ⟨job, hjob, hahead⟩ := hb here _ hl
        obtain ⟨-, rfl⟩ : here < b.lanes.length ∧ _ = l := by simpa using hplace
        refine ⟨job, heq ▸ hjob, ?_⟩
        rw [List.length_append, ← List.drop_drop, ← hahead]
        rfl
      · exact hb place l hplace
    · rw [visit_of_none t hnone] at hplace
      exact hb place l hplace
  · intro place l hplace
    simp only [start, List.getElem?_map, Option.map_eq_some_iff] at hplace
    obtain ⟨job, hjob, rfl⟩ := hplace
    exact ⟨job, hjob, rfl⟩

end Batch

/-! ## A run taken up again -/

namespace Transform

section PerClass

variable {t : Transform h} (ht : t.config.failureScope = .perClass)

include ht

theorem underWay_going (jobs : List (Job h)) (world : World h) (n : Nat) :
    (t.underWay jobs world n).progress.stopped = false :=
  Batch.visitAll_preserves (P := fun b => b.progress.stopped = false) t
    (fun _ place hb => Batch.visit_perClass ht hb place) rfl _

/-- A run per class, taken up again after its first sites, comes to what a run over the rest
comes to, after what the first ones left. -/
theorem visiting_eq_following (jobs : List (Job h)) (world : World h) (n : Nat) :
    let first := t.underWay jobs world n
    t.visiting jobs world (inOrder jobs) =
      (t.unopened first.rest first.progress.world (inOrder first.rest)).following first := by
  intro first
  have hgoing : first.progress.stopped = false := underWay_going ht jobs world n
  have hlen : first.anew.lanes.length = first.lanes.length := by
    simp [Batch.anew, Batch.start, Batch.rest]
  have hrest : inOrder first.rest = (inOrder jobs).drop n := by
    apply Batch.inOrder_rest_visitAll
    rw [List.take_append_drop, Batch.rest_start]
  have hwhole : t.visiting jobs world (inOrder jobs) = first.visitAll t (inOrder first.rest) := by
    rw [hrest, visiting, ← List.take_append_drop n (inOrder jobs), Batch.visitAll_append,
      List.take_append_drop]
    rfl
  -- What follows `first` from a clean start is `first` itself, so its visits go the same way.
  have hagain := Batch.visitAll_following t hlen (inOrder first.rest)
  rw [first.anew_following, ← hwhole, Batch.anew, hgoing] at hagain
  exact hagain

end PerClass

end Transform

/-- What is left of a run over these units after its first `n` sites goes on as a run of its
own: over the units as they stand, with their last sites as they were at the start, and from a
world that keeps nothing of the one before but its memory. -/
structure GoesOnAnew (jobs : List (Job h)) (whole : World h × List (Job h) × Report) (n : Nat)
    (first : Batch h) (again : World h × List (Job h) × Report) : Prop where
  sites : ∀ (place : Nat) (l : Lane h), first.lanes[place]? = some l →
    ∃ job, jobs[place]? = some job ∧ l.ahead = job.sites.drop l.visited.length
  reports : whole.2.2.sites.drop n = again.2.2.sites
  units : whole.2.1 =
    List.zipWith (fun j l => ⟨j.unit, l.visited ++ j.sites⟩) again.2.1 first.lanes
  memory : whole.1.memory = again.1.memory
  received : ∀ sink : Sink, sink.received whole.1 =
    sink.received first.progress.world ++ sink.received again.1

theorem goesOnAnew_of_perClass {t : Transform h} (ht : t.config.failureScope = .perClass)
    (jobs : List (Job h)) (world : World h) {n : Nat} (hn : n ≤ (inOrder jobs).length) :
    let first := t.underWay jobs world n
    GoesOnAnew jobs (t.run jobs world) n first
      (t.run first.rest
        (World.initial first.progress.world.memory first.progress.world.now)) := by
  intro first
  have hrun := Transform.run_eq_visiting t jobs world
  have hagain := Transform.run_eq_visiting t first.rest
    (World.initial first.progress.world.memory first.progress.world.now)
  rw [Transform.visiting_eq_following ht jobs world n] at hrun
  rw [Transform.visiting_eq_unopened] at hagain
  simp only at hrun hagain
  refine ⟨Batch.ahead_visitAll t _ jobs _, ?_, ?_, ?_, ?_⟩
  · have hfirst := Transform.underWay_reports t jobs world hn
    have hlen : (first.history.map (·.2)).length = n := by
      rw [hfirst, List.length_take, Transform.length_run_sites, Nat.min_eq_left hn]
    rw [hrun, hagain]
    simp only [Batch.following, Batch.after, List.map_append]
    exact List.drop_left' hlen
  · rw [hrun, hagain]
    simp only [Batch.following, Batch.jobs, Batch.after, List.map_zipWith, List.zipWith_map_left,
      Lane.job, Lane.following, List.append_assoc]
    rfl
  · rw [hrun, hagain]
    rfl
  · intro sink
    rw [hrun, hagain, received_logged sink _ _ rfl, received_logged sink _ _ rfl]
    simp only [Batch.following, Batch.after, received_after]
    rw [received_logged sink _ _ rfl, received_initial, List.nil_append]
    rfl

end MarkerInjection
