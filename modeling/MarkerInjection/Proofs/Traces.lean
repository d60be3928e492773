-- What a world shows of the past: the diagnostics that reached a sink and the
-- calls of injectors. Nothing that runs reads what was recorded before it, so
-- a run from a world with a past is the run from the world without one, with
-- the past put in front.
import MarkerInjection.Compilation
import Mathlib.Data.List.Basic

namespace MarkerInjection

variable {h : Host}

/-! ## Diagnostics and calls -/

/-- The diagnostic that an event reports. -/
def Event.reported? : Event → Option Diagnostic
  | .reported d => some d
  | _ => none

/-- The name of the injector whose call an event announces. -/
def Event.called? : Event → Option String
  | .applying injector _ _ => some injector
  | _ => none

/-- The diagnostics that the sink was given, oldest first. -/
def Sink.received (sink : Sink) (w : World h) : List Diagnostic :=
  match sink with
  | .memory => w.records
  | .log => w.log.filterMap Event.reported?

/-- The names of the injectors that were called, in the order of the calls. -/
def World.calls (w : World h) : List String := w.log.filterMap Event.called?

theorem received_initial (sink : Sink) (memory : h.Memory) (now : Instant) :
    sink.received (World.initial memory now) = [] := by
  cases sink <;> rfl

theorem received_emit (sink : Sink) (d : Diagnostic) (w : World h) :
    sink.received (sink.emit d w) = sink.received w ++ [d] := by
  cases sink with
  | memory => rfl
  | log => simp [Sink.received, Sink.emit, World.logged, Event.reported?]

theorem received_logged (sink : Sink) (e : Event) (w : World h) (he : e.reported? = none) :
    sink.received (w.logged e) = sink.received w := by
  cases sink with
  | memory => rfl
  | log => simp [Sink.received, World.logged, he]

theorem calls_logged (e : Event) (w : World h) :
    (w.logged e).calls = w.calls ++ e.called?.toList := by
  unfold World.calls World.logged
  rw [List.filterMap_append]
  cases he : e.called? <;> simp [he]

theorem calls_emit (sink : Sink) (d : Diagnostic) (w : World h) :
    (sink.emit d w).calls = w.calls := by
  cases sink with
  | memory => rfl
  | log => simp [Sink.emit, calls_logged, Event.called?]

theorem emit_memory (sink : Sink) (d : Diagnostic) (w : World h) :
    (sink.emit d w).memory = w.memory := by
  cases sink <;> rfl

theorem emit_now (sink : Sink) (d : Diagnostic) (w : World h) :
    (sink.emit d w).now = w.now := by
  cases sink <;> rfl

/-! ## Worlds with a past -/

/-- The same world, with the diagnostics and the log of an older one before its own. -/
def World.after (w old : World h) : World h :=
  { w with records := old.records ++ w.records, log := old.log ++ w.log }

def Scene.after (s : Scene h) (old : World h) : Scene h := { s with world := s.world.after old }

theorem initial_after (w : World h) : (World.initial w.memory w.now).after w = w := by
  simp [World.initial, World.after]

theorem logged_after (w old : World h) (e : Event) :
    (w.after old).logged e = (w.logged e).after old := by
  simp [World.after, World.logged]

theorem emit_after (sink : Sink) (d : Diagnostic) (w old : World h) :
    sink.emit d (w.after old) = (sink.emit d w).after old := by
  cases sink with
  | memory => simp [Sink.emit, World.after]
  | log => exact logged_after w old _

theorem received_after (sink : Sink) (w old : World h) :
    sink.received (w.after old) = sink.received old ++ sink.received w := by
  cases sink with
  | memory => rfl
  | log => simp [Sink.received, World.after]

/-! ## Worlds without some lines -/

/-- The same world, without the lines of its log that are of this kind. -/
def World.without (kind : Event → Bool) (w : World h) : World h :=
  { w with log := w.log.filter (!kind ·) }

section Without

variable {kind : Event → Bool}

theorem without_logged {e : Event} (he : kind e = true) (w : World h) :
    (w.logged e).without kind = w.without kind := by
  simp [World.without, World.logged, he]

theorem without_after (w old : World h) :
    (w.after old).without kind = (w.without kind).after (old.without kind) := by
  simp [World.without, World.after]

theorem received_without (hkind : ∀ e, kind e = true → e.reported? = none) (sink : Sink)
    (w : World h) : sink.received (w.without kind) = sink.received w := by
  cases sink with
  | memory => rfl
  | log =>
    simp only [Sink.received, World.without, List.filterMap_filter]
    refine List.filterMap_congr fun e _ => ?_
    cases he : kind e with
    | false => rfl
    | true => simp [hkind e he]

theorem calls_without (hkind : ∀ e, kind e = true → e.called? = none) (w : World h) :
    (w.without kind).calls = w.calls := by
  simp only [World.calls, World.without, List.filterMap_filter]
  refine List.filterMap_congr fun e _ => ?_
  cases he : kind e with
  | false => rfl
  | true => simp [hkind e he]

end Without

/-! ## Steps of an injection -/

/-- The scene once the call of an injector is announced in the log. -/
def Scene.announced (s : Scene h) (type : ArtefactType) (d : Descriptor h) : Scene h :=
  { s with world := s.world.logged (.applying d.name (h.className s.target) type) }

section Steps

variable {type : ArtefactType} {d : Descriptor h} {s stop : Scene h}

/-- After a call that succeeds, the next injector has its turn. -/
theorem applyFrom_cons_ok (ch : Channel) (index : Nat) (ds : List (Descriptor h))
    (hcall : d.call (s.announced type d) = (stop, .ok ())) :
    ch.applyFrom type index (d :: ds) s = ch.applyFrom type (index + 1) ds stop := by
  unfold Scene.announced at hcall
  simp only [Channel.applyFrom, hcall]

/-- A call that fails is reported and is the last. -/
theorem applyFrom_cons_error (ch : Channel) (index : Nat) (ds : List (Descriptor h))
    {cause : Cause} (hcall : d.call (s.announced type d) = (stop, .error cause)) :
    ch.applyFrom type index (d :: ds) s =
      ({ stop with
          world := ch.sink.emit (ch.diagnostic type d.name index cause stop) stop.world },
        .error (Channel.failure type d.name index cause stop)) := by
  unfold Scene.announced at hcall
  simp only [Channel.applyFrom, hcall]

end Steps

/-! ## Runs after a past -/

theorem announced_after (s : Scene h) (type : ArtefactType) (d : Descriptor h) (old : World h) :
    (s.after old).announced type d = (s.announced type d).after old := by
  simp only [Scene.announced, Scene.after, logged_after]

theorem call_after (d : Descriptor h) (s : Scene h) (old : World h) :
    d.call (s.after old) = ((d.call s).1.after old, (d.call s).2) := rfl

theorem applyFrom_after (ch : Channel) (type : ArtefactType) (ds : List (Descriptor h))
    (old : World h) (index : Nat) (s : Scene h) :
    ch.applyFrom type index ds (s.after old) =
      ((ch.applyFrom type index ds s).1.after old, (ch.applyFrom type index ds s).2) := by
  induction ds generalizing index s with
  | nil => rfl
  | cons d ds ih =>
    have hcall := call_after d (s.announced type d) old
    rw [← announced_after] at hcall
    rcases hd : d.call (s.announced type d) with ⟨stop, cause | ⟨⟩⟩
    · rw [hd] at hcall
      rw [applyFrom_cons_error ch index ds hcall, applyFrom_cons_error ch index ds hd]
      simp only [Scene.after, emit_after]
      rfl
    · rw [hd] at hcall
      rw [applyFrom_cons_ok ch index ds hcall, applyFrom_cons_ok ch index ds hd]
      exact ih _ _

theorem perform_after (t : Transform h) (type : ArtefactType) (s : Scene h) (old : World h) :
    t.perform type (s.after old) = ((t.perform type s).1.after old, (t.perform type s).2) := by
  unfold Transform.perform Channel.apply
  simp only [Scene.after, logged_after]
  exact applyFrom_after t.channel type _ old 0
    { s with world := s.world.logged (.matched _ type (h.className s.target)) }

theorem visit_after (t : Transform h) (nodes : List (Node h)) (unit : h.SourceUnit)
    (w old : World h) :
    t.visit nodes unit (w.after old) =
      { t.visit nodes unit w with world := (t.visit nodes unit w).world.after old } := by
  match nodes with
  | [] => rfl
  | [_] => rfl
  | _ :: _ :: _ :: _ => rfl
  | [first, second] =>
    simp only [Transform.visit]
    cases validate t.config.marker t.config.valueMember first second with
    | error failure => rfl
    | ok verdict =>
      cases verdict with
      | ignored => rfl
      | refused className reason => rfl
      | accepted c type =>
        have hperform := perform_after t type ⟨w, unit, c⟩ old
        simp only [Scene.after] at hperform ⊢
        rw [hperform]

theorem runSite_after (t : Transform h) (p : Progress h) (old : World h) (unit : h.SourceUnit)
    (site : Site h) :
    t.runSite { p with world := p.world.after old } unit site =
      ({ (t.runSite p unit site).1 with world := (t.runSite p unit site).1.world.after old },
        (t.runSite p unit site).2) := by
  unfold Transform.runSite
  simp only [visit_after]
  split
  · rfl
  · split
    · rfl
    · rw [logged_after]

/-- What a sink was given is never taken back. -/
theorem received_runSite (sink : Sink) (t : Transform h) (p : Progress h) (unit : h.SourceUnit)
    (site : Site h) : sink.received p.world <+: sink.received (t.runSite p unit site).1.world := by
  have hafter := runSite_after t ⟨World.initial p.world.memory p.world.now, p.stopped⟩ p.world
    unit site
  simp only [initial_after] at hafter
  rw [show p = ⟨p.world, p.stopped⟩ from rfl, hafter, received_after]
  exact List.prefix_append _ _

/-! ## What lasts -/

/-- A property that worlds keep when injectors are called, diagnostics are reported and lines
are logged. -/
structure World.Lasting (P : World h → Prop) : Prop where
  memory : ∀ w m, P w → P { w with memory := m }
  logged : ∀ w e, P w → P (w.logged e)
  emit : ∀ sink d w, P w → P (Sink.emit sink d w)

theorem lasting_now (now : Instant) : World.Lasting (fun w : World h => w.now = now) where
  memory _ _ hw := hw
  logged _ _ hw := hw
  emit sink d w hw := (emit_now sink d w).trans hw

section Lasting

variable {P : World h → Prop}

theorem lasting_applyFrom (hP : World.Lasting P) (ch : Channel) (type : ArtefactType)
    (ds : List (Descriptor h)) (index : Nat) {s : Scene h} (hs : P s.world) :
    P (ch.applyFrom type index ds s).1.world := by
  induction ds generalizing index s with
  | nil => exact hs
  | cons d ds ih =>
    have hannounced : P (s.announced type d).world := hP.logged _ _ hs
    have hcalled : P (d.call (s.announced type d)).1.world := hP.memory _ _ hannounced
    rcases hd : d.call (s.announced type d) with ⟨stop, cause | ⟨⟩⟩
    · rw [applyFrom_cons_error ch index ds hd]
      rw [hd] at hcalled
      exact hP.emit _ _ _ hcalled
    · rw [applyFrom_cons_ok ch index ds hd]
      rw [hd] at hcalled
      exact ih (index + 1) hcalled

theorem lasting_visit (hP : World.Lasting P) (t : Transform h) (nodes : List (Node h))
    (unit : h.SourceUnit) {w : World h} (hw : P w) : P (t.visit nodes unit w).world := by
  unfold Transform.visit
  split
  · split
    · exact hw
    · exact hw
    · exact hw
    · exact lasting_applyFrom hP t.channel _ _ 0 (hP.logged _ _ hw)
  · exact hw

theorem lasting_runSite (hP : World.Lasting P) (t : Transform h) {p : Progress h}
    (unit : h.SourceUnit) (site : Site h) (hp : P p.world) :
    P (t.runSite p unit site).1.world := by
  have hvisit := lasting_visit hP t [.tag site.tag, site.target.node] unit hp
  unfold Transform.runSite
  split
  · exact hp
  · dsimp only
    split
    · exact hvisit
    · exact hP.logged _ _ hvisit

end Lasting

end MarkerInjection
