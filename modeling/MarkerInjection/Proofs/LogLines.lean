-- The log of a run, line by line. A site that is skipped or ignored logs nothing. One
-- that is marked as it should be logs how many injectors apply, then each call
-- before it is made. Each failure is a warning, and no other line is one.
import MarkerInjection.Proofs.Calls
import MarkerInjection.Proofs.Records

namespace MarkerInjection

variable {h : Host}

/-! ## Lines -/

/-- What a log shows of an event: how much it matters, its text and, if it reports one, the
diagnostic with all its fields. -/
structure LogLine where
  level : Level
  text : String
  fields : Option Diagnostic
  deriving Repr, DecidableEq

def Event.line (e : Event) : LogLine := ⟨e.level, e.message, e.reported?⟩

/-- The lines of the log, oldest first. -/
def World.lines (w : World h) : List LogLine := w.log.map Event.line

namespace LogLine

/-- The line at the start of a run. -/
def opening (units : Nat) (config : Config) : LogLine :=
  ⟨.info, "Compiling " ++ toString units ++ " unit(s) on " ++ config.threads.text ++
    " thread(s), failure scope: " ++ config.failureScope.text, none⟩

/-- So many injectors apply to the class. -/
def matched (count : Nat) (type : ArtefactType) (className : String) : LogLine :=
  ⟨.debug, toString count ++ " injector(s) matched " ++ type.name ++ " for " ++ className, none⟩

/-- The injector is about to be called on the class. -/
def applying (injector className : String) (type : ArtefactType) : LogLine :=
  ⟨.debug, "Applying injector " ++ injector ++ " to " ++ className ++ " (" ++ type.name ++ ")",
    none⟩

/-- An injector failed. -/
def failed (d : Diagnostic) : LogLine := ⟨.error, d.message, some d⟩

/-- A site of the unit ended in this failure. -/
def warning (unitName : String) (failure : Failure) : LogLine :=
  ⟨.warn, unitName ++ ": " ++ failure.message, none⟩

/-- The line at the end of a run, with the counts of its report. -/
def closing (r : Report) : LogLine :=
  ⟨.info, "Compilation finished (" ++ toString r.completed ++ " completed, " ++
    toString r.failures.length ++ " error(s), " ++ toString r.skipped ++ " skipped)", none⟩

end LogLine

theorem lines_logged (w : World h) (e : Event) : (w.logged e).lines = w.lines ++ [e.line] := by
  simp [World.lines, World.logged]

/-! ## Injections -/

/-- The lines before the calls of these injectors, each with the name that the class has by
then. -/
def Workpiece.callLines (type : ArtefactType) (w : Workpiece h) : List (Descriptor h) → List LogLine
  | [] => []
  | d :: ds =>
    .applying d.name (h.className w.target) type :: (d.work w).1.callLines type ds

/-- What a sink logs of a diagnostic: a line for it, unless diagnostics are kept. -/
def Sink.lines : Sink → Diagnostic → List LogLine
  | .memory, _ => []
  | .log, d => [.failed d]

theorem lines_emit (sink : Sink) (d : Diagnostic) (w : World h) :
    (sink.emit d w).lines = w.lines ++ sink.lines d := by
  cases sink with
  | memory => exact (List.append_nil _).symm
  | log => exact lines_logged w (.reported d)

theorem lines_callingAll (type : ArtefactType) (s : Scene h) (ds : List (Descriptor h)) :
    (s.callingAll type ds).world.lines = s.world.lines ++ s.workpiece.callLines type ds := by
  induction ds generalizing s with
  | nil => exact (List.append_nil _).symm
  | cons d ds ih =>
    have hone : (s.calling type d).world.lines =
        s.world.lines ++ [.applying d.name (h.className s.target) type] :=
      lines_logged s.world (.applying d.name (h.className s.target) type)
    have hrest := ih (s.calling type d)
    rw [hone, workpiece_calling, List.append_assoc] at hrest
    exact hrest

section Injections

variable {ch : Channel} {type : ArtefactType} {ds : List (Descriptor h)} {s : Scene h}

theorem lines_of_ranThrough (hran : RanThrough ch type ds s) :
    (ch.apply type ds s).1.world.lines = s.world.lines ++ s.workpiece.callLines type ds := by
  unfold Channel.apply
  rw [applyFrom_of_allSucceed ch type ds 0 s hran.succeeds]
  exact lines_callingAll type s ds

theorem lines_of_stoppedAt {k : Nat} {d : Descriptor h} {cause : Cause}
    (hstop : StoppedAt ch type ds s k d cause) :
    (ch.apply type ds s).1.world.lines =
      s.world.lines ++ s.workpiece.callLines type (ds.take (k + 1)) ++
        ch.sink.lines (ch.diagnostic type d.name k cause (ch.apply type ds s).1) := by
  have happly := applyFrom_of_firstFailure ch type ds 0 s hstop.first hstop.here
  rw [Nat.zero_add] at happly
  unfold Channel.apply
  rw [happly, lines_emit, lines_callingAll]
  simp only [Channel.diagnostic, emit_now]

theorem lines_matched (s : Scene h) (t : Transform h) (type : ArtefactType) :
    (s.matched t type).world.lines =
      s.world.lines ++ [.matched (t.registry.matching type).length type (h.className s.target)] :=
  lines_logged s.world _

end Injections

/-! ## Turns -/

/-- What the injectors of a turn start from, if it stands on this class. -/
def Turn.workpiece (x : Turn h) (c : h.Class) : Workpiece h := ⟨x.progress.world.memory, x.unit, c⟩

/-- The turn leaves this in the memory of the injectors, the unit and the class. -/
structure Turn.Leaves (t : Transform h) (x : Turn h) (w : Workpiece h) : Prop where
  memory : (t.runTurn x).1.world.memory = w.memory
  unit : (t.runTurn x).2.1 = w.unit
  target : (t.runTurn x).2.2.1.target = .ofClass w.target

/-- The lines that a turn logs. -/
inductive Turn.Logs (t : Transform h) (x : Turn h) : List LogLine → Prop
  /-- The site is skipped or ignored. -/
  | nothing (houtcome : (t.reportOn x).outcome = .skipped ∨ (t.reportOn x).outcome = .ignored)
      (hfailure : (t.reportOn x).failure = none) : Logs t x []
  /-- The site does not pass. -/
  | turnedAway {failure : Failure} (houtcome : (t.reportOn x).outcome.isError = true)
      (hfailure : (t.reportOn x).failure = some failure)
      (hkind : failure.isInjectorFailure = false) :
      Logs t x [.warning (h.unitName x.unit) failure]
  /-- The site passes, and all injectors that apply are called and succeed. -/
  | completed {c : h.Class} {type : ArtefactType}
      (haccepts : t.Accepts [.tag x.site.tag, x.site.target.node] x.site.tag c type)
      (hall : AllSucceed (t.registry.matching type) (x.workpiece c))
      (hleaves : x.Leaves t ((x.workpiece c).after (t.registry.matching type)))
      (houtcome : (t.reportOn x).outcome = .completed (t.registry.matching type).length)
      (hfailure : (t.reportOn x).failure = none) :
      Logs t x (.matched (t.registry.descriptors.countP (·.supports type)) type (h.className c) ::
        (x.workpiece c).callLines type (t.registry.matching type))
  /-- The site passes, and the injectors that apply are called up to one that fails. -/
  | failed {c : h.Class} {type : ArtefactType} {k : Nat} {cause : Cause} {failure : Failure}
      {d : Diagnostic}
      (haccepts : t.Accepts [.tag x.site.tag, x.site.target.node] x.site.tag c type)
      (hfirst : FirstFailure (t.registry.matching type) (x.workpiece c) k cause)
      (hleaves : x.Leaves t ((x.workpiece c).after ((t.registry.matching type).take (k + 1))))
      (houtcome : (t.reportOn x).outcome = .failed)
      (hfailure : (t.reportOn x).failure = some failure)
      (htells : d.TellsOf t.channel.runId (t.registry.matching type) failure
        ((x.workpiece c).after ((t.registry.matching type).take (k + 1))))
      (hreceived : t.channel.sink.received (t.runTurn x).1.world =
        t.channel.sink.received x.progress.world ++ [d]) :
      Logs t x (.matched (t.registry.descriptors.countP (·.supports type)) type (h.className c) ::
        (x.workpiece c).callLines type ((t.registry.matching type).take (k + 1)) ++
          t.channel.sink.lines d ++ [.warning (h.unitName x.unit) failure])

section Turns

variable {t : Transform h} {x : Turn h}

theorem lines_of_stopped (hp : x.progress.stopped = true) :
    (t.runTurn x).1.world.lines = x.progress.world.lines := by
  have hskipped : t.runTurn x = _ := Transform.runSite_of_stopped hp
  rw [hskipped]

/-- A turn logs what its visit logs, and a warning if that failed. -/
theorem lines_of_going (hp : x.progress.stopped = false) :
    (t.runTurn x).1.world.lines =
      (t.visitSite x.progress.world x.unit x.site).world.lines ++
        ((t.reportOn x).failure.map (LogLine.warning (h.unitName x.unit))).toList := by
  unfold Transform.reportOn Transform.runTurn
  rcases hv : (t.visitSite x.progress.world x.unit x.site).result with failure | outcome
  · rw [Transform.runSite_of_error hp hv]
    simp only [lines_logged, Transform.reportOf, hv]
    rfl
  · rw [Transform.runSite_of_ok hp hv]
    simp [Transform.reportOf, hv]

theorem logs_of_stopped (hp : x.progress.stopped = true) :
    ∃ lines, x.Logs t lines ∧ (t.runTurn x).1.world.lines = x.progress.world.lines ++ lines := by
  have hskipped : t.runTurn x = _ := Transform.runSite_of_stopped hp
  refine ⟨[], .nothing (Or.inl ?_) ?_, ?_⟩
  · rw [Transform.reportOn, hskipped]
  · rw [Transform.reportOn, hskipped]
  · rw [lines_of_stopped hp, List.append_nil]

theorem logs_of_untouched (hp : x.progress.stopped = false) {result : Except Failure Outcome}
    (huntouched : t.Untouched [.tag x.site.tag, x.site.target.node] x.unit x.progress.world result)
    (hresult : WithoutInjection result) :
    ∃ lines, x.Logs t lines ∧ (t.runTurn x).1.world.lines = x.progress.world.lines ++ lines := by
  have hvisit : t.visitSite x.progress.world x.unit x.site =
      ⟨[.tag x.site.tag, x.site.target.node], x.unit, x.progress.world, result⟩ := huntouched
  have hreport : t.reportOn x = Transform.reportOf x.unit x.site result := by
    have hsame := (t.runSite_eq_visitSite hp x.unit x.site).1
    rw [hvisit] at hsame
    exact congrArg (·.2.2) hsame
  have hlines := lines_of_going (t := t) hp
  rw [hvisit] at hlines
  cases result with
  | ok outcome =>
    obtain rfl : outcome = .ignored := hresult
    rw [hreport] at hlines
    exact ⟨[], .nothing (Or.inr (by rw [hreport]; rfl)) (by rw [hreport]; rfl), hlines⟩
  | error failure =>
    have hfailure : (t.reportOn x).failure = some failure := by rw [hreport]; rfl
    have houtcome : (t.reportOn x).outcome.isError = true := by
      have hkinds := Transform.isError_runSite t x.progress x.unit x.site
      have hsite : (t.runSite x.progress x.unit x.site).2.2.2 = t.reportOn x := rfl
      rw [hsite, hfailure] at hkinds
      exact hkinds
    rw [hfailure] at hlines
    exact ⟨_, .turnedAway houtcome hfailure (isInjectorFailure_of_withoutInjection hresult), hlines⟩

section Injects

variable {c : h.Class} {type : ArtefactType} (hinjects : x.Injects t c type)

include hinjects

theorem lines_of_injects :
    (t.runTurn x).1.world.lines =
      (t.perform type ⟨x.progress.world, x.unit, c⟩).1.world.lines ++
        ((t.reportOn x).failure.map (LogLine.warning (h.unitName x.unit))).toList := by
  have hvisit : t.visitSite x.progress.world x.unit x.site = _ :=
    visit_of_accepts hinjects.accepts x.unit x.progress.world
  have hlines := lines_of_going (t := t) hinjects.going
  rwa [hvisit] at hlines

theorem leaves_of_injects {left : Workpiece h}
    (hleft : (t.perform type ⟨x.progress.world, x.unit, c⟩).1.workpiece = left) :
    x.Leaves t left := by
  subst hleft
  refine ⟨memory_of_sameWork hinjects.world, hinjects.unit, ?_⟩
  rw [hinjects.site]
  rfl

theorem logs_of_ranThrough (hran : RanThrough t.channel type (t.registry.matching type)
    (Scene.matched ⟨x.progress.world, x.unit, c⟩ t type)) :
    ∃ lines, x.Logs t lines ∧ (t.runTurn x).1.world.lines = x.progress.world.lines ++ lines := by
  obtain ⟨houtcome, hfailure⟩ := report_of_ranThrough hinjects hran
  have hleaves := leaves_of_injects hinjects hran.workpiece
  refine ⟨_, .completed hinjects.accepts hran.succeeds hleaves houtcome hfailure, ?_⟩
  rw [lines_of_injects hinjects, hfailure, perform_eq_apply, lines_of_ranThrough hran,
    lines_matched, List.countP_eq_length_filter]
  simp [Registry.matching, Scene.workpiece, Scene.matched, Turn.workpiece, World.logged]

theorem logs_of_stoppedAt {k : Nat} {e : Descriptor h} {cause : Cause}
    (hstop : StoppedAt t.channel type (t.registry.matching type)
      (Scene.matched ⟨x.progress.world, x.unit, c⟩ t type) k e cause) :
    ∃ lines, x.Logs t lines ∧ (t.runTurn x).1.world.lines = x.progress.world.lines ++ lines := by
  have hleaves := leaves_of_injects hinjects hstop.workpiece
  have htells := tellsOf_of_stoppedAt hstop
  rw [hstop.workpiece] at htells
  have hreport := hinjects.report
  rw [perform_eq_apply, hstop.result] at hreport
  have houtcome : (t.reportOn x).outcome = .failed := by rw [hreport]; rfl
  have hfailure : (t.reportOn x).failure = some (Channel.failure type e.name k cause
      (t.channel.apply type (t.registry.matching type)
        (Scene.matched ⟨x.progress.world, x.unit, c⟩ t type)).1) := by rw [hreport]; rfl
  have hreceived : t.channel.sink.received (t.runTurn x).1.world = _ :=
    (received_of_sameWork hinjects.world t.channel.sink).trans hstop.received
  rw [received_matched] at hreceived
  refine ⟨_, .failed hinjects.accepts hstop.first hleaves houtcome hfailure htells hreceived, ?_⟩
  rw [lines_of_injects hinjects, hfailure, perform_eq_apply, lines_of_stoppedAt hstop,
    lines_matched, List.countP_eq_length_filter]
  simp [Registry.matching, Scene.workpiece, Scene.matched, Turn.workpiece, World.logged]

end Injects

theorem logs_turn (t : Transform h) (x : Turn h) :
    ∃ lines, x.Logs t lines ∧ (t.runTurn x).1.world.lines = x.progress.world.lines ++ lines := by
  rcases hp : x.progress.stopped with _ | _
  · rcases withoutInjection_or_accepts t [.tag x.site.tag, x.site.target.node] x.unit
        x.progress.world with ⟨result, huntouched, hresult⟩ | ⟨tag, c, type, haccepts⟩
    · exact logs_of_untouched hp huntouched hresult
    · have hinjects := injects_of_accepts hp haccepts
      rcases ranThrough_or_stoppedAt t.channel type (t.registry.matching type)
        (Scene.matched ⟨x.progress.world, x.unit, c⟩ t type) with hran | ⟨k, e, cause, hstop⟩
      · exact logs_of_ranThrough hinjects hran
      · exact logs_of_stoppedAt hinjects hstop
  · exact logs_of_stopped hp

/-! ## Warnings -/

/-- The warning about a site, if it failed. -/
def SiteReport.warning? (r : SiteReport) : Option LogLine := r.failure.map (.warning r.unitName)

/-- No call is a warning. -/
theorem warnings_callLines (type : ArtefactType) (w : Workpiece h) (ds : List (Descriptor h)) :
    (w.callLines type ds).filter (·.level == .warn) = [] := by
  induction ds generalizing w with
  | nil => rfl
  | cons d ds ih => exact ih (d.work w).1

theorem warnings_sink (sink : Sink) (d : Diagnostic) :
    (sink.lines d).filter (·.level == .warn) = [] := by
  cases sink with
  | memory => rfl
  | log => rfl

theorem unitName_reportOn (t : Transform h) (x : Turn h) :
    (t.reportOn x).unitName = h.unitName x.unit := by
  rcases hp : x.progress.stopped with _ | _
  · exact congrArg (·.2.2.unitName) (t.runSite_eq_visitSite hp x.unit x.site).1
  · have hskipped : t.runTurn x = _ := Transform.runSite_of_stopped hp
    rw [Transform.reportOn, hskipped]

/-- The warnings of a turn are that about its failure. -/
theorem warnings_of_logs {lines : List LogLine} (hlines : x.Logs t lines) :
    lines.filter (·.level == .warn) = (t.reportOn x).warning?.toList := by
  unfold SiteReport.warning?
  rw [unitName_reportOn]
  cases hlines with
  | nothing houtcome hfailure => simp [hfailure]
  | turnedAway houtcome hfailure hkind => simp [hfailure, LogLine.warning]
  | completed haccepts hall hleaves houtcome hfailure =>
    simp [hfailure, LogLine.matched, warnings_callLines]
  | failed haccepts hfirst hleaves houtcome hfailure htells hreceived =>
    simp [hfailure, LogLine.matched, LogLine.warning, warnings_callLines, warnings_sink]

end Turns

/-! ## Runs -/

theorem lines_course {t : Transform h} {p q : Progress h} {xs : List (Turn h)}
    (hxs : t.Course p xs q) :
    ∃ parts, List.Forall₂ (Turn.Logs t) xs parts ∧
      q.world.lines = p.world.lines ++ parts.flatten := by
  induction hxs with
  | done p => exact ⟨[], .nil, by simp⟩
  | turn x _ ih =>
    obtain ⟨lines, hlines, hone⟩ := logs_turn t x
    obtain ⟨parts, hparts, hrest⟩ := ih
    refine ⟨lines :: parts, .cons hlines hparts, ?_⟩
    rw [hrest, hone, List.flatten_cons, List.append_assoc]

theorem warnings_of_parts {t : Transform h} {xs : List (Turn h)} {parts : List (List LogLine)}
    (hparts : List.Forall₂ (Turn.Logs t) xs parts) :
    parts.flatten.filter (·.level == .warn) =
      (xs.map t.reportOn).filterMap SiteReport.warning? := by
  induction hparts with
  | nil => rfl
  | @cons x lines xs parts hlines _ ih =>
    rw [List.flatten_cons, List.filter_append, warnings_of_logs hlines, ih, List.map_cons,
      List.filterMap_cons]
    cases (t.reportOn x).warning? with
    | none => rfl
    | some line => rfl

/-- The log of a run is that of its turns, between a line that opens it and one that closes it. -/
theorem lines_run (t : Transform h) (jobs : List (Job h)) (world : World h) :
    ∃ parts, List.Forall₂ (Turn.Logs t) (t.turns jobs world) parts ∧
      (t.run jobs world).1.lines = world.lines ++
        (.opening jobs.length t.config :: parts.flatten ++ [.closing (t.run jobs world).2.2]) := by
  obtain ⟨parts, hparts, hlines⟩ :=
    lines_course (Transform.course_runJobs t ⟨world.logged (t.opening jobs), false⟩ jobs)
  have hopening : (world.logged (t.opening jobs)).lines =
      world.lines ++ [.opening jobs.length t.config] := lines_logged world (t.opening jobs)
  have hclosing : (t.run jobs world).1.lines =
      (t.runJobs ⟨world.logged (t.opening jobs), false⟩ jobs).1.world.lines ++
        [.closing (t.run jobs world).2.2] := by
    unfold Transform.run
    exact lines_logged _ _
  refine ⟨parts, hparts, ?_⟩
  rw [hclosing, hlines, hopening]
  simp

/-- The log of a run starts and ends with a line about the run. Between them stand the lines of
its sites, in job order and within a job in site order, each as what becomes of the site has it.
The warnings are the failures of the report, in its order. -/
theorem the_log_tells_what_a_run_does (t : Transform h) (jobs : List (Job h)) (world : World h) :
    let report := (t.run jobs world).2.2
    let turns := t.turns jobs world
    turns.map (·.site) = jobs.flatMap (·.sites) ∧ turns.map t.reportOn = report.sites ∧
    ∃ parts lines, List.Forall₂ (Turn.Logs t) turns parts ∧
      lines = .opening jobs.length t.config :: parts.flatten ++ [.closing report] ∧
      (t.run jobs world).1.lines = world.lines ++ lines ∧
      lines.filter (·.level == .warn) =
        report.sites.filterMap fun r => r.failure.map (.warning r.unitName) := by
  intro report turns
  have hreports := Transform.reportOn_turns t jobs world
  obtain ⟨parts, hparts, hlines⟩ := lines_run t jobs world
  refine ⟨Transform.site_turns t jobs world, hreports, parts, _, hparts, rfl, hlines, ?_⟩
  have hwarnings := warnings_of_parts hparts
  rw [hreports] at hwarnings
  have hopening : ((LogLine.opening jobs.length t.config).level == .warn) = false := rfl
  have hclosing : [LogLine.closing report].filter (·.level == .warn) = [] := rfl
  rw [List.cons_append, List.filter_cons_of_neg (by simp [hopening]), List.filter_append, hwarnings,
    hclosing, List.append_nil]
  rfl

end MarkerInjection
