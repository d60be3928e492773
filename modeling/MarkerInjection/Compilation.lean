-- Compilation: the marked sites of many units, one unit after the other and
-- within a unit in source order.
import MarkerInjection.Site

namespace MarkerInjection

variable {h : Host}

/-! ## Jobs -/

/-- What a marked site stands on. -/
inductive Target (h : Host)
  | ofClass (c : h.Class)
  | declaration (kind : DeclarationKind)
  | expression

namespace Target

def node : Target h → Node h
  | .ofClass c => .ofClass c
  | .declaration kind => .declaration kind
  | .expression => .expression

def class? : Target h → Option h.Class
  | .ofClass c => some c
  | _ => none

/-- The target after a visit that left these nodes. -/
def after (target : Target h) : List (Node h) → Target h
  | [_, .ofClass c] => .ofClass c
  | _ => target

end Target

/-- A marked site of a unit. -/
structure Site (h : Host) where
  tag : h.Tag
  target : Target h

/-- A unit with its marked sites in source order. -/
structure Job (h : Host) where
  unit : h.SourceUnit
  sites : List (Site h)

/-- The classes of the unit, in site order. -/
def Job.classes (j : Job h) : List h.Class := j.sites.filterMap (·.target.class?)

/-! ## Reports -/

/-- What became of a site. The names are those from before its visit. -/
structure SiteReport where
  unitName : String
  className : Option String
  outcome : Outcome
  failure : Option Failure
  deriving Repr, DecidableEq

/-- The outcomes of a run, in job order and within a job in site order. -/
structure Report where
  runId : RunId
  sites : List SiteReport
  deriving Repr, DecidableEq

namespace Report

/-- No site failed or was rejected. -/
def isSuccess (r : Report) : Bool := r.sites.all (!·.outcome.isError)

/-- The failures in site order. -/
def failures (r : Report) : List Failure := r.sites.filterMap (·.failure)

def countSites (r : Report) (p : Outcome → Bool) : Nat := r.sites.countP (p ·.outcome)

def completed (r : Report) : Nat :=
  r.countSites fun o => match o with
    | .completed _ => true
    | _ => false

def skipped (r : Report) : Nat := r.countSites (· == .skipped)

def ignored (r : Report) : Nat := r.countSites (· == .ignored)

def rejected (r : Report) : Nat := r.countSites (· == .rejected)

def failed (r : Report) : Nat := r.countSites (· == .failed)

end Report

/-! ## Runs -/

/-- What a run carries from site to site. -/
structure Progress (h : Host) where
  world : World h
  /-- A site failed, and no further one is started. -/
  stopped : Bool

namespace Transform

/-- The outcome of a site whose visit gave this result. -/
def outcomeOf : Except Failure Outcome → Outcome
  | .ok outcome => outcome
  | .error failure => if failure.isUsageError then .rejected else .failed

/-- Processes one site of a unit, unless the run is stopped. -/
def runSite (t : Transform h) (p : Progress h) (unit : h.SourceUnit) (site : Site h) :
    Progress h × h.SourceUnit × Site h × SiteReport :=
  let unitName := h.unitName unit
  let className := site.target.class?.map h.className
  if p.stopped then (p, unit, site, ⟨unitName, className, .skipped, none⟩)
  else
    let v := t.visit [.tag site.tag, site.target.node] unit p.world
    let site := { site with target := site.target.after v.nodes }
    match v.result with
    | .ok outcome => (⟨v.world, false⟩, v.unit, site, ⟨unitName, className, outcome, none⟩)
    | .error failure =>
      (⟨v.world.logged (.siteFailed unitName failure), t.config.failureScope = .wholeBuild⟩, v.unit,
        site, ⟨unitName, className, outcomeOf v.result, some failure⟩)

/-- Processes sites of a unit in their order. -/
def runSites (t : Transform h) :
    Progress h → h.SourceUnit → List (Site h) →
      Progress h × h.SourceUnit × List (Site h) × List SiteReport
  | p, unit, [] => (p, unit, [], [])
  | p, unit, site :: sites =>
    let (p, unit, site, report) := t.runSite p unit site
    let (p, unit, sites, reports) := t.runSites p unit sites
    (p, unit, site :: sites, report :: reports)

/-- Processes one unit. -/
def runJob (t : Transform h) (p : Progress h) (job : Job h) :
    Progress h × Job h × List SiteReport :=
  let (p, unit, sites, reports) := t.runSites p job.unit job.sites
  (p, ⟨unit, sites⟩, reports)

/-- Processes units in their order. -/
def runJobs (t : Transform h) :
    Progress h → List (Job h) → Progress h × List (Job h) × List SiteReport
  | p, [] => (p, [], [])
  | p, job :: jobs =>
    let (p, job, reports) := t.runJob p job
    let (p, jobs, more) := t.runJobs p jobs
    (p, job :: jobs, reports ++ more)

/-- One run over all units. Every run starts anew, even if the one before was stopped. -/
def run (t : Transform h) (jobs : List (Job h)) (world : World h) :
    World h × List (Job h) × Report :=
  let started := Event.started jobs.length t.config.threads t.config.failureScope
  let (p, jobs, sites) := t.runJobs ⟨world.logged started, false⟩ jobs
  let report : Report := ⟨t.channel.runId, sites⟩
  (p.world.logged (.finished report.completed report.failures.length report.skipped), jobs,
    report)

end Transform

end MarkerInjection
