-- Sessions: one visitor and many steps on the same tags, classes and units.
import MarkerInjection.Site

namespace MarkerInjection

variable {h : Host}

/-! ## The session -/

/-- What the steps of a session work on. -/
structure Session (h : Host) where
  tags : List h.Tag
  classes : List h.Class
  units : List h.SourceUnit
  world : World h

/-- A node of a session. Tags and classes are named by their place. -/
inductive NodeRef
  | tag (place : Nat)
  | ofClass (place : Nat)
  | declaration (kind : DeclarationKind)
  | expression
  deriving Repr, DecidableEq, Inhabited

/-! ## Steps -/

/-- A step of a session. Units, classes and descriptors are named by their place. -/
inductive SessionStep
  | visit (unit : Nat) (nodes : List NodeRef)
  /-- Runs the injectors that apply to the type. -/
  | perform (unit target : Nat) (type : ArtefactType)
  /-- Runs these injectors, whatever they apply to. -/
  | apply (unit target : Nat) (type : ArtefactType) (descriptors : List Nat)
  /-- Calls the injector of this name. -/
  | inject (unit target : Nat) (injector : String)
  | validate (marker valueMember : String) (first second : NodeRef)
  | kinds (nodes : List NodeRef)
  deriving Repr, DecidableEq

/-- What comes of a step. -/
inductive StepResult (h : Host)
  | visited (result : Except Failure Outcome)
  | applied (result : Except Failure Nat)
  | injected (result : Except Cause Unit)
  | noInjector
  | judged (result : Except Failure (Verdict h))
  /-- The kinds of nodes, and whether they are declarations. -/
  | kinds (found : List (NodeKind × Bool))

namespace Session

/-- The node at its place. -/
def node? (s : Session h) : NodeRef → Option (Node h)
  | .tag place => s.tags[place]?.map .tag
  | .ofClass place => s.classes[place]?.map .ofClass
  | .declaration kind => some (.declaration kind)
  | .expression => some .expression

/-- Puts the classes that a visit left back to their places. -/
def putBack : List NodeRef → List (Node h) → List h.Class → List h.Class
  | .ofClass place :: refs, .ofClass c :: nodes, classes =>
    putBack refs nodes (classes.set place c)
  | _ :: refs, _ :: nodes, classes => putBack refs nodes classes
  | _, _, classes => classes

/-- Works on a unit and a class of the session. -/
def onScene {α : Type} (s : Session h) (unit target : Nat) (work : Scene h → Scene h × α) :
    Option (Session h × α) := do
  let (after, result) := work ⟨s.world, ← s.units[unit]?, ← s.classes[target]?⟩
  return ({ s with
    world := after.world
    units := s.units.set unit after.unit
    classes := s.classes.set target after.target }, result)

/-- Visits a site of nodes of the session. -/
def visit (t : Transform h) (s : Session h) (unit : Nat) (refs : List NodeRef) :
    Option (Session h × Except Failure Outcome) := do
  let v := t.visit (← refs.mapM s.node?) (← s.units[unit]?) s.world
  return ({ s with
    world := v.world
    units := s.units.set unit v.unit
    classes := putBack refs v.nodes s.classes }, v.result)

/-- Takes a step, if all that it names is there. Exact lists of injectors report to the kept
diagnostics, wherever the visitor reports to. -/
def step (t : Transform h) (s : Session h) : SessionStep → Option (Session h × StepResult h)
  | .visit unit nodes => do
    let (s, result) ← s.visit t unit nodes
    return (s, .visited result)
  | .perform unit target type => do
    let (s, result) ← s.onScene unit target (t.perform type)
    return (s, .applied result)
  | .apply unit target type places => do
    let ds ← places.mapM fun place => t.registry.descriptors[place]?
    let (s, result) ← s.onScene unit target (Channel.apply ⟨.memory, t.channel.runId⟩ type ds)
    return (s, .applied result)
  | .inject unit target injector =>
    match t.registry.get? injector with
    | none => some (s, .noInjector)
    | some d => do
      let (s, result) ← s.onScene unit target d.call
      return (s, .injected result)
  | .validate marker valueMember first second => do
    return (s, .judged (MarkerInjection.validate marker valueMember (← s.node? first)
      (← s.node? second)))
  | .kinds refs => do
    return (s, .kinds ((← refs.mapM s.node?).map fun n => (n.kind, n.isDeclared)))

end Session

end MarkerInjection
