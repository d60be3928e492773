-- Marked sites: what is asked of a tag and the declaration that it stands on, and
-- what comes of visiting them.
import MarkerInjection.Injection

namespace MarkerInjection

variable {h : Host}

/-! ## Validation -/

/-- What a tag and its declaration turn out to be. -/
inductive Verdict (h : Host)
  /-- A class with the artefact type that it is marked with. -/
  | accepted (target : h.Class) (type : ArtefactType)
  /-- No class, or not marked. -/
  | ignored
  | refused (className : String) (reason : Refusal)

/-- The artefact type that a tag names: the value member, if it is a known string that is not
empty. -/
def declaredType? (tag : h.Tag) (valueMember : String) : Option ArtefactType := do
  ArtefactType.ofName? (← (← h.member tag valueMember).literal?)

/-- Judges a class that is marked. An interface is refused whatever it is marked with. -/
def judge (valueMember : String) (tag : h.Tag) (c : h.Class) : Verdict h :=
  if h.isInterface c then .refused (h.className c) .interface
  else
    match declaredType? tag valueMember with
    | some type => .accepted c type
    | none => .refused (h.className c) .missingType

/-- Judges the two nodes of a site. The first has to be a tag and the second a declaration. -/
def validate (marker valueMember : String) (first second : Node h) :
    Except Failure (Verdict h) :=
  match first, second with
  | .tag t, .ofClass c =>
    .ok (if h.tagName t = marker then judge valueMember t c else .ignored)
  | .tag _, .declaration _ => .ok .ignored
  | _, _ => .error (.nodeKinds first.kind second.kind)

/-! ## Visits -/

/-- What becomes of a marked site. -/
inductive Outcome
  | ignored
  | completed (applied : Nat)
  | rejected
  | failed
  /-- Never started, since the run was stopped before. -/
  | skipped
  deriving Repr, DecidableEq, Inhabited

def Outcome.isError : Outcome → Bool
  | rejected => true
  | failed => true
  | _ => false

/-- The visitor of marked sites: which tag marks, which injectors there are, and where
failures go. -/
structure Transform (h : Host) where
  registry : Registry h
  config : Config
  channel : Channel

/-- The nodes, the unit and the world after a visit, and its result. -/
structure Visit (h : Host) where
  nodes : List (Node h)
  unit : h.SourceUnit
  world : World h
  result : Except Failure Outcome

namespace Transform

/-- Runs the injectors that apply to the type on a class, without asking whether it is
marked. -/
def perform (t : Transform h) (type : ArtefactType) (s : Scene h) :
    Scene h × Except Failure Nat :=
  let ds := t.registry.matching type
  let event := Event.matched ds.length type (h.className s.target)
  t.channel.apply type ds { s with world := s.world.logged event }

/-- The message for a class that is turned away. -/
def refusalMessage (t : Transform h) (className : String) : Refusal → String
  | .interface =>
    "Error processing interface '" ++ className ++ "'. @" ++ t.config.marker ++
      " not allowed for interfaces."
  | .missingType =>
    "Class [" ++ className ++ "] contains an invalid @" ++ t.config.marker ++
      " annotation. No artefact found for value specified."

/-- Visits a site: exactly a tag and the declaration that it stands on. -/
def visit (t : Transform h) (nodes : List (Node h)) (unit : h.SourceUnit) (world : World h) :
    Visit h :=
  match nodes with
  | [first, second] =>
    match validate t.config.marker t.config.valueMember first second with
    | .error failure => ⟨nodes, unit, world, .error failure⟩
    | .ok .ignored => ⟨nodes, unit, world, .ok .ignored⟩
    | .ok (.refused className reason) =>
      ⟨nodes, unit, world, .error (.refused className reason (t.refusalMessage className reason))⟩
    | .ok (.accepted c type) =>
      let (after, result) := t.perform type ⟨world, unit, c⟩
      ⟨[first, .ofClass after.target], after.unit, after.world, result.map .completed⟩
  | _ => ⟨nodes, unit, world, .error (.nodeCount nodes.length)⟩

end Transform

end MarkerInjection
