-- Injection: the injectors that apply run one after the other, and the first
-- failure ends it.
import MarkerInjection.Registry
import MarkerInjection.World

namespace MarkerInjection

variable {h : Host}

/-! ## One call -/

/-- What an injection works on. -/
structure Scene (h : Host) where
  world : World h
  unit : h.SourceUnit
  target : h.Class

/-- Calls an injector. -/
def Descriptor.call (d : Descriptor h) (s : Scene h) : Scene h × Except Cause Unit :=
  let (memory, unit, target, result) := d.inject s.world.memory s.unit s.target
  (⟨{ s.world with memory }, unit, target⟩, result)

/-! ## Reports of failures -/

/-- Where failures of injectors are reported. -/
structure Channel where
  sink : Sink
  runId : RunId
  deriving Repr, DecidableEq

namespace Channel

/-- The diagnostic of an injector that failed. The names are those that unit and class have
after the call. -/
def diagnostic (ch : Channel) (type : ArtefactType) (injector : String) (index : Nat)
    (cause : Cause) (s : Scene h) : Diagnostic where
  runId := ch.runId
  time := s.world.now
  unitName := h.unitName s.unit
  className := h.className s.target
  type
  injector
  index
  message := "Error occurred calling AST injector: " ++ cause.outermost
  cause := cause.full

/-- The failure that the caller gets for it. -/
def failure (type : ArtefactType) (injector : String) (index : Nat) (cause : Cause)
    (s : Scene h) : Failure :=
  .injection (h.className s.target) type.name injector index cause

/-! ## A list of injectors -/

/-- Runs injectors one after the other, the first of which has the given position. The first
failure is reported and ends the run; its changes stay, like those before it. Without a
failure the answer is the number of injectors, counted from the first position. -/
def applyFrom (ch : Channel) (type : ArtefactType) :
    Nat → List (Descriptor h) → Scene h → Scene h × Except Failure Nat
  | index, [], s => (s, .ok index)
  | index, d :: ds, s =>
    let event := Event.applying d.name (h.className s.target) type
    let (after, result) := d.call { s with world := s.world.logged event }
    match result with
    | .ok () => applyFrom ch type (index + 1) ds after
    | .error cause =>
      let report := ch.diagnostic type d.name index cause after
      ({ after with world := ch.sink.emit report after.world },
        .error (failure type d.name index cause after))

/-- Runs exactly these injectors in their order. -/
def apply (ch : Channel) (type : ArtefactType) (ds : List (Descriptor h)) (s : Scene h) :
    Scene h × Except Failure Nat :=
  ch.applyFrom type 0 ds s

end Channel

end MarkerInjection
