-- What a run leaves behind besides its results: the memory of the injectors,
-- the diagnostics that were kept, and the log.
import MarkerInjection.Config.Basic
import MarkerInjection.Diagnostic.Record

namespace MarkerInjection

/-! ## Log events -/

/-- An event of the log. -/
inductive Event
  | registryBuilt (injectors : Nat)
  | matched (count : Nat) (type : ArtefactType) (className : String)
  | applying (injector className : String) (type : ArtefactType)
  | reported (diagnostic : Diagnostic)
  | started (units : Nat) (threads : ThreadCount) (scope : FailureScope)
  | siteFailed (unitName : String) (failure : Failure)
  | finished (completed errors skipped : Nat)
  deriving Repr, DecidableEq

/-- How much an event matters. -/
inductive Level
  | debug
  | info
  | warn
  | error
  deriving Repr, DecidableEq, Inhabited

namespace Event

def level : Event → Level
  | registryBuilt _ => .debug
  | matched _ _ _ => .debug
  | applying _ _ _ => .debug
  | reported _ => .error
  | started _ _ _ => .info
  | siteFailed _ _ => .warn
  | finished _ _ _ => .info

/-- The line of the log. -/
def message : Event → String
  | registryBuilt n => "Injector registry built (" ++ toString n ++ " injectors)"
  | matched n type className =>
    toString n ++ " injector(s) matched " ++ type.name ++ " for " ++ className
  | applying injector className type =>
    "Applying injector " ++ injector ++ " to " ++ className ++ " (" ++ type.name ++ ")"
  | reported diagnostic => diagnostic.message
  | started units threads scope =>
    "Compiling " ++ toString units ++ " unit(s) on " ++ threads.text ++
      " thread(s), failure scope: " ++ scope.text
  | siteFailed unitName failure => unitName ++ ": " ++ failure.message
  | finished completed errors skipped =>
    "Compilation finished (" ++ toString completed ++ " completed, " ++ toString errors ++
      " error(s), " ++ toString skipped ++ " skipped)"

end Event

/-! ## The world -/

/-- What a run reads and leaves behind: the memory of the injectors, the diagnostics that were
kept, the log, and the time at which things happen. -/
structure World (h : Host) where
  memory : h.Memory
  records : List Diagnostic
  log : List Event
  now : Instant

namespace World

variable {h : Host}

/-- The world before a run. -/
def initial (memory : h.Memory) (now : Instant) : World h := ⟨memory, [], [], now⟩

/-- One more event at the end of the log. -/
def logged (w : World h) (e : Event) : World h := { w with log := w.log ++ [e] }

end World

/-! ## Sinks -/

/-- Where diagnostics go: they are kept, or they become events of the log. -/
inductive Sink
  | memory
  | log
  deriving Repr, DecidableEq, Inhabited

/-- Hands a diagnostic to the sink. -/
def Sink.emit {h : Host} (s : Sink) (d : Diagnostic) (w : World h) : World h :=
  match s with
  | .memory => { w with records := w.records ++ [d] }
  | .log => w.logged (.reported d)

end MarkerInjection
