-- A host whose injectors follow scripts: lists of acts that change the class and
-- the unit or fail. It serves to try out registries and runs.
import MarkerInjection.Compilation

namespace MarkerInjection.Scripted

/-! ## The nodes -/

/-- A tag with its members. Of members with one name only the first is seen. -/
structure Tag where
  name : String
  members : List (String × MemberValue)
  deriving Repr, DecidableEq, Inhabited

/-- A class with the labels that injectors left on it. -/
structure Class where
  name : String
  isInterface : Bool
  injected : List String
  deriving Repr, DecidableEq, Inhabited

/-- A unit, and how often injectors left a label in it. -/
structure SourceUnit where
  name : String
  touched : Nat
  deriving Repr, DecidableEq, Inhabited

/-- The host. Its memory tells how often each injector was called. -/
def host : Host where
  Tag := Tag
  Class := Class
  SourceUnit := SourceUnit
  Memory := String → Nat
  tagName := Tag.name
  member a name := a.members.lookup name
  className := Class.name
  isInterface := Class.isInterface
  unitName := SourceUnit.name

/-! ## Scripts -/

/-- One act of an injector. -/
inductive Act
  /-- Leaves a label on the class. -/
  | record (label : String)
  /-- Fails with these messages, outermost first. -/
  | fail (messages : List String)
  | renameClass (name : String)
  | renameUnit (name : String)
  | setInterface (value : Bool)
  /-- Fails if the label is on the class. -/
  | failIfInjected (label : String)
  /-- Fails if labels were left in the unit so often. -/
  | failIfTouched (count : Nat)
  /-- Fails in this call. -/
  | failOnCall (call : Nat)
  deriving Repr, DecidableEq, Inhabited

/-- The cause with these messages; without one its message is empty. -/
def causeOf : List String → Cause
  | [] => ⟨"", []⟩
  | outermost :: deeper => ⟨outermost, deeper⟩

/-- What an act makes of unit and class in the given call. -/
def Act.perform (call : Nat) (u : SourceUnit) (c : Class) :
    Act → SourceUnit × Class × Except Cause Unit
  | record label =>
    ({ u with touched := u.touched + 1 }, { c with injected := c.injected ++ [label] }, .ok ())
  | fail messages => (u, c, .error (causeOf messages))
  | renameClass name => (u, { c with name }, .ok ())
  | renameUnit name => ({ u with name }, c, .ok ())
  | setInterface value => (u, { c with isInterface := value }, .ok ())
  | failIfInjected label =>
    (u, c, if c.injected.contains label then .error ⟨label ++ " already injected", []⟩ else .ok ())
  | failIfTouched count =>
    (u, c, if u.touched ≥ count then
      .error ⟨"unit touched " ++ toString u.touched ++ " time(s)", []⟩ else .ok ())
  | failOnCall n =>
    (u, c, if n = call then .error ⟨"call " ++ toString call ++ " failed", []⟩ else .ok ())

/-- Performs acts in order up to the first that fails. -/
def performAll (call : Nat) (u : SourceUnit) (c : Class) :
    List Act → SourceUnit × Class × Except Cause Unit
  | [] => (u, c, .ok ())
  | act :: acts =>
    match act.perform call u c with
    | (u, c, .ok ()) => performAll call u c acts
    | (u, c, .error cause) => (u, c, .error cause)

/-- The injector of this name that follows the script. It counts its calls, from one. -/
def injector (name : String) (script : List Act) : Injector host := fun calls u c =>
  let call := calls name + 1
  let (u, c, result) := performAll call u c script
  (fun n => if n == name then call else calls n, u, c, result)

/-- The world before the first call. -/
def world : World host := World.initial (fun _ => 0) Instant.epoch

end MarkerInjection.Scripted
