-- The configuration of a run: its values, their defaults and what is asked of
-- them before they are used.
import MarkerInjection.Failure

namespace MarkerInjection

/-! ## Failure scopes -/

/-- How far a failure reaches when several classes are compiled. -/
inductive FailureScope
  /-- Only the failing class is lost. -/
  | perClass
  /-- No class is started after the first failure. -/
  | wholeBuild
  deriving Repr, DecidableEq, Inhabited

namespace FailureScope

def text : FailureScope → String
  | .perClass => "class"
  | .wholeBuild => "build"

/-- An ASCII capital letter as a small one. -/
def small (c : Char) : Char := if 'A' ≤ c ∧ c ≤ 'Z' then Char.ofNat (c.toNat + 32) else c

/-- The scope of this name. Capital letters of ASCII count as small ones. -/
def ofText? (s : String) : Option FailureScope :=
  let s := s.toList.map small
  if s = "class".toList then some .perClass
  else if s = "build".toList then some .wholeBuild
  else none

end FailureScope

/-! ## Thread counts -/

/-- How many threads compile. A machine has at least one to offer. -/
inductive ThreadCount
  | machine
  | exactly (count : Nat)
  deriving Repr, DecidableEq, Inhabited

/-- The count in decimal. That of the machine is not known here. -/
def ThreadCount.text : ThreadCount → String
  | machine => "default"
  | exactly count => toString count

/-- One more than the greatest thread count that can be given. -/
def threadLimit : Nat := Nat.pow 2 64

/-! ## Configurations -/

/-- The configuration of a run. -/
structure Config where
  /-- The simple name of the tag that marks classes. -/
  marker : String
  /-- The member that holds the artefact type. -/
  valueMember : String
  failureScope : FailureScope
  threads : ThreadCount
  deriving Repr, DecidableEq, Inhabited

namespace Config

/-- What holds where nothing else is given. -/
def standard : Config := ⟨"Artefact", "value", .perClass, .machine⟩

/-- Refuses empty names and a run without threads. -/
def checked (c : Config) : Except Failure Config :=
  if c.marker = "" then .error (.configuration "marker must not be empty")
  else if c.valueMember = "" then .error (.configuration "value member must not be empty")
  else if c.threads = .exactly 0 then .error (.configuration "threads must be at least 1")
  else .ok c

end Config

end MarkerInjection
