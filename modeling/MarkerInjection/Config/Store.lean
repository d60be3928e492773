-- Configuration by keys: a store in which the last write wins, and the
-- configuration that its keys give.
import MarkerInjection.Config.Basic

namespace MarkerInjection

/-! ## The store -/

/-- Values under keys, the latest write first. -/
structure ConfigStore where
  writes : List (String × String)
  deriving Repr, DecidableEq, Inhabited

namespace ConfigStore

def empty : ConfigStore := ⟨[]⟩

/-- Writes a value under a key. -/
def set (s : ConfigStore) (key value : String) : ConfigStore := ⟨(key, value) :: s.writes⟩

/-- The value that was last written under the key. -/
def get? (s : ConfigStore) (key : String) : Option String := s.writes.lookup key

/-- The store after writing the pairs in order. -/
def ofPairs (pairs : List (String × String)) : ConfigStore :=
  pairs.foldl (fun s (key, value) => s.set key value) empty

/-! ## Pairs of bytes -/

/-- The text that the bytes encode as UTF-8. -/
def decode? (bytes : List UInt8) : Option String := String.fromUTF8? ⟨bytes.toArray⟩

/-- A pair as texts, if both of its parts are UTF-8. -/
def decodePair? (pair : List UInt8 × List UInt8) : Option (String × String) :=
  match decode? pair.1, decode? pair.2 with
  | some key, some value => some (key, value)
  | _, _ => none

/-- The store after writing those pairs that are texts. -/
def ofBytePairs (pairs : List (List UInt8 × List UInt8)) : ConfigStore :=
  ofPairs (pairs.filterMap decodePair?)

/-- The pairs that are left in an environment in which they were set in order: of those with
one key only the last. -/
def environment (pairs : List (List UInt8 × List UInt8)) : List (List UInt8 × List UInt8) :=
  pairs.foldl (fun kept pair => kept.filter (·.1 != pair.1) ++ [pair]) []

end ConfigStore

/-! ## Reading numbers -/

/-- Why a text is no thread count. -/
inductive NumberFault
  | empty
  | invalidDigit
  | tooLarge
  deriving Repr, DecidableEq, Inhabited

def NumberFault.text : NumberFault → String
  | empty => "cannot parse integer from empty string"
  | invalidDigit => "invalid digit found in string"
  | tooLarge => "number too large to fit in target type"

/-- The number that the digits go on with. The first fault counts. -/
def numberFrom (value : Nat) : List Char → Except NumberFault Nat
  | [] => .ok value
  | c :: r =>
    if '0' ≤ c ∧ c ≤ '9' then
      let value := value * 10 + (c.toNat - 48)
      if value < threadLimit then numberFrom value r else .error .tooLarge
    else .error .invalidDigit

/-- A decimal number below the limit, perhaps behind one plus sign. -/
def readThreads (s : String) : Except NumberFault Nat :=
  match s.toList with
  | [] => .error .empty
  | ['+'] => .error .invalidDigit
  | '+' :: digits => numberFrom 0 digits
  | digits => numberFrom 0 digits

/-! ## The keys -/

namespace ConfigKey

def marker : String := "ARTEFACTOR_MARKER"
def valueMember : String := "ARTEFACTOR_VALUE_MEMBER"
def failureScope : String := "ARTEFACTOR_FAILURE_SCOPE"
def threads : String := "ARTEFACTOR_THREADS"

end ConfigKey

namespace Config

/-- The scope under its key. -/
def storedScope (s : ConfigStore) : Except Failure FailureScope :=
  match s.get? ConfigKey.failureScope with
  | none => .ok standard.failureScope
  | some text =>
    match FailureScope.ofText? text with
    | some scope => .ok scope
    | none => .error (.configuration
        (ConfigKey.failureScope ++ ": unknown failure scope '" ++ text ++ "'"))

/-- The thread count under its key. -/
def storedThreads (s : ConfigStore) : Except Failure ThreadCount :=
  match s.get? ConfigKey.threads with
  | none => .ok standard.threads
  | some text =>
    match readThreads text with
    | .ok count => .ok (.exactly count)
    | .error fault => .error (.configuration (ConfigKey.threads ++ ": " ++ fault.text))

/-- The configuration that the keys of a store give; what they leave out has its default. -/
def ofStore (s : ConfigStore) : Except Failure Config := do
  let scope ← storedScope s
  let threads ← storedThreads s
  checked {
    marker := (s.get? ConfigKey.marker).getD standard.marker
    valueMember := (s.get? ConfigKey.valueMember).getD standard.valueMember
    failureScope := scope
    threads }

end Config

end MarkerInjection
