-- Configuration by a JSON document: an object with the settings by name, or a
-- list with the first of them in order.
import MarkerInjection.Config.Basic
import MarkerInjection.Json.Scalar

namespace MarkerInjection

open Json

/-! ## Settings -/

/-- What a document can set. -/
inductive Setting
  | marker
  | valueMember
  | failureScope
  | threads
  deriving Repr, DecidableEq, Inhabited

namespace Setting

/-- The settings in the order of a list. -/
def all : List Setting := [marker, valueMember, failureScope, threads]

/-- The name in an object. -/
def name : Setting → String
  | marker => "marker"
  | valueMember => "value_member"
  | failureScope => "failure_scope"
  | threads => "threads"

def ofName? (s : String) : Option Setting := all.find? (·.name == s)

end Setting

/-- The settings that a document gives. -/
structure Given where
  marker : Option String := none
  valueMember : Option String := none
  failureScope : Option FailureScope := none
  threads : Option Nat := none
  deriving Repr, DecidableEq, Inhabited

namespace Given

def has (g : Given) : Setting → Bool
  | .marker => g.marker.isSome
  | .valueMember => g.valueMember.isSome
  | .failureScope => g.failureScope.isSome
  | .threads => g.threads.isSome

/-- The configuration with the given settings; the others have their defaults. -/
def config (g : Given) : Config where
  marker := g.marker.getD Config.standard.marker
  valueMember := g.valueMember.getD Config.standard.valueMember
  failureScope := g.failureScope.getD Config.standard.failureScope
  threads := (g.threads.map .exactly).getD Config.standard.threads

end Given

namespace Document

/-! ## Failure scopes -/

def scopeNames : List String := [FailureScope.perClass.text, FailureScope.wholeBuild.text]

/-- Reads the name of a scope, spelled exactly. -/
def scopeName : Reader FailureScope := do
  let name ← string "variant identifier"
  if name = FailureScope.perClass.text then return .perClass
  else if name = FailureScope.wholeBuild.text then return .wholeBuild
  else failHere (.unknownVariant name scopeNames)

/-- Reads a colon in an object. -/
def colon : Reader Unit := do
  match ← peekSolid with
  | none => failAhead .endOfObject
  | some b => if b == code ':' then skip else failAhead .colonDue

/-- Reads a scope: its name, or an object with the name over `null`. -/
def scope : Reader FailureScope := do
  let b ← peekValue
  if b == code '"' then scopeName
  else if b == code '\x7b' then
    skip
    let found ← scopeName
    colon
    null "unit"
    match ← peekSolid with
    | none => failHere .endOfObject
    | some b =>
      if b == code '\x7d' then
        skip
        return found
      else failHere .valueDue
  else failAhead .valueDue

/-! ## Values of settings -/

/-- Reads the value of a setting. -/
def value (g : Given) : Setting → Reader Given
  | .marker => return { g with marker := some (← string "a string") }
  | .valueMember => return { g with valueMember := some (← string "a string") }
  | .failureScope => return { g with failureScope := some (← scope) }
  | .threads => return { g with threads := some (← natural "usize") }

/-! ## Lists -/

/-- A further element of a list follows; it comes next. -/
def atElement (isFirst : Bool) : Reader Bool := do
  match ← peekSolid with
  | none => failAhead .endOfList
  | some b =>
    if b == code ']' then return false
    else if isFirst then return true
    else if b == code ',' then
      skip
      match ← peekSolid with
      | none => failAhead .endOfValue
      | some b => if b == code ']' then failAhead .trailingComma else return true
    else failAhead .commaOrEndOfListDue

/-- Reads elements of a list for these settings, as far as there are any. -/
def elements (isFirst : Bool) (g : Given) : List Setting → Reader Given
  | [] => return g
  | s :: more => do
    if ← atElement isFirst then elements false (← value g s) more else return g

/-- The end of a list. -/
def listEnd : Reader Unit := do
  match ← peekSolid with
  | none => failAhead .endOfList
  | some b =>
    if b == code ']' then skip
    else if b == code ',' then
      skip
      if (← peekSolid) == some (code ']') then failAhead .trailingComma
      else failAhead .trailingCharacters
    else failAhead .trailingCharacters

/-! ## Objects -/

/-- A further key of an object follows; its quote comes next. -/
def atKey (isFirst : Bool) : Reader Bool := do
  match ← peekSolid with
  | none => failAhead .endOfObject
  | some b =>
    if b == code '\x7d' then return false
    else if isFirst then
      if b == code '"' then return true else failAhead .keyDue
    else if b == code ',' then
      skip
      match ← peekSolid with
      | none => failAhead .endOfValue
      | some b =>
        if b == code '"' then return true
        else if b == code '\x7d' then failAhead .trailingComma
        else failAhead .keyDue
    else failAhead .commaOrEndOfObjectDue

/-- Refuses a key. The fault stands behind the object if nothing else is in it, else at what
follows the key. -/
def refuseKey {α : Type} (reason : Reason) : Reader α := do
  if (← peekSolid) == some (code '\x7d') then skip
  failHere reason

/-- Reads the members of an object. The bound is only there to end the loop. -/
def members : Nat → Bool → Given → Reader Given
  | 0, _, g => return g
  | n + 1, isFirst, g => do
    if !(← atKey isFirst) then return g
    skip
    let name ← stringRest
    match Setting.ofName? name with
    | none => refuseKey (.unknownField name (Setting.all.map Setting.name))
    | some s =>
      if g.has s then refuseKey (.duplicateField name)
      colon
      members n false (← value g s)

/-! ## Documents -/

/-- Reads the settings of a document. -/
def settings : Reader Given := do
  let b ← peekValue
  if b == code '[' then
    skip
    let g ← elements true {} Setting.all
    listEnd
    return g
  else if b == code '\x7b' then
    skip
    let g ← members ((← get).rest.length + 1) true {}
    skip
    return g
  else refuseValue "struct TransformConfig"

/-- Reads the settings of a document, behind which nothing may follow. -/
def document : Reader Given := do
  let g ← settings
  if (← peekSolid).isSome then failAhead .trailingCharacters
  return g

/-- The settings of a whole document. -/
def read (text : String) : Except Fault Given := document.run' ⟨[], text.toUTF8.toList⟩

end Document

/-- The configuration that a JSON document gives; what it leaves out has its default. -/
def Config.ofJson (text : String) : Except Failure Config :=
  match Document.read text with
  | .error fault => .error (.configuration fault.text)
  | .ok given => given.config.checked

end MarkerInjection
