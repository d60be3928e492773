-- Artefact types, and which of them an injector applies to.
import MarkerInjection.NameSet

namespace MarkerInjection

/-! ## Artefact types -/

/-- The name of an artefact type, such as `Controller`. It is never empty. -/
structure ArtefactType where
  name : String
  nonempty : name ≠ ""
  deriving Repr, DecidableEq

/-- The artefact type of this name; the empty name names none. -/
def ArtefactType.ofName? (name : String) : Option ArtefactType :=
  if h : name = "" then none else some ⟨name, h⟩

theorem ArtefactType.ofName?_name (type : ArtefactType) : ofName? type.name = some type := by
  simp [ofName?, type.nonempty]

/-! ## Capabilities -/

/-- The artefact types that an injector applies to: all of them, or those with the listed
names. -/
inductive Capability
  | universal
  | only (types : NameSet)
  deriving Repr, DecidableEq

namespace Capability

/-- The injector applies to this artefact type. Names are compared exactly. -/
def supports : Capability → ArtefactType → Bool
  | universal, _ => true
  | only types, t => types.contains t.name

def isUniversal : Capability → Bool
  | universal => true
  | only _ => false

/-- The listed names, none if the capability is universal. -/
def listed : Capability → List String
  | universal => []
  | only types => types.toList

/-- A star, or the listed names in curly brackets. -/
def text : Capability → String
  | universal => "*"
  | only types => "\x7b" ++ ", ".intercalate types.toList ++ "\x7d"

end Capability

end MarkerInjection
