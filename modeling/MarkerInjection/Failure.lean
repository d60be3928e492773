-- Why a marked site, a registry or a configuration fails, and the message for
-- each reason.
import MarkerInjection.Host
import MarkerInjection.ArtefactType

namespace MarkerInjection

/-! ## Causes -/

/-- The error of an injector: its outermost message, and the messages of what caused it, the
root last. -/
structure Cause where
  outermost : String
  deeper : List String
  deriving Repr, DecidableEq, Inhabited

namespace Cause

/-- The messages, outermost first. -/
def chain (c : Cause) : List String := c.outermost :: c.deeper

/-- All messages in one line. -/
def full (c : Cause) : String := ": ".intercalate c.chain

end Cause

/-! ## Failures -/

/-- Why a marked class is turned away. -/
inductive Refusal
  | interface
  | missingType
  deriving Repr, DecidableEq, Inhabited

def Refusal.text : Refusal → String
  | interface => "interface not supported"
  | missingType => "missing or non-literal artefact type"

/-- What goes wrong. -/
inductive Failure
  /-- The nodes of a site are not two. -/
  | nodeCount (found : Nat)
  /-- The nodes of a site are not a tag and a declaration. -/
  | nodeKinds (first second : NodeKind)
  /-- The author of the source has to mend it. -/
  | refused (className : String) (reason : Refusal) (message : String)
  /-- An injector failed; `index` is its position among those that apply. -/
  | injection (className type injector : String) (index : Nat) (cause : Cause)
  /-- Two injectors share a name. -/
  | duplicateInjector (name : String)
  | configuration (text : String)
  deriving Repr, DecidableEq, Inhabited

namespace Failure

/-- The message of a failure. -/
def message : Failure → String
  | nodeCount found =>
    "Internal error: expected an annotation and its target, got " ++ toString found ++ " node(s)"
  | nodeKinds first second =>
    "Internal error: wrong types: " ++ first.text ++ " / " ++ second.text
  | refused _ _ message => message
  | injection className type injector _ cause =>
    "Error occurred calling AST injector '" ++ injector ++ "' on [" ++ className ++ "] (" ++
      type ++ "): " ++ cause.outermost
  | duplicateInjector name => "Duplicate injector registered: " ++ name
  | configuration text => "Invalid configuration: " ++ text

/-- The host did not hand over what was agreed on. -/
def isContractViolation : Failure → Bool
  | nodeCount _ => true
  | nodeKinds _ _ => true
  | _ => false

/-- The author of the source has to mend it. -/
def isUsageError : Failure → Bool
  | refused _ _ _ => true
  | _ => false

def isInjectorFailure : Failure → Bool
  | injection _ _ _ _ _ => true
  | _ => false

/-- The name of the class that failed. -/
def className? : Failure → Option String
  | refused className _ _ => some className
  | injection className _ _ _ _ => some className
  | _ => none

/-- The messages of what lies below a failure, outermost first. -/
def causes : Failure → List String
  | injection _ _ _ _ cause => cause.chain
  | _ => []

end Failure

end MarkerInjection
