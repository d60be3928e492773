-- What the host of the injections hands over: tags, which are its annotations,
-- classes and source units, seen through a few of their properties.

namespace MarkerInjection

/-! ## Members of tags -/

/-- The value of a member: a string that is known, or the text of any other
expression. -/
inductive MemberValue
  | literal (text : String)
  | expression (text : String)
  deriving Repr, DecidableEq, Inhabited

/-- The text of a string that is known. -/
def MemberValue.literal? : MemberValue → Option String
  | literal text => some text
  | expression _ => none

/-! ## The host -/

/-- The nodes of a host, and what is seen of them. `Memory` is what the injectors of the host
keep from one call to the next. -/
structure Host where
  Tag : Type
  Class : Type
  SourceUnit : Type
  Memory : Type
  /-- The simple name of the tag. -/
  tagName : Tag → String
  /-- The value of the member of this name, if it was given. -/
  member : Tag → String → Option MemberValue
  className : Class → String
  isInterface : Class → Bool
  unitName : SourceUnit → String

/-! ## Kinds of nodes -/

/-- Declarations that can carry a tag, but are no classes. -/
inductive DeclarationKind
  | method
  | field
  | property
  | constructor
  | parameter
  | package
  | type
  | other
  deriving Repr, DecidableEq, Inhabited

def DeclarationKind.text : DeclarationKind → String
  | method => "Method"
  | field => "Field"
  | property => "Property"
  | constructor => "Constructor"
  | parameter => "Parameter"
  | package => "Package"
  | type => "Type"
  | other => "Other"

/-- The kinds of nodes that failures tell apart. -/
inductive NodeKind
  | tag
  | plainClass
  | interface
  | declaration (kind : DeclarationKind)
  | expression
  deriving Repr, DecidableEq, Inhabited

def NodeKind.text : NodeKind → String
  | .tag => "Annotation"
  | .plainClass => "Class"
  | .interface => "Interface"
  | .declaration kind => kind.text
  | .expression => "Expression"

/-! ## Nodes -/

/-- A node that the host hands over. -/
inductive Node (h : Host)
  | tag (t : h.Tag)
  | ofClass (c : h.Class)
  | declaration (kind : DeclarationKind)
  | expression

namespace Node

variable {h : Host}

def kind : Node h → NodeKind
  | .tag _ => .tag
  | .ofClass c => if h.isInterface c then .interface else .plainClass
  | .declaration k => .declaration k
  | .expression => .expression

/-- The node is a declaration, which can carry a tag. -/
def isDeclared : Node h → Bool
  | .ofClass _ => true
  | .declaration _ => true
  | _ => false

end Node

end MarkerInjection
