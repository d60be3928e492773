-- Items of source text. A struct is kept in its parts, since injectors change it
-- and an `impl` block repeats its parameters; other items keep their printed tokens.
import MarkerInjection.Host
import MarkerInjection.Source.Punctuated

namespace MarkerInjection.Source

/-! ## Generic parameters -/

/-- The kind of a generic parameter. A default holds the tokens behind the `=`. -/
inductive ParamKind
  | lifetime
  | type (default : Option (List Token))
  | const (type : List Token) (default : Option (List Token))
  deriving Repr, Inhabited

/-- A generic parameter. The bounds are the tokens behind the colon. -/
structure Param where
  attributes : List Token
  name : String
  bounds : List Token
  kind : ParamKind
  deriving Repr, Inhabited

/-- The parameter list and the `where` clause of an item. An empty pair of angle brackets and a
`where` without predicates are known here, but never printed. -/
structure Generics where
  angled : Bool
  params : Punctuated Param
  whereClause : Option (List Token)
  deriving Repr, Inhabited

namespace Param

def isLifetime (p : Param) : Bool :=
  match p.kind with
  | .lifetime => true
  | _ => false

/-- The name as types write it. -/
def reference (p : Param) : List Token :=
  if p.isLifetime then lifetimeTokens p.name else [.ident p.name]

/-- A colon and the bounds; nothing if there are none. -/
def printBounds (bounds : List Token) : List Token :=
  if bounds.isEmpty then [] else sign ":" ++ bounds

def printDefault : Option (List Token) → List Token
  | some ts => sign "=" ++ ts
  | none => []

/-- The parameter without its default. -/
def head (p : Param) : List Token :=
  p.attributes ++
    match p.kind with
    | .lifetime => p.reference ++ printBounds p.bounds
    | .type _ => p.reference ++ printBounds p.bounds
    | .const type _ => [.ident "const"] ++ p.reference ++ sign ":" ++ type

/-- The whole parameter. -/
def declaration (p : Param) : List Token :=
  p.head ++
    match p.kind with
    | .lifetime => []
    | .type default => printDefault default
    | .const _ default => printDefault default

end Param

namespace Generics

def none : Generics := ⟨false, ⟨[], false⟩, Option.none⟩

/-- Lifetimes are printed before the other parameters. If the last lifetime had no comma, one
is put between the two parts. -/
def printOrdered (form : Param → List Token) (ps : Punctuated Param) : List Token :=
  let lifetimes := ps.pairs.filter (·.1.isLifetime)
  let others := ps.pairs.filter (!·.1.isLifetime)
  let missing := match lifetimes.getLast? with
    | some (_, comma) => !comma
    | Option.none => false
  lifetimes.flatMap (Punctuated.printPair "," form) ++
    (if missing && !others.isEmpty then sign "," else []) ++
    others.flatMap (Punctuated.printPair "," form)

/-- The parameters between angle brackets; nothing if there are none. -/
def printParams (form : Param → List Token) (g : Generics) : List Token :=
  if g.params.members.isEmpty then [] else sign "<" ++ printOrdered form g.params ++ sign ">"

/-- The parameter list as the item declares it. -/
def declarations (g : Generics) : List Token := g.printParams Param.declaration

/-- The parameter list of an `impl`: defaults are left out. -/
def heads (g : Generics) : List Token := g.printParams Param.head

/-- The parameter names behind the type. -/
def references (g : Generics) : List Token := g.printParams Param.reference

/-- The `where` clause; nothing if it has no predicates. -/
def printWhere (g : Generics) : List Token := g.whereClause.getD []

end Generics

/-! ## Structs -/

/-- A field. Only the fields of a tuple struct have no name. -/
structure Field where
  attributes : List Token
  visibility : List Token
  name : Option String
  type : List Token
  deriving Repr, Inhabited

/-- The fields of a struct and with them its shape. -/
inductive Fields
  | named (fields : Punctuated Field)
  | tuple (fields : Punctuated Field)
  | unit
  deriving Repr, Inhabited

/-- A struct in its parts. -/
structure StructItem where
  attributes : List Token
  visibility : List Token
  name : String
  generics : Generics
  fields : Fields
  deriving Repr, Inhabited

def Field.print (f : Field) : List Token :=
  f.attributes ++ f.visibility ++
    (match f.name with | some name => .ident name :: sign ":" | none => []) ++ f.type

namespace Fields

/-- The fields between their brackets. -/
def print : Fields → List Token
  | .named fs => [.group .brace (fs.print "," Field.print)]
  | .tuple fs => [.group .paren (fs.print "," Field.print)]
  | .unit => []

/-- The fields in order. -/
def toList : Fields → List Field
  | .named fs => fs.members
  | .tuple fs => fs.members
  | .unit => []

end Fields

/-- The printed struct. A `where` clause stands before braces, but behind the round brackets of
a tuple struct, and those that have no braces end in a semicolon. -/
def StructItem.print (s : StructItem) : List Token :=
  s.attributes ++ s.visibility ++ [.ident "struct", .ident s.name] ++ s.generics.declarations ++
    match s.fields with
    | .named _ => s.generics.printWhere ++ s.fields.print
    | .tuple _ => s.fields.print ++ s.generics.printWhere ++ sign ";"
    | .unit => s.generics.printWhere ++ sign ";"

/-! ## Items -/

/-- A trait: its name and its printed tokens. -/
structure TraitItem where
  name : String
  tokens : List Token
  deriving Repr, Inhabited

/-- An item. One that is neither a struct nor a trait is known by its kind and kept in its printed
tokens. -/
inductive Item
  | struct (item : StructItem)
  | trait (item : TraitItem)
  | other (kind : DeclarationKind) (tokens : List Token)
  deriving Repr, Inhabited

def Item.print : Item → List Token
  | .struct s => s.print
  | .trait t => t.tokens
  | .other _ ts => ts

/-- The item with attributes before it. -/
def Item.withAttributes (attributes : List Token) : Item → Item
  | .struct s => .struct { s with attributes := attributes ++ s.attributes }
  | .trait t => .trait { t with tokens := attributes ++ t.tokens }
  | .other kind ts => .other kind (attributes ++ ts)

end MarkerInjection.Source
