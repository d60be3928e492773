-- Classes of source text: structs and traits with the members that injectors
-- gave them, and source units.
import MarkerInjection.Source.Tag

namespace MarkerInjection.Source

/-! ## Classes -/

/-- The item of a class. Traits are its interfaces. -/
inductive ClassItem
  | struct (item : StructItem)
  | trait (item : TraitItem)
  deriving Repr, Inhabited

namespace ClassItem

def name : ClassItem → String
  | .struct s => s.name
  | .trait t => t.name

def print : ClassItem → List Token
  | .struct s => s.print
  | .trait t => t.tokens

def isTrait : ClassItem → Bool
  | .struct _ => false
  | .trait _ => true

/-- The class that an item declares, if it is a struct or a trait. -/
def ofItem? : Item → Option ClassItem
  | .struct s => some (.struct s)
  | .trait t => some (.trait t)
  | .other _ _ => none

end ClassItem

/-- A class with the printed members that were generated for it, in order. -/
structure Class where
  item : ClassItem
  generated : List (List Token)
  deriving Repr, Inhabited

namespace Class

def new (item : ClassItem) : Class := ⟨item, []⟩

def name (c : Class) : String := c.item.name

/-- The class with one more generated member. -/
def push (c : Class) (member : List Token) : Class :=
  { c with generated := c.generated ++ [member] }

/-- The `impl` block of a struct for these members. It repeats the parameters and the `where`
clause of the struct. -/
def implBlock (s : StructItem) (members : List (List Token)) : List Token :=
  [.ident "impl"] ++ s.generics.heads ++ [.ident s.name] ++ s.generics.references ++
    s.generics.printWhere ++ [.group .brace members.flatten]

/-- The printed class: the item, and for a struct with generated members an `impl` block that
holds them. -/
def print (c : Class) : List Token :=
  match c.item with
  | .trait t => t.tokens
  | .struct s => s.print ++ if c.generated.isEmpty then [] else implBlock s c.generated

end Class

/-! ## The host -/

/-- Source text as a host. Units are known by name only, and injectors keep nothing. -/
def host : Host where
  Tag := Tag
  Class := Class
  SourceUnit := String
  Memory := Unit
  tagName := Tag.name
  member := Tag.member
  className := Class.name
  isInterface c := c.item.isTrait
  unitName := id

end MarkerInjection.Source
