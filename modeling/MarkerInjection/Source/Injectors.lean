-- The injectors for classes of source text, and the names that they derive from
-- the name of a class.
import MarkerInjection.Registry
import MarkerInjection.Source.Class
import MarkerInjection.Text.LetterCase

namespace MarkerInjection.Source

open MarkerInjection.Text

/-! ## Derived names -/

/-- The name without an ending, unless nothing would be left. -/
def logicalName (name ending : String) : String :=
  let rest := name.toList.length - ending.toList.length
  if ending.toList.isSuffixOf name.toList && rest > 0 then
    String.ofList (name.toList.take rest)
  else name

/-- The name with its first character in lowercase. It stays as it is if the second one is
uppercase. -/
def propertyName (name : String) : String :=
  match name.toList with
  | [] => ""
  | first :: rest =>
    let keeps := match rest with
      | second :: _ => isUppercase second
      | [] => false
    if keeps then name else String.ofList (lowercase first ++ rest)

/-! ## Generated members -/

/-- A public function without arguments that gives a text. -/
def textFunction (name : String) (body : List Token) : List Token :=
  [.ident "pub", .ident "fn", .ident name, .group .paren []] ++ sign "->" ++ sign "&" ++
    lifetimeTokens "static" ++ [.ident "str", .group .brace body]

/-- The string literal of a text. -/
def textToken (s : String) : Token := .literal (literal s)

/-- The log target of a class: its module path and its name. -/
def logTarget (name : String) : List Token :=
  textFunction "log_target" ([.ident "concat"] ++ sign "!" ++ [.group .paren
    ([.ident "module_path"] ++ sign "!" ++ [.group .paren []] ++ sign "," ++ [textToken "::"] ++
      sign "," ++ [textToken name])])

/-- The type of the fields that a domain class gets. -/
def optionalNumber : List Token :=
  sign "::" ++ [.ident "core"] ++ sign "::" ++ [.ident "option"] ++ sign "::" ++
    [.ident "Option"] ++ sign "<" ++ [.ident "i64"] ++ sign ">"

/-- A public field of a domain class. -/
def domainField (name : String) : Field := ⟨[], [.ident "pub"], some name, optionalNumber⟩

/-! ## What the injectors do -/

/-- What an injector makes of a class, and the message if it fails. -/
abbrev Change := Class → Class × Except String Unit

/-- Every class tells its log target. -/
def logging : Change := fun c => (c.push (logTarget c.name), .ok ())

/-- A controller tells its name and its path. -/
def controller : Change := fun c =>
  let name := propertyName (logicalName c.name "Controller")
  let named := c.push (textFunction "controller_name" [textToken name])
  (named.push (textFunction "base_path" [textToken ("/" ++ name)]), .ok ())

/-- A service tells its name. -/
def service : Change := fun c =>
  (c.push (textFunction "service_name" [textToken (propertyName c.name)]), .ok ())

/-- Adds fields of these names one after the other. A name that the fields already have ends it,
and those added before stay. -/
def addFields (className : String) (fields : Punctuated Field) :
    List String → Punctuated Field × Except String Unit
  | [] => (fields, .ok ())
  | name :: names =>
    if fields.members.any (·.name == some name) then
      (fields, .error ("domain class " ++ className ++ " already declares a \x60" ++ name ++
        "\x60 field"))
    else addFields className (fields.push (domainField name)) names

/-- A domain class gets the fields that tell its record and its version. -/
def domain : Change := fun c =>
  match c.item with
  | .trait t => (c, .error (t.name ++ " is not a struct"))
  | .struct s =>
    match s.fields with
    | .named fields =>
      let (fields, result) := addFields s.name fields ["id", "version"]
      ({ c with item := .struct { s with fields := .named fields } }, result)
    | _ => (c, .error ("domain class " ++ s.name ++ " must have named fields"))

/-! ## The registry -/

/-- What can be added to a class of source text. -/
inductive Feature
  | logging
  | controller
  | service
  | domain
  deriving Repr, DecidableEq, Inhabited

namespace Feature

/-- The features in the order in which they are added. -/
def all : List Feature := [logging, controller, service, domain]

/-- The name of the injector. -/
def name : Feature → String
  | .logging => "logging"
  | .controller => "controller"
  | .service => "service"
  | .domain => "domain"

/-- Every class is logged; the other features are for the artefact type of their name. -/
def capability : Feature → Capability
  | .logging => .universal
  | .controller => .only (NameSet.ofList ["Controller"])
  | .service => .only (NameSet.ofList ["Service"])
  | .domain => .only (NameSet.ofList ["Domain"])

def change : Feature → Change
  | .logging => Source.logging
  | .controller => Source.controller
  | .service => Source.service
  | .domain => Source.domain

/-- The change of the class as an injector. -/
def descriptor (f : Feature) : Descriptor host where
  name := f.name
  capability := f.capability
  inject memory unit c :=
    let (c, result) := f.change c
    (memory, unit, c, result.mapError fun message => ⟨message, []⟩)

end Feature

/-- The registry of these injectors. -/
def registry : Registry host := ⟨Feature.all.map Feature.descriptor, by decide⟩

end MarkerInjection.Source
