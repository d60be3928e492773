-- Expansion: a marked item of source text becomes the item with what its
-- injectors add, and with an error in its place if something is wrong.
import MarkerInjection.Site
import MarkerInjection.Source.Injectors

namespace MarkerInjection.Source

open MarkerInjection.Text

/-! ## Errors in source text -/

/-- An error as source text: the compiler shows the message where it finds it. -/
def errorTokens (message : String) : List Token :=
  sign "::" ++ [.ident "core"] ++ sign "::" ++ [.ident "compile_error"] ++ sign "!" ++
    [.group .brace [.literal (literal message)]]

/-- Tokens with an error behind them. -/
def withError (ts : List Token) (message : String) : List Token := ts ++ errorTokens message

/-! ## Visits to classes -/

/-- The visitor of marked classes: failures of injectors are kept. -/
def transform (config : Config) : Transform host :=
  ⟨registry, config, ⟨.memory, ⟨0⟩⟩⟩

/-- Visits a class with a tag, in the unit of the given name. -/
def visitClass (config : Config) (unitName : String) (tag : Tag) (c : Class) :
    Class × List Diagnostic × Except Failure Outcome :=
  let nodes : List (Node host) := [.tag tag, .ofClass c]
  let v := (transform config).visit nodes unitName (World.initial (h := host) () Instant.epoch)
  let c := match v.nodes with
    | [_, .ofClass after] => after
    | _ => c
  (c, v.world.records, v.result)

/-- The message for a failed visit. A failure of an injector tells what was recorded of it. -/
def failureMessage (failure : Failure) (records : List Diagnostic) : String :=
  match failure, records.getLast? with
  | .injection _ _ _ _ _, some d =>
    d.message ++ " (injector \x60" ++ d.injector ++ "\x60 #" ++ toString d.index ++ " for " ++
      d.type.name ++ ", caused by: " ++ d.cause ++ ")"
  | failure, _ => failure.message

/-! ## Expansion -/

/-- The name of the unit in which a class is expanded. -/
def expansionUnit (c : ClassItem) : String := "#[artefact] " ++ c.name

/-- The class after its visit, with an error behind it if the visit failed. -/
def expandClass (tag : Tag) (item : ClassItem) : List Token :=
  let (c, records, result) := visitClass Config.standard (expansionUnit item) tag (Class.new item)
  match result with
  | .ok _ => c.print
  | .error failure => withError c.print (failureMessage failure records)

/-- The printed item that is no class, after a visit in a unit named for its kind, with an error
behind it if the visit failed. -/
def expandDeclaration (tag : Tag) (kind : DeclarationKind) (printed : List Token) : List Token :=
  let nodes : List (Node host) := [.tag tag, .declaration kind]
  let v := (transform Config.standard).visit nodes kind.text
    (World.initial (h := host) () Instant.epoch)
  match v.result with
  | .ok _ => printed
  | .error failure => withError printed failure.message

/-- Expands an item that carries the marker with these arguments. The arguments are read before
the item; if one of both cannot be read, the item stays as it came, with an error behind it. Of
items only structs and traits are classes. -/
def expand (arguments item : List Token) : List Token :=
  match Tag.read Config.standard.marker arguments with
  | .error e => withError item e.message
  | .ok tag =>
    match readItem item with
    | .error e => withError item e.message
    | .ok (.struct s) => expandClass tag (.struct s)
    | .ok (.trait t) => expandClass tag (.trait t)
    | .ok (.other kind printed) => expandDeclaration tag kind printed

end MarkerInjection.Source
