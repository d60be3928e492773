-- Statements.
import MarkerInjection.Source.Grammar.Expression

namespace MarkerInjection.Source

/-! ## Which statement comes next -/

/-- The path of a macro call at the head of a statement, with what is left behind it. -/
def macroHead : Reader (Option (List Token × List Token)) := do
  let start ← get
  let path ← attempt plainPath
  let rest ← ahead
  set start
  match path with
  | some path => return if atSign "!" rest then some (path, rest) else none
  | none => return none

/-- Behind a macro path comes `!` and a name, so that an item is declared. -/
def atItemMacro (rest : List Token) : Bool :=
  atName (behind rest) || atWord "try" (behind rest)

/-- Behind a macro path comes `!` and a body in curly brackets that ends the statement. -/
def atBraceMacro (rest : List Token) : Bool :=
  let body := behind rest
  atGroup .brace body && !(atDot (behind body) || atSign "?" (behind body))

/-- An item starts here, and not an expression. -/
def atItem (ts : List Token) : Bool :=
  let second := behind ts
  let third := behind second
  let functionMark := fun ts => atWord "unsafe" ts || atWord "extern" ts || atWord "fn" ts
  atWord "pub" ts || (atWord "crate" ts && !atSign "::" second) || atWord "extern" ts ||
    atWord "use" ts ||
    (atWord "static" ts && (atWord "mut" second ||
      (atName second &&
        !(atWord "async" second && (atWord "move" third || atSign "|" third))))) ||
    (atWord "const" ts &&
      !(atGroup .brace second || atWord "static" second ||
        (atWord "async" second && !functionMark third) || atWord "move" second ||
        atSign "|" second)) ||
    (atWord "unsafe" ts && !atGroup .brace second) ||
    (atWord "async" ts && functionMark second) || atWord "fn" ts || atWord "mod" ts ||
    atWord "type" ts || atWord "struct" ts || atWord "enum" ts ||
    (atWord "union" ts && atName second) || (atWord "auto" ts && atWord "trait" second) ||
    atWord "trait" ts ||
    (atWord "default" ts && (atWord "unsafe" second || atWord "impl" second)) ||
    atWord "impl" ts || atWord "macro" ts

/-! ## The statements -/

/-- The value of a `let` ends in a block, so that `else` cannot follow it. -/
def endsInBrace (ts : List Token) : Bool :=
  match ts.getLast? with
  | some (.group .brace _) => true
  | _ => false

/-- A `let` statement. -/
def localRule (g : Grammar) : Rule := do
  let word ← takeWord "let"
  let pattern ← g.pattern
  let type ← whenNext (atSign ":") (takeSign ":" ++ typeTokens g)
  let init ← whenNext (atSign "=") do
    let value ← takeSign "=" ++ expressionTokens g
    let mayDiverge := fun ts => !endsInBrace value && atWord "else" ts
    return value ++ (← whenNext mayDiverge (takeWord "else" ++ plainBlock g))
  return word ++ pattern.tokens ++ type ++ init ++ (← takeSign ";")

/-- An expression as a statement behind its attributes, which start at an earlier place, and
whether more may follow it. The attributes go with the whole of a range and are kept as they
came before what is kept so. -/
def expressionStatement (g : Grammar) (start attributes : List Token) :
    Reader (List Token × Bool) := do
  let e ← g.statement
  let tokens ← if e.shape = .kept then since start
    else pure (e.withAttributes attributes).tokens
  let semicolon ← optSign ";"
  let complete := !semicolon.isEmpty || e.shape == .block || e.shape == .invocation true
  return (tokens ++ semicolon, complete)

/-- An item behind its attributes, which start at an earlier place. One that is kept as it came
keeps its attributes so too. -/
def itemBehind (g : Grammar) (start attributes : List Token) : Reader Item := do
  let (item, kept) ← g.item
  if kept then return .other .other (← since start) else return item.withAttributes attributes

/-- One statement, and whether more may follow it. -/
def statement (g : Grammar) : Reader (List Token × Bool) := do
  let start ← ahead
  let attributes ← outerAttributes g
  let ts ← ahead
  let call ← macroHead
  match call with
  | some (path, rest) =>
    if atItemMacro rest then return ((← itemBehind g start attributes).print, true)
    if atBraceMacro rest then
      goTo rest
      let bang ← takeSign "!"
      let (body, _) ← macroBody
      let semicolon ← optSign ";"
      return (attributes ++ path ++ bang ++ body ++ semicolon, true)
  | none => pure ()
  if atWord "let" ts then return (attributes ++ (← localRule g), true)
  if atItem ts then return ((← itemBehind g start attributes).print, true)
  expressionStatement g start attributes

/-- Semicolons that stand alone. -/
def loneSemicolons : Rule := do
  let found ← repeated do
    if ← next (atSign ";") then return (← takeSign ";", true)
    return ([], false)
  return found.flatten

/-- The statements up to the end of a block. All but the last have to be complete. -/
def statementsRule (g : Grammar) : Rule := do
  let found ← repeated do
    let lone ← loneSemicolons
    if ← atEnd then return (lone, false)
    let (tokens, complete) ← statement g
    if ← atEnd then return (lone ++ tokens, false)
    if !complete then forbid "unexpected token, expected \x60;\x60"
    return (lone ++ tokens, true)
  return found.flatten

end MarkerInjection.Source
