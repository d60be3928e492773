-- Paths with arguments, and generic parameters.
import MarkerInjection.Source.Grammar.Attribute

namespace MarkerInjection.Source

/-! ## The order of arguments -/

/-- Arguments with lifetimes first. If the last lifetime had no comma, one is put between the
two parts. -/
def lifetimesFirst (args : Punctuated (List Token × Bool)) : List Token :=
  let lifetimes := args.pairs.filter (·.1.2)
  let others := args.pairs.filter (!·.1.2)
  let missing := match lifetimes.getLast? with
    | some (_, comma) => !comma
    | none => false
  lifetimes.flatMap (Punctuated.printPair "," (·.1)) ++
    (if missing && !others.isEmpty then sign "," else []) ++
    others.flatMap (Punctuated.printPair "," (·.1))

/-! ## Generic arguments -/

/-- The constant argument of a path: a literal, a name or a block. -/
def constArgument (g : Grammar) : Rule := do
  let ts ← ahead
  if atLiteral ts then literalRule
  else if atName ts then nameRule
  else if atGroup .brace ts then within .brace (innerAttributes g ++ g.statements)
  else wanting []

def atConstArgument (ts : List Token) : Bool := atLiteral ts || atGroup .brace ts

/-- The value of an associated item behind `=`. -/
def associatedValue (g : Grammar) : Rule := do
  if ← next atConstArgument then constArgument g else return (← g.type true).tokens

/-- One generic argument, and whether it is a lifetime. A plain path may turn out to name an
associated item, with its value or its bounds. -/
def genericArgument (g : Grammar) : Reader (List Token × Bool) := do
  let ts ← ahead
  if atLifetime ts && !atSign "+" (behind ts) then return (← lifetimeRule, true)
  if atConstArgument ts then return (← constArgument g, false)
  let argument ← g.type true
  if argument.shape = .path true then
    if ← next (atSign "=") then
      let eq ← takeSign "="
      return (argument.tokens ++ eq ++ (← associatedValue g), false)
    if ← next (atSign ":") then
      let colon ← takeSign ":"
      let bounds ← chained (fun ts => atSign "," ts || atSign ">" ts) "+" (g.bound false true)
      return (argument.tokens ++ colon ++ bounds.print "+" id, false)
  return (argument.tokens, false)

/-- Generic arguments between angle brackets. -/
def angleArguments (g : Grammar) : Rule := do
  let opening ← takeSign "<"
  let args ← punctuated (atSign ">") "," (genericArgument g)
  let closing ← takeSign ">"
  return opening ++ lifetimesFirst args ++ closing

/-! ## Paths -/

/-- A path that was read. `stem` is all of it but the arguments of the last segment. -/
structure PathForm where
  stem : List Token
  lastArguments : List Token
  segments : Nat
  leading : Bool
  /-- No segment has arguments. -/
  bare : Bool
  deriving Repr, Inhabited

namespace PathForm

def tokens (p : PathForm) : List Token := p.stem ++ p.lastArguments

/-- The last segment has no arguments, or an empty pair of angle brackets. -/
def lastIsEmpty (p : PathForm) : Bool :=
  p.lastArguments.all fun t => match t with
    | .punct c _ => c == ':' || c == '<' || c == '>'
    | _ => false

/-- One segment without a leading `::`. -/
def plain (p : PathForm) : Bool := !p.leading && p.segments == 1

/-- The path with one more segment. -/
def push (p : PathForm) (name arguments : List Token) : PathForm :=
  { p with
    stem := p.tokens ++ sign "::" ++ name
    lastArguments := arguments
    segments := p.segments + 1
    bare := p.bare && arguments.isEmpty }

end PathForm

/-- Round brackets come behind `::`. -/
def atCallBehindColons (ts : List Token) : Bool :=
  atSign "::" ts && atGroup .paren (behind (behind ts))

/-- One segment of a path: its name and its arguments. In expressions the arguments need `::`
before them. -/
def segment (g : Grammar) (inExpression : Bool) : Reader (List Token × List Token) := do
  let ts ← ahead
  if atWord "super" ts || atWord "self" ts || atWord "crate" ts || atWord "try" ts then
    return (← anyWordRule, [])
  let name ← if atWord "Self" ts then anyWordRule else nameRule
  let ts ← ahead
  let direct := !inExpression && atSign "<" ts && !atSign "<=" ts && !atSign "<<=" ts
  if direct || (atSign "::" ts && atSign "<" (behind (behind ts))) then
    return (name, ← optSign "::" ++ angleArguments g)
  return (name, [])

/-- A path with arguments. -/
def path (g : Grammar) (inExpression : Bool) : Reader PathForm := do
  let leading ← next (atSign "::")
  let lead ← optSign "::"
  let (name, arguments) ← segment g inExpression
  let more ← repeated do
    if ← next fun ts => atSign "::" ts && !atCallBehindColons ts then
      let _ ← takeSign "::"
      return ([← segment g inExpression], true)
    return ([], false)
  let start : PathForm :=
    { stem := lead ++ name, lastArguments := arguments, segments := 1, leading
      bare := arguments.isEmpty }
  return more.flatten.foldl (fun p (name, arguments) => p.push name arguments) start

/-- The return type behind `->`. -/
def returnType (g : Grammar) (plus : Bool) : Rule :=
  whenNext (atSign "->") do
    let arrow ← takeSign "->"
    return arrow ++ (← g.type plus).tokens

/-- A path that may end in arguments in round brackets, such as `Fn(u8) -> u8`. Colons before
them are not printed. -/
def calledPath (g : Grammar) : Rule := do
  let p ← path g false
  let ts ← ahead
  if p.lastIsEmpty && (atGroup .paren ts || atCallBehindColons ts) then
    let _ ← optSign "::"
    let inputs ← within .paren (commaList do return (← g.type true).tokens)
    return p.stem ++ inputs ++ (← returnType g false)
  return p.tokens

/-- The segments behind a type in angle brackets, the first `::` included. -/
def qualifiedSegments (g : Grammar) (inExpression : Bool) : Reader PathForm := do
  let (name, arguments) ← segment g inExpression
  let more ← repeated do
    if ← next (atSign "::") then
      let _ ← takeSign "::"
      return ([← segment g inExpression], true)
    return ([], false)
  let start : PathForm :=
    { stem := name, lastArguments := arguments, segments := 1, leading := false
      bare := arguments.isEmpty }
  return more.flatten.foldl (fun p (name, arguments) => p.push name arguments) start

/-- A path that may start with a type in angle brackets; whether it does. -/
def qualifiedPath (g : Grammar) (inExpression : Bool) : Reader (PathForm × Bool) := do
  if ← next (atSign "<") then
    let opening ← takeSign "<"
    let self ← g.type true
    let trait ← whenNext (atWord "as") do
      let word ← takeWord "as"
      return word ++ (← path g false).tokens
    let closing ← takeSign ">" ++ takeSign "::"
    let p ← qualifiedSegments g inExpression
    return ({ p with stem := opening ++ self.tokens ++ trait ++ closing ++ p.stem }, true)
  return (← path g inExpression, false)

/-! ## Generic parameters -/

/-- The bounds of a parameter behind its colon, up to where `stop` holds. -/
def paramBounds (stop : List Token → Bool) (bound : Rule) : Rule := do
  if ← next (atSign ":") then
    let _ ← takeSign ":"
    return (← chained stop "+" bound).print "+" id
  return []

/-- The default of a parameter behind `=`. -/
def paramDefault (value : Rule) : Reader (Option (List Token)) := do
  if ← next (atSign "=") then
    let _ ← takeSign "="
    return some (← value)
  return none

def typeTokens (g : Grammar) : Rule := return (← g.type true).tokens

def lifetimeParam (attributes : List Token) : Reader Param := do
  let name ← takeLifetime
  let stop := fun ts => ts.isEmpty || atSign "," ts || atSign ">" ts
  return ⟨attributes, name, ← paramBounds stop lifetimeRule, .lifetime⟩

def typeParam (g : Grammar) (attributes : List Token) : Reader Param := do
  let name ← takeName
  let stop := fun ts => atSign "," ts || atSign ">" ts || atSign "=" ts
  let bounds ← paramBounds stop (g.bound false true)
  return ⟨attributes, name, bounds, .type (← paramDefault (typeTokens g))⟩

def constParam (g : Grammar) (attributes : List Token) : Reader Param := do
  let _ ← takeWord "const"
  let name ← takeName
  let _ ← takeSign ":"
  let type ← typeTokens g
  return ⟨attributes, name, [], .const type (← paramDefault (constArgument g))⟩

/-- A generic parameter of an item. An underscore may stand for a type. -/
def genericParam (g : Grammar) : Reader Param := do
  let attributes ← outerAttributes g
  let ts ← ahead
  if atLifetime ts then lifetimeParam attributes
  else if atName ts then typeParam g attributes
  else if atWord "const" ts then constParam g attributes
  else if atWord "_" ts then
    return ⟨attributes, ← takeAnyWord, [], .type none⟩
  else wanting ["lifetime", "identifier", quoted "const"]

/-- A generic parameter behind `for`. -/
def boundParam (g : Grammar) : Reader Param := do
  let attributes ← outerAttributes g
  let ts ← ahead
  if atName ts then typeParam g attributes
  else if atLifetime ts then lifetimeParam attributes
  else if atWord "const" ts then constParam g attributes
  else wanting ["identifier", "lifetime", quoted "const"]

/-- `for` and parameters between angle brackets. -/
def binder (g : Grammar) : Rule := do
  let opening ← takeWord "for" ++ takeSign "<"
  let params ← punctuated (atSign ">") "," (boundParam g)
  let closing ← takeSign ">"
  return opening ++ params.print "," Param.declaration ++ closing

def optBinder (g : Grammar) : Rule := whenNext (atWord "for") (binder g)

/-- The generic parameters of an item; the `where` clause is read later. -/
def generics (g : Grammar) : Reader Generics := do
  if ← next (atSign "<") then
    let _ ← takeSign "<"
    let params ← punctuated (atSign ">") "," (genericParam g)
    let _ ← takeSign ">"
    return ⟨true, params, none⟩
  return Generics.none

/-- The next tokens are generic parameters rather than a type in angle brackets. -/
def atGenerics (ts : List Token) : Bool :=
  let second := behind ts
  let third := behind second
  atSign "<" ts &&
    (atSign ">" second || atSign "#" second ||
      ((atLifetime second || atName second) &&
        (atSign ">" third || atSign "," third || (atSign ":" third && !atSign "::" third) ||
          atSign "=" third)) ||
      atWord "const" second)

/-! ## Where clauses -/

/-- A predicate cannot start here. -/
def atPredicatesEnd (ts : List Token) : Bool :=
  ts.isEmpty || atGroup .brace ts || atSign "," ts || atSign ";" ts ||
    (atSign ":" ts && !atSign "::" ts) || atSign "=" ts

/-- One predicate of a `where` clause. Its colon is printed even without bounds behind it. -/
def predicate (g : Grammar) : Rule := do
  if ← next fun ts => atLifetime ts && atSign ":" (behind ts) then
    let subject ← lifetimeRule ++ takeSign ":"
    let stop := fun ts => atPredicatesEnd ts || atSign ":" ts
    return subject ++ (← chained stop "+" lifetimeRule).print "+" id
  else
    let subject ← optBinder g ++ typeTokens g ++ takeSign ":"
    return subject ++ (← chained atPredicatesEnd "+" (g.bound false true)).print "+" id

/-- A `where` clause; without predicates it prints nothing. -/
def whereClause (g : Grammar) : Rule := do
  let word ← takeWord "where"
  if ← next atGenerics then
    forbid "generic parameters on \x60where\x60 clauses are reserved for future use"
  let predicates ← chained atPredicatesEnd "," (predicate g)
  if predicates.members.isEmpty then return []
  return word ++ predicates.print "," id

def optWhereClause (g : Grammar) : Reader (Option (List Token)) := do
  if ← next (atWord "where") then return some (← whereClause g) else return none

end MarkerInjection.Source
