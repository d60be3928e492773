-- Bounds and types.
import MarkerInjection.Source.Grammar.Path

namespace MarkerInjection.Source

/-! ## Bounds -/

/-- The parameters that an `impl` type captures. -/
def capture : Rule := do
  let opening ← takeWord "use" ++ takeSign "<"
  let found ← repeated do
    let ts ← ahead
    if atSign ">" ts then return ([], false)
    let param ← if atLifetime ts then do
        let p ← lifetimeRule
        pure (p, true)
      else if atName ts || atWord "Self" ts then do
        let p ← anyWordRule
        pure (p, false)
      else wanting ["lifetime", "identifier", quoted ">"]
    let ts ← ahead
    if atSign "," ts then
      let _ ← takeSign ","
      return ([(param, true)], true)
    else if atSign ">" ts then return ([(param, false)], false)
    else wanting [quoted ",", quoted ">"]
  let closing ← takeSign ">"
  return opening ++ lifetimesFirst (Punctuated.ofPairs found.flatten) ++ closing

/-- The `const` marks of a bound; whether there is one. -/
def constMark (const : Bool) : Reader Bool := do
  if ← next (atGroup .bracket) then
    let _ ← inside .bracket (takeWord "const")
    if const then return true
    throw (.forbidden "\x60[const]\x60 is not allowed here" false)
  if ← next (atWord "const") then
    let _ ← takeWord "const"
    if const then return true
    throw (.forbidden "\x60const\x60 is not allowed here" false)
  return false

/-- A trait with what may stand before its path; whether it has a `const` mark. -/
def traitBound (g : Grammar) (const : Bool) : Reader (List Token × Bool) := do
  let before ← optBinder g
  let marked ← constMark const
  let relaxed ← optSign "?"
  let after ← if before.isEmpty && !relaxed.isEmpty then optBinder g else nothing
  let p ← calledPath g
  if !relaxed.isEmpty && !(before ++ after).isEmpty then
    throw (.forbidden
      "\x60for<...>\x60 binder not allowed with \x60?\x60 trait polarity modifier" false)
  return (relaxed ++ before ++ after ++ p, marked)

/-- One bound: a lifetime, a list of captured parameters, or a trait, perhaps in round
brackets. A trait with a `const` mark is kept as it came. -/
def boundRule (g : Grammar) (allowCapture const : Bool) : Rule := do
  let ts ← ahead
  if atLifetime ts then lifetimeRule
  else if atWord "use" ts then
    let list ← capture
    if allowCapture then return list
    throw (.forbidden "\x60use<...>\x60 precise capturing syntax is not allowed here" false)
  else
    let bracketed := atGroup .paren ts
    let (tokens, marked) ←
      if bracketed then inside .paren (traitBound g const) else traitBound g const
    if marked then since ts
    else return if bracketed then [.group .paren tokens] else tokens

def atBoundStart (ts : List Token) : Bool :=
  atAnyWord ts || atSign "::" ts || atSign "?" ts || atLifetime ts || atGroup .paren ts

/-- Bounds joined by `+`. A last `+` is kept if no further bound starts behind it. -/
def boundChain (g : Grammar) (plus allowCapture const : Bool) :
    Reader (Punctuated (List Token)) := do
  let found ← repeated do
    let bound ← g.bound allowCapture const
    if plus && (← next (atSign "+")) then
      let _ ← takeSign "+"
      let again ← next fun ts =>
        atBoundStart ts || (const && (atGroup .bracket ts || atWord "const" ts))
      return ((bound, true), again)
    return ((bound, false), false)
  return Punctuated.ofPairs found

/-- A bound is a trait, and not a lifetime or a list of captured parameters. -/
def isTraitBound (bound : List Token) : Bool := !atLifetime bound && !atWord "use" bound

/-! ## Function types -/

/-- The dots of a variadic function type, perhaps with a name before them. -/
def atBareVariadic (ts : List Token) : Bool :=
  atSign "..." ts ||
    ((atName ts || atWord "_" ts) && atSign ":" (behind ts) && atSign "..." (behind (behind ts)))

/-- The words `mut self` come next. -/
def atMutSelf (ts : List Token) : Bool := atWord "mut" ts && atWord "self" (behind ts)

/-- One argument of a function type. Only the first one may be `self`. With `mut self` it is
kept as it came. -/
def bareArgument (g : Grammar) (first : Bool) : Rule := keptIf do
  let mutSelf ← next fun ts => first && atMutSelf ts
  let mark ← if mutSelf then takeWord "mut" else nothing
  let ts ← ahead
  let isSelf := first && atWord "self" ts
  let named := (atName ts || atWord "_" ts || isSelf) && atSign ":" (behind ts) &&
    !atSign "::" (behind ts)
  let name ← if named then anyWordRule ++ takeSign ":" else nothing
  if mutSelf && !named then return (mark ++ (← takeWord "self"), true)
  if ← next fun ts => first && !(named && isSelf) && atMutSelf ts then
    return (name ++ (← takeWord "mut" ++ takeWord "self"), true)
  return (mark ++ name ++ (← typeTokens g), mutSelf)

/-- One argument of a function type with the comma behind it, and whether another one may
follow. -/
def bareArgumentStep (g : Grammar) (first : Bool) : Reader (List Token × Bool) := do
  if ← atEnd then return ([], false)
  let attributes ← outerAttributes g
  if ← next atBareVariadic then
    let name ← if ← next (atSign "...") then nothing else anyWordRule ++ takeSign ":"
    let dots ← takeSign "..." ++ optSign ","
    return (attributes ++ name ++ dots, false)
  let argument ← bareArgument g first
  if ← atEnd then return (attributes ++ argument, false)
  let comma ← takeSign ","
  return (attributes ++ argument ++ comma, true)

/-- The arguments of a function type. -/
def bareArguments (g : Grammar) : Rule := do
  let (first, more) ← bareArgumentStep g true
  if !more then return first
  return first ++ (← repeated (bareArgumentStep g false)).flatten

/-- A function type behind its `for`. -/
def functionType (g : Grammar) : Rule :=
  optWord "unsafe" ++ optAbi ++ takeWord "fn" ++
    insideThen .paren (bareArguments g) fun arguments => do
      return [.group .paren arguments] ++ (← returnType g false)

/-! ## Trait objects -/

/-- The bounds of a trait object, one of which has to be a trait. -/
def objectBounds (g : Grammar) (plus : Bool) : Rule := do
  let bounds ← boundChain g plus false false
  if bounds.members.any isTraitBound then return bounds.print "+" id
  throw (.forbidden "at least one trait is required for an object type" false)

/-- Bounds that follow a first one, each with a `+` before it. -/
def furtherBounds (g : Grammar) : Rule := do
  let found ← repeated do
    if ← next (atSign "+") then
      return (← takeSign "+" ++ g.bound false false, true)
    return ([], false)
  return found.flatten

/-- Bounds that follow a path. A last `+` is kept if no bound starts behind it. -/
def boundsBehindPath (g : Grammar) : Rule := do
  let found ← repeated do
    if ← next (atSign "+") then
      let plus ← takeSign "+"
      if ← next atBoundStart then return (plus ++ (← g.bound false false), true)
      return (plus, false)
    return ([], false)
  return found.flatten

/-! ## Types -/

def otherType (tokens : List Token) : TypeForm := ⟨tokens, .other⟩

/-- A first type in round brackets as a bound: it keeps the brackets once. -/
def bracketedBound : List Token → List Token
  | [.group .paren inner] => [.group .paren inner]
  | ts => [.group .paren ts]

/-- What round brackets hold where a type is due: a bound with a `?`, or a type, with a flag
that says whether it is complete with its brackets. -/
inductive Bracketed
  | complete (tokens : List Token)
  | relaxed (tokens : List Token)
  | single (type : TypeForm)

/-- Reads inside of the round brackets of a type. -/
def bracketedType (g : Grammar) : Reader Bracketed := do
  let ts ← ahead
  if ts.isEmpty then return .complete []
  if atLifetime ts then return .complete (← objectBounds g true)
  if atSign "?" ts then return .relaxed (← traitBound g false).1
  let first ← g.type true
  if ← next (atSign ",") then
    return .complete (first.tokens ++ (← takeSign "," ++ commaList (typeTokens g)))
  return .single first

/-- A type that starts with round brackets. -/
def parenType (g : Grammar) (plus : Bool) : Reader TypeForm :=
  insideThen .paren (bracketedType g) fun content => do
  match content with
  | .complete tokens => return otherType [.group .paren tokens]
  | .relaxed tokens =>
    let more ← furtherBounds g
    return ⟨.group .paren tokens :: more, .bounds more.isEmpty⟩
  | .single first =>
    let joins := match first.shape with
      | .path _ => true
      | .bounds single => single
      | .other => false
    if plus && joins && (← next (atSign "+")) then
      return ⟨bracketedBound first.tokens ++ (← furtherBounds g), .bounds false⟩
    return otherType [.group .paren first.tokens]

/-- A type that starts with a path: the path itself, a macro call, or bounds. -/
def pathType (g : Grammar) (plus : Bool) (before : List Token) : Reader TypeForm := do
  let (p, hasSelf) ← qualifiedPath g false
  if hasSelf then return otherType p.tokens
  if p.bare && (← next atBang) then
    let bang ← takeSign "!"
    return otherType (p.tokens ++ bang ++ (← macroBody).1)
  if !before.isEmpty || (plus && (← next (atSign "+"))) then
    let more ← if plus then boundsBehindPath g else nothing
    return ⟨before ++ p.tokens ++ more, .bounds more.isEmpty⟩
  return ⟨p.tokens, .path p.plain⟩

/-- What `dyn` stands before. With a star it is kept as it came. -/
def dynType (g : Grammar) (plus : Bool) : Rule := keptIf do
  let word ← takeWord "dyn"
  let star ← optSign "*"
  return (word ++ star ++ (← objectBounds g plus), !star.isEmpty)

/-- The bounds of an `impl` type, one of which has to be a trait. -/
def implType (g : Grammar) (plus : Bool) : Rule := do
  let word ← takeWord "impl"
  let bounds ← boundChain g plus true true
  if bounds.members.any isTraitBound then return word ++ bounds.print "+" id
  throw (.forbidden "at least one trait must be specified" false)

/-- A slice or an array. -/
def bracketType (g : Grammar) : Rule := within .bracket do
  let element ← typeTokens g
  if ← next (atSign ";") then
    return element ++ (← takeSign ";") ++ (← g.expression true).tokens
  return element

def pointerType (g : Grammar) : Rule := do
  let star ← takeSign "*"
  let mark ← if ← next (atWord "const") then takeWord "const"
    else if ← next (atWord "mut") then takeWord "mut"
    else wanting [quoted "const", quoted "mut"]
  return star ++ mark ++ (← g.type false).tokens

def referenceType (g : Grammar) : Rule := do
  let mark ← takeSign "&" ++ optLifetime ++ optWord "mut"
  return mark ++ (← g.type false).tokens

def atFunctionType (ts : List Token) : Bool :=
  atWord "fn" ts || atWord "unsafe" ts || atWord "extern" ts

def atRootWord (ts : List Token) : Bool :=
  atWord "super" ts || atWord "self" ts || atWord "Self" ts || atWord "crate" ts

/-- The words for what a type may start with. -/
def typeBeginnings : List String :=
  [quoted "for", "parentheses", quoted "fn", quoted "unsafe", quoted "extern", "identifier",
    quoted "::", quoted "<", quoted "dyn", "square brackets", quoted "*", quoted "&", quoted "!",
    quoted "impl", quoted "_", "lifetime"]

/-- A type without parameters before it. -/
def simpleType (g : Grammar) (plus : Bool) : Reader TypeForm := do
  let ts ← ahead
  if atGroup .paren ts then parenType g plus
  else if atFunctionType ts then return otherType (← functionType g)
  else if atBuiltin ts then return otherType (← builtinRule)
  else if atName ts || atRootWord ts || atSign "::" ts || atSign "<" ts then pathType g plus []
  else if atWord "dyn" ts then return otherType (← dynType g plus)
  else if atGroup .bracket ts then return otherType (← bracketType g)
  else if atSign "*" ts then return otherType (← pointerType g)
  else if atSign "&" ts then return otherType (← referenceType g)
  else if atSign "!" ts then return otherType (← takeSign "!")
  else if atWord "impl" ts then return otherType (← implType g plus)
  else if atWord "_" ts then return otherType (← anyWordRule)
  else if atLifetime ts then return ⟨← objectBounds g true, .bounds false⟩
  else wanting typeBeginnings

/-- A type. Parameters behind `for` may stand before a function type or a trait. -/
def typeRule (g : Grammar) (plus : Bool) : Reader TypeForm := do
  let start ← ahead
  if atWord "for" start then
    let before ← binder g
    let ts ← ahead
    if atFunctionType ts then return otherType (before ++ (← functionType g))
    else if atBuiltin ts then
      let _ ← builtinRule
      return otherType (← since start)
    else if atName ts || atRootWord ts then pathType g plus before
    else
      wanting ["identifier", quoted "fn", quoted "unsafe", quoted "extern", quoted "super",
        quoted "self", quoted "Self", quoted "crate"]
  else simpleType g plus

end MarkerInjection.Source
