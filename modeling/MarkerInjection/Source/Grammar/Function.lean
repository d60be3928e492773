-- Function signatures and bodies.
import MarkerInjection.Source.Grammar.Statement

namespace MarkerInjection.Source

/-! ## Arguments -/

/-- A receiver starts here: `self`, perhaps behind a reference or `mut`, that begins no path. -/
def atReceiver (ts : List Token) : Bool :=
  let skip := fun (p : List Token → Bool) (ts : List Token) => if p ts then behind ts else ts
  let ts := if atSign "&" ts then skip atLifetime (behind ts) else ts
  let ts := skip (atWord "mut") ts
  atWord "self" ts && !atSign "::" (behind ts)

/-- The receiver of a method, without its attributes. -/
def receiver (g : Grammar) : Rule := do
  let mark ← whenNext (atSign "&") (takeSign "&" ++ optLifetime)
  let self ← optWord "mut" ++ takeWord "self"
  if mark.isEmpty then
    return self ++ (← whenNext (atSign ":") (takeSign ":" ++ typeTokens g))
  return mark ++ self

/-- What one argument of a function is. -/
inductive ArgumentKind
  | receiver
  | typed
  | variadic
  deriving Repr, DecidableEq, Inhabited

/-- An argument with its type. A type with arguments may stand without a pattern; it is printed
behind an underscore. -/
def typedArgument (g : Grammar) : Reader (List Token × ArgumentKind) := do
  if ← next fun ts => atName ts && atSign "<" (behind ts) then
    return ([.ident "_"] ++ sign ":" ++ (← typeTokens g), .typed)
  let pattern ← g.pattern
  let colon ← takeSign ":"
  if ← next (atSign "...") then
    return (pattern.tokens ++ colon ++ (← takeSign "..."), .variadic)
  return (pattern.tokens ++ colon ++ (← typeTokens g), .typed)

/-- One argument of a function. -/
def argument (g : Grammar) : Reader (List Token × ArgumentKind) := do
  let attributes ← outerAttributes g
  if ← next (atSign "...") then return (attributes ++ (← takeSign "..."), .variadic)
  if ← next atReceiver then return (attributes ++ (← receiver g), .receiver)
  let (tokens, kind) ← typedArgument g
  return (attributes ++ tokens, kind)

/-- Only the first argument can be a receiver. `earlier` holds the kinds of those before. -/
def refusedReceiver (earlier : List ArgumentKind) : Option String :=
  if earlier.contains .receiver then some "unexpected second method receiver"
  else if earlier.isEmpty then none
  else some "unexpected method receiver"

/-- The arguments behind those of the given kinds, at most one for every token given. A variadic
argument ends them. -/
def argumentsBehind (g : Grammar) : List Token → List ArgumentKind → Rule
  | [], _ => nothing
  | _ :: more, earlier => do
    if ← atEnd then return []
    let (tokens, kind) ← argument g
    if kind = .receiver then
      match refusedReceiver earlier with
      | some text => throw (.forbidden text false)
      | none => pure ()
    if ← atEnd then return tokens
    let comma ← takeSign ","
    if kind = .variadic then return tokens ++ comma
    return tokens ++ comma ++ (← argumentsBehind g more (kind :: earlier))

/-- The arguments of a function. -/
def arguments (g : Grammar) : Rule := do
  argumentsBehind g (← ahead) []

/-! ## Signatures -/

/-- A function starts here, perhaps with words before its `fn`. Where `safe` is a word of the
language it may be among them. -/
def atSignature (allowSafe : Bool) (ts : List Token) : Bool :=
  let skip := fun (w : String) (ts : List Token) => if atWord w ts then behind ts else ts
  let ts := skip "async" (skip "const" ts)
  let ts := if allowSafe && atWord "safe" ts then behind ts else skip "unsafe" ts
  let ts := if atWord "extern" ts then
      let more := behind ts
      if atString more then behind more else more
    else ts
  atWord "fn" ts

/-- A signature. Its `where` clause comes last. -/
def signature (g : Grammar) (allowSafe : Bool) : Reader (List Token × Bool) := do
  let words ← optWord "const" ++ optWord "async"
  let safe ← next fun ts => allowSafe && atWord "safe" ts
  let mark ← if safe then takeWord "safe" else optWord "unsafe"
  let name ← optAbi ++ takeWord "fn" ++ nameRule
  let params ← generics g
  insideThen .paren (arguments g) fun inputs => do
    let output ← returnType g true
    let whole := { params with whereClause := ← optWhereClause g }
    return (words ++ mark ++ name ++ whole.declarations ++ [.group .paren inputs] ++ output ++
      whole.printWhere, safe)

end MarkerInjection.Source
