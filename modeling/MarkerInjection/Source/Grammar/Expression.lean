-- Expressions: what may stand behind an atom, what stands before one, and the
-- expressions that head a statement.
import MarkerInjection.Source.Grammar.Atom

namespace MarkerInjection.Source

/-! ## Behind an atom -/

/-- The number with a point or an exponent that comes next, with its minus sign if it has one. -/
def floatNext? : List Token → Option (String × List Token)
  | .literal text :: rest => if isFloat text then some (text, rest) else none
  | .punct '-' _ :: .literal text :: rest =>
    if isFloat text then some ("-" ++ text, rest) else none
  | _ => none

/-- Two tuple indices that the tokens show as one number, such as `0.1`; printed apart by
dots. A last dot waits for one more member. -/
def joinedIndices (text : String) : Except SyntaxError (List Token × Bool) := do
  let pointed := text.endsWith "."
  let parts := (if pointed then text.dropEnd 1 |>.toString else text).splitOn "."
  let indices ← parts.mapM tupleIndex
  let apart := indices.flatMap fun i => sign "." ++ [i]
  return (apart, pointed)

/-- A member behind a dot: `await`, a field, or a method with its arguments. -/
def memberBehind (g : Grammar) : Rule := do
  if ← next (atWord "await") then takeWord "await"
  else
    let (name, named) ← member
    let turbofish ← whenNext (fun ts => named && atSign "::" ts)
      (takeSign "::" ++ angleArguments g)
    if named && (!turbofish.isEmpty || (← next (atGroup .paren))) then
      return name ++ turbofish ++ (← within .paren (commaList (expressionTokens g)))
    return name

/-- A dot and the member behind it. -/
def dotBehind (g : Grammar) : Rule := do
  let dot ← takeSign "."
  match floatNext? (← ahead) with
  | some (text, rest) =>
    let (indices, pointed) ← joinedIndices text
    goTo rest
    if pointed then return indices ++ dot ++ (← memberBehind g) else return indices
  | none => return dot ++ (← memberBehind g)

/-- A single dot, which is not the begin of a range. -/
def atDot (ts : List Token) : Bool := atSign "." ts && !atSign ".." ts

/-- Calls, members, indices and question marks behind an atom. Only calls and indices may
follow a range. -/
def trailers (g : Grammar) (subject : Phrase) : Reader Phrase := do
  let isRange := subject.shape = .range
  let found ← repeated do
    let ts ← ahead
    if atGroup .paren ts then
      return (← within .paren (commaList (expressionTokens g)), true)
    else if atDot ts && !isRange then return (← dotBehind g, true)
    else if atGroup .bracket ts then return (← within .bracket (expressionTokens g), true)
    else if atSign "?" ts && !isRange then return (← takeSign "?", true)
    else return ([], false)
  let more := found.flatten
  if more.isEmpty then return subject
  return otherPhrase (subject.tokens ++ more)

/-! ## Before an atom -/

/-- A reference, for which `raw` may say that none is made. -/
def referencePhrase (g : Grammar) (allowStruct : Bool) : Rule := do
  let mark ← takeSign "&"
  let raw := fun ts => atWord "raw" ts &&
    (atWord "mut" (behind ts) || atWord "const" (behind ts))
  let kind ← if ← next raw then anyWordRule ++ anyWordRule else optWord "mut"
  return mark ++ kind ++ (← g.unary allowStruct).tokens

def atUnarySign (ts : List Token) : Bool := atSign "*" ts || atSign "!" ts || atSign "-" ts

/-- An operand: attributes, then signs before an atom and what follows the atom. What is kept as
it came keeps its attributes so too. -/
def unaryRule (g : Grammar) (allowStruct : Bool) : Reader Phrase := do
  let start ← ahead
  let attributes ← outerAttributes g
  let ts ← ahead
  if atSign "&" ts then return otherPhrase (attributes ++ (← referencePhrase g allowStruct))
  else if atUnarySign ts then
    let sign ← if atSign "*" ts then takeSign "*" else if atSign "!" ts then takeSign "!"
      else takeSign "-"
    return otherPhrase (attributes ++ sign ++ (← g.unary allowStruct).tokens)
  else
    let subject ← trailers g (← atom g allowStruct)
    if subject.shape = .kept then return keptPhrase (← since start)
    if !attributes.isEmpty && subject.shape = .range then
      throw (.forbidden
        "attributes are not allowed on range expressions starting with \x60..\x60" false)
    return subject.withAttributes attributes

/-! ## Whole expressions -/

def expressionRule (g : Grammar) (allowStruct : Bool) : Reader Phrase := do
  g.climb (← g.unary allowStruct) allowStruct Strength.lowest

/-- The expression at the head of a statement or of a match arm, up to where it may end. -/
def statementHead (g : Grammar) : Reader Phrase := do
  let ts ← ahead
  let more := behind ts
  if atWord "try" ts && atGroup .brace more then return blockPhrase (← tryBlock g)
  else if (atWord "for" ts && atGenerics more) || (atWord "const" ts && !atGroup .brace more) then
    g.unary true
  else
    match blockLike? g ts with
    | some r => return blockPhrase (← r)
    | none => g.unary true

/-- An expression at the head of a statement. A block ends it, unless a member or a question
mark follows. -/
def statementRule (g : Grammar) : Reader Phrase := do
  let attributes ← outerAttributes g
  let head ← statementHead g
  let whole := head.withAttributes attributes
  if head.shape != .block then g.climb whole true Strength.lowest
  else if ← next fun ts => atDot ts || atSign "?" ts then
    g.climb (← trailers g whole) true Strength.lowest
  else return whole

end MarkerInjection.Source
