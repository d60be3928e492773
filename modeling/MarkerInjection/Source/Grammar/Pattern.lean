-- Patterns.
import MarkerInjection.Source.Grammar.Type

namespace MarkerInjection.Source

/-! ## Alternatives -/

/-- A single bar, which parts alternatives. -/
def atBar (ts : List Token) : Bool := atSign "|" ts && !atSign "||" ts && !atSign "|=" ts

/-- Patterns apart by bars, perhaps with a bar before the first. -/
def alternatives (g : Grammar) : Reader PatternForm := do
  let lead ← whenNext atBar (takeSign "|")
  let first ← g.pattern
  let more ← repeated do
    if ← next atBar then
      let bar ← takeSign "|"
      return (bar ++ (← g.pattern).tokens, true)
    return ([], false)
  let alone := lead.isEmpty && more.flatten.isEmpty
  return ⟨lead ++ first.tokens ++ more.flatten, if alone then first.shape else .other⟩

def alternativeTokens (g : Grammar) : Rule := return (← alternatives g).tokens

/-- Patterns apart by commas up to the end of the group. -/
def patternList (g : Grammar) : Rule := commaList (alternativeTokens g)

/-! ## Blocks -/

/-- Statements in curly brackets, with the attributes at their start. -/
def block (g : Grammar) : Rule := within .brace (innerAttributes g ++ g.statements)

/-- Statements in curly brackets that take no attributes at their start. -/
def plainBlock (g : Grammar) : Rule := within .brace g.statements

def constBlock (g : Grammar) : Rule := takeWord "const" ++ block g

/-! ## Members -/

/-- Indices from here on do not fit into 32 bits. -/
def indexLimit : Nat := Nat.pow 2 32

/-- The index of a tuple that an integer literal without suffix stands for, printed in
decimal. -/
def tupleIndex (text : String) : Except SyntaxError Token :=
  let negative := text.startsWith "-"
  match integerValue? (if negative then (text.drop 1).toString else text) with
  | none => .error (.expected ["integer literal"] false)
  | some (n, suffix) =>
    if suffix != "" then .error (.forbidden "expected unsuffixed integer" false)
    else if negative then .error (.forbidden "invalid digit found in string" false)
    else if n ≥ indexLimit then .error (.forbidden "number too large to fit in target type" false)
    else .ok (.literal (toString n))

/-- The integer literal that comes next, with its minus sign if it has one. -/
def integerNext? : List Token → Option (String × List Token)
  | .literal text :: r => if (integerValue? text).isSome then some (text, r) else none
  | .punct '-' _ :: .literal text :: r =>
    if (integerValue? text).isSome then some ("-" ++ text, r) else none
  | _ => none

def indexRule : Rule := do
  match integerNext? (← ahead) with
  | some (text, r) =>
    let index ← tupleIndex text
    goTo r
    return [index]
  | none => forbid "expected identifier or integer"

/-- A field name or an index, and whether it is a name. -/
def member : Reader (List Token × Bool) := do
  if ← next atName then return (← nameRule, true)
  return (← indexRule, false)

/-! ## Ranges -/

/-- The signs of a range; three dots stand for `..=` in patterns. -/
def patternLimits : Reader (List Token × Bool) := do
  let ts ← ahead
  if atSign "..=" ts then return (← takeSign "..=", true)
  else if atSign "..." ts then
    let _ ← takeSign "..."
    return (sign "..=", true)
  else return (← takeSign "..", false)

/-- No bound of a range starts here. -/
def atBoundEnd (ts : List Token) : Bool :=
  ts.isEmpty || atSign "|" ts || atSign "=" ts || (atSign ":" ts && !atSign "::" ts) ||
    atSign "," ts || atSign ";" ts || atWord "if" ts

/-- A bound of a range; nothing where none can start. -/
def rangeBound (g : Grammar) : Rule := do
  let ts ← ahead
  if atBoundEnd ts then nothing
  else if atLiteral ts then literalRule
  else if atName ts || atSign "::" ts || atSign "<" ts || atRootWord ts then
    return (← qualifiedPath g true).1.tokens
  else if atWord "const" ts then constBlock g
  else
    wanting ["literal", "identifier", quoted "::", quoted "<", quoted "self", quoted "Self",
      quoted "super", quoted "crate", quoted "const"]

/-- A range that begins with what was read. One that includes its end needs it. -/
def rangeFrom (g : Grammar) (start : List Token) : Reader PatternForm := do
  let (limits, closed) ← patternLimits
  let stop ← rangeBound g
  if closed && stop.isEmpty then forbid "expected range upper bound"
  return ⟨start ++ limits ++ stop, .range stop.isEmpty⟩

/-- A range without a start, or the rest pattern. -/
def rangeUpTo (g : Grammar) : Reader PatternForm := do
  let closed ← next (atSign "..=")
  let limits ← if closed then takeSign "..=" else takeSign ".."
  let stop ← rangeBound g
  if closed && stop.isEmpty then forbid "expected range upper bound"
  return ⟨limits ++ stop, if stop.isEmpty then .other else .range true⟩

/-! ## The patterns -/

def wholePattern (tokens : List Token) : PatternForm := ⟨tokens, .other⟩

/-- One field of a struct pattern: with a pattern behind a colon, or only a name. -/
def fieldPattern (g : Grammar) : Rule := do
  let marks ← optWord "box" ++ optWord "ref" ++ optWord "mut"
  if !marks.isEmpty then return marks ++ (← nameRule)
  let (name, named) ← member
  if !named || (← next (atSign ":")) then
    return name ++ (← takeSign ":" ++ alternativeTokens g)
  return name

/-- The fields of a struct pattern. Two dots end them. -/
def fieldPatterns (g : Grammar) : Rule := do
  let found ← repeated do
    if ← atEnd then return ([], false)
    let attributes ← outerAttributes g
    if ← next (atSign "..") then return (attributes ++ (← takeSign ".."), false)
    let field ← fieldPattern g
    if ← atEnd then return (attributes ++ field, false)
    return (attributes ++ field ++ (← takeSign ","), true)
  return found.flatten

/-- What starts with a path: a macro call, a pattern with fields, a range or the path alone. -/
def pathPattern (g : Grammar) : Reader PatternForm := do
  let (p, hasSelf) ← qualifiedPath g true
  let ts ← ahead
  if !hasSelf && p.bare && atBang ts then
    let bang ← takeSign "!"
    return wholePattern (p.tokens ++ bang ++ (← macroBody).1)
  else if atGroup .brace ts then
    return wholePattern (p.tokens ++ (← within .brace (fieldPatterns g)))
  else if atGroup .paren ts then
    return wholePattern (p.tokens ++ (← within .paren (patternList g)))
  else if atSign ".." ts then rangeFrom g p.tokens
  else return wholePattern p.tokens

/-- A literal or a constant, or a range that begins with one. -/
def literalPattern (g : Grammar) : Reader PatternForm := do
  let start ← rangeBound g
  if ← next (atSign "..") then rangeFrom g start else return wholePattern start

/-- A name that is bound, perhaps to what a further pattern fits. -/
def namePattern (g : Grammar) : Rule := do
  let marks ← optWord "ref" ++ optWord "mut"
  let name ← if ← next (atWord "self") then anyWordRule else nameRule
  let sub ← whenNext (atSign "@") do
    let mark ← takeSign "@"
    return mark ++ (← g.pattern).tokens
  return marks ++ name ++ sub

def referencePattern (g : Grammar) : Rule := do
  let mark ← takeSign "&" ++ optWord "mut"
  return mark ++ (← g.pattern).tokens

/-- The patterns of a slice. A range that lacks an end needs round brackets there. -/
def slicePattern (g : Grammar) : Rule := within .bracket <| commaList do
  let element ← alternatives g
  if element.shape = .range true then
    throw (.forbidden "range pattern is not allowed unparenthesized inside slice pattern" false)
  return element.tokens

/-- A path, and not a name alone, starts here. -/
def atPathPattern (ts : List Token) : Bool :=
  let more := behind ts
  (atName ts && (atSign "::" more || atSign "!" more || atGroup .brace more ||
      atGroup .paren more || atSign ".." more)) ||
    (atWord "self" ts && atSign "::" more) || atSign "::" ts || atSign "<" ts ||
    atWord "Self" ts || atWord "super" ts || atWord "crate" ts

/-- A pattern without alternatives. -/
def patternRule (g : Grammar) : Reader PatternForm := do
  let ts ← ahead
  if atPathPattern ts then pathPattern g
  else if atWord "_" ts then return wholePattern (← anyWordRule)
  else if atWord "box" ts then
    return ⟨← asWritten (do let _ ← takeWord "box"; g.pattern), .kept⟩
  else if atSign "-" ts || atLiteral ts || atWord "const" ts then literalPattern g
  else if atWord "ref" ts || atWord "mut" ts || atWord "self" ts || atName ts then
    return wholePattern (← namePattern g)
  else if atSign "&" ts then return wholePattern (← referencePattern g)
  else if atGroup .paren ts then return wholePattern (← within .paren (patternList g))
  else if atGroup .bracket ts then return wholePattern (← slicePattern g)
  else if atSign ".." ts && !atSign "..." ts then rangeUpTo g
  else
    wanting (["identifier", quoted "::", quoted "<", quoted "_", "literal", quoted "const",
      quoted "ref", quoted "mut", quoted "&", "parentheses", "square brackets"] ++
      (if atSign "..." ts then [] else [quoted ".."]) ++ [quoted "const"])

end MarkerInjection.Source
