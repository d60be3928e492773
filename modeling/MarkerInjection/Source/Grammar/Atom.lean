-- Expressions without operators: literals, paths, groups, blocks and control flow.
import MarkerInjection.Source.Grammar.Operator

namespace MarkerInjection.Source

/-! ## Lists of expressions -/

def expressionTokens (g : Grammar) : Rule := return (← g.expression true).tokens

/-- An expression that is no struct literal, such as the condition of an `if`. -/
def headTokens (g : Grammar) : Rule := return (← g.expression false).tokens

def otherPhrase (tokens : List Token) : Phrase := ⟨tokens, .other, false⟩

def blockPhrase (tokens : List Token) : Phrase := ⟨tokens, .block, false⟩

/-- A form that is kept as it came. -/
def keptPhrase (tokens : List Token) : Phrase := ⟨tokens, .kept, true⟩

/-- An expression can start here. -/
def atExpression (ts : List Token) : Bool :=
  let lone := fun (s : String) (longer : List String) =>
    atSign s ts && longer.all fun l => !atSign l ts
  (atAnyWord ts && !atWord "as" ts) || atGroup .paren ts || atGroup .bracket ts ||
    atGroup .brace ts || atLiteral ts || lone "!" ["!="] || lone "-" ["-=", "->"] ||
    lone "*" ["*="] || lone "|" ["|="] || lone "&" ["&="] || atSign ".." ts ||
    lone "<" ["<=", "<<="] || atSign "::" ts || atLifetime ts || atSign "#" ts

def optExpression (g : Grammar) : Rule := whenNext atExpression (expressionTokens g)

/-! ## Struct literals, groups and arrays -/

/-- One field of a struct literal. A name may stand without a value. -/
def fieldValue (g : Grammar) : Rule := do
  let attributes ← outerAttributes g
  let (name, named) ← member
  if !named || (← next (atSign ":")) then
    return attributes ++ name ++ (← takeSign ":" ++ expressionTokens g)
  return attributes ++ name

/-- The fields of a struct literal. Two dots and the base of the literal end them. -/
def fieldValues (g : Grammar) : Rule := do
  let found ← repeated do
    if ← atEnd then return ([], false)
    if ← next (atSign "..") then
      let dots ← takeSign ".."
      if ← atEnd then return (dots, false)
      return (dots ++ (← expressionTokens g), false)
    let field ← fieldValue g
    if ← atEnd then return (field, false)
    return (field ++ (← takeSign ","), true)
  return found.flatten

/-- An array: its elements, or one element and the length. -/
def arrayRule (g : Grammar) : Rule := within .bracket do
  if ← atEnd then return []
  let first ← expressionTokens g
  let ts ← ahead
  if ts.isEmpty then return first
  else if atSign "," ts then
    return first ++ (← takeSign "," ++ commaList (expressionTokens g))
  else if atSign ";" ts then return first ++ (← takeSign ";" ++ expressionTokens g)
  else forbid "expected \x60,\x60 or \x60;\x60"

/-- A path, a macro call or a struct literal. -/
def pathPhrase (g : Grammar) (allowStruct : Bool) : Reader Phrase := do
  let (p, hasSelf) ← qualifiedPath g true
  let ts ← ahead
  if !hasSelf && p.bare && atBang ts then
    let bang ← takeSign "!"
    let (body, braces) ← macroBody
    return ⟨p.tokens ++ bang ++ body, .invocation braces, false⟩
  else if allowStruct && atGroup .brace ts then
    return otherPhrase (p.tokens ++ (← within .brace (fieldValues g)))
  else return otherPhrase p.tokens

/-! ## Closures -/

/-- A parameter of a closure. Its attributes go with the pattern if it has no type. -/
def closureParam (g : Grammar) : Rule := do
  let attributes ← outerAttributes g
  let pattern ← g.pattern
  if ← next (atSign ":") then
    return attributes ++ pattern.tokens ++ (← takeSign ":" ++ typeTokens g)
  return pattern.withAttributes attributes

/-- A closure. With a return type its body is a block. -/
def closure (g : Grammar) (allowStruct : Bool) : Rule := do
  let marks ← optBinder g ++ optWord "const" ++ optWord "static" ++ optWord "async" ++
    optWord "move"
  let opening ← takeSign "|"
  let params ← punctuated (atSign "|") "," (closureParam g)
  let head := marks ++ opening ++ params.print "," id ++ (← takeSign "|")
  if ← next (atSign "->") then
    return head ++ (← takeSign "->" ++ typeTokens g ++ plainBlock g)
  return head ++ (← g.expression allowStruct).tokens

def atClosure (ts : List Token) : Bool :=
  let second := behind ts
  atSign "|" ts || atWord "move" ts ||
    (atWord "for" ts && atGenerics second) ||
    (atWord "const" ts && !atGroup .brace second) || atWord "static" ts ||
    (atWord "async" ts && (atSign "|" second || atWord "move" second))

/-! ## Control flow -/

/-- `if` with its condition, its block and what `else` stands before. -/
def ifRule (g : Grammar) : Rule := do
  let found ← repeated do
    let clause ← takeWord "if" ++ headTokens g ++ plainBlock g
    if !(← next (atWord "else")) then return (clause, false)
    let word ← takeWord "else"
    let ts ← ahead
    if atWord "if" ts then return (clause ++ word, true)
    else if atGroup .brace ts then return (clause ++ word ++ (← plainBlock g), false)
    else wanting [quoted "if", "curly braces"]
  return found.flatten

def whileRule (g : Grammar) : Rule := takeWord "while" ++ headTokens g ++ block g

def forRule (g : Grammar) : Rule :=
  takeWord "for" ++ alternativeTokens g ++ takeWord "in" ++ headTokens g ++ block g

def loopRule (g : Grammar) : Rule := takeWord "loop" ++ block g

/-- One arm of a `match`. Only behind a block may the comma be missing. -/
def arm (g : Grammar) : Rule := do
  let head ← outerAttributes g ++ alternativeTokens g ++
    whenNext (atWord "if") (takeWord "if" ++ expressionTokens g) ++ takeSign "=>"
  let body ← g.statement
  let needsComma := body.shape != .block && !(← atEnd)
  let comma ← if needsComma then takeSign "," else optSign ","
  return head ++ body.tokens ++ comma

def matchRule (g : Grammar) : Rule :=
  takeWord "match" ++ headTokens g ++ within .brace (innerAttributes g ++ (do
    return (← untilEnd (arm g)).flatten))

/-- `let` as a condition. Only operators that are weaker than comparisons end its right side. -/
def letRule (g : Grammar) (allowStruct : Bool) : Rule := do
  let head ← takeWord "let" ++ alternativeTokens g ++ takeSign "="
  let first ← g.unary allowStruct
  return head ++ (← g.climb first allowStruct Strength.compare).tokens

/-- `break`, perhaps with a label and a value. -/
def breakRule (g : Grammar) (allowStruct : Bool) : Rule := do
  let word ← takeWord "break"
  if ← next fun ts => atLifetime ts && atSign ":" (behind ts) then
    let _ ← g.expression true
    throw (.forbidden "parentheses required" false)
  let label ← optLifetime
  let mayFollow := fun ts => atExpression ts && (allowStruct || !atGroup .brace ts)
  return word ++ label ++ (← whenNext mayFollow (expressionTokens g))

/-- A loop or a block behind a label. -/
def labeled (g : Grammar) : Rule := do
  let label ← lifetimeRule ++ takeSign ":"
  let ts ← ahead
  if atWord "while" ts then return label ++ (← whileRule g)
  else if atWord "for" ts then return label ++ (← forRule g)
  else if atWord "loop" ts then return label ++ (← loopRule g)
  else if atGroup .brace ts then return label ++ (← block g)
  else forbid "expected loop or block expression"

def unsafeBlock (g : Grammar) : Rule := takeWord "unsafe" ++ block g

def tryBlock (g : Grammar) : Rule := takeWord "try" ++ plainBlock g

def asyncBlock (g : Grammar) : Rule := takeWord "async" ++ optWord "move" ++ plainBlock g

/-- The forms that end a statement by themselves, if one of them starts here. -/
def blockLike? (g : Grammar) (ts : List Token) : Option Rule :=
  if atWord "if" ts then some (ifRule g)
  else if atWord "while" ts then some (whileRule g)
  else if atWord "for" ts then some (forRule g)
  else if atWord "loop" ts then some (loopRule g)
  else if atWord "match" ts then some (matchRule g)
  else if atWord "unsafe" ts then some (unsafeBlock g)
  else if atWord "const" ts then some (constBlock g)
  else if atGroup .brace ts then some (block g)
  else if atLifetime ts then some (labeled g)
  else none

/-! ## The atoms -/

def atPathStart (ts : List Token) : Bool :=
  atName ts || atSign "::" ts || atSign "<" ts || atRootWord ts ||
    (atWord "try" ts && (atSign "!" (behind ts) || atSign "::" (behind ts)))

def atAsyncBlock (ts : List Token) : Bool :=
  let second := behind ts
  atWord "async" ts &&
    (atGroup .brace second || (atWord "move" second && atGroup .brace (behind second)))

/-- A literal. Its text is remembered, unless it is a number with a minus sign. -/
def literalPhrase : Reader Phrase := do
  let ts ← literalRule
  match ts with
  | [.literal text] => return ⟨ts, .literal text, false⟩
  | _ => return otherPhrase ts

/-- An expression without operators and without what may stand behind it. -/
def atom (g : Grammar) (allowStruct : Bool) : Reader Phrase := do
  let ts ← ahead
  let more := behind ts
  if atLiteral ts then literalPhrase
  else if atAsyncBlock ts then return otherPhrase (← asyncBlock g)
  else if atWord "try" ts && atGroup .brace more then return blockPhrase (← tryBlock g)
  else if atClosure ts then return otherPhrase (← closure g allowStruct)
  else if atBuiltin ts then return keptPhrase (← builtinRule)
  else if atPathStart ts then pathPhrase g allowStruct
  else if atGroup .paren ts then
    return otherPhrase (← within .paren (commaList (expressionTokens g)))
  else if atWord "break" ts then return otherPhrase (← breakRule g allowStruct)
  else if atWord "continue" ts then return otherPhrase (← takeWord "continue" ++ optLifetime)
  else if atWord "return" ts then
    return otherPhrase (← takeWord "return" ++ optExpression g)
  else if atWord "become" ts then
    return keptPhrase (← asWritten (takeWord "become" ++ expressionTokens g))
  else if atGroup .bracket ts then return otherPhrase (← arrayRule g)
  else if atWord "let" ts then return otherPhrase (← letRule g allowStruct)
  else if atWord "yield" ts then return otherPhrase (← takeWord "yield" ++ optExpression g)
  else if atSign ".." ts then rangeBehind g [] allowStruct
  else if atWord "_" ts then return otherPhrase (← anyWordRule)
  else
    match blockLike? g ts with
    | some r => return blockPhrase (← r)
    | none => forbid "expected an expression"

end MarkerInjection.Source
