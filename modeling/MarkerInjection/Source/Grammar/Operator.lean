-- Binary operators, ranges and casts, by strength.
import MarkerInjection.Source.Grammar.Pattern

namespace MarkerInjection.Source

/-! ## Strengths -/

namespace Strength

def lowest : Nat := 0
def assign : Nat := 1
def range : Nat := 2
def disjunction : Nat := 3
def conjunction : Nat := 4
def compare : Nat := 6
def bitOr : Nat := 7
def bitXor : Nat := 8
def bitAnd : Nat := 9
def shift : Nat := 10
def sum : Nat := 11
def product : Nat := 12
def cast : Nat := 13

end Strength

/-- The binary operators with their strengths. A longer operator comes before those that it
starts with. -/
def binaryOperators : List (String × Nat) :=
  [("+=", Strength.assign), ("-=", Strength.assign), ("*=", Strength.assign),
    ("/=", Strength.assign), ("%=", Strength.assign), ("^=", Strength.assign),
    ("&=", Strength.assign), ("|=", Strength.assign), ("<<=", Strength.assign),
    (">>=", Strength.assign), ("&&", Strength.conjunction), ("||", Strength.disjunction),
    ("<<", Strength.shift), (">>", Strength.shift), ("==", Strength.compare),
    ("<=", Strength.compare), ("!=", Strength.compare), (">=", Strength.compare),
    ("+", Strength.sum), ("-", Strength.sum), ("*", Strength.product), ("/", Strength.product),
    ("%", Strength.product), ("^", Strength.bitXor), ("&", Strength.bitAnd),
    ("|", Strength.bitOr), ("<", Strength.compare), (">", Strength.compare)]

/-- The binary operator that comes next. -/
def binaryOperator? (ts : List Token) : Option (String × Nat) :=
  binaryOperators.find? fun op => atSign op.1 ts

/-- An equals sign that assigns. -/
def atAssign (ts : List Token) : Bool := atSign "=" ts && !atSign "=>" ts

/-- The strength of what comes next; the lowest if it joins nothing. -/
def nextStrength (ts : List Token) : Nat :=
  match binaryOperator? ts with
  | some (_, strength) => strength
  | none =>
    if atAssign ts then Strength.assign
    else if atSign ".." ts then Strength.range
    else if atWord "as" ts then Strength.cast
    else Strength.lowest

/-! ## Operands -/

/-- Lets stronger operators take an operand first, at most one for every token given.
Assignments also take those of their own strength. -/
def tighten (g : Grammar) (allowStruct : Bool) (strength : Nat) :
    List Token → Phrase → Reader Phrase
  | [], right => return right
  | _ :: more, right => do
    let ts ← ahead
    let coming := nextStrength ts
    if coming > strength || (coming == strength && strength == Strength.assign) then
      let wider ← g.climb right allowStruct coming
      let rest ← ahead
      if rest.length == ts.length then return wider
      tighten g allowStruct strength more wider
    else return right

/-- The operand behind an operator. -/
def operand (g : Grammar) (allowStruct : Bool) (strength : Nat) : Reader Phrase := do
  let first ← g.unary allowStruct
  tighten g allowStruct strength (← ahead) first

/-! ## Ranges -/

/-- The sign of a range, and whether its end is included. -/
def limits : Reader (List Token × Bool) := do
  let ts ← ahead
  if atSign "..=" ts then return (← takeSign "..=", true)
  else if atSign "..." ts then wanting [quoted "..="]
  else return (← takeSign "..", false)

/-- A range without an end stops here. -/
def atRangeStop (allowStruct : Bool) (ts : List Token) : Bool :=
  ts.isEmpty || (atSign "." ts && !atSign ".." ts) || (!allowStruct && atGroup .brace ts) ||
    atWord "as" ts ||
    [",", ";", "?", "=>", "=", "+", "/", "%", "^", ">", "<=", "!=", "-=", "*=", "&=", "|=",
      "<<="].any fun s => atSign s ts

/-- A range from what was read. -/
def rangeBehind (g : Grammar) (start : List Token) (allowStruct : Bool) : Reader Phrase := do
  let (dots, closed) ← limits
  if !closed && (← next (atRangeStop allowStruct)) then return ⟨start ++ dots, .range, false⟩
  let stop ← operand g allowStruct Strength.range
  return ⟨start ++ dots ++ stop.tokens, .range, false⟩

/-! ## Casts -/

/-- What must not follow a cast. -/
def refusedBehindCast (ts : List Token) : Option String :=
  if atSign "." ts && !atSign ".." ts then
    let second := behind ts
    let third := behind second
    if atWord "await" second then some "\x60.await\x60"
    else if atName second && (atGroup .paren third || atSign "::" third) then
      some "a method call"
    else some "a field access"
  else if atSign "?" ts then some "\x60?\x60"
  else if atGroup .bracket ts then some "indexing"
  else if atGroup .paren ts then some "a function call"
  else none

def castBehind (g : Grammar) (subject : Phrase) : Reader Phrase := do
  let word ← takeWord "as"
  let type ← g.type false
  match refusedBehindCast (← ahead) with
  | some what => forbid ("casts cannot be followed by " ++ what)
  | none => return ⟨subject.tokens ++ word ++ type.tokens, .other, subject.keptHead⟩

/-! ## Climbing -/

/-- Joins an operand with what follows, as long as that is at least this strong. A range is
never the left operand. -/
def climbRule (g : Grammar) (left : Phrase) (allowStruct : Bool) (base : Nat) : Reader Phrase := do
  if left.shape = .range then return left
  let ts ← ahead
  match binaryOperator? ts with
  | some (op, strength) =>
    if strength < base then return left
    if strength = Strength.compare && left.shape = .comparison then
      forbid "comparison operators cannot be chained"
    let op ← takeSign op
    let right ← operand g allowStruct strength
    let shape := if strength = Strength.compare then Shape.comparison else .other
    g.climb ⟨left.tokens ++ op ++ right.tokens, shape, left.keptHead⟩ allowStruct base
  | none =>
    if Strength.assign ≥ base && atAssign ts then
      let op ← takeSign "="
      let right ← operand g allowStruct Strength.assign
      g.climb ⟨left.tokens ++ op ++ right.tokens, .other, left.keptHead⟩ allowStruct base
    else if Strength.range ≥ base && atSign ".." ts then
      g.climb (← rangeBehind g left.tokens allowStruct) allowStruct base
    else if Strength.cast ≥ base && atWord "as" ts then
      g.climb (← castBehind g left) allowStruct base
    else return left

end MarkerInjection.Source
