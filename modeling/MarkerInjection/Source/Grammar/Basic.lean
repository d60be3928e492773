-- The shape of the grammar: one record holds the rules that refer to each other,
-- and every family of rules is written over such a record. Simple rules that
-- refer to none of them stand here too.
import MarkerInjection.Source.Reader
import MarkerInjection.Source.Item

namespace MarkerInjection.Source

/-! ## What the rules tell about what they read -/

/-- What a reader has to know of a type: whether it is a path, or bounds without `dyn`. A path
is plain if it is one segment without a leading `::`. -/
inductive TypeShape
  | path (plain : Bool)
  | bounds (single : Bool)
  | other
  deriving Repr, DecidableEq, Inhabited

/-- A type that was read. -/
structure TypeForm where
  tokens : List Token
  shape : TypeShape
  deriving Repr, Inhabited

/-- What a reader has to know of an expression: whether it may end a statement by itself,
whether its tokens are kept as they came, and the forms that restrict what may follow. -/
inductive Shape
  | block
  | invocation (brace : Bool)
  | comparison
  | range
  | literal (text : String)
  | kept
  | other
  deriving Repr, DecidableEq, Inhabited

/-- An expression that was read. -/
structure Phrase where
  tokens : List Token
  shape : Shape
  /-- Its first operand is kept as it came. -/
  keptHead : Bool
  deriving Repr, Inhabited

/-- What a reader has to know of a pattern: whether it is a range, perhaps without a start or
without an end, and whether its tokens are kept as they came. -/
inductive PatternShape
  | range (half : Bool)
  | kept
  | other
  deriving Repr, DecidableEq, Inhabited

/-- A pattern that was read. -/
structure PatternForm where
  tokens : List Token
  shape : PatternShape
  deriving Repr, Inhabited

/-- A range with attributes before it: they go with the whole of it, which round brackets
show. -/
def attributedRange (attributes range : List Token) : List Token :=
  if attributes.isEmpty then range else attributes ++ [.group .paren range]

/-- The expression with attributes before it. What is kept as it came takes none, so they are
lost if it stands first. -/
def Phrase.withAttributes (attributes : List Token) (e : Phrase) : Phrase :=
  let tokens :=
    if e.keptHead then e.tokens
    else if e.shape = .range then attributedRange attributes e.tokens
    else attributes ++ e.tokens
  { e with tokens }

/-- The pattern with attributes before it; one that is kept as it came takes none. -/
def PatternForm.withAttributes (attributes : List Token) (p : PatternForm) : List Token :=
  match p.shape with
  | .kept => p.tokens
  | .range _ => attributedRange attributes p.tokens
  | .other => attributes ++ p.tokens

/-! ## The record of rules -/

/-- The rules that refer to each other. The flag of a type says whether `+` may join bounds to
it, that of an expression whether it may be a struct literal. -/
structure Grammar where
  type : Bool → Reader TypeForm
  /-- One bound; `use` lists and `const` bounds only where they are allowed. -/
  bound : (capture const : Bool) → Rule
  expression : Bool → Reader Phrase
  /-- An expression at the head of a statement or behind a match arrow, which ends early
  behind a block. -/
  statement : Reader Phrase
  unary : Bool → Reader Phrase
  /-- What binary operators of at least this strength make of an operand. -/
  climb : Phrase → Bool → Nat → Reader Phrase
  /-- A pattern without alternatives. -/
  pattern : Reader PatternForm
  /-- The statements up to the end of a block. -/
  statements : Rule
  /-- An item behind its attributes, and whether it is kept as it came. -/
  item : Reader (Item × Bool)
  /-- Fields with names in curly brackets. -/
  namedFields : Reader Fields
  /-- What a `use` brings in, and whether a path in braces has `::` before it; the flag says
  whether one may. -/
  useTree : Bool → Reader (List Token × Bool)

namespace Grammar

/-- Stands for the rules when the nesting is deeper than any input can be. -/
def exhausted : Grammar where
  type _ := forbid "nesting too deep"
  bound _ _ := forbid "nesting too deep"
  expression _ := forbid "nesting too deep"
  statement := forbid "nesting too deep"
  unary _ := forbid "nesting too deep"
  climb _ _ _ := forbid "nesting too deep"
  pattern := forbid "nesting too deep"
  statements := forbid "nesting too deep"
  item := forbid "nesting too deep"
  namedFields := forbid "nesting too deep"
  useTree _ := forbid "nesting too deep"

end Grammar

/-! ## Simple paths -/

/-- A path without arguments, such as those of attributes and macros. -/
def plainPath : Rule := do
  let lead ← optSign "::"
  let startsSegment := fun ts =>
    atName ts || atWord "super" ts || atWord "self" ts || atWord "Self" ts || atWord "crate" ts
  let found ← repeated do
    if ← next startsSegment then
      let segment ← anyWordRule
      if ← next (atSign "::") then
        let _ ← takeSign "::"
        return ([(segment, true)], true)
      return ([(segment, false)], false)
    return ([], false)
  let path := Punctuated.ofPairs found.flatten
  if path.members.isEmpty then
    let _ ← takeName
    return []
  if path.trailing then forbid "expected path segment after \x60::\x60"
  return lead ++ path.print "::" id

/-! ## Macro calls -/

/-- The bracketed tokens of a macro call, and whether the brackets are curly. -/
def macroBody : Reader (List Token × Bool) := do
  let (d, inner) ← anyGroup
  return ([.group d inner], d == .brace)

/-- An exclamation mark that does not begin `!=`. -/
def atBang (ts : List Token) : Bool := atSign "!" ts && !atSign "!=" ts

/-! ## Forms that the compiler provides -/

def atBuiltin (ts : List Token) : Bool := atWord "builtin" ts && atSign "#" (behind ts)

/-- A form that the compiler provides: a name and tokens in round brackets. -/
def builtinRule : Rule := do
  let head ← takeWord "builtin" ++ takeSign "#" ++ nameRule
  match ← ahead with
  | .group .paren inner :: rest =>
    goTo rest
    return head ++ [.group .paren inner]
  | _ => wanting ["parentheses"]

/-! ## Visibility -/

/-- The parentheses behind `pub` restrict it: one root word alone, or `in` and a path. Other
parentheses are not part of the visibility. -/
def restriction : Rule := do
  match ← ahead with
  | .group .paren inner :: _ =>
    if atWord "crate" inner || atWord "self" inner || atWord "super" inner then
      if inner.length = 1 then within .paren anyWordRule else nothing
    else if atWord "in" inner then within .paren (takeWord "in" ++ plainPath)
    else nothing
  | _ => nothing

def visibility : Rule := whenNext (atWord "pub") (takeWord "pub" ++ restriction)

/-! ## ABI -/

def abi : Rule := takeWord "extern" ++ whenNext atString stringRule

def optAbi : Rule := whenNext (atWord "extern") abi

end MarkerInjection.Source
