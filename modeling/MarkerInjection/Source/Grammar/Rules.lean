-- The rules tied together, and what is read with them: items, members of `impl`
-- blocks and the argument list of a tag.
import MarkerInjection.Source.Grammar.Declaration

namespace MarkerInjection.Source

/-! ## The rules -/

/-- The rules, each of which may call on the others to the given depth. -/
def grammar : Nat → Grammar
  | 0 => Grammar.exhausted
  | n + 1 =>
    let g := grammar n
    { type := typeRule g
      bound := boundRule g
      expression := expressionRule g
      statement := statementRule g
      unary := unaryRule g
      climb := climbRule g
      pattern := patternRule g
      statements := statementsRule g
      item := itemRule g
      namedFields := namedFieldsRule g
      useTree := useTreeRule g }

/-- Deep enough for these tokens: no token is the first of more than four rules that call on
each other. -/
def depthFor (ts : List Token) : Nat := 4 * sizeOfTokens ts + 16

/-- Reads all of the tokens with a rule. -/
def readWith {α : Type} (rule : Grammar → Reader α) (ts : List Token) : Except SyntaxError α :=
  readAll (rule (grammar (depthFor ts))) ts

/-! ## Items -/

/-- The item that the tokens make up. -/
def readItem : List Token → Except SyntaxError Item :=
  readWith wholeItem

/-- The printed member of an `impl` block that the tokens make up. -/
def readImplMember : List Token → Except SyntaxError (List Token) := readWith implMember

/-! ## Argument lists -/

/-- One argument of a tag: a literal by itself, or a meta. -/
inductive Argument
  | literal (tokens : List Token)
  | setting (value : Meta)
  deriving Inhabited

def argumentRule (g : Grammar) : Reader Argument := do
  let ts ← ahead
  if atLiteral ts && !(atTruthValue ts && atSign "=" (behind ts)) then
    return .literal (← literalRule)
  else if atAnyWord ts || (atSign "::" ts && atAnyWord (behind (behind ts))) then
    return .setting (← metaRule g)
  else forbid "expected identifier or literal"

/-- The arguments that the tokens make up, apart by commas. -/
def readArguments (ts : List Token) : Except SyntaxError (List Argument) := do
  let list ← readWith (fun g => punctuated List.isEmpty "," (argumentRule g)) ts
  return list.members

end MarkerInjection.Source
