-- Tags of source text: the members that an argument list gives.
import MarkerInjection.Host
import MarkerInjection.Source.Grammar.Rules

namespace MarkerInjection.Source

/-- A tag with its members, in the order in which they are given. No two share a
name. -/
structure Tag where
  name : String
  members : List (String × MemberValue)
  /-- The argument list. -/
  tokens : List Token
  deriving Repr, Inhabited

namespace Tag

/-! ## Members -/

/-- The member that an argument without a name stands for. -/
def positional : String := "value"

/-- A string literal gives its text; any other value stays an expression. -/
def valueOf (text : Option String) (tokens : List Token) : MemberValue :=
  match text.bind stringValue? with
  | some s => .literal s
  | none => .expression (compact tokens)

/-- The text of tokens that are one literal. -/
def literalText : List Token → Option String
  | [.literal text] => some text
  | _ => none

/-- The name and the value of the member that an argument gives. -/
def memberOf : Argument → String × MemberValue
  | .literal ts => (positional, valueOf (literalText ts) ts)
  | .setting (.assigned name value) =>
    let text := match value.shape with
      | .literal text => some text
      | _ => none
    (compact name, valueOf text value.tokens)
  | .setting m => (positional, .expression (compact m.print))

/-- Adds the members of arguments to those before; no name may be given twice. -/
def addMembers (members : List (String × MemberValue)) :
    List Argument → Except SyntaxError (List (String × MemberValue))
  | [] => .ok members
  | a :: as =>
    let (name, value) := memberOf a
    if members.any (·.1 == name) then .error (.duplicateMember name)
    else addMembers (members ++ [(name, value)]) as

/-! ## Tags -/

/-- The tag of this name with the arguments that the tokens make up. Arguments that
cannot be read are refused before those that are given twice. -/
def read (name : String) (tokens : List Token) : Except SyntaxError Tag := do
  let members ← addMembers [] (← readArguments tokens)
  return { name, members, tokens }

/-- The value of the member of this name. -/
def member (t : Tag) (name : String) : Option MemberValue := t.members.lookup name

end Tag

end MarkerInjection.Source
