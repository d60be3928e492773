-- Why tokens are refused, and the message for each reason.
import MarkerInjection.Source.Token

namespace MarkerInjection.Source

/-! ## The reasons -/

/-- Why tokens do not make up what was asked for. `atEnd` says that the tokens ended where
something was still due, and that the message tells so. -/
inductive SyntaxError
  /-- One of the wanted things was due. -/
  | expected (wanted : List String) (atEnd : Bool)
  /-- A reserved word stands where a name was due. -/
  | reserved (word : String)
  /-- Everything was read, yet tokens are left over: in the group with this bracket, or at the
  very end. -/
  | leftover (group : Option Delimiter)
  /-- The tokens are readable one by one, but the form they make is not allowed. -/
  | forbidden (text : String) (atEnd : Bool)
  /-- A member of an argument list is given twice. -/
  | duplicateMember (name : String)
  deriving Repr, DecidableEq, Inhabited

/-! ## The messages -/

/-- A word or sign as messages quote it. -/
def quoted (s : String) : String := "\x60" ++ s ++ "\x60"

/-- The wanted things as one phrase. -/
def wantedPhrase : List String → String
  | [] => "unexpected token"
  | [a] => "expected " ++ a
  | [a, b] => "expected " ++ a ++ " or " ++ b
  | more => "expected one of: " ++ ", ".intercalate more

def endNote (atEnd : Bool) : String := if atEnd then "unexpected end of input, " else ""

/-- The message of a refusal. -/
def SyntaxError.message : SyntaxError → String
  | .expected [] true => "unexpected end of input"
  | .expected wanted atEnd => endNote atEnd ++ wantedPhrase wanted
  | .reserved word => "expected identifier, found keyword " ++ quoted word
  | .leftover none => "unexpected token"
  | .leftover (some d) => "unexpected token, expected " ++ quoted d.closing
  | .forbidden text atEnd => endNote atEnd ++ text
  | .duplicateMember name => "duplicate " ++ quoted name ++ " member"

end MarkerInjection.Source
