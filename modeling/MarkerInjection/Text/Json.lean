-- Texts as JSON strings.
import MarkerInjection.Text.Digits

namespace MarkerInjection.Text

/-- A character inside of a JSON string: quotes, backslashes and control characters are
escaped, those without a short escape by their code. -/
def jsonChar (c : Char) : List Char :=
  match c with
  | '"' => ['\\', '"']
  | '\\' => ['\\', '\\']
  | '\x08' => ['\\', 'b']
  | '\x0c' => ['\\', 'f']
  | '\n' => ['\\', 'n']
  | '\r' => ['\\', 'r']
  | '\t' => ['\\', 't']
  | c =>
    if c.toNat < 32 then ['\\', 'u'] ++ lastDigits 16 4 c.toNat else [c]

/-- The JSON string that stands for the text. -/
def jsonString (s : String) : String :=
  String.ofList (['"'] ++ s.toList.flatMap jsonChar ++ ['"'])

end MarkerInjection.Text
