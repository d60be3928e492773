-- Texts between double quotes: how a text is shown, and how it is written as
-- a string literal of source code.
import MarkerInjection.Text.Printable

namespace MarkerInjection.Text

/-! ## One character -/

/-- The escape by code point, such as `\u{307}`, with lowercase hexadecimal digits. -/
def escapeCodePoint (c : Char) : List Char :=
  ['\\', 'u', '{'] ++ Nat.toDigits 16 c.toNat ++ ['}']

/-- A character as it stands between double quotes: quotes, backslashes and control
characters are escaped, and so is every character that has no printed form of its own. A
single quote stays as it is. -/
def escapeChar (c : Char) : List Char :=
  match c with
  | '\x00' => ['\\', '0']
  | '\t' => ['\\', 't']
  | '\r' => ['\\', 'r']
  | '\n' => ['\\', 'n']
  | '"' => ['\\', '"']
  | '\\' => ['\\', '\\']
  | c => if isExtending c || !isPrintable c then escapeCodePoint c else [c]

/-! ## Whole texts -/

/-- The text between double quotes, each character escaped by itself. -/
def shown (s : String) : String :=
  String.ofList (['"'] ++ s.toList.flatMap escapeChar ++ ['"'])

/-- The next character would be read as part of an octal escape. -/
def startsOctal : List Char → Bool
  | c :: _ => '0' ≤ c && c ≤ '7'
  | [] => false

/-- The inside of a string literal. A NUL before an octal digit is written in two
hexadecimal digits, so that no reader takes the digit for a part of it. -/
def literalBody : List Char → List Char
  | [] => []
  | c :: r =>
    (if c = '\x00' && startsOctal r then ['\\', 'x', '0', '0'] else escapeChar c) ++ literalBody r

/-- The string literal that stands for the text. -/
def literal (s : String) : String :=
  String.ofList (['"'] ++ literalBody s.toList ++ ['"'])

end MarkerInjection.Text
