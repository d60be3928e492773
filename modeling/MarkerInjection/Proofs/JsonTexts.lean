-- JSON as it is written (RFC 8259): texts with their blanks, their escapes and
-- the notations of their numbers, and what the strings and numbers in them mean.
import MarkerInjection.Config.Document

namespace MarkerInjection.Json

/-! ## Blanks -/

/-- Blank characters between the parts of a text. -/
inductive Blank
  | space
  | newline
  | tab
  | lineReturn
  deriving Repr, DecidableEq

def Blank.char : Blank → Char
  | space => ' '
  | newline => '\n'
  | tab => '\t'
  | lineReturn => '\r'

/-- A part of a text with the blanks around it. -/
structure Spaced (α : Type) where
  before : List Blank := []
  value : α
  after : List Blank := []
  deriving Repr

/-- The characters of a part between its blanks. -/
def Spaced.chars {α : Type} (inner : α → List Char) (s : Spaced α) : List Char :=
  s.before.map Blank.char ++ inner s.value ++ s.after.map Blank.char

/-! ## Strings -/

/-- A hexadecimal digit; the letters among them come in two sizes. -/
structure HexDigit where
  value : Fin 16
  capital : Bool := false
  deriving Repr, DecidableEq

def HexDigit.char (d : HexDigit) : Char :=
  Char.ofNat (if d.value.val < 10 then 48 + d.value.val
    else if d.capital then 55 + d.value.val else 87 + d.value.val)

/-- The escapes by one letter. -/
inductive ShortEscape
  | quote
  | backslash
  | slash
  | backspace
  | formFeed
  | newline
  | lineReturn
  | tab
  deriving Repr, DecidableEq

def ShortEscape.letter : ShortEscape → Char
  | quote => '"'
  | backslash => '\\'
  | slash => '/'
  | backspace => 'b'
  | formFeed => 'f'
  | newline => 'n'
  | lineReturn => 'r'
  | tab => 't'

def ShortEscape.meaning : ShortEscape → Char
  | quote => '"'
  | backslash => '\\'
  | slash => '/'
  | backspace => '\x08'
  | formFeed => '\x0c'
  | newline => '\n'
  | lineReturn => '\r'
  | tab => '\t'

/-- A character that may stand in a string for itself. -/
def Plain : Type := { c : Char // c ≠ '"' ∧ c ≠ '\\' ∧ 32 ≤ c.toNat }

/-- The code that an escape by number gives: four hexadecimal digits. -/
structure CodeUnit where
  a : HexDigit
  b : HexDigit
  c : HexDigit
  d : HexDigit
  deriving Repr, DecidableEq

namespace CodeUnit

def value (u : CodeUnit) : Nat :=
  ((u.a.value.val * 16 + u.b.value.val) * 16 + u.c.value.val) * 16 + u.d.value.val

def chars (u : CodeUnit) : List Char := [u.a.char, u.b.char, u.c.char, u.d.char]

/-- The code is the first half of a pair. -/
def IsHigh (u : CodeUnit) : Prop := 0xD800 ≤ u.value ∧ u.value ≤ 0xDBFF

/-- The code is the second half of a pair. -/
def IsLow (u : CodeUnit) : Prop := 0xDC00 ≤ u.value ∧ u.value ≤ 0xDFFF

instance (u : CodeUnit) : Decidable u.IsHigh := inferInstanceAs (Decidable (_ ∧ _))

instance (u : CodeUnit) : Decidable u.IsLow := inferInstanceAs (Decidable (_ ∧ _))

/-- The character that two halves give. -/
def paired (u v : CodeUnit) : Char :=
  Char.ofNat (0x10000 + (u.value - 0xD800) * 0x400 + (v.value - 0xDC00))

end CodeUnit

/-- A piece of a string. -/
inductive Piece
  | plain (c : Plain)
  | short (e : ShortEscape)
  | code (u : CodeUnit)

def Piece.chars : Piece → List Char
  | plain c => [c.val]
  | short e => ['\\', e.letter]
  | code u => '\\' :: 'u' :: u.chars

/-- The pieces of a string, in order. -/
abbrev Pieces := List Piece

namespace Pieces

/-- The string as it is written. -/
def chars (ps : Pieces) : List Char := '"' :: (ps.flatMap Piece.chars ++ ['"'])

/-- The characters that the pieces stand for. A half without its other half stands for none. -/
def meaning? : Pieces → Option (List Char)
  | [] => some []
  | .plain c :: ps => (meaning? ps).map (c.val :: ·)
  | .short e :: ps => (meaning? ps).map (e.meaning :: ·)
  | .code u :: ps =>
    if u.IsHigh then
      match ps with
      | .code v :: ps => if v.IsLow then (meaning? ps).map (u.paired v :: ·) else none
      | _ => none
    else if u.IsLow then none
    else (meaning? ps).map (Char.ofNat u.value :: ·)

/-- The text that the pieces stand for. -/
def text? (ps : Pieces) : Option String := (meaning? ps).map String.ofList

end Pieces

/-! ## Numbers -/

/-- One or more digits. -/
structure Digits where
  first : Fin 10
  more : List (Fin 10) := []
  deriving Repr, DecidableEq

def digitChar (d : Fin 10) : Char := Char.ofNat (48 + d.val)

namespace Digits

def chars (ds : Digits) : List Char := digitChar ds.first :: ds.more.map digitChar

/-- The number that the digits make. -/
def value (ds : Digits) : Nat := ds.more.foldl (fun n d => n * 10 + d.val) ds.first.val

end Digits

/-- An exponent behind its `e`. -/
structure Exponent where
  capital : Bool := false
  /-- The sign, where there is one; the minus sign if it holds. -/
  minus : Option Bool := none
  digits : Digits
  deriving Repr, DecidableEq

def Exponent.chars (e : Exponent) : List Char :=
  (if e.capital then 'E' else 'e') ::
    ((e.minus.map fun m => if m then '-' else '+').toList ++ e.digits.chars)

/-- A number as it is written. A zero goes first only where no other digit of the whole part
follows. -/
structure Numeral where
  minus : Bool := false
  whole : Digits
  first_ne_zero : whole.more ≠ [] → whole.first ≠ 0
  fraction : Option Digits := none
  exponent : Option Exponent := none

namespace Numeral

def chars (n : Numeral) : List Char :=
  (if n.minus then ['-'] else []) ++ n.whole.chars ++
    (n.fraction.elim [] fun ds => '.' :: ds.chars) ++ n.exponent.elim [] Exponent.chars

/-- The natural number that the digits alone make, if it fits into 64 bits. -/
def natural? (n : Numeral) : Option Nat :=
  if n.minus = false ∧ n.fraction = none ∧ n.exponent = none ∧ n.whole.value < threadLimit then
    some n.whole.value
  else none

end Numeral

/-! ## Values -/

/-- A member of an object. -/
structure Member (α : Type) where
  key : Spaced Pieces
  value : Spaced α

/-- A value as it is written. The blanks `inner` stand behind an opening bracket. -/
inductive Written
  | null
  | boolean (b : Bool)
  | number (n : Numeral)
  | string (ps : Pieces)
  | list (inner : List Blank) (elements : List (Spaced Written))
  | object (inner : List Blank) (members : List (Member Written))

mutual

def Written.chars : Written → List Char
  | .null => "null".toList
  | .boolean b => (if b then "true" else "false").toList
  | .number n => n.chars
  | .string ps => ps.chars
  | .list inner es => '[' :: (inner.map Blank.char ++ elementsChars true es ++ [']'])
  | .object inner ms => '\x7b' :: (inner.map Blank.char ++ membersChars true ms ++ ['\x7d'])

/-- Elements of a list; a comma goes before each but the first. -/
def elementsChars (isFirst : Bool) : List (Spaced Written) → List Char
  | [] => []
  | ⟨before, v, after⟩ :: es =>
    (if isFirst then [] else [',']) ++ before.map Blank.char ++ v.chars ++
      after.map Blank.char ++ elementsChars false es

/-- Members of an object; a comma goes before each but the first. -/
def membersChars (isFirst : Bool) : List (Member Written) → List Char
  | [] => []
  | ⟨key, before, v, after⟩ :: ms =>
    (if isFirst then [] else [',']) ++ key.chars Pieces.chars ++ [':'] ++
      before.map Blank.char ++ v.chars ++ after.map Blank.char ++ membersChars false ms

end

/-- The text of a document. -/
def Spaced.text (doc : Spaced Written) : String := String.ofList (doc.chars Written.chars)

namespace Written

/-- The text, if the value is a string that stands for one. -/
def string? : Written → Option String
  | .string ps => ps.text?
  | _ => none

def natural? : Written → Option Nat
  | .number n => n.natural?
  | _ => none

def null? : Written → Option Unit
  | .null => some ()
  | _ => none

end Written

end MarkerInjection.Json
