-- Number literals of source text: where one ends, and whether a literal is an
-- integer.
import MarkerInjection.Source.Quoted

namespace MarkerInjection.Source

open MarkerInjection.Text

/-! ## The end of a number -/

/-- What follows the name at the head of the text; the text itself if no name stands there. -/
def skipName (s : List Char) : List Char :=
  match s with
  | c :: r => if isNameStart c then r.dropWhile isNameContinue else s
  | [] => []

/-- A suffix may follow a number, but nothing else of a name may. -/
def afterSuffix (s : List Char) : Option (List Char) :=
  match skipName s with
  | c :: r => if isNameContinue c then none else some (c :: r)
  | [] => some []

/-- What follows the digits of an exponent. There is at most one sign, before the first digit,
and at least one digit. -/
def exponentTail (signed anyDigit : Bool) : List Char → Option (List Char)
  | [] => if anyDigit then some [] else none
  | c :: r =>
    if c = '+' || c = '-' then
      if anyDigit then some (c :: r) else if signed then none else exponentTail true anyDigit r
    else if c.isDigit then exponentTail signed true r
    else if c = '_' then exponentTail signed anyDigit r
    else if anyDigit then some (c :: r) else none

/-- What follows the digits, the point and the exponent of a float; there has to be a point or
an exponent. A point before another one or before a name is not the float's, and an exponent
without digits is left for the suffix. -/
def floatTail (pointed : Bool) : List Char → Option (List Char)
  | [] => if pointed then some [] else none
  | c :: r =>
    if c.isDigit || c = '_' then floatTail pointed r
    else if c = '.' then
      if pointed then some (c :: r)
      else
        match r with
        | d :: _ => if d = '.' || isNameStart d then none else floatTail true r
        | [] => some []
    else if c = 'e' || c = 'E' then
      match exponentTail false false r with
      | some rest => some rest
      | none => if pointed then some (c :: r) else none
    else if pointed then some (c :: r) else none

/-- What follows a float literal. -/
def afterFloat (s : List Char) : Option (List Char) :=
  match s with
  | c :: r => if c.isDigit then (floatTail false r).bind afterSuffix else none
  | [] => none

/-- What follows the digits of an integer. In base ten an underscore may not come first; a
decimal digit too large for the base is an error, a letter too large ends the number. -/
def digitsTail (base : Nat) (anyDigit : Bool) : List Char → Option (List Char)
  | [] => if anyDigit then some [] else none
  | c :: r =>
    if c = '_' then
      if !anyDigit && base = 10 then none else digitsTail base anyDigit r
    else
      match digitValue c with
      | some d =>
        if d < base then digitsTail base true r
        else if c.isDigit then none
        else if anyDigit then some (c :: r) else none
      | none => if anyDigit then some (c :: r) else none

/-- The base of an integer, and what follows the sign of the base. -/
def baseOf (s : List Char) : Nat × List Char :=
  match s with
  | '0' :: 'x' :: r => (16, r)
  | '0' :: 'o' :: r => (8, r)
  | '0' :: 'b' :: r => (2, r)
  | _ => (10, s)

/-- What follows an integer literal. -/
def afterInteger (s : List Char) : Option (List Char) :=
  let (base, r) := baseOf s
  (digitsTail base false r).bind afterSuffix

/-! ## The kind of a number -/

/-- The text behind the `e` of a base ten number is an exponent: it has a sign, or digits that
end the number or come before a suffix. -/
def isExponent (anyDigit : Bool) : List Char → Bool
  | [] => anyDigit
  | c :: r =>
    if c = '_' then isExponent anyDigit r
    else if c = '-' || c = '+' then true
    else if c.isDigit then isExponent true r
    else anyDigit && isName (c :: r)

/-- The value and the suffix behind the digits of an integer; nothing for a float. -/
def integerTail (base : Nat) (anyDigit : Bool) (value : Nat) :
    List Char → Option (Nat × List Char)
  | [] => if anyDigit then some (value, []) else none
  | c :: r =>
    let stop : Option (Nat × List Char) :=
      if anyDigit && isName (c :: r) then some (value, c :: r) else none
    if c = '_' then integerTail base anyDigit value r
    else if base = 10 && c = '.' then none
    else if base = 10 && (c = 'e' || c = 'E') && isExponent false r then none
    else
      match digitValue c with
      | some d =>
        if !c.isDigit && base ≤ 10 then stop
        else if d < base then integerTail base true (base * value + d) r
        else none
      | none => stop

/-- The value and the suffix of an integer literal; nothing if the literal is no integer. -/
def integerValue? (lit : String) : Option (Nat × String) :=
  match lit.toList with
  | c :: r =>
    if c.isDigit then
      let (base, digits) := baseOf (c :: r)
      (integerTail base false 0 digits).map fun (n, suffix) => (n, String.ofList suffix)
    else none
  | [] => none

/-- The literal is a number. -/
def isNumber (lit : String) : Bool :=
  match lit.toList with
  | c :: _ => c.isDigit
  | [] => false

/-- The literal is a number, but no integer. -/
def isFloat (lit : String) : Bool := isNumber lit && (integerValue? lit).isNone

end MarkerInjection.Source
