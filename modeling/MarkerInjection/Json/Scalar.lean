-- Strings and numbers of JSON, and the phrases for values of the wrong kind.
import MarkerInjection.Json.Reader
import MarkerInjection.Text.Escaped

namespace MarkerInjection.Json

/-! ## Strings -/

/-- The value of a hexadecimal digit. -/
def hexValue? (b : UInt8) : Option Nat :=
  let n := b.toNat
  if 48 ≤ n ∧ n ≤ 57 then some (n - 48)
  else if 97 ≤ n ∧ n ≤ 102 then some (n - 87)
  else if 65 ≤ n ∧ n ≤ 70 then some (n - 55)
  else none

/-- The number that four hexadecimal digits make. -/
def hexNumber? (digits : List UInt8) : Option Nat :=
  digits.foldl (fun n b => do return (← n) * 16 + (← hexValue? b)) (some 0)

/-- Reads four hexadecimal digits. -/
def hexEscape : Reader Nat := do
  let c ← get
  match c.rest with
  | a :: b :: d :: e :: rest =>
    set (Cursor.mk (e :: d :: b :: a :: c.read) rest)
    match hexNumber? [a, b, d, e] with
    | some n => return n
    | none => failHere .badEscape
  | rest =>
    set (Cursor.mk (rest.reverse ++ c.read) [])
    failHere .endOfString

/-- Reads a byte that has to follow the first half of a pair. -/
def pairByte (c : Char) : Reader Unit := do
  match ← take with
  | none => failHere .endOfString
  | some b => if b != code c then failHere .endOfEscape

/-- Reads a character that is given by its code: in one escape, or in a pair of them. -/
def codeEscape : Reader Char := do
  let n ← hexEscape
  if 0xDC00 ≤ n ∧ n ≤ 0xDFFF then failHere .loneSurrogate
  else if n < 0xD800 ∨ 0xDBFF < n then return Char.ofNat n
  else
    pairByte '\\'
    pairByte 'u'
    let m ← hexEscape
    if m < 0xDC00 ∨ 0xDFFF < m then failHere .loneSurrogate
    else return Char.ofNat ((n - 0xD800) * 0x400 + (m - 0xDC00) + 0x10000)

/-- The character that an escape letter stands for. -/
def escaped? (b : UInt8) : Option Char :=
  if b == code '"' then some '"'
  else if b == code '\\' then some '\\'
  else if b == code '/' then some '/'
  else if b == code 'b' then some '\x08'
  else if b == code 'f' then some '\x0c'
  else if b == code 'n' then some '\n'
  else if b == code 'r' then some '\r'
  else if b == code 't' then some '\t'
  else none

/-- Reads an escape behind its backslash. -/
def escape : Reader Char := do
  match ← take with
  | none => failHere .endOfString
  | some b =>
    if b == code 'u' then codeEscape
    else
      match escaped? b with
      | some c => return c
      | none => failHere .badEscape

/-- The bytes of a string behind its opening quote. The bound is only there to end the loop. -/
def stringBytes : Nat → Reader (List UInt8)
  | 0 => return []
  | n + 1 => do
    match ← take with
    | none => failHere .endOfString
    | some b =>
      if b == code '"' then return []
      else if b == code '\\' then
        let c ← escape
        return c.toString.toUTF8.toList ++ (← stringBytes n)
      else if b < 32 then failHere .controlCharacter
      else return b :: (← stringBytes n)

/-- Reads a string behind its opening quote. -/
def stringRest : Reader String := do
  let bytes ← stringBytes ((← get).rest.length + 1)
  return (String.fromUTF8? ⟨bytes.toArray⟩).getD ""

/-! ## Numbers -/

/-- A number as its notation tells: a natural number, a negative whole number, or any other
number as a double. -/
inductive Number
  | natural (n : Nat)
  | negative (n : Nat)
  | double (x : Double) (minus : Bool)
  deriving Repr, Inhabited

/-- Numbers from here on do not fit into 64 bits. -/
def wordLimit : Nat := twoTo 64

def digit? (b : Option UInt8) : Option Nat :=
  match b with
  | some b => if 48 ≤ b.toNat ∧ b.toNat ≤ 57 then some (b.toNat - 48) else none
  | none => none

def isDigit (b : UInt8) : Bool := (digit? (some b)).isSome

/-- Reads digits on to a number as long as it fits into 64 bits: the number, how many digits were
read, and whether more would follow. The bound is only there to end the loop. -/
def digitsOnto (limit : Nat) : Nat → Nat → Nat → Reader (Nat × Nat × Bool)
  | 0, value, count => return (value, count, false)
  | n + 1, value, count => do
    match digit? (← peek) with
    | none => return (value, count, false)
    | some d =>
      if value * 10 + d ≥ limit then return (value, count, true)
      skip
      digitsOnto limit n (value * 10 + d) (count + 1)

/-- Skips digits, and counts them. -/
def skipDigits : Reader Nat := do
  let before := (← get).rest.length
  skipWhile isDigit
  return before - (← get).rest.length

/-- The double that digits and exponent give. -/
def fromParts (significand : Nat) (exponent : Int) : Reader Double := do
  match Double.ofDecimal? significand exponent with
  | some x => return x
  | none => failHere .numberRange

/-- An exponent that fits into 31 bits. -/
def exponentLimit : Nat := twoTo 31

/-- Reads an exponent, of which only the `e` is known. -/
def exponentRest (significand : Nat) (exponent : Int) : Reader Double := do
  skip
  let mark ← peek
  let isPlus := mark == some (code '+')
  let isMinus := mark == some (code '-')
  if isPlus || isMinus then skip
  match ← take with
  | none => failHere .endOfValue
  | some b =>
    match digit? (some b) with
    | none => failHere .badNumber
    | some d =>
      let (e, _, clipped) ← digitsOnto exponentLimit ((← get).rest.length + 1) d 0
      if clipped then
        skip
        if significand ≠ 0 ∧ !isMinus then failHere .numberRange
        skipWhile isDigit
        return Double.zero
      fromParts significand (if isMinus then exponent - e else exponent + e)

def atExponent (b : Option UInt8) : Bool := b == some (code 'e') || b == some (code 'E')

/-- What follows the digits: an exponent, or nothing. -/
def afterDigits (significand : Nat) (exponent : Int) : Reader Double := do
  if atExponent (← peek) then exponentRest significand exponent
  else fromParts significand exponent

/-- Reads a fraction, of which only the point is known. Digits that do not fit any more are
dropped. -/
def fractionRest (significand : Nat) (exponent : Int) : Reader Double := do
  skip
  let (value, count, clipped) ← digitsOnto wordLimit ((← get).rest.length + 1) significand 0
  if clipped then
    let _ ← skipDigits
    afterDigits value (exponent - count)
  else if count = 0 then
    match ← peek with
    | some _ => failAhead .badNumber
    | none => failAhead .endOfValue
  else afterDigits value (exponent - count)

/-- What follows the whole part of a number, which did or did not fit. -/
def numberRest (minus : Bool) (significand : Nat) (dropped : Option Nat) : Reader Number := do
  let exponent : Int := dropped.getD 0
  let next ← peek
  if next == some (code '.') then return .double (← fractionRest significand exponent) minus
  else if atExponent next then return .double (← exponentRest significand exponent) minus
  else if dropped.isSome then return .double (← fromParts significand exponent) minus
  else if !minus then return .natural significand
  else if significand = 0 ∨ significand > twoTo 63 then return .double (Double.ofNat significand) true
  else return .negative significand

/-- Reads a number behind its sign. -/
def number (minus : Bool) : Reader Number := do
  match ← take with
  | none => failHere .endOfValue
  | some b =>
    match digit? (some b) with
    | none => failHere .badNumber
    | some 0 =>
      if (digit? (← peek)).isSome then failAhead .badNumber
      numberRest minus 0 none
    | some d =>
      let (value, _, clipped) ← digitsOnto wordLimit ((← get).rest.length + 1) d 0
      if clipped then
        let dropped ← skipDigits
        numberRest minus value (some dropped)
      else numberRest minus value none

/-- The phrase for a number. -/
def Number.phrase : Number → String
  | natural n => "integer " ++ quoted (toString n)
  | negative n => "integer " ++ quoted ("-" ++ toString n)
  | double x minus => "floating point " ++ quoted (x.text minus)

/-! ## Values of the wrong kind -/

/-- Refuses the value that comes next. Scalars are read for that, lists and objects are not. -/
def refuseValue {α : Type} (wanted : String) : Reader α := do
  match ← peek with
  | none => failAhead .valueDue
  | some b =>
    if b == code 'n' then
      skip
      takeWord ['u', 'l', 'l']
      failHere (.wrongType "null" wanted)
    else if b == code 't' then
      skip
      takeWord ['r', 'u', 'e']
      failHere (.wrongType ("boolean " ++ quoted "true") wanted)
    else if b == code 'f' then
      skip
      takeWord ['a', 'l', 's', 'e']
      failHere (.wrongType ("boolean " ++ quoted "false") wanted)
    else if b == code '-' then
      skip
      let n ← number true
      failHere (.wrongType n.phrase wanted)
    else if isDigit b then
      let n ← number false
      failHere (.wrongType n.phrase wanted)
    else if b == code '"' then
      skip
      let s ← stringRest
      failHere (.wrongType ("string " ++ Text.shown s) wanted)
    else if b == code '[' then failHere (.wrongType "sequence" wanted)
    else if b == code '\x7b' then failHere (.wrongType "map" wanted)
    else failAhead .valueDue

/-! ## Scalars -/

/-- Reads a string; `wanted` is the phrase for what it stands for. -/
def string (wanted : String) : Reader String := do
  if (← peekValue) == code '"' then
    skip
    stringRest
  else refuseValue wanted

/-- Reads a natural number of at most 64 bits; `wanted` is the phrase for it. -/
def natural (wanted : String) : Reader Nat := do
  let b ← peekValue
  let minus := b == code '-'
  if minus || isDigit b then
    if minus then skip
    match ← number minus with
    | .natural n => return n
    | .negative n => failHere (.wrongValue (Number.negative n).phrase wanted)
    | .double x minus => failHere (.wrongType (Number.double x minus).phrase wanted)
  else refuseValue wanted

/-- Reads `null`; `wanted` is the phrase for what it stands for. -/
def null (wanted : String) : Reader Unit := do
  if (← peekValue) == code 'n' then
    skip
    takeWord ['u', 'l', 'l']
  else refuseValue wanted

end MarkerInjection.Json
