-- Reading JSON byte by byte: positions, faults and the steps that all values
-- share.
import MarkerInjection.Number.Shortest

namespace MarkerInjection.Json

/-! ## Positions -/

/-- The bytes of a text, those that were read and those that are left. The last byte that was
read comes first. -/
structure Cursor where
  read : List UInt8
  rest : List UInt8
  deriving Inhabited

/-- A line, counted from one, and the bytes since its start. -/
structure Position where
  line : Nat
  column : Nat
  deriving Repr, DecidableEq, Inhabited

def newline : UInt8 := 10

/-- The position behind these bytes, of which the last comes first. -/
def positionBehind (read : List UInt8) : Position where
  line := read.count newline + 1
  column := (read.takeWhile (· != newline)).length

namespace Cursor

/-- The position behind what was read. -/
def here (c : Cursor) : Position := positionBehind c.read

/-- The position behind the next byte. -/
def ahead (c : Cursor) : Position :=
  match c.rest with
  | b :: _ => positionBehind (b :: c.read)
  | [] => c.here

/-- The cursor behind the next byte. -/
def advance (c : Cursor) : Cursor :=
  match c.rest with
  | b :: rest => ⟨b :: c.read, rest⟩
  | [] => c

end Cursor

/-! ## Faults -/

/-- Why a text is not what was asked for. -/
inductive Reason
  | endOfValue
  | endOfList
  | endOfObject
  | endOfString
  | valueDue
  | identDue
  | colonDue
  | commaOrEndOfListDue
  | commaOrEndOfObjectDue
  | keyDue
  | trailingComma
  | trailingCharacters
  | badNumber
  | numberRange
  | badEscape
  | controlCharacter
  | loneSurrogate
  | endOfEscape
  /-- A value of one kind stands where another is due. -/
  | wrongType (found wanted : String)
  | wrongValue (found wanted : String)
  | unknownVariant (found : String) (known : List String)
  | unknownField (found : String) (known : List String)
  | duplicateField (name : String)
  deriving Repr, DecidableEq, Inhabited

def quoted (s : String) : String := "\x60" ++ s ++ "\x60"

/-- Known names as a phrase. -/
def oneOf : List String → String
  | [a, b] => quoted a ++ " or " ++ quoted b
  | names => "one of " ++ ", ".intercalate (names.map quoted)

def Reason.text : Reason → String
  | endOfValue => "EOF while parsing a value"
  | endOfList => "EOF while parsing a list"
  | endOfObject => "EOF while parsing an object"
  | endOfString => "EOF while parsing a string"
  | valueDue => "expected value"
  | identDue => "expected ident"
  | colonDue => "expected " ++ quoted ":"
  | commaOrEndOfListDue => "expected " ++ quoted "," ++ " or " ++ quoted "]"
  | commaOrEndOfObjectDue => "expected " ++ quoted "," ++ " or " ++ quoted "\x7d"
  | keyDue => "key must be a string"
  | trailingComma => "trailing comma"
  | trailingCharacters => "trailing characters"
  | badNumber => "invalid number"
  | numberRange => "number out of range"
  | badEscape => "invalid escape"
  | controlCharacter => "control character (\\u0000-\\u001F) found while parsing a string"
  | loneSurrogate => "lone leading surrogate in hex escape"
  | endOfEscape => "unexpected end of hex escape"
  | wrongType found wanted => "invalid type: " ++ found ++ ", expected " ++ wanted
  | wrongValue found wanted => "invalid value: " ++ found ++ ", expected " ++ wanted
  | unknownVariant found known =>
    "unknown variant " ++ quoted found ++ ", expected " ++ oneOf known
  | unknownField found known => "unknown field " ++ quoted found ++ ", expected " ++ oneOf known
  | duplicateField name => "duplicate field " ++ quoted name

/-- A fault with its position. -/
structure Fault where
  reason : Reason
  position : Position
  deriving Repr, DecidableEq, Inhabited

def Fault.text (f : Fault) : String :=
  f.reason.text ++ " at line " ++ toString f.position.line ++ " column " ++
    toString f.position.column

/-! ## Readers -/

abbrev Reader (α : Type) := StateT Cursor (Except Fault) α

/-- A fault behind what was read. -/
def failHere {α : Type} (reason : Reason) : Reader α := do
  throw ⟨reason, (← get).here⟩

/-- A fault at the next byte. -/
def failAhead {α : Type} (reason : Reason) : Reader α := do
  throw ⟨reason, (← get).ahead⟩

/-- The next byte, which is not read yet. -/
def peek : Reader (Option UInt8) := return (← get).rest.head?

def skip : Reader Unit := modify Cursor.advance

/-- Reads the next byte. -/
def take : Reader (Option UInt8) := do
  let b ← peek
  skip
  return b

def code (c : Char) : UInt8 := c.toNat.toUInt8

def isBlank (b : UInt8) : Bool :=
  b == code ' ' || b == code '\n' || b == code '\t' || b == code '\r'

/-- Skips bytes while the test holds. -/
def Cursor.skipWhile (p : UInt8 → Bool) (read : List UInt8) : List UInt8 → Cursor
  | [] => ⟨read, []⟩
  | b :: rest => if p b then Cursor.skipWhile p (b :: read) rest else ⟨read, b :: rest⟩

def skipWhile (p : UInt8 → Bool) : Reader Unit :=
  modify fun c => Cursor.skipWhile p c.read c.rest

/-- The next byte that is not blank; it is not read yet. -/
def peekSolid : Reader (Option UInt8) := do
  skipWhile isBlank
  peek

/-- The next byte that is not blank, where a value is due. -/
def peekValue : Reader UInt8 := do
  match ← peekSolid with
  | some b => return b
  | none => failAhead .endOfValue

/-- Reads these bytes. -/
def takeWord : List Char → Reader Unit
  | [] => return ()
  | c :: more => do
    match ← take with
    | none => failHere .endOfValue
    | some b => if b == code c then takeWord more else failHere .identDue

end MarkerInjection.Json
