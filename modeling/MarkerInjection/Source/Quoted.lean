-- Quoted literals of source text. One machine reads the inside of a cooked
-- literal a character at a time; it finds the end and the text meant.
import MarkerInjection.Text.NameChar

namespace MarkerInjection.Source

open MarkerInjection.Text

/-! ## Digits -/

/-- The value of a digit up to base sixteen. -/
def digitValue (c : Char) : Option Nat :=
  if '0' ≤ c && c ≤ '9' then some (c.toNat - '0'.toNat)
  else if 'a' ≤ c && c ≤ 'f' then some (c.toNat - 'a'.toNat + 10)
  else if 'A' ≤ c && c ≤ 'F' then some (c.toNat - 'A'.toNat + 10)
  else none

/-- The character with this code point, if there is one. -/
def charOfNat? (n : Nat) : Option Char :=
  if n.isValidChar then some (Char.ofNat n) else none

/-! ## Cooked literals -/

/-- What a quoted literal may hold: any text, bytes, or a text without NUL. -/
inductive Content
  | text
  | bytes
  | zeroFree
  deriving Repr, DecidableEq

/-- How far the reader of a quoted literal is in an escape. -/
inductive Progress
  | plain
  | afterReturn
  | afterBackslash
  | hexFirst
  | hexSecond (high : Nat)
  | unicodeOpen
  | unicodeDigits (count value : Nat)
  | skippingBlanks
  | skippingReturn
  deriving Repr, DecidableEq

/-- What one character does to the reader: it is taken, perhaps completing a character of the
text, or it closes the literal, or it may not stand here. -/
inductive Step
  | goesOn (next : Progress) (made : Option Char)
  | closes
  | refused
  deriving Repr, DecidableEq

/-- A character outside of escapes. A carriage return has to belong to a line end. -/
def stepPlain (content : Content) (c : Char) : Step :=
  if c = '"' then .closes
  else if c = '\\' then .goesOn .afterBackslash none
  else if c = '\r' then .goesOn .afterReturn none
  else if content = .bytes && c.toNat ≥ 128 then .refused
  else if content = .zeroFree && c.toNat = 0 then .refused
  else .goesOn .plain (some c)

/-- The character right after a backslash. A line end starts a run of blanks that is left
out. -/
def stepBackslash (content : Content) (c : Char) : Step :=
  match c with
  | 'n' => .goesOn .plain (some '\n')
  | 'r' => .goesOn .plain (some '\r')
  | 't' => .goesOn .plain (some '\t')
  | '\\' => .goesOn .plain (some '\\')
  | '\'' => .goesOn .plain (some '\'')
  | '"' => .goesOn .plain (some '"')
  | '0' => if content = .zeroFree then .refused else .goesOn .plain (some '\x00')
  | 'x' => .goesOn .hexFirst none
  | 'u' => if content = .bytes then .refused else .goesOn .unicodeOpen none
  | '\n' => .goesOn .skippingBlanks none
  | '\r' => .goesOn .skippingReturn none
  | _ => .refused

/-- The character of a `\x` escape: below 128 in a text, any byte in bytes. -/
def hexEscape (content : Content) (high low : Nat) : Step :=
  let n := 16 * high + low
  if content = .text && n ≥ 128 then .refused
  else if content = .zeroFree && n = 0 then .refused
  else .goesOn .plain (some (Char.ofNat n))

/-- A character between the braces of a `\u` escape: at most six digits, underscores after
the first one. -/
def stepUnicode (content : Content) (count value : Nat) (c : Char) : Step :=
  if c = '_' && count > 0 then .goesOn (.unicodeDigits count value) none
  else if c = '}' && count > 0 then
    match charOfNat? value with
    | some made =>
      if content = .zeroFree && value = 0 then .refused else .goesOn .plain (some made)
    | none => .refused
  else
    match digitValue c with
    | some d =>
      if count = 6 then .refused
      else .goesOn (.unicodeDigits (count + 1) (16 * value + d)) none
    | none => .refused

/-- The reader at one character. -/
def stepQuoted (content : Content) (p : Progress) (c : Char) : Step :=
  match p with
  | .plain => stepPlain content c
  | .afterReturn => if c = '\n' then .goesOn .plain (some '\n') else .refused
  | .afterBackslash => stepBackslash content c
  | .hexFirst =>
    match digitValue c with
    | some d => .goesOn (.hexSecond d) none
    | none => .refused
  | .hexSecond high =>
    match digitValue c with
    | some d => hexEscape content high d
    | none => .refused
  | .unicodeOpen => if c = '{' then .goesOn (.unicodeDigits 0 0) none else .refused
  | .unicodeDigits count value => stepUnicode content count value c
  | .skippingBlanks =>
    if c = ' ' || c = '\t' || c = '\n' then .goesOn .skippingBlanks none
    else if c = '\r' then .goesOn .skippingReturn none
    else stepPlain content c
  | .skippingReturn => if c = '\n' then .goesOn .skippingBlanks none else .refused

/-- Reads up to the closing quote: the text meant, and what follows the quote. -/
def readQuoted (content : Content) : Progress → List Char → Option (List Char × List Char)
  | _, [] => none
  | p, c :: r =>
    match stepQuoted content p c with
    | .refused => none
    | .closes => some ([], r)
    | .goesOn next made =>
      (readQuoted content next r).map fun (text, rest) =>
        (match made with | some m => m :: text | none => text, rest)

/-! ## Raw literals -/

/-- The text starts with this many hash signs; what follows them. -/
def afterHashes : Nat → List Char → Option (List Char)
  | 0, s => some s
  | n + 1, '#' :: r => afterHashes n r
  | _ + 1, _ => none

/-- The hash signs before the opening quote of a raw literal, and what follows the quote. At
most 255 of them are allowed. -/
def rawOpening (s : List Char) : Option (Nat × List Char) :=
  let hashes := (s.takeWhile (· == '#')).length
  match s.drop hashes with
  | '"' :: r => if hashes > 255 then none else some (hashes, r)
  | _ => none

/-- A character that a raw literal of this content may hold as it is. -/
def rawAllowed (content : Content) (c : Char) : Bool :=
  match content with
  | .text => true
  | .bytes => c.toNat < 128
  | .zeroFree => c.toNat != 0

/-- Reads up to a quote with as many hash signs as the opening one has. -/
def readRaw (content : Content) (hashes : Nat) : List Char → Option (List Char × List Char)
  | [] => none
  | '\r' :: '\n' :: r =>
    (readRaw content hashes r).map fun (text, rest) => ('\r' :: '\n' :: text, rest)
  | '\r' :: _ => none
  | '"' :: r =>
    match afterHashes hashes r with
    | some rest => some ([], rest)
    | none => (readRaw content hashes r).map fun (text, rest) => ('"' :: text, rest)
  | c :: r =>
    if rawAllowed content c then
      (readRaw content hashes r).map fun (text, rest) => (c :: text, rest)
    else none

/-! ## Single characters -/

/-- Reads the inside of a character literal and its closing tick. The first character stands
for itself unless it is a backslash, so it may be a tick too. -/
def readCharacter (content : Content) (s : List Char) : Option (List Char) :=
  let closing : List Char → Option (List Char)
    | '\'' :: r => some r
    | _ => none
  match s with
  | '\\' :: 'x' :: a :: b :: r =>
    match digitValue a, digitValue b with
    | some high, some low =>
      if content = .text && 16 * high + low ≥ 128 then none else closing r
    | _, _ => none
  | '\\' :: 'u' :: '{' :: r => if content = .bytes then none else unicodeTail 0 0 r
  | '\\' :: c :: r => if c ∈ ['n', 'r', 't', '\\', '0', '\'', '"'] then closing r else none
  | ['\\'] => none
  | c :: r => if content = .bytes && c.toNat ≥ 128 then none else closing r
  | [] => none
where
  /-- The digits and the closing brace of a `\u` escape, then the closing tick. -/
  unicodeTail (count value : Nat) : List Char → Option (List Char)
    | [] => none
    | c :: r =>
      match stepUnicode .text count value c with
      | .goesOn (.unicodeDigits n v) _ => unicodeTail n v r
      | .goesOn .plain _ => match r with | '\'' :: rest => some rest | _ => none
      | _ => none

/-! ## The text of a string literal -/

/-- The text after the first `"` of a cooked literal or the `r` of a raw one, with what
follows the closing quote. -/
def readString (s : List Char) : Option (List Char × List Char) :=
  match s with
  | '"' :: r => readQuoted .text .plain r
  | 'r' :: r => do
    let (hashes, body) ← rawOpening r
    readRaw .text hashes body
  | _ => none

/-- The text that a string literal stands for, if the literal is one. A suffix is no part of
the text. -/
def stringValue? (lit : String) : Option String :=
  (readString lit.toList).map fun (text, _) => String.ofList text

end MarkerInjection.Source
