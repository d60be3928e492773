-- From source text to tokens. A scan cuts the text into leaves and brackets; the
-- brackets are then paired to groups. Blanks and plain comments are left out, and a
-- doc comment becomes the attribute it stands for.
import MarkerInjection.Source.Token
import MarkerInjection.Source.Number
import MarkerInjection.Text.Escaped

namespace MarkerInjection.Source

open MarkerInjection.Text

/-! ## Small readers -/

/-- What follows `lead` at the head of the text. -/
def after? : List Char → List Char → Option (List Char)
  | [], s => some s
  | _ :: _, [] => none
  | c :: lead, d :: s => if c = d then after? lead s else none

/-- The text starts with `lead`. -/
def startsWith (lead : String) (s : List Char) : Bool := (after? lead.toList s).isSome

/-- The part of the text before `rest`, which ends it. -/
def before (s rest : List Char) : List Char := s.take (s.length - rest.length)

/-! ## Blanks and comments -/

/-- White space, the two direction marks included. -/
def isBlank (c : Char) : Bool :=
  let n := c.toNat
  (9 ≤ n && n ≤ 13) || n = 0x20 || n = 0x85 || n = 0xA0 || n = 0x1680 ||
    (0x2000 ≤ n && n ≤ 0x200A) || n = 0x200E || n = 0x200F || n = 0x2028 || n = 0x2029 ||
    n = 0x202F || n = 0x205F || n = 0x3000

/-- A line and what follows it. The line end is not part of the line; a line feed stays with
what follows. -/
def splitLine : List Char → List Char × List Char
  | [] => ([], [])
  | '\n' :: r => ([], '\n' :: r)
  | '\r' :: '\n' :: r => ([], '\n' :: r)
  | c :: r => let (line, rest) := splitLine r; (c :: line, rest)

/-- Reads a block comment that is open `depth` times, up to the end of the outermost one: what
it holds and what follows it. -/
def blockTail : Nat → List Char → Option (List Char × List Char)
  | _, [] => none
  | depth, '/' :: '*' :: r =>
    (blockTail (depth + 1) r).map fun (text, rest) => ('/' :: '*' :: text, rest)
  | depth, '*' :: '/' :: r =>
    if depth ≤ 1 then some ([], r)
    else (blockTail (depth - 1) r).map fun (text, rest) => ('*' :: '/' :: text, rest)
  | depth, c :: r => (blockTail depth r).map fun (text, rest) => (c :: text, rest)

/-- A block comment at the head of the text: what it holds and what follows it. -/
def blockComment? (s : List Char) : Option (List Char × List Char) :=
  (after? ['/', '*'] s).bind (blockTail 1)

/-- What follows the comment at the head of the text, if a plain comment stands there. -/
def afterPlainComment? (s : List Char) : Option (List Char) :=
  if startsWith "//" s && (!startsWith "///" s || startsWith "////" s) && !startsWith "//!" s then
    some (splitLine s).2
  else if startsWith "/**/" s then some (s.drop 4)
  else if startsWith "/*" s && (!startsWith "/**" s || startsWith "/***" s) &&
      !startsWith "/*!" s then
    (blockComment? s).map (·.2)
  else none

/-- A doc comment at the head of the text: what it says, whether it is about the item it
stands in, and what follows it. -/
def docComment? (s : List Char) : Option (List Char × Bool × List Char) :=
  if startsWith "//!" s then
    let (line, rest) := splitLine (s.drop 3)
    some (line, true, rest)
  else if startsWith "/*!" s then
    (blockComment? s).map fun (text, rest) => (text.drop 1, true, rest)
  else if startsWith "///" s && !startsWith "////" s then
    let (line, rest) := splitLine (s.drop 3)
    some (line, false, rest)
  else if startsWith "/**" s && !startsWith "/***" s then
    (blockComment? s).map fun (text, rest) => (text.drop 1, false, rest)
  else none

/-- Every carriage return is part of a line end. -/
def hasNoBareReturn : List Char → Bool
  | [] => true
  | '\r' :: '\n' :: r => hasNoBareReturn r
  | '\r' :: _ => false
  | _ :: r => hasNoBareReturn r

/-- The attribute that a doc comment stands for. -/
def docAttribute (text : List Char) (inner : Bool) : List Token :=
  [.punct '#' false] ++ (if inner then [.punct '!' false] else []) ++
    [.group .bracket
      [.ident "doc", .punct '=' false, .literal (literal (String.ofList text))]]

/-! ## Leaves -/

/-- What follows a quoted literal, its suffix included. -/
def afterQuoted? (s : List Char) : Option (List Char) :=
  let raw (content : Content) (r : List Char) : Option (List Char) := do
    let (hashes, body) ← rawOpening r
    let (_, rest) ← readRaw content hashes body
    return skipName rest
  let cooked (content : Content) (r : List Char) : Option (List Char) :=
    (readQuoted content .plain r).map fun (_, rest) => skipName rest
  match s with
  | '"' :: r => cooked .text r
  | 'r' :: r => raw .text r
  | 'b' :: '"' :: r => cooked .bytes r
  | 'b' :: 'r' :: r => raw .bytes r
  | 'b' :: '\'' :: r => (readCharacter .bytes r).map skipName
  | 'c' :: '"' :: r => cooked .zeroFree r
  | 'c' :: 'r' :: r => raw .zeroFree r
  | '\'' :: r => (readCharacter .text r).map skipName
  | _ => none

/-- What follows the literal at the head of the text. -/
def afterLiteral? (s : List Char) : Option (List Char) :=
  (afterQuoted? s).or ((afterFloat s).or (afterInteger s))

/-- The punctuation character at the head of the text. The slash of a comment is none. -/
def punctuation? (s : List Char) : Option (Char × List Char) :=
  match s with
  | c :: r =>
    if startsWith "//" s || startsWith "/*" s then none
    else if c ∈ "~!@#$%^&*-=+|;:,<.>/?'".toList then some (c, r) else none
  | [] => none

/-- The name at the head of the text, and what follows it. A raw name keeps its mark; the
words that name a path root cannot be raw. -/
def anyName? (s : List Char) : Option (List Char × List Char) :=
  let isRaw := startsWith "r#" s
  let body := if isRaw then s.drop 2 else s
  match body with
  | c :: r =>
    if isNameStart c then
      let rest := r.dropWhile isNameContinue
      let word := before body rest
      if isRaw && String.ofList word ∈ ["_", "super", "self", "Self", "crate"] then none
      else some (before s rest, rest)
    else none
  | [] => none

/-- A name at the head of the text, where no literal starts. -/
def name? (s : List Char) : Option (List Char × List Char) :=
  let opensLiteral :=
    ["r\"", "r#\"", "r##", "b\"", "b'", "br\"", "br#", "c\"", "cr\"", "cr#"].any (startsWith · s)
  if opensLiteral then none else anyName? s

/-- The tick of a lifetime. A name has to follow it, and no second tick after the name. -/
def lifetimeTick? (r : List Char) : Option Token :=
  match anyName? r with
  | none => none
  | some (_, rest) =>
    if startsWith "'" rest || (startsWith "#" rest && !startsWith "r#" r) then none
    else some (.punct '\'' true)

/-- The stand-in for a piece of text that could not be read. -/
def placeholder : String := "(/*ERROR*/)"

/-- The leaf at the head of the text, and what follows it. -/
def leaf? (s : List Char) : Option (Token × List Char) :=
  match afterLiteral? s with
  | some rest => some (.literal (String.ofList (before s rest)), rest)
  | none =>
    match punctuation? s with
    | some ('\'', r) => (lifetimeTick? r).map (·, r)
    | some (c, r) => some (.punct c (punctuation? r).isSome, r)
    | none =>
      match name? s with
      | some (name, rest) => some (.ident (String.ofList name), rest)
      | none =>
        (after? placeholder.toList s).map fun rest => (.literal placeholder, rest)

/-! ## The scan -/

/-- A piece of the text: a bracket or finished tokens. -/
inductive Piece
  | opening (delimiter : Delimiter)
  | closing (delimiter : Delimiter)
  | tokens (ts : List Token)
  deriving Inhabited

/-- The bracket at the head of the text. -/
def bracket? (s : List Char) : Option (Piece × List Char) :=
  match s with
  | '(' :: r => if startsWith placeholder s then none else some (.opening .paren, r)
  | '[' :: r => some (.opening .bracket, r)
  | '{' :: r => some (.opening .brace, r)
  | ')' :: r => some (.closing .paren, r)
  | ']' :: r => some (.closing .bracket, r)
  | '}' :: r => some (.closing .brace, r)
  | _ => none

/-- The next piece of a text that is not empty: blanks and plain comments give no tokens. -/
def piece? (s : List Char) : Option (Piece × List Char) :=
  match afterPlainComment? s with
  | some rest => some (.tokens [], rest)
  | none =>
    match s with
    | c :: r =>
      if isBlank c then some (.tokens [], r)
      else
        match docComment? s with
        | some (text, inner, rest) =>
          if hasNoBareReturn text then some (.tokens (docAttribute text inner), rest) else none
        | none =>
          match bracket? s with
          | some found => some found
          | none => (leaf? s).map fun (t, rest) => (.tokens [t], rest)
    | [] => none

/-- The pieces of the whole text; nothing if a part of it is no token. Every piece shortens the
text, so the loop ends. -/
def pieces? (s : List Char) : Option (List Piece) :=
  match s with
  | [] => some []
  | c :: r =>
    match piece? (c :: r) with
    | some (p, rest) =>
      if rest.length < (c :: r).length then (pieces? rest).map (p :: ·) else none
    | none => none
termination_by s.length
decreasing_by assumption

/-! ## Pairing the brackets -/

/-- The groups that are open, innermost first, each with the tokens before it in reverse. -/
abbrev OpenGroups := List (Delimiter × List Token)

/-- Pairs the brackets; `done` holds the tokens of the innermost open group in reverse. -/
def paired (stack : OpenGroups) (done : List Token) : List Piece → Option (List Token)
  | [] => if stack.isEmpty then some done.reverse else none
  | .tokens ts :: r => paired stack (ts.reverse ++ done) r
  | .opening d :: r => paired ((d, done) :: stack) [] r
  | .closing d :: r =>
    match stack with
    | (opened, outer) :: rest =>
      if opened = d then paired rest (.group d done.reverse :: outer) r else none
    | [] => none

/-- The tokens of a source text. A byte order mark before it is dropped. -/
def tokenize (text : String) : Option (List Token) :=
  let s := text.toList
  let body := match s with
    | c :: r => if c.toNat = 0xFEFF then r else s
    | [] => []
  (pieces? body).bind (paired [] [])

end MarkerInjection.Source
