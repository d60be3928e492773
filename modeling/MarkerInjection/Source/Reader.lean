-- Readers of token lists: looking ahead, taking tokens, groups, loops. A reader
-- gives what it read in its printed form and moves on in the input.
import MarkerInjection.Source.SyntaxError
import MarkerInjection.Source.Punctuated
import MarkerInjection.Source.Number

namespace MarkerInjection.Source

open MarkerInjection.Text

/-! ## Looking at tokens -/

/-- The words that cannot be names. -/
def reservedWords : List String :=
  ["_", "abstract", "as", "async", "await", "become", "box", "break", "const", "continue",
    "crate", "do", "dyn", "else", "enum", "extern", "false", "final", "fn", "for", "if", "impl",
    "in", "let", "loop", "macro", "match", "mod", "move", "mut", "override", "priv", "pub", "ref",
    "return", "Self", "self", "static", "struct", "super", "trait", "true", "try", "type",
    "typeof", "unsafe", "unsized", "use", "virtual", "where", "while", "yield"]

/-- The tokens start with the characters of a sign, each but the last joined to the next. More
punctuation may follow. -/
def startsSign : List Char → List Token → Bool
  | [], _ => false
  | [c], .punct d _ :: _ => c == d && d != '\''
  | c :: more, .punct d joint :: r => c == d && d != '\'' && joint && startsSign more r
  | _, _ => false

def atSign (s : String) (ts : List Token) : Bool := startsSign s.toList ts

/-- The next token is this word. -/
def atWord (w : String) : List Token → Bool
  | .ident text :: _ => text == w
  | _ => false

/-- The next token is a word, reserved or not. -/
def atAnyWord : List Token → Bool
  | .ident _ :: _ => true
  | _ => false

/-- The next token is a name. -/
def atName : List Token → Bool
  | .ident text :: _ => !reservedWords.contains text
  | _ => false

def atLifetime : List Token → Bool
  | .punct '\'' true :: .ident _ :: _ => true
  | _ => false

def atGroup (d : Delimiter) : List Token → Bool
  | .group e _ :: _ => d == e
  | _ => false

/-- A literal, a truth value or a number with a minus sign is next. -/
def atLiteral : List Token → Bool
  | .literal _ :: _ => true
  | .ident text :: _ => text == "true" || text == "false"
  | .punct '-' _ :: .literal text :: _ => isNumber text
  | _ => false

def atTruthValue : List Token → Bool
  | .ident text :: _ => text == "true" || text == "false"
  | _ => false

/-- A string literal is next. -/
def atString : List Token → Bool
  | .literal text :: _ => (stringValue? text).isSome
  | _ => false

/-- The tokens behind the next one; a lifetime counts as one token. -/
def behind : List Token → List Token
  | .punct '\'' true :: .ident _ :: r => r
  | _ :: r => r
  | [] => []

/-! ## Readers -/

/-- What is left to read, and the first group that was not read to its end. -/
structure Input where
  tokens : List Token
  leftover : Option Delimiter
  deriving Inhabited

abbrev Reader (α : Type) := StateT Input (Except SyntaxError) α

/-- A reader that gives the printed form of what it read. -/
abbrev Rule := Reader (List Token)

/-- One rule after the other. -/
instance : Append Rule where
  append a b := do
    let x ← a
    let y ← b
    return x ++ y

/-- The tokens that are left. -/
def ahead : Reader (List Token) := return (← get).tokens

/-- A test on the tokens that are left. -/
def next (p : List Token → Bool) : Reader Bool := return p (← ahead)

/-- Goes on behind tokens that were read. -/
def goTo (ts : List Token) : Reader Unit := modify fun i => { i with tokens := ts }

/-- The input is used up. -/
def atEnd : Reader Bool := next List.isEmpty

/-- Nothing is read. -/
def nothing : Rule := return []

/-! ## Refusals -/

/-- Refuses what comes next; the message tells if nothing does. -/
def wanting {α : Type} (wanted : List String) : Reader α := do
  throw (.expected wanted (← atEnd))

/-- Refuses what comes next, of which several beginnings were tried. A word that was met, but
not in a place where it begins anything, is left out. -/
def wantingOneOf {α : Type} (wanted : List String) : Reader α := do
  let ts ← ahead
  let met := fun w => match ts with
    | .ident text :: _ => w == quoted text
    | _ => false
  wanting (wanted.filter fun w => !met w)

def forbid {α : Type} (text : String) : Reader α := do
  throw (.forbidden text (← atEnd))

/-! ## Single tokens -/

/-- Takes a sign. The refusal does not tell whether the input has ended. -/
def takeSign (s : String) : Rule := do
  let ts ← ahead
  if atSign s ts then
    goTo (ts.drop s.length)
    return sign s
  else throw (.expected [quoted s] false)

/-- Takes this word. -/
def takeWord (w : String) : Rule := do
  match ← ahead with
  | .ident text :: r =>
    if text == w then
      goTo r
      return [.ident text]
    else wanting [quoted w]
  | _ => wanting [quoted w]

/-- Takes a name. -/
def takeName : Reader String := do
  match ← ahead with
  | .ident text :: r =>
    if reservedWords.contains text then throw (.reserved text)
    else
      goTo r
      return text
  | _ => wanting ["identifier"]

/-- Takes a word, reserved or not. -/
def takeAnyWord : Reader String := do
  match ← ahead with
  | .ident text :: r =>
    goTo r
    return text
  | _ => wanting ["identifier"]

def nameRule : Rule := return [.ident (← takeName)]

def anyWordRule : Rule := return [.ident (← takeAnyWord)]

def takeLifetime : Reader String := do
  match ← ahead with
  | .punct '\'' true :: .ident text :: r =>
    goTo r
    return text
  | _ => wanting ["lifetime"]

def lifetimeRule : Rule := return lifetimeTokens (← takeLifetime)

/-- Takes a literal, a truth value or a number with a minus sign. -/
def literalRule : Rule := do
  match ← ahead with
  | .literal text :: r =>
    goTo r
    return [.literal text]
  | .ident text :: r =>
    if text == "true" || text == "false" then
      goTo r
      return [.ident text]
    else wanting ["literal"]
  | .punct '-' _ :: .literal text :: r =>
    if isNumber text then
      goTo r
      return [.punct '-' false, .literal text]
    else wanting ["literal"]
  | _ => wanting ["literal"]

def stringRule : Rule := do
  if ← next atString then literalRule else wanting ["string literal"]

/-! ## Optional parts -/

/-- The rule, if the test holds of what comes next. -/
def whenNext (p : List Token → Bool) (r : Rule) : Rule := do
  if ← next p then r else nothing

def optSign (s : String) : Rule := whenNext (atSign s) (takeSign s)

def optWord (w : String) : Rule := whenNext (atWord w) (takeWord w)

def optLifetime : Rule := whenNext atLifetime lifetimeRule

/-- Tries a reader; if it refuses, nothing was read. -/
def attempt {α : Type} (r : Reader α) : Reader (Option α) := do
  let i ← get
  match r.run i with
  | .ok (x, after) =>
    set after
    return some x
  | .error _ => return none

/-- The tokens as they came between an earlier place and here. -/
def since (start : List Token) : Rule := do
  let rest ← ahead
  return start.take (start.length - rest.length)

/-- The tokens as they came, for a form that is only checked. -/
def asWritten {α : Type} (r : Reader α) : Rule := do
  let start ← ahead
  let _ ← r
  since start

/-- A form that gives its printed tokens, or is kept as it came if the flag says so. -/
def keptIf (r : Reader (List Token × Bool)) : Rule := do
  let start ← ahead
  let (tokens, kept) ← r
  if kept then since start else return tokens

/-! ## Groups -/

def groupName : Delimiter → String
  | .paren => "parentheses"
  | .bracket => "square brackets"
  | .brace => "curly braces"

/-- Reads inside of a group and goes on behind it. What the first reader leaves of the group is
remembered: it is refused when everything else turns out readable. What is left over behind the
group while the second reader goes on comes before it. -/
def insideThen {α β : Type} (d : Delimiter) (r : Reader α) (more : α → Reader β) : Reader β := do
  let i ← get
  match i.tokens with
  | .group e inner :: rest =>
    if d == e then
      match r.run ⟨inner, i.leftover⟩ with
      | .ok (x, after) =>
        set (Input.mk rest after.leftover)
        let y ← more x
        let left := if after.tokens.isEmpty then none else some d
        modify fun j => { j with leftover := j.leftover.or left }
        return y
      | .error err => throw err
    else wanting [groupName d]
  | _ => wanting [groupName d]

/-- Reads inside of a group. -/
def inside {α : Type} (d : Delimiter) (r : Reader α) : Reader α := insideThen d r pure

/-- A group whose inside is printed by a rule. -/
def within (d : Delimiter) (r : Rule) : Rule := return [.group d (← inside d r)]

/-- A group of any kind with the tokens in it as they came. -/
def anyGroup : Reader (Delimiter × List Token) := do
  match ← ahead with
  | .group d inner :: rest =>
    goTo rest
    return (d, inner)
  | _ => wanting ["delimiter"]

/-! ## Loops -/

/-- Repeats a step while it says so, at most once for every token given and once more. -/
def repeatAlong {α : Type} (step : Reader (α × Bool)) : List Token → Reader (List α)
  | [] => do
    let (x, _) ← step
    return [x]
  | _ :: more => do
    let (x, again) ← step
    if again then return x :: (← repeatAlong step more) else return [x]

/-- Repeats a step while it says so. Every step but the last takes a token, so one more step
than there are tokens is enough. -/
def repeated {α : Type} (step : Reader (α × Bool)) : Reader (List α) := do
  repeatAlong step (← ahead)

/-- Members with a separator between them, up to where `stop` holds; a separator may end the
list. -/
def punctuated {α : Type} (stop : List Token → Bool) (separator : String) (member : Reader α) :
    Reader (Punctuated α) := do
  let found ← repeated do
    if ← next stop then return ([], false)
    let x ← member
    if ← next stop then return ([(x, false)], false)
    let _ ← takeSign separator
    return ([(x, true)], true)
  return Punctuated.ofPairs found.flatten

/-- Members with a separator between them, as long as a separator follows; a separator before
`stop` may end the list. -/
def chained {α : Type} (stop : List Token → Bool) (separator : String) (member : Reader α) :
    Reader (Punctuated α) := do
  let found ← repeated do
    if ← next stop then return ([], false)
    let x ← member
    if ← next (atSign separator) then
      let _ ← takeSign separator
      return ([(x, true)], true)
    return ([(x, false)], false)
  return Punctuated.ofPairs found.flatten

/-- Repeats a rule up to the end of the input. -/
def untilEnd {α : Type} (r : Reader α) : Reader (List α) := do
  let found ← repeated do
    if ← atEnd then return ([], false)
    return ([← r], true)
  return found.flatten

/-- Members apart by commas up to the end of the group. -/
def commaList (member : Rule) : Rule := do
  return (← punctuated List.isEmpty "," member).print "," id

/-! ## Whole inputs -/

/-- Reads all of the tokens. What is left in a group is refused before what is left at the
end. -/
def readAll {α : Type} (r : Reader α) (ts : List Token) : Except SyntaxError α :=
  match r.run ⟨ts, none⟩ with
  | .error err => .error err
  | .ok (x, after) =>
    match after.leftover with
    | some d => .error (.leftover (some d))
    | none => if after.tokens.isEmpty then .ok x else .error (.leftover none)

end MarkerInjection.Source
