-- Tokens of source text: names, punctuation, literals and delimited groups,
-- and the two ways a token list is written out as text.

namespace MarkerInjection.Source

/-! ## The token tree -/

/-- The three kinds of brackets. -/
inductive Delimiter
  | paren
  | bracket
  | brace
  deriving Repr, DecidableEq, Inhabited

/-- One token. A punctuation character knows whether another one follows it at once, and a
group holds the tokens between its brackets. -/
inductive Token
  | ident (text : String)
  | punct (char : Char) (joint : Bool)
  | literal (text : String)
  | group (delimiter : Delimiter) (inner : List Token)
  deriving Repr, Inhabited

def Delimiter.opening : Delimiter → String
  | .paren => "("
  | .bracket => "["
  | .brace => "\x7b"

def Delimiter.closing : Delimiter → String
  | .paren => ")"
  | .bracket => "]"
  | .brace => "\x7d"

/-! ## Size -/

mutual
/-- The number of tokens, those inside of groups counted too. -/
def Token.size : Token → Nat
  | .ident _ => 1
  | .punct _ _ => 1
  | .literal _ => 1
  | .group _ inner => sizeOfTokens inner + 1

/-- The number of tokens in a list, at every depth. -/
def sizeOfTokens : List Token → Nat
  | [] => 0
  | t :: ts => t.size + sizeOfTokens ts
end

/-! ## The spaced text -/

mutual
/-- The words of a token: a group gives its opening bracket, the words inside and its closing
bracket. -/
def Token.words : Token → List String
  | .ident text => [text]
  | .punct char _ => [char.toString]
  | .literal text => [text]
  | .group d inner => d.opening :: (wordsOfTokens inner ++ [d.closing])

def wordsOfTokens : List Token → List String
  | [] => []
  | t :: ts => t.words ++ wordsOfTokens ts
end

/-- Every token, brackets included, apart by one space. -/
def spaced (ts : List Token) : String := " ".intercalate (wordsOfTokens ts)

/-! ## The compact text -/

mutual
/-- A token as it is printed by itself. Round and square brackets hug what they hold, curly
ones keep a space. -/
def Token.compact : Token → String
  | .ident text => text
  | .punct char _ => char.toString
  | .literal text => text
  | .group .paren inner => "(" ++ compactTokens false inner ++ ")"
  | .group .bracket inner => "[" ++ compactTokens false inner ++ "]"
  | .group .brace inner =>
    "\x7b " ++ compactTokens false inner ++ (if inner.isEmpty then "\x7d" else " \x7d")

/-- The tokens in a row. A space parts two tokens, unless the first is punctuation that is
joined to the next. -/
def compactTokens (spaceBefore : Bool) : List Token → String
  | [] => ""
  | t :: ts =>
    (if spaceBefore then " " else "") ++ t.compact ++
      compactTokens (match t with | .punct _ joint => !joint | _ => true) ts
end

/-- The tokens as one line of text. -/
def compact (ts : List Token) : String := compactTokens false ts

/-! ## Building tokens -/

/-- A lifetime: its name follows the tick at once. -/
def lifetimeTokens (name : String) : List Token := [.punct '\'' true, .ident name]

/-- A punctuation sign of one or more characters; all but the last are joined to the next. -/
def signTokens : List Char → List Token
  | [] => []
  | [c] => [.punct c false]
  | c :: r => .punct c true :: signTokens r

/-- A sign given as text. -/
def sign (s : String) : List Token := signTokens s.toList

end MarkerInjection.Source
