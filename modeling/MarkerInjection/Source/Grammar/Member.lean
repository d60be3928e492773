-- Members of traits, of `impl` blocks and of `extern` blocks, and what they share with
-- items: constants, associated types and macro calls.
import MarkerInjection.Source.Grammar.Function

namespace MarkerInjection.Source

/-! ## Macro calls -/

/-- A macro call that may declare a name. Only curly brackets need no semicolon behind them. -/
def macroItem (allowName : Bool) : Rule := do
  let head ← plainPath ++ takeSign "!"
  let name ← whenNext (fun ts => allowName && (atName ts || atWord "try" ts)) anyWordRule
  let (body, braces) ← macroBody
  return head ++ name ++ body ++ (← if braces then nothing else takeSign ";")

/-- A path starts here that may lead to a macro call. -/
def atMacroPath (ts : List Token) : Bool :=
  atName ts || atWord "self" ts || atWord "super" ts || atWord "crate" ts || atSign "::" ts

def macroPathWords : List String :=
  ["identifier", quoted "self", quoted "super", quoted "crate", quoted "::"]

/-! ## Constants -/

/-- A constant behind its `const`, and whether it is kept as it came: with parameters, with a
`where` clause, or without a value where one is due. -/
def constantRest (g : Grammar) (needsValue : Bool) : Reader (List Token × Bool) := do
  let name ← if ← next fun ts => atName ts || atWord "_" ts then anyWordRule
    else wanting ["identifier", quoted "_"]
  let params ← generics g
  let type ← takeSign ":" ++ typeTokens g
  let value ← whenNext (atSign "=") (takeSign "=" ++ expressionTokens g)
  let condition ← optWhereClause g
  let semicolon ← takeSign ";"
  return (name ++ type ++ value ++ semicolon,
    params.angled || condition.isSome || (needsValue && value.isEmpty))

/-! ## Type members -/

/-- Where the `where` clause of a type stands. -/
inductive WherePlace
  | beforeValue
  | behindValue
  | either
  deriving Repr, DecidableEq, Inhabited

/-- A type that is declared by name, perhaps with bounds and a value. -/
structure TypeMember where
  head : List Token
  params : Generics
  hasColon : Bool
  bounds : List Token
  value : Option (List Token)
  deriving Inhabited

/-- Bounds up to where `stop` holds, which may be `const` only where they are allowed. -/
def boundsUpTo (g : Grammar) (const : Bool) (stop : List Token → Bool) : Rule := do
  return (← punctuated stop "+" (g.bound false const)).print "+" id

/-- A type with its name; what stands before `type` was read. -/
def typeMember (g : Grammar) (place : WherePlace) : Reader TypeMember := do
  let head ← takeWord "type" ++ nameRule
  let params ← generics g
  let hasColon ← next (atSign ":")
  let colon ← optSign ":"
  let stop := fun ts => atWord "where" ts || atSign "=" ts || atSign ";" ts
  let bounds ← if colon.isEmpty then nothing else boundsUpTo g true stop
  let early ← if place = .behindValue then pure none else optWhereClause g
  let hasValue ← next (atSign "=")
  let value ← whenNext (atSign "=") (takeSign "=" ++ typeTokens g)
  let late ← if place = .beforeValue || early.isSome then pure none else optWhereClause g
  let _ ← takeSign ";"
  return { head, params := { params with whereClause := early.or late }, hasColon, bounds
           value := if hasValue then some value else none }

/-! ## Bodies -/

/-- A body, or a semicolon where none is given. -/
def optBody (g : Grammar) : Rule := do
  let ts ← ahead
  if atGroup .brace ts then block g
  else if atSign ";" ts then takeSign ";"
  else wanting ["curly braces", quoted ";"]

/-! ## Members of traits -/

/-- A function of a trait, perhaps with a body. -/
def traitFunction (g : Grammar) : Rule := do
  let (head, _) ← signature g false
  return head ++ (← optBody g)

/-- A function has to follow if one of these words stands behind `const`. -/
def atFunctionWord (ts : List Token) : Bool := atWord "async" ts || atFunctionType ts

/-- A member of a trait behind its attributes, visibility and `default`. -/
def traitMemberRest (g : Grammar) (marked : Bool) : Reader (List Token × Bool) := do
  let ts ← ahead
  if atSignature false ts then return (← traitFunction g, false)
  else if atWord "const" ts then
    let more := behind ts
    if atName more || atWord "_" more then
      let word ← takeWord "const"
      let (rest, kept) ← constantRest g false
      return (word ++ rest, kept)
    else if atFunctionWord more then return (← traitFunction g, false)
    else
      goTo more
      wanting ["identifier", quoted "_", quoted "async", quoted "unsafe", quoted "extern",
        quoted "fn"]
  else if atWord "type" ts then
    let t ← typeMember g .behindValue
    let bounds := if t.bounds.isEmpty then [] else sign ":" ++ t.bounds
    return (t.head ++ t.params.declarations ++ bounds ++ t.value.getD [] ++
      t.params.printWhere ++ sign ";", false)
  else if !marked && atMacroPath ts then return (← macroItem false, false)
  else
    wantingOneOf ([quoted "fn", quoted "const", quoted "type"] ++
      if marked then [] else macroPathWords)

/-- A member of a trait. With a visibility or a `default` it is kept as it came. -/
def traitMember (g : Grammar) : Rule := keptIf do
  let attributes ← outerAttributes g
  let marks ← visibility ++ optWord "default"
  let (tokens, kept) ← traitMemberRest g !marks.isEmpty
  return (attributes ++ tokens, kept || !marks.isEmpty)

/-! ## Members of `impl` blocks -/

/-- A member of an `impl` block behind its attributes and its marks. -/
def implMemberRest (g : Grammar) (visible default : Bool) : Reader (List Token × Bool) := do
  let ts ← ahead
  if atSignature false ts then
    let (head, _) ← signature g false
    if ← next (atSign ";") then
      return (head ++ (← takeSign ";"), true)
    return (head ++ (← block g), false)
  else if atWord "const" ts then
    let word ← takeWord "const"
    let (rest, kept) ← constantRest g true
    return (word ++ rest, kept)
  else if atWord "type" ts then
    let t ← typeMember g .behindValue
    return (t.head ++ t.params.declarations ++ t.value.getD [] ++ t.params.printWhere ++ sign ";",
      t.hasColon || t.value.isNone)
  else if !visible && !default && atMacroPath ts then return (← macroItem false, false)
  else
    wantingOneOf ((if default then [] else [quoted "default"]) ++
      [quoted "fn", quoted "const", quoted "type"] ++
      if visible || default then [] else macroPathWords)

/-- A member of an `impl` block. -/
def implMember (g : Grammar) : Rule := keptIf do
  let attributes ← outerAttributes g
  let shown ← visibility
  let default ← whenNext (fun ts => atWord "default" ts && !atSign "!" (behind ts))
    (takeWord "default")
  let (tokens, kept) ← implMemberRest g (!shown.isEmpty) (!default.isEmpty)
  return (attributes ++ shown ++ default ++ tokens, kept)

/-! ## Members of `extern` blocks -/

/-- A static without a value, in an `extern` block. -/
def foreignStatic (g : Grammar) : Reader (List Token × Bool) := do
  let safe ← next (atWord "safe")
  let mark ← if safe then takeWord "safe" else optWord "unsafe"
  let head ← takeWord "static" ++ optWord "mut" ++ nameRule ++ takeSign ":" ++ typeTokens g
  let value ← whenNext (atSign "=") (takeSign "=" ++ expressionTokens g)
  let semicolon ← takeSign ";"
  return (mark ++ head ++ value ++ semicolon, !mark.isEmpty || !value.isEmpty)

/-- A member of an `extern` block behind its attributes and its visibility. -/
def foreignMemberRest (g : Grammar) (visible : Bool) : Reader (List Token × Bool) := do
  let ts ← ahead
  if atSignature true ts then
    let (head, safe) ← signature g true
    if ← next (atGroup .brace) then return (head ++ (← block g), true)
    return (head ++ (← takeSign ";"), safe)
  else if atWord "static" ts ||
      ((atWord "unsafe" ts || atWord "safe" ts) && atWord "static" (behind ts)) then
    foreignStatic g
  else if atWord "type" ts then
    let t ← typeMember g .either
    return (t.head ++ t.params.declarations ++ t.params.printWhere ++ sign ";",
      t.hasColon || t.value.isSome)
  else if !visible && atMacroPath ts then return (← macroItem false, false)
  else
    wanting ([quoted "fn", quoted "static", quoted "type"] ++
      if visible then [] else macroPathWords)

/-- A member of an `extern` block. -/
def foreignMember (g : Grammar) : Rule := keptIf do
  let attributes ← outerAttributes g
  let shown ← visibility
  let (tokens, kept) ← foreignMemberRest g !shown.isEmpty
  return (attributes ++ shown ++ tokens, kept)

/-- Members in curly brackets, behind the attributes at their start. -/
def members (g : Grammar) (member : Rule) : Rule := within .brace (innerAttributes g ++ (do
  return (← untilEnd member).flatten))

end MarkerInjection.Source
