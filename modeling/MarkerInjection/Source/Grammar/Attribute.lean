-- Attributes and the metas inside of them.
import MarkerInjection.Source.Grammar.Basic

namespace MarkerInjection.Source

/-! ## Metas -/

/-- A meta: a path, a path with bracketed tokens, or a path with a value. -/
inductive Meta
  | path (tokens : List Token)
  | list (tokens : List Token)
  | assigned (name : List Token) (value : Phrase)
  deriving Inhabited

def Meta.print : Meta → List Token
  | .path ts => ts
  | .list ts => ts
  | .assigned name value => name ++ sign "=" ++ value.tokens

/-- The path of a meta, for which `unsafe` may stand too. -/
def metaPath : Rule := do
  if ← next (atWord "unsafe") then takeWord "unsafe" else plainPath

/-- The value behind `=`: a literal if the input ends with it, else any expression. -/
def metaValue (g : Grammar) : Reader Phrase := do
  let lone ← attempt do
    let ts ← literalRule
    if ← atEnd then return ts else forbid "more than a literal"
  match lone with
  | some [.literal text] => return ⟨[.literal text], .literal text, false⟩
  | some ts => return ⟨ts, .other, false⟩
  | none =>
    if ← next fun ts => atSign "#" ts && atGroup .bracket (behind ts) then
      forbid "unexpected attribute inside of attribute"
    g.expression true

/-- Reads a meta. -/
def metaRule (g : Grammar) : Reader Meta := do
  let path ← metaPath
  let ts ← ahead
  if atGroup .paren ts || atGroup .bracket ts || atGroup .brace ts then
    let (_, inner) ← anyGroup
    let d := match ts with | .group d _ :: _ => d | _ => .paren
    return .list (path ++ [.group d inner])
  else if atSign "=" ts && !atSign "==" ts && !atSign "=>" ts then
    let _ ← takeSign "="
    return .assigned path (← metaValue g)
  else return .path path

/-! ## Attributes -/

def metaTokens (g : Grammar) : Rule := return (← metaRule g).print

/-- One attribute of the item that follows. -/
def outerAttribute (g : Grammar) : Rule := takeSign "#" ++ within .bracket (metaTokens g)

/-- The attributes of the item that follows. -/
def outerAttributes (g : Grammar) : Rule := do
  let found ← repeated do
    if ← next (atSign "#") then return (← outerAttribute g, true)
    return ([], false)
  return found.flatten

def atInnerAttribute (ts : List Token) : Bool := atSign "#" ts && atSign "!" (behind ts)

/-- The attributes of the item that they stand in. -/
def innerAttributes (g : Grammar) : Rule := do
  let found ← repeated do
    if ← next atInnerAttribute then
      return (← takeSign "#" ++ takeSign "!" ++ within .bracket (metaTokens g), true)
    return ([], false)
  return found.flatten

end MarkerInjection.Source
