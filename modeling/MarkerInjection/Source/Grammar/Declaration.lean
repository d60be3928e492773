-- Items: functions, values, types, traits, `impl` blocks and the rest.
import MarkerInjection.Source.Grammar.Member

namespace MarkerInjection.Source

/-! ## Values, modules and imports -/

/-- A static, and whether it is kept as it came: without a type or without a value. -/
def staticRule (g : Grammar) : Reader (List Token × Bool) := do
  let head ← visibility ++ takeWord "static" ++ optWord "mut" ++ nameRule
  if ← next (atSign "=") then
    return (head ++ (← takeSign "=" ++ expressionTokens g ++ takeSign ";"), true)
  let type ← takeSign ":" ++ typeTokens g
  if ← next (atSign ";") then return (head ++ type ++ (← takeSign ";"), true)
  return (head ++ type ++ (← takeSign "=" ++ expressionTokens g ++ takeSign ";"), false)

def constantItem (g : Grammar) : Reader (List Token × Bool) := do
  let head ← visibility ++ takeWord "const"
  let (rest, kept) ← constantRest g true
  return (head ++ rest, kept)

/-- A name or an underscore. -/
def nameOrUnderscore : Rule := do
  if ← next (atWord "_") then anyWordRule else nameRule

def externCrate : Rule := do
  let head ← visibility ++ takeWord "extern" ++ takeWord "crate"
  let name ← if ← next (atWord "self") then anyWordRule else nameRule
  let rename ← whenNext (atWord "as") (takeWord "as" ++ nameOrUnderscore)
  return head ++ name ++ rename ++ (← takeSign ";")

def foreignModule (g : Grammar) : Rule :=
  optWord "unsafe" ++ abi ++ members g (foreignMember g)

/-- Trees apart by commas, and whether `::` stands before a path among them. -/
def useTrees (g : Grammar) (allowLeading : Bool) : Reader (List Token × Bool) := do
  let trees ← punctuated List.isEmpty "," do
    let lead ← if allowLeading then optSign "::" else nothing
    let (tree, rooted) ← g.useTree (allowLeading && lead.isEmpty)
    return (lead ++ tree, rooted || !lead.isEmpty)
  return (trees.print "," (·.1), trees.members.any (·.2))

/-- What a `use` brings in: names, everything, or several trees in curly brackets. -/
def useTreeRule (g : Grammar) (allowLeading : Bool) : Reader (List Token × Bool) := do
  let ts ← ahead
  if atName ts || atWord "self" ts || atWord "super" ts || atWord "crate" ts ||
      atWord "try" ts then
    let name ← anyWordRule
    let ts ← ahead
    if atSign "::" ts then
      let colons ← takeSign "::"
      let (tree, _) ← g.useTree false
      return (name ++ colons ++ tree, false)
    else if atWord "as" ts then
      let word ← takeWord "as"
      if ← next fun ts => atName ts || atWord "_" ts then
        return (name ++ word ++ (← anyWordRule), false)
      forbid "expected identifier or underscore"
    else return (name, false)
  else if atSign "*" ts then return (← takeSign "*", false)
  else if atGroup .brace ts then
    let (trees, rooted) ← inside .brace (useTrees g allowLeading)
    return ([.group .brace trees], rooted)
  else
    wanting ["identifier", quoted "self", quoted "super", quoted "crate", quoted "try",
      quoted "*", "curly braces"]

/-- An import. With `::` before a path in braces it is kept as it came. -/
def useItem (g : Grammar) : Reader (List Token × Bool) := do
  let head ← visibility ++ takeWord "use"
  let lead ← optSign "::"
  let (tree, rooted) ← g.useTree lead.isEmpty
  return (head ++ lead ++ tree ++ (← takeSign ";"), rooted)

/-- An item with its attributes. -/
def wholeItem (g : Grammar) : Reader Item := do
  let start ← ahead
  let attributes ← outerAttributes g
  itemBehind g start attributes

/-- A module with its items, or only its name. -/
def moduleRule (g : Grammar) : Rule := do
  let head ← visibility ++ optWord "unsafe" ++ takeWord "mod"
  let name ← if ← next (atWord "try") then anyWordRule else nameRule
  let ts ← ahead
  if atSign ";" ts then return head ++ name ++ (← takeSign ";")
  else if atGroup .brace ts then
    return head ++ name ++ (← members g do return (← wholeItem g).print)
  else wanting [quoted ";", "curly braces"]

/-! ## Types -/

def typeAlias (g : Grammar) : Reader (List Token × Bool) := do
  let shown ← visibility
  let t ← typeMember g .beforeValue
  return (shown ++ t.head ++ t.params.declarations ++ t.params.printWhere ++
    t.value.getD [] ++ sign ";", t.hasColon || t.value.isNone)

/-- Fields that stand in the place of an unnamed one, as they came. -/
def inlineFields (g : Grammar) : Rule := asWritten do
  let _ ← takeAnyWord
  g.namedFields

/-- A field with a name. An underscore may stand for fields that are given in its place. -/
def namedField (g : Grammar) : Reader Field := do
  let attributes ← outerAttributes g
  let shown ← visibility
  let unnamed ← next (atWord "_")
  let name ← if unnamed then takeAnyWord else takeName
  let _ ← takeSign ":"
  let inline := fun ts =>
    unnamed && (atWord "struct" ts || (atWord "union" ts && atGroup .brace (behind ts)))
  let type ← if ← next inline then inlineFields g else typeTokens g
  return { attributes, visibility := shown, name := some name, type }

def tupleField (g : Grammar) : Reader Field := do
  let attributes ← outerAttributes g
  let shown ← visibility
  return { attributes, visibility := shown, name := none, type := ← typeTokens g }

def namedFieldsRule (g : Grammar) : Reader Fields := do
  return .named (← inside .brace (punctuated List.isEmpty "," (namedField g)))

def tupleFields (g : Grammar) : Reader Fields := do
  return .tuple (← inside .paren (punctuated List.isEmpty "," (tupleField g)))

/-- The fields of a struct and its `where` clause, which stands before curly brackets, but
behind round ones. -/
def structBody (g : Grammar) : Reader (Fields × Option (List Token)) := do
  let early ← optWhereClause g
  let ts ← ahead
  if early.isNone && atGroup .paren ts then
    let fields ← tupleFields g
    let late ← optWhereClause g
    if !(← next (atSign ";")) then
      wanting (if late.isNone then [quoted "where", quoted ";"] else [quoted ";"])
    let _ ← takeSign ";"
    return (fields, late)
  else if atGroup .brace ts then return (← g.namedFields, early)
  else if atSign ";" ts then
    let _ ← takeSign ";"
    return (.unit, early)
  else
    wanting ((if early.isNone then [quoted "where", "parentheses"] else []) ++
      ["curly braces", quoted ";"])

def structRule (g : Grammar) : Reader StructItem := do
  let shown ← visibility
  let _ ← takeWord "struct"
  let name ← takeName
  let params ← generics g
  let (fields, condition) ← structBody g
  return { attributes := [], visibility := shown, name, fields
           generics := { params with whereClause := condition } }

/-- A variant of an enum. Its visibility is not printed. -/
def variant (g : Grammar) : Rule := do
  let attributes ← outerAttributes g
  let _ ← visibility
  let name ← nameRule
  let ts ← ahead
  let fields ← if atGroup .brace ts then g.namedFields
    else if atGroup .paren ts then tupleFields g
    else pure .unit
  let value ← whenNext (atSign "=") (takeSign "=" ++ expressionTokens g)
  return attributes ++ name ++ fields.print ++ value

def enumRule (g : Grammar) : Rule := do
  let head ← visibility ++ takeWord "enum" ++ nameRule
  let params ← generics g
  let whole := { params with whereClause := ← optWhereClause g }
  let variants ← within .brace (commaList (variant g))
  return head ++ whole.declarations ++ whole.printWhere ++ variants

def unionRule (g : Grammar) : Rule := do
  let head ← visibility ++ takeWord "union" ++ nameRule
  let params ← generics g
  let whole := { params with whereClause := ← optWhereClause g }
  let fields ← g.namedFields
  return head ++ whole.declarations ++ whole.printWhere ++ fields.print

/-! ## Traits -/

/-- A trait behind its parameters. A colon without bounds is not printed. -/
def traitRest (g : Grammar) (head : List Token) (name : String) (params : Generics) :
    Reader TraitItem := do
  let stop := fun ts => atWord "where" ts || atGroup .brace ts
  let colon ← optSign ":"
  let bounds ← if colon.isEmpty then nothing else boundsUpTo g true stop
  let whole := { params with whereClause := ← optWhereClause g }
  let body ← members g (traitMember g)
  return {
    name
    tokens := head ++ whole.declarations ++ Param.printBounds bounds ++ whole.printWhere ++ body }

/-- A trait for which `unsafe` and `auto` may stand. -/
def markedTrait (g : Grammar) : Reader TraitItem := do
  let head ← visibility ++ optWord "unsafe" ++ optWord "auto" ++ takeWord "trait"
  let name ← takeName
  traitRest g (head ++ [.ident name]) name (← generics g)

/-- A trait, or another name for bounds. -/
def traitOrAlias (g : Grammar) : Reader (Item × Bool) := do
  let head ← visibility ++ takeWord "trait"
  let name ← takeName
  let head := head ++ [.ident name]
  let params ← generics g
  let ts ← ahead
  if atGroup .brace ts || atSign ":" ts || atWord "where" ts then
    return (.trait (← traitRest g head name params), false)
  else if atSign "=" ts then
    let eq ← takeSign "="
    let bounds ← boundsUpTo g false fun ts => atWord "where" ts || atSign ";" ts
    let whole := { params with whereClause := ← optWhereClause g }
    let semicolon ← takeSign ";"
    return (.other .other
      (head ++ whole.declarations ++ eq ++ bounds ++ whole.printWhere ++ semicolon), false)
  else wanting ["curly braces", quoted ":", quoted "where", quoted "="]

/-! ## `impl` blocks -/

/-- The head of an `impl` block behind its parameters: the type, with the trait before it if it
has one. -/
def implSubject (g : Grammar) : Reader (List Token × Bool) := do
  let negative ← whenNext (fun ts => atSign "!" ts && !atGroup .brace (behind ts)) (takeSign "!")
  let first ← g.type true
  if ← next (atWord "for") then
    let isPath := match first.shape with
      | .path _ => true
      | _ => false
    let word ← takeWord "for"
    return (negative ++ first.tokens ++ word ++ (← typeTokens g), !isPath)
  if !negative.isEmpty then throw (.forbidden "inherent impls cannot be negative" false)
  return (first.tokens, false)

/-- An `impl` block, and whether it is kept as it came. -/
def implRule (g : Grammar) : Reader (List Token × Bool) := do
  let shown ← visibility
  let head ← optWord "default" ++ optWord "unsafe" ++ takeWord "impl"
  let params ← if ← next atGenerics then generics g else pure Generics.none
  let constant ← next fun ts => atWord "const" ts || (atSign "?" ts && atWord "const" (behind ts))
  let _ ← if constant then optSign "?" ++ takeWord "const" else nothing
  let (subject, kept) ← implSubject g
  let whole := { params with whereClause := ← optWhereClause g }
  let body ← members g (implMember g)
  return (head ++ whole.declarations ++ subject ++ whole.printWhere ++ body,
    !shown.isEmpty || constant || kept)

/-! ## Macro declarations -/

/-- A macro with its arguments and its body. It is kept as it came. -/
def macroDeclaration : Reader (List Token × Bool) := do
  let head ← visibility ++ takeWord "macro" ++ nameRule
  let ts ← ahead
  let hasArguments := atGroup .paren ts
  let arguments ← if hasArguments then pure (ts.take 1) else nothing
  if hasArguments then goTo (ts.drop 1)
  match ← ahead with
  | .group .brace inner :: rest =>
    goTo rest
    return (head ++ arguments ++ [.group .brace inner], true)
  | _ => wanting (if hasArguments then ["curly braces"] else ["parentheses", "curly braces"])

/-! ## Items -/

/-- An item of this kind that is neither a struct nor a trait. -/
def other (kind : DeclarationKind) (r : Rule) : Reader (Item × Bool) :=
  return (.other kind (← r), false)

/-- An item of this kind that is neither a struct nor a trait and may be kept as it came. What is
kept so is of no particular kind. -/
def otherKept (kind : DeclarationKind) (r : Reader (List Token × Bool)) :
    Reader (Item × Bool) := do
  let (tokens, kept) ← r
  return (.other (if kept then .other else kind) tokens, kept)

def traitItem (r : Reader TraitItem) : Reader (Item × Bool) := return (.trait (← r), false)

/-- A function. Without a body it is kept as it came. -/
def functionItem (g : Grammar) : Reader (List Token × Bool) := do
  let shown ← visibility
  let (head, _) ← signature g false
  if ← next (atSign ";") then
    let _ ← takeSign ";"
    return (shown ++ head, true)
  return (shown ++ head ++ (← block g), false)

/-- What starts with `extern` and is no function. -/
def externItem (g : Grammar) (behindExtern : List Token) : Reader (Item × Bool) := do
  if atWord "crate" behindExtern then other .other externCrate
  else if atGroup .brace behindExtern then other .other (foreignModule g)
  else if atString behindExtern then
    if atGroup .brace (behind behindExtern) then other .other (foreignModule g)
    else
      goTo (behind behindExtern)
      wanting ["curly braces"]
  else
    goTo behindExtern
    wanting [quoted "crate", "curly braces", "string literal"]

/-- What starts with `unsafe` and is no function. -/
def unsafeItem (g : Grammar) (behindUnsafe : List Token) : Reader (Item × Bool) := do
  let ts := behindUnsafe
  if atWord "trait" ts || (atWord "auto" ts && atWord "trait" (behind ts)) then
    traitItem (markedTrait g)
  else if atWord "impl" ts then otherKept .other (implRule g)
  else if atWord "extern" ts then other .other (foreignModule g)
  else if atWord "mod" ts then other .package (moduleRule g)
  else
    goTo ts
    wantingOneOf [quoted "trait", quoted "auto", quoted "impl", quoted "extern", quoted "mod"]

/-- The words that an item may start with. -/
def itemWords : List String :=
  [quoted "fn", quoted "extern", quoted "use", quoted "static", quoted "const", quoted "unsafe",
    quoted "mod", quoted "type", quoted "struct", quoted "enum", quoted "union", quoted "trait",
    quoted "auto", quoted "impl", quoted "default", quoted "macro"]

/-- An item behind its attributes, and whether it is kept as it came. What kind it is shows
behind its visibility. -/
def itemRule (g : Grammar) : Reader (Item × Bool) := do
  let start ← get
  let shown ← visibility
  let ts ← ahead
  let more := behind ts
  let afterVisibility ← get
  set start
  if atSignature false ts then otherKept .method (functionItem g)
  else if atWord "extern" ts then externItem g more
  else if atWord "use" ts then otherKept .other (useItem g)
  else if atWord "static" ts then otherKept .field (staticRule g)
  else if atWord "const" ts then otherKept .field (constantItem g)
  else if atWord "unsafe" ts then unsafeItem g more
  else if atWord "mod" ts then other .package (moduleRule g)
  else if atWord "type" ts then otherKept .type (typeAlias g)
  else if atWord "struct" ts then return (.struct (← structRule g), false)
  else if atWord "enum" ts then other .type (enumRule g)
  else if atWord "union" ts && atName more then other .type (unionRule g)
  else if atWord "trait" ts then traitOrAlias g
  else if atWord "auto" ts && atWord "trait" more then traitItem (markedTrait g)
  else if atWord "impl" ts || (atWord "default" ts && !atSign "!" more) then
    otherKept .other (implRule g)
  else if atWord "macro" ts then otherKept .other macroDeclaration
  else if shown.isEmpty && atMacroPath ts then other .other (macroItem true)
  else
    set afterVisibility
    wantingOneOf (itemWords ++ if shown.isEmpty then macroPathWords else [])

end MarkerInjection.Source
