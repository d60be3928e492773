-- The rules for paths, types, patterns and expressions carry over to those of a
-- grammar that reaches deeper, and where a comma follows. Each does because its parts do.
import MarkerInjection.Proofs.CarryingReaders
import MarkerInjection.Source.Grammar.Rules

namespace MarkerInjection.Source

set_option synthInstance.maxSize 4000

/-! ## Two grammars -/

/-- What the rules of one grammar read, those of the other read as well. Where a member of an
argument list may end, that holds with a comma behind it, too. -/
class Below (g g' : Grammar) : Prop where
  type : ∀ (c : List Token) [EndsMember c] (ts : List Token) (plus : Bool),
    CarriesAt c ts (g.type plus) (g'.type plus)
  bound : ∀ (c : List Token) [EndsMember c] (ts : List Token) (capture const : Bool),
    CarriesAt c ts (g.bound capture const) (g'.bound capture const)
  /-- There is no empty bound. -/
  boundBegins : ∀ (capture const : Bool) (l : Option Delimiter),
    ∃ e, g.bound capture const ⟨[], l⟩ = .error e
  expression : ∀ (c : List Token) [EndsMember c] (ts : List Token) (allowStruct : Bool),
    CarriesAt c ts (g.expression allowStruct) (g'.expression allowStruct)
  statement : ∀ ts, CarriesAt [] ts g.statement g'.statement
  unary : ∀ (c : List Token) [EndsMember c] (ts : List Token) (allowStruct : Bool),
    CarriesAt c ts (g.unary allowStruct) (g'.unary allowStruct)
  climb : ∀ (c : List Token) [EndsMember c] (ts : List Token) (left : Phrase)
    (allowStruct : Bool) (base : Nat),
    CarriesAt c ts (g.climb left allowStruct base) (g'.climb left allowStruct base)
  pattern : ∀ (c : List Token) [EndsMember c] (ts : List Token), CarriesAt c ts g.pattern g'.pattern
  statements : ∀ ts, CarriesAt [] ts g.statements g'.statements
  item : ∀ ts, CarriesAt [] ts g.item g'.item
  namedFields : ∀ (c : List Token) [EndsMember c] (ts : List Token),
    CarriesAt c ts g.namedFields g'.namedFields
  useTree : ∀ ts (allowLeading : Bool),
    CarriesAt [] ts (g.useTree allowLeading) (g'.useTree allowLeading)

attribute [instance] Below.type Below.bound Below.expression Below.statement Below.unary
  Below.climb Below.pattern Below.statements Below.item Below.namedFields Below.useTree

variable {c ts : List Token} [EndsMember c] {g g' : Grammar} [Below g g']

/-! ## Attributes -/

instance carriesAt_plainPath : CarriesAt c ts plainPath plainPath := by
  unfold plainPath
  infer_instance

instance carriesAt_metaPath : CarriesAt c ts metaPath metaPath := by
  unfold metaPath
  infer_instance

instance carriesAt_metaValue_nil : CarriesAt [] ts (metaValue g) (metaValue g') := by
  unfold metaValue
  refine @carriesAt_bind _ _ _ _ _ _ _ _ inferInstance fun lone ts' => ?_
  split
  · infer_instance
  · infer_instance
  · infer_instance

instance carriesAt_metaRule_nil : CarriesAt [] ts (metaRule g) (metaRule g') := by
  unfold metaRule
  infer_instance

instance carriesAt_metaTokens_nil : CarriesAt [] ts (metaTokens g) (metaTokens g') := by
  unfold metaTokens
  infer_instance

instance carriesAt_outerAttribute : CarriesAt c ts (outerAttribute g) (outerAttribute g') := by
  unfold outerAttribute
  infer_instance

instance takesAt_outerAttribute : TakesAt c ts (outerAttribute g) (outerAttribute g') := by
  unfold outerAttribute
  infer_instance

instance carriesAt_outerAttributes : CarriesAt c ts (outerAttributes g) (outerAttributes g') := by
  unfold outerAttributes
  infer_instance

instance carriesAt_innerAttributes :
    CarriesAt [] ts (innerAttributes g) (innerAttributes g') := by
  unfold innerAttributes
  infer_instance

/-! ## Paths -/

instance carriesAt_constArgument : CarriesAt c ts (constArgument g) (constArgument g') := by
  unfold constArgument
  infer_instance

instance steadyTest_atConstArgument : SteadyTest c atConstArgument := by
  unfold atConstArgument
  infer_instance

instance carriesAt_associatedValue :
    CarriesAt c ts (associatedValue g) (associatedValue g') := by
  unfold associatedValue
  infer_instance

instance carriesAt_genericArgument :
    CarriesAt c ts (genericArgument g) (genericArgument g') := by
  have hbounds (ts' : List Token) : CarriesAt c ts'
      (chained (fun ts => atSign "," ts || atSign ">" ts) "+" (g.bound false true))
      (chained (fun ts => atSign "," ts || atSign ">" ts) "+" (g'.bound false true)) := by
    refine carriesAt_chained_of_begins (fun t r => ?_) rfl (Below.boundBegins g' false true)
    cases t with
    | _ => rfl
  unfold genericArgument
  infer_instance

instance carriesAt_angleArguments : CarriesAt c ts (angleArguments g) (angleArguments g') := by
  unfold angleArguments
  infer_instance

instance steadyTest_atCallBehindColons : SteadyTest c atCallBehindColons := by
  unfold atCallBehindColons
  infer_instance

instance carriesAt_segment (inExpression : Bool) :
    CarriesAt c ts (segment g inExpression) (segment g' inExpression) := by
  unfold segment
  dsimp only
  infer_instance

instance carriesAt_path (inExpression : Bool) :
    CarriesAt c ts (path g inExpression) (path g' inExpression) := by
  unfold path
  dsimp only
  infer_instance

instance carriesAt_returnType (plus : Bool) :
    CarriesAt c ts (returnType g plus) (returnType g' plus) := by
  unfold returnType
  infer_instance

instance carriesAt_typeTokens : CarriesAt c ts (typeTokens g) (typeTokens g') := by
  unfold typeTokens
  infer_instance

instance carriesAt_calledPath : CarriesAt c ts (calledPath g) (calledPath g') := by
  unfold calledPath
  infer_instance

instance carriesAt_qualifiedSegments (inExpression : Bool) :
    CarriesAt c ts (qualifiedSegments g inExpression) (qualifiedSegments g' inExpression) := by
  unfold qualifiedSegments
  infer_instance

instance carriesAt_qualifiedPath (inExpression : Bool) :
    CarriesAt c ts (qualifiedPath g inExpression) (qualifiedPath g' inExpression) := by
  unfold qualifiedPath
  infer_instance

/-! ## Generic parameters -/

instance carriesAt_paramBounds {stop : List Token → Bool} {bound bound' : Rule}
    [∀ ts', CarriesAt c ts' (chained stop "+" bound) (chained stop "+" bound')] :
    CarriesAt c ts (paramBounds stop bound) (paramBounds stop bound') := by
  unfold paramBounds
  infer_instance

instance carriesAt_paramDefault {value value' : Rule} [∀ ts', CarriesAt c ts' value value'] :
    CarriesAt c ts (paramDefault value) (paramDefault value') := by
  unfold paramDefault
  infer_instance

instance carriesAt_lifetimeParam (attributes : List Token) :
    CarriesAt c ts (lifetimeParam attributes) (lifetimeParam attributes) := by
  have hstop : SteadyTest c fun ts => ts.isEmpty || atSign "," ts || atSign ">" ts := by
    refine steadyTest_of_stop (fun t r => ?_) rfl fun joint more => rfl
    cases t with
    | _ => rfl
  unfold lifetimeParam
  infer_instance

instance carriesAt_typeParam (attributes : List Token) :
    CarriesAt c ts (typeParam g attributes) (typeParam g' attributes) := by
  have hbounds (ts' : List Token) : CarriesAt c ts'
      (chained (fun ts => atSign "," ts || atSign ">" ts || atSign "=" ts) "+" (g.bound false true))
      (chained (fun ts => atSign "," ts || atSign ">" ts || atSign "=" ts) "+"
        (g'.bound false true)) := by
    refine carriesAt_chained_of_begins (fun t r => ?_) rfl (Below.boundBegins g' false true)
    cases t with
    | _ => rfl
  unfold typeParam
  infer_instance

instance carriesAt_constParam (attributes : List Token) :
    CarriesAt c ts (constParam g attributes) (constParam g' attributes) := by
  unfold constParam
  infer_instance

instance carriesAt_genericParam : CarriesAt c ts (genericParam g) (genericParam g') := by
  unfold genericParam
  infer_instance

instance carriesAt_boundParam : CarriesAt c ts (boundParam g) (boundParam g') := by
  unfold boundParam
  infer_instance

instance carriesAt_binder : CarriesAt c ts (binder g) (binder g') := by
  unfold binder
  infer_instance

instance carriesAt_optBinder : CarriesAt c ts (optBinder g) (optBinder g') := by
  unfold optBinder
  infer_instance

instance carriesAt_generics : CarriesAt c ts (generics g) (generics g') := by
  unfold generics
  infer_instance

instance carriesAt_predicate : CarriesAt [] ts (predicate g) (predicate g') := by
  unfold predicate
  infer_instance

instance carriesAt_whereClause : CarriesAt [] ts (whereClause g) (whereClause g') := by
  unfold whereClause
  infer_instance

instance carriesAt_optWhereClause :
    CarriesAt [] ts (optWhereClause g) (optWhereClause g') := by
  unfold optWhereClause
  infer_instance

/-! ## Bounds -/

/-- What is read behind a captured parameter. -/
def captureBehind (param : List Token × Bool) :
    Reader (List ((List Token × Bool) × Bool) × Bool) := do
  let ts ← ahead
  if atSign "," ts then
    let _ ← takeSign ","
    return ([(param, true)], true)
  else if atSign ">" ts then return ([(param, false)], false)
  else wanting [quoted ",", quoted ">"]

/-- The end of the tokens is refused here, so a comma behind it does no harm. -/
instance carriesAt_captureBehind (param : List Token × Bool) :
    CarriesAt c ts (captureBehind param) (captureBehind param) where
  carries := by
    intro l x j h
    cases ts with
    | nil => cases h
    | cons t r =>
      have hcomma : Agree (atSign "," (t :: r)) (atSign "," (t :: r ++ c)) := by
        constructor
        cases t with
        | _ => rfl
      have hcarries : CarriesAt c (t :: r) (captureBehind param) (captureBehind param) := by
        unfold captureBehind
        infer_instance
      exact hcarries.carries h

/-- A captured parameter, or nothing before the closing bracket. -/
def captureStep : Reader (List ((List Token × Bool) × Bool) × Bool) := do
  let ts ← ahead
  if atSign ">" ts then return ([], false)
  let param ← if atLifetime ts then do
      let p ← lifetimeRule
      pure (p, true)
    else if atName ts || atWord "Self" ts then do
      let p ← anyWordRule
      pure (p, false)
    else wanting ["lifetime", "identifier", quoted ">"]
  captureBehind param

instance carriesAt_captureStep : CarriesAt c ts captureStep captureStep := by
  unfold captureStep
  dsimp only
  infer_instance

instance advancesAt_captureStep : AdvancesAt c ts captureStep captureStep := by
  unfold captureStep
  dsimp only
  infer_instance

theorem capture_eq : capture = (do
    let opening ← takeWord "use" ++ takeSign "<"
    let found ← repeated captureStep
    let closing ← takeSign ">"
    return opening ++ lifetimesFirst (Punctuated.ofPairs found.flatten) ++ closing) := rfl

instance carriesAt_capture : CarriesAt c ts capture capture := by
  rw [capture_eq]
  infer_instance

instance carriesAt_constMark (const : Bool) :
    CarriesAt c ts (constMark const) (constMark const) := by
  unfold constMark
  infer_instance

instance carriesAt_traitBound (const : Bool) :
    CarriesAt c ts (traitBound g const) (traitBound g' const) := by
  unfold traitBound
  infer_instance

instance carriesAt_boundRule (allowCapture const : Bool) :
    CarriesAt c ts (boundRule g allowCapture const) (boundRule g' allowCapture const) := by
  unfold boundRule
  refine carriesAt_ahead (h := ?_)
  have hgroup : atGroup .paren (ts ++ c) = atGroup .paren ts := SteadyTest.steady ts
  simp only [hgroup]
  infer_instance

instance steadyTest_atBoundStart : SteadyTest c atBoundStart := by
  unfold atBoundStart
  infer_instance

instance carriesAt_boundChain (plus allowCapture const : Bool) :
    CarriesAt c ts (boundChain g plus allowCapture const)
      (boundChain g' plus allowCapture const) := by
  unfold boundChain
  infer_instance

/-! ## Function types -/

instance carriesAt_bareArgument (first : Bool) :
    CarriesAt [] ts (bareArgument g first) (bareArgument g' first) := by
  unfold bareArgument
  infer_instance

instance carriesAt_bareArgumentStep (first : Bool) :
    CarriesAt [] ts (bareArgumentStep g first) (bareArgumentStep g' first) := by
  unfold bareArgumentStep
  dsimp only
  infer_instance

instance carriesAt_bareArguments : CarriesAt [] ts (bareArguments g) (bareArguments g') := by
  unfold bareArguments
  infer_instance

instance carriesAt_abi : CarriesAt c ts abi abi := by
  unfold abi
  infer_instance

instance carriesAt_optAbi : CarriesAt c ts optAbi optAbi := by
  unfold optAbi
  infer_instance

instance carriesAt_functionType : CarriesAt c ts (functionType g) (functionType g') := by
  unfold functionType
  infer_instance

/-! ## Trait objects -/

instance carriesAt_objectBounds (plus : Bool) :
    CarriesAt c ts (objectBounds g plus) (objectBounds g' plus) := by
  unfold objectBounds
  infer_instance

instance carriesAt_furtherBounds : CarriesAt c ts (furtherBounds g) (furtherBounds g') := by
  unfold furtherBounds
  infer_instance

instance carriesAt_boundsBehindPath :
    CarriesAt c ts (boundsBehindPath g) (boundsBehindPath g') := by
  unfold boundsBehindPath
  infer_instance

/-! ## Types -/

instance carriesAt_bracketedType : CarriesAt [] ts (bracketedType g) (bracketedType g') := by
  unfold bracketedType
  infer_instance

instance carriesAt_parenType (plus : Bool) :
    CarriesAt c ts (parenType g plus) (parenType g' plus) := by
  unfold parenType
  refine @carriesAt_insideThen _ _ _ _ _ _ _ _ _ inferInstance fun content ts' => ?_
  cases content with
  | _ => infer_instance

instance steadyTest_atBang : SteadyTest c atBang := by
  unfold atBang
  infer_instance

instance carriesAt_macroBody : CarriesAt c ts macroBody macroBody := by
  unfold macroBody
  infer_instance

instance carriesAt_pathType (plus : Bool) (before : List Token) :
    CarriesAt c ts (pathType g plus before) (pathType g' plus before) := by
  unfold pathType
  infer_instance

instance carriesAt_dynType (plus : Bool) :
    CarriesAt c ts (dynType g plus) (dynType g' plus) := by
  unfold dynType
  infer_instance

instance carriesAt_implType (plus : Bool) :
    CarriesAt c ts (implType g plus) (implType g' plus) := by
  unfold implType
  infer_instance

instance carriesAt_bracketType : CarriesAt c ts (bracketType g) (bracketType g') := by
  unfold bracketType
  infer_instance

instance carriesAt_pointerType : CarriesAt c ts (pointerType g) (pointerType g') := by
  unfold pointerType
  infer_instance

instance carriesAt_referenceType : CarriesAt c ts (referenceType g) (referenceType g') := by
  unfold referenceType
  infer_instance

instance steadyTest_atFunctionType : SteadyTest c atFunctionType := by
  unfold atFunctionType
  infer_instance

instance steadyTest_atRootWord : SteadyTest c atRootWord := by
  unfold atRootWord
  infer_instance

instance steadyTest_atBuiltin : SteadyTest c atBuiltin := by
  unfold atBuiltin
  infer_instance

instance carriesAt_builtinRule : CarriesAt c ts builtinRule builtinRule := by
  unfold builtinRule
  refine @carriesAt_bind _ _ _ _ _ _ _ _ inferInstance fun head ts' => carriesAt_ahead (h := ?_)
  split
  · rw [List.cons_append]
    infer_instance
  · infer_instance

instance carriesAt_simpleType (plus : Bool) :
    CarriesAt c ts (simpleType g plus) (simpleType g' plus) := by
  unfold simpleType
  infer_instance

instance carriesAt_typeRule (plus : Bool) :
    CarriesAt c ts (typeRule g plus) (typeRule g' plus) := by
  unfold typeRule
  infer_instance

end MarkerInjection.Source
