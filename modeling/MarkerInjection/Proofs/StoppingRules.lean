-- The rules for paths, parameters, bounds, types and fields stop before an end without telling
-- what it is. Each does because its parts do, in the order of the grammar.
import MarkerInjection.Proofs.Stopping

namespace MarkerInjection.Source

set_option synthInstance.maxSize 20000

/-- The rules that refer to each other stop before an end without telling what it is. -/
class Stopping (g : Grammar) : Prop where
  below : Below g g
  type : ∀ (c c' : List Token) [LikeEnds c c'] (ts : List Token) (plus : Bool),
    StopsAt c c' ts (g.type plus) (g.type plus)
  bound : ∀ (c c' : List Token) [LikeEnds c c'] (ts : List Token) (capture const : Bool),
    StopsAt c c' ts (g.bound capture const) (g.bound capture const)
  namedFields : ∀ (c c' : List Token) [LikeEnds c c'] (ts : List Token),
    StopsAt c c' ts g.namedFields g.namedFields
  expression : ∀ (c c' : List Token) [LikeEnds c c'] (ts : List Token) (allowStruct : Bool),
    StopsAt c c' ts (g.expression allowStruct) (g.expression allowStruct)
  unary : ∀ (c c' : List Token) [LikeEnds c c'] (ts : List Token) (allowStruct : Bool),
    StopsAt c c' ts (g.unary allowStruct) (g.unary allowStruct)
  climb : ∀ (c c' : List Token) [LikeEnds c c'] (ts : List Token) (left : Phrase)
    (allowStruct : Bool) (base : Nat),
    StopsAt c c' ts (g.climb left allowStruct base) (g.climb left allowStruct base)
  pattern : ∀ (c c' : List Token) [LikeEnds c c'] (ts : List Token),
    StopsAt c c' ts g.pattern g.pattern

attribute [instance] Stopping.below Stopping.type Stopping.bound Stopping.namedFields
  Stopping.expression Stopping.unary Stopping.climb Stopping.pattern

variable {c c' ts : List Token} [hc : LikeEnds c c'] {g : Grammar} [Stopping g]

/-! ## Attributes and visibility -/

instance stopsAt_outerAttribute : StopsAt c c' ts (outerAttribute g) (outerAttribute g) := by
  unfold outerAttribute
  infer_instance

instance stopsAt_outerAttributes : StopsAt c c' ts (outerAttributes g) (outerAttributes g) := by
  unfold outerAttributes
  infer_instance

instance stopsAt_restriction : StopsAt c c' ts restriction restriction := by
  unfold restriction
  refine stopsAt_ahead (h := ?_)
  rcases ts with _ | ⟨t, r⟩
  · cases hc with
    | _ => exact stopsAt_nothing
  · cases t with
    | group d inner =>
      cases d with
      | _ => dsimp only [List.cons_append]; infer_instance
    | _ => exact stopsAt_nothing

instance stopsAt_visibility : StopsAt c c' ts visibility visibility := by
  unfold visibility
  infer_instance

/-! ## Paths -/

instance stopsAt_constArgument : StopsAt c c' ts (constArgument g) (constArgument g) := by
  unfold constArgument
  infer_instance

instance likeTest_atConstArgument : LikeTest c c' atConstArgument := by
  unfold atConstArgument
  infer_instance

instance stopsAt_associatedValue : StopsAt c c' ts (associatedValue g) (associatedValue g) := by
  unfold associatedValue
  infer_instance

instance stopsAt_genericArgument : StopsAt c c' ts (genericArgument g) (genericArgument g) := by
  unfold genericArgument
  infer_instance

instance stopsAt_angleArguments : StopsAt c c' ts (angleArguments g) (angleArguments g) := by
  unfold angleArguments
  infer_instance

instance likeTest_atCallBehindColons : LikeTest c c' atCallBehindColons := by
  unfold atCallBehindColons
  infer_instance

instance stopsAt_segment (inExpression : Bool) :
    StopsAt c c' ts (segment g inExpression) (segment g inExpression) := by
  unfold segment
  dsimp only
  infer_instance

instance stopsAt_path (inExpression : Bool) :
    StopsAt c c' ts (path g inExpression) (path g inExpression) := by
  unfold path
  dsimp only
  infer_instance

instance stopsAt_returnType (plus : Bool) :
    StopsAt c c' ts (returnType g plus) (returnType g plus) := by
  unfold returnType
  infer_instance

instance stopsAt_typeTokens : StopsAt c c' ts (typeTokens g) (typeTokens g) := by
  unfold typeTokens
  infer_instance

instance stopsAt_calledPath : StopsAt c c' ts (calledPath g) (calledPath g) := by
  unfold calledPath
  infer_instance

instance stopsAt_qualifiedSegments (inExpression : Bool) :
    StopsAt c c' ts (qualifiedSegments g inExpression) (qualifiedSegments g inExpression) := by
  unfold qualifiedSegments
  infer_instance

instance stopsAt_qualifiedPath (inExpression : Bool) :
    StopsAt c c' ts (qualifiedPath g inExpression) (qualifiedPath g inExpression) := by
  unfold qualifiedPath
  infer_instance

/-! ## Generic parameters -/

instance stopsAt_paramBounds {stop : List Token → Bool} {bound : Rule}
    [∀ ts', StopsAt c c' ts' (chained stop "+" bound) (chained stop "+" bound)]
    [∀ ts', CarriesAt [] ts' bound bound] :
    StopsAt c c' ts (paramBounds stop bound) (paramBounds stop bound) := by
  unfold paramBounds
  infer_instance

instance stopsAt_paramDefault {value : Rule} [∀ ts', StopsAt c c' ts' value value]
    [∀ ts', CarriesAt [] ts' value value] :
    StopsAt c c' ts (paramDefault value) (paramDefault value) := by
  unfold paramDefault
  infer_instance

instance stopsAt_lifetimeParam (attributes : List Token) :
    StopsAt c c' ts (lifetimeParam attributes) (lifetimeParam attributes) := by
  unfold lifetimeParam
  infer_instance

instance stopsAt_typeParam (attributes : List Token) :
    StopsAt c c' ts (typeParam g attributes) (typeParam g attributes) := by
  unfold typeParam
  infer_instance

instance stopsAt_constParam (attributes : List Token) :
    StopsAt c c' ts (constParam g attributes) (constParam g attributes) := by
  unfold constParam
  infer_instance

instance stopsAt_genericParam : StopsAt c c' ts (genericParam g) (genericParam g) := by
  unfold genericParam
  infer_instance

instance stopsAt_boundParam : StopsAt c c' ts (boundParam g) (boundParam g) := by
  unfold boundParam
  infer_instance

instance stopsAt_binder : StopsAt c c' ts (binder g) (binder g) := by
  unfold binder
  infer_instance

instance stopsAt_optBinder : StopsAt c c' ts (optBinder g) (optBinder g) := by
  unfold optBinder
  infer_instance

instance stopsAt_generics : StopsAt c c' ts (generics g) (generics g) := by
  unfold generics
  infer_instance

/-! ## Where clauses -/

instance likeTest_atPredicatesEnd : LikeTest c c' atPredicatesEnd := by
  unfold atPredicatesEnd
  infer_instance

instance stopsAt_predicate : StopsAt c c' ts (predicate g) (predicate g) := by
  unfold predicate
  infer_instance

instance likeTest_atParamEnd : LikeTest c c' atParamEnd := by
  unfold atParamEnd
  infer_instance

/-- No end is the name of a parameter, so what stands behind a name shows as well. -/
instance likeTest_atParam : LikeTest c c' atParam where
  like ts := by
    have hname : LikeTest c c' fun ts => atLifetime ts || atName ts := inferInstance
    have hnamed := like_behind hname inferInstance likeTest_atParamEnd ts
    have hsign (s : String) [Commaless s] : atSign s (ts ++ c') = atSign s (ts ++ c) :=
      (likeTest_atSign s).like ts
    have hconst : atWord "const" (ts ++ c') = atWord "const" (ts ++ c) :=
      (likeTest_atWord "const").like ts
    rw [atParam, atParam, hsign, hsign, hconst, hnamed]

instance likeTest_atGenerics : LikeTest c c' atGenerics where
  like ts := by
    rw [atGenerics_eq, atGenerics_eq]
    exact like_behind inferInstance inferInstance likeTest_atParam ts

instance stopsAt_whereClause : StopsAt c c' ts (whereClause g) (whereClause g) := by
  unfold whereClause
  infer_instance

instance stopsAt_optWhereClause : StopsAt c c' ts (optWhereClause g) (optWhereClause g) := by
  unfold optWhereClause
  infer_instance

/-! ## Bounds -/

instance stopsAt_capture : StopsAt c c' ts capture capture := by
  unfold capture
  dsimp only
  infer_instance

instance stopsAt_constMark (const : Bool) :
    StopsAt c c' ts (constMark const) (constMark const) := by
  unfold constMark
  infer_instance

instance stopsAt_traitBound (const : Bool) :
    StopsAt c c' ts (traitBound g const) (traitBound g const) := by
  unfold traitBound
  infer_instance

instance stopsAt_boundRule (allowCapture const : Bool) :
    StopsAt c c' ts (boundRule g allowCapture const) (boundRule g allowCapture const) := by
  have hgroup : atGroup .paren (ts ++ c') = atGroup .paren (ts ++ c) := LikeTest.like ts
  unfold boundRule
  refine stopsAt_ahead (h := ?_)
  simp only [hgroup]
  infer_instance

instance likeTest_atBoundStart : LikeTest c c' atBoundStart := by
  unfold atBoundStart
  infer_instance

instance stopsAt_boundChain (plus allowCapture const : Bool) :
    StopsAt c c' ts (boundChain g plus allowCapture const)
      (boundChain g plus allowCapture const) := by
  unfold boundChain
  infer_instance

/-! ## Types -/

instance stopsAt_abi : StopsAt c c' ts abi abi := by
  unfold abi
  infer_instance

instance stopsAt_optAbi : StopsAt c c' ts optAbi optAbi := by
  unfold optAbi
  infer_instance

instance stopsAt_functionType : StopsAt c c' ts (functionType g) (functionType g) := by
  unfold functionType
  infer_instance

instance stopsAt_objectBounds (plus : Bool) :
    StopsAt c c' ts (objectBounds g plus) (objectBounds g plus) := by
  unfold objectBounds
  infer_instance

instance stopsAt_furtherBounds : StopsAt c c' ts (furtherBounds g) (furtherBounds g) := by
  unfold furtherBounds
  infer_instance

instance stopsAt_boundsBehindPath : StopsAt c c' ts (boundsBehindPath g) (boundsBehindPath g) := by
  unfold boundsBehindPath
  infer_instance

instance stopsAt_parenType (plus : Bool) :
    StopsAt c c' ts (parenType g plus) (parenType g plus) := by
  unfold parenType
  refine @stopsAt_insideThen _ _ _ _ _ _ _ _ _ _ (fun content ts' => ?_) fun content => ?_
  · cases content with
    | _ => infer_instance
  · cases content with
    | _ => infer_instance

instance likeTest_atBang : LikeTest c c' atBang := by
  unfold atBang
  infer_instance

instance stopsAt_macroBody : StopsAt c c' ts macroBody macroBody := by
  unfold macroBody
  infer_instance

instance stopsAt_pathType (plus : Bool) (before : List Token) :
    StopsAt c c' ts (pathType g plus before) (pathType g plus before) := by
  unfold pathType
  infer_instance

instance stopsAt_dynType (plus : Bool) : StopsAt c c' ts (dynType g plus) (dynType g plus) := by
  unfold dynType
  infer_instance

instance stopsAt_implType (plus : Bool) : StopsAt c c' ts (implType g plus) (implType g plus) := by
  unfold implType
  infer_instance

instance stopsAt_bracketType : StopsAt c c' ts (bracketType g) (bracketType g) := by
  unfold bracketType
  infer_instance

instance stopsAt_pointerType : StopsAt c c' ts (pointerType g) (pointerType g) := by
  unfold pointerType
  infer_instance

instance stopsAt_referenceType : StopsAt c c' ts (referenceType g) (referenceType g) := by
  unfold referenceType
  infer_instance

instance likeTest_atFunctionType : LikeTest c c' atFunctionType := by
  unfold atFunctionType
  infer_instance

instance likeTest_atRootWord : LikeTest c c' atRootWord := by
  unfold atRootWord
  infer_instance

instance likeTest_atBuiltin : LikeTest c c' atBuiltin := by
  unfold atBuiltin
  infer_instance

instance stopsAt_builtinRule : StopsAt c c' ts builtinRule builtinRule := by
  unfold builtinRule
  refine @stopsAt_bind _ _ _ _ _ _ _ _ _ inferInstance (fun head ts' => ?_) fun head => ?_
  · refine stopsAt_ahead (h := ?_)
    rcases ts' with _ | ⟨t, r⟩
    · cases hc with
      | _ => exact stopsAt_wanting _ _
    · cases t with
      | group d inner =>
        cases d with
        | _ => dsimp only [List.cons_append]; infer_instance
      | _ => exact stopsAt_wanting _ _
  · infer_instance

instance stopsAt_simpleType (plus : Bool) :
    StopsAt c c' ts (simpleType g plus) (simpleType g plus) := by
  unfold simpleType
  infer_instance

instance stopsAt_typeRule (plus : Bool) : StopsAt c c' ts (typeRule g plus) (typeRule g plus) := by
  unfold typeRule
  infer_instance

/-! ## Fields -/

instance stopsAt_inlineFields : StopsAt c c' ts (inlineFields g) (inlineFields g) := by
  unfold inlineFields
  infer_instance

instance stopsAt_namedField : StopsAt c c' ts (namedField g) (namedField g) := by
  unfold namedField
  dsimp only
  infer_instance

instance stopsAt_namedFieldsRule : StopsAt c c' ts (namedFieldsRule g) (namedFieldsRule g) := by
  unfold namedFieldsRule
  infer_instance

end MarkerInjection.Source
