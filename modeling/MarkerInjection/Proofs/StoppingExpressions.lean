-- The rules for patterns and expressions stop before an end without telling what it is, as those
-- for types do. Then so do the rules of every depth.
import MarkerInjection.Proofs.StoppingRules

namespace MarkerInjection.Source

set_option synthInstance.maxSize 20000

variable {c c' ts : List Token} [hc : LikeEnds c c'] {g : Grammar} [Stopping g]

/-! ## Patterns -/

instance likeTest_atBar : LikeTest c c' atBar := by
  unfold atBar
  infer_instance

instance stopsAt_alternatives : StopsAt c c' ts (alternatives g) (alternatives g) := by
  unfold alternatives
  infer_instance

instance stopsAt_alternativeTokens :
    StopsAt c c' ts (alternativeTokens g) (alternativeTokens g) := by
  unfold alternativeTokens
  infer_instance

instance stopsAt_block : StopsAt c c' ts (block g) (block g) := by
  unfold block
  infer_instance

instance stopsAt_plainBlock : StopsAt c c' ts (plainBlock g) (plainBlock g) := by
  unfold plainBlock
  infer_instance

instance stopsAt_constBlock : StopsAt c c' ts (constBlock g) (constBlock g) := by
  unfold constBlock
  infer_instance

instance stopsAt_patternLimits : StopsAt c c' ts patternLimits patternLimits := by
  unfold patternLimits
  infer_instance

instance likeTest_atBoundEnd : LikeTest c c' atBoundEnd := by
  unfold atBoundEnd
  infer_instance

instance stopsAt_rangeBound : StopsAt c c' ts (rangeBound g) (rangeBound g) := by
  unfold rangeBound
  infer_instance

instance stopsAt_rangeFrom (start : List Token) :
    StopsAt c c' ts (rangeFrom g start) (rangeFrom g start) := by
  unfold rangeFrom
  infer_instance

instance stopsAt_rangeUpTo : StopsAt c c' ts (rangeUpTo g) (rangeUpTo g) := by
  unfold rangeUpTo
  infer_instance

instance stopsAt_pathPattern : StopsAt c c' ts (pathPattern g) (pathPattern g) := by
  unfold pathPattern
  infer_instance

instance stopsAt_literalPattern : StopsAt c c' ts (literalPattern g) (literalPattern g) := by
  unfold literalPattern
  infer_instance

instance stopsAt_namePattern : StopsAt c c' ts (namePattern g) (namePattern g) := by
  unfold namePattern
  dsimp only
  infer_instance

instance stopsAt_referencePattern :
    StopsAt c c' ts (referencePattern g) (referencePattern g) := by
  unfold referencePattern
  infer_instance

instance stopsAt_slicePattern : StopsAt c c' ts (slicePattern g) (slicePattern g) := by
  unfold slicePattern
  infer_instance

instance likeTest_atPathSign : LikeTest c c' atPathSign := by
  unfold atPathSign
  infer_instance

instance likeTest_atPathPattern : LikeTest c c' atPathPattern := by
  change LikeTest c c' fun ts => (atName ts && atPathSign (behind ts)) ||
    (atWord "self" ts && atSign "::" (behind ts)) || atSign "::" ts || atSign "<" ts ||
    atWord "Self" ts || atWord "super" ts || atWord "crate" ts
  infer_instance

instance stopsAt_patternRule : StopsAt c c' ts (patternRule g) (patternRule g) := by
  unfold patternRule
  infer_instance

/-! ## Closures and control flow -/

instance stopsAt_expressionTokens : StopsAt c c' ts (expressionTokens g) (expressionTokens g) := by
  unfold expressionTokens
  infer_instance

instance stopsAt_headTokens : StopsAt c c' ts (headTokens g) (headTokens g) := by
  unfold headTokens
  infer_instance

instance likeTest_atExpression : LikeTest c c' atExpression := by
  unfold atExpression
  simp only [List.all_cons, List.all_nil, Bool.and_true]
  infer_instance

instance stopsAt_optExpression : StopsAt c c' ts (optExpression g) (optExpression g) := by
  unfold optExpression
  infer_instance

instance stopsAt_arrayRule : StopsAt c c' ts (arrayRule g) (arrayRule g) := by
  unfold arrayRule
  infer_instance

instance stopsAt_pathPhrase (allowStruct : Bool) :
    StopsAt c c' ts (pathPhrase g allowStruct) (pathPhrase g allowStruct) := by
  unfold pathPhrase
  infer_instance

instance stopsAt_closureParam : StopsAt c c' ts (closureParam g) (closureParam g) := by
  unfold closureParam
  infer_instance

instance stopsAt_closure (allowStruct : Bool) :
    StopsAt c c' ts (closure g allowStruct) (closure g allowStruct) := by
  unfold closure
  infer_instance

instance stopsAt_ifRule : StopsAt c c' ts (ifRule g) (ifRule g) := by
  unfold ifRule
  infer_instance

instance stopsAt_whileRule : StopsAt c c' ts (whileRule g) (whileRule g) := by
  unfold whileRule
  infer_instance

instance stopsAt_forRule : StopsAt c c' ts (forRule g) (forRule g) := by
  unfold forRule
  infer_instance

instance stopsAt_loopRule : StopsAt c c' ts (loopRule g) (loopRule g) := by
  unfold loopRule
  infer_instance

instance stopsAt_matchRule : StopsAt c c' ts (matchRule g) (matchRule g) := by
  unfold matchRule
  infer_instance

instance stopsAt_letRule (allowStruct : Bool) :
    StopsAt c c' ts (letRule g allowStruct) (letRule g allowStruct) := by
  unfold letRule
  infer_instance

instance stopsAt_breakRule (allowStruct : Bool) :
    StopsAt c c' ts (breakRule g allowStruct) (breakRule g allowStruct) := by
  unfold breakRule
  infer_instance

instance stopsAt_labeled : StopsAt c c' ts (labeled g) (labeled g) := by
  unfold labeled
  infer_instance

instance stopsAt_unsafeBlock : StopsAt c c' ts (unsafeBlock g) (unsafeBlock g) := by
  unfold unsafeBlock
  infer_instance

instance stopsAt_tryBlock : StopsAt c c' ts (tryBlock g) (tryBlock g) := by
  unfold tryBlock
  infer_instance

instance stopsAt_asyncBlock : StopsAt c c' ts (asyncBlock g) (asyncBlock g) := by
  unfold asyncBlock
  infer_instance

/-! ## Operators -/

variable (c c') in
theorem binaryOperator?_like (ts : List Token) :
    binaryOperator? (ts ++ c') = binaryOperator? (ts ++ c) := by
  refine find?_congr fun op hop => ?_
  have hop : Commaless op.1 := commaless_of_operator hop
  exact (likeTest_atSign op.1).like ts

instance likeTest_atAssign : LikeTest c c' atAssign := by
  unfold atAssign
  infer_instance

variable (c c') in
theorem nextStrength_like (ts : List Token) : nextStrength (ts ++ c') = nextStrength (ts ++ c) := by
  have hassign : atAssign (ts ++ c') = atAssign (ts ++ c) := LikeTest.like ts
  have hdots : atSign ".." (ts ++ c') = atSign ".." (ts ++ c) := LikeTest.like ts
  have has : atWord "as" (ts ++ c') = atWord "as" (ts ++ c) := LikeTest.like ts
  unfold nextStrength
  rw [binaryOperator?_like c c', hassign, hdots, has]

theorem suffix_of_tighten {allowStruct : Bool} {strength : Nat} {ts fuel : List Token}
    {right x : Phrase} {l : Option Delimiter} {j : Input} (hfuel : ts.length ≤ fuel.length)
    (h : tighten g allowStruct strength fuel right ⟨ts, l⟩ = .ok (x, j)) : j.tokens <:+ ts := by
  have hcarries : tighten g allowStruct strength fuel right ⟨ts ++ [], l⟩ =
      .ok (x, ⟨j.tokens ++ [], j.leftover⟩) ∧ j.tokens <:+ ts :=
    carries_tighten allowStruct strength hfuel (Nat.le_refl _) h
  exact hcarries.2

/-- While the end is ahead, the same operators take the operand. -/
theorem stops_tighten (allowStruct : Bool) (strength : Nat) {fuel fuel' : List Token}
    {right x : Phrase} {l : Option Delimiter} {j : Input}
    (hfuel : (ts ++ c).length ≤ fuel.length) (hmore : fuel.length ≤ fuel'.length)
    (h : tighten g allowStruct strength fuel right ⟨ts ++ c, l⟩ = .ok (x, j))
    (hj : j.tokens ≠ []) :
    ∃ us, j.tokens = us ++ c ∧
      tighten g allowStruct strength fuel' right ⟨ts ++ c', l⟩ =
        .ok (x, ⟨us ++ c', j.leftover⟩) := by
  -- on the steps that are left: the end is one more token, so they do not run out before it
  induction fuel generalizing fuel' ts right l with
  | nil =>
    rw [List.length_append, (length_end c c').1] at hfuel
    cases hfuel
  | cons t fuel ih =>
    cases fuel' with
    | nil => simp at hmore
    | cons t' fuel' =>
      have hcoming : nextStrength (ts ++ c') = nextStrength (ts ++ c) :=
        nextStrength_like c c' ts
      cases htakes : takesOperand strength (nextStrength (ts ++ c)) with
      | false =>
        rw [tighten_of_weak htakes] at h
        cases h
        exact ⟨ts, rfl, tighten_of_weak (by rwa [hcoming]) _ _⟩
      | true =>
        obtain ⟨wider, k, hclimb⟩ := climb_of_tighten htakes h
        rw [tighten_of_strong htakes hclimb] at h
        have hclimbs : CarriesAt [] (ts ++ c)
            (g.climb right allowStruct (nextStrength (ts ++ c)))
            (g.climb right allowStruct (nextStrength (ts ++ c))) := inferInstance
        have hshort : k.tokens <:+ ts ++ c := (hclimbs.carries_nil hclimb).2
        have hsome : k.tokens ≠ [] := by
          intro hnil
          split at h
          · cases h
            exact hj hnil
          · obtain ⟨rest, l'⟩ := k
            obtain rfl : rest = [] := hnil
            exact hj (List.suffix_nil.mp (suffix_of_tighten (Nat.zero_le _) h))
        have hstops : StopsAt c c' ts (g.climb right allowStruct (nextStrength (ts ++ c)))
            (g.climb right allowStruct (nextStrength (ts ++ c))) := inferInstance
        obtain ⟨us, hus, hwider⟩ := hstops.stops hclimb hsome
        have hlengths : (us ++ c').length = (ts ++ c').length ↔
            k.tokens.length = (ts ++ c).length := by
          rw [hus]
          simp
        rw [tighten_of_strong (by rwa [hcoming]) (by rwa [hcoming])]
        split at h
        · rename_i hsame
          rw [if_pos (hlengths.mpr hsame)]
          cases h
          exact ⟨us, hus, rfl⟩
        · rename_i hother
          rw [if_neg (mt hlengths.mp hother)]
          have hshorter := hshort.length_le
          obtain ⟨rest, l'⟩ := k
          obtain rfl : rest = us ++ c := hus
          simp only [List.length_cons] at hfuel hmore hother
          refine ih ?_ (by omega) h
          dsimp only at hshorter hother
          omega

instance stopsAt_operand (allowStruct : Bool) (strength : Nat) :
    StopsAt c c' ts (operand g allowStruct strength) (operand g allowStruct strength) := by
  have htighten (ts' : List Token) (first : Phrase) : StopsAt c c' ts'
      (tighten g allowStruct strength (ts' ++ c) first)
      (tighten g allowStruct strength (ts' ++ c') first) := by
    refine ⟨fun h hj => stops_tighten allowStruct strength (Nat.le_refl _) ?_ h hj⟩
    have hlengths := length_end c c'
    rw [List.length_append, List.length_append]
    omega
  have hend (first : Phrase) : CarriesAt [] []
      (ahead >>= fun fuel => tighten g allowStruct strength fuel first)
      (ahead >>= fun fuel => tighten g allowStruct strength fuel first) :=
    ⟨fun h => carries_tighten (g := g) (c := []) allowStruct strength (Nat.le_refl _)
      (Nat.le_refl _) h⟩
  unfold operand
  infer_instance

instance stopsAt_limits : StopsAt c c' ts limits limits := by
  unfold limits
  infer_instance

instance likeTest_atRangeStop (allowStruct : Bool) : LikeTest c c' (atRangeStop allowStruct) := by
  unfold atRangeStop
  simp only [List.any_cons, List.any_nil]
  infer_instance

instance stopsAt_rangeBehind (start : List Token) (allowStruct : Bool) :
    StopsAt c c' ts (rangeBehind g start allowStruct) (rangeBehind g start allowStruct) := by
  unfold rangeBehind
  infer_instance

instance likeTest_atCall : LikeTest c c' atCall := by
  unfold atCall
  infer_instance

variable (c c') in
theorem refusedBehindCast_like (ts : List Token) :
    refusedBehindCast (ts ++ c') = refusedBehindCast (ts ++ c) := by
  have hdot : (atSign "." (ts ++ c') && !atSign ".." (ts ++ c')) =
      (atSign "." (ts ++ c) && !atSign ".." (ts ++ c)) := Agree.agree
  have hquestion : atSign "?" (ts ++ c') = atSign "?" (ts ++ c) := Agree.agree
  have hbracket : atGroup .bracket (ts ++ c') = atGroup .bracket (ts ++ c) := Agree.agree
  have hparen : atGroup .paren (ts ++ c') = atGroup .paren (ts ++ c) := Agree.agree
  unfold refusedBehindCast
  rw [hdot, hquestion, hbracket, hparen]
  split
  · rename_i hdotted
    have hne : ts ≠ [] := by
      rintro rfl
      have hfails : atSign "." c = false := FailsAt.fails c'
      simp [hfails] at hdotted
    obtain ⟨hbehind, hbehind'⟩ := behind_append_end c c' hne
    have hawait : atWord "await" (behind ts ++ c') = atWord "await" (behind ts ++ c) := Agree.agree
    have hcall : (atName (behind ts ++ c') && atCall (behind (behind ts ++ c'))) =
        (atName (behind ts ++ c) && atCall (behind (behind ts ++ c))) := Agree.agree
    unfold atCall at hcall
    dsimp only
    rw [hbehind, hbehind', hawait, hcall]
  · rfl

instance stopsAt_unlessRefused (cast : Phrase) :
    StopsAt c c' ts (unlessRefused cast) (unlessRefused cast) := by
  unfold unlessRefused
  refine stopsAt_ahead (h := ?_)
  rw [refusedBehindCast_like c c']
  split
  · infer_instance
  · infer_instance

instance stopsAt_castBehind (subject : Phrase) :
    StopsAt c c' ts (castBehind g subject) (castBehind g subject) := by
  rw [castBehind_eq]
  infer_instance

instance stopsAt_climbRule (left : Phrase) (allowStruct : Bool) (base : Nat) :
    StopsAt c c' ts (climbRule g left allowStruct base) (climbRule g left allowStruct base) := by
  unfold climbRule
  dsimp only
  refine @stopsAt_ite _ _ _ _ _ _ _ _ _ _ inferInstance (stopsAt_ahead (h := ?_))
  rw [binaryOperator?_like c c']
  split
  · infer_instance
  · infer_instance

/-! ## Atoms -/

instance likeTest_atPathStart : LikeTest c c' atPathStart := by
  unfold atPathStart
  infer_instance

instance likeTest_atAsyncBody : LikeTest c c' atAsyncBody := by
  unfold atAsyncBody
  infer_instance

instance likeTest_atAsyncBlock : LikeTest c c' atAsyncBlock := by
  change LikeTest c c' fun ts => atWord "async" ts && atAsyncBody (behind ts)
  infer_instance

instance likeTest_atClosure : LikeTest c c' atClosure := by
  change LikeTest c c' fun ts => atSign "|" ts || atWord "move" ts ||
    (atWord "for" ts && atGenerics (behind ts)) ||
    (atWord "const" ts && !atGroup .brace (behind ts)) || atWord "static" ts ||
    (atWord "async" ts && (atSign "|" (behind ts) || atWord "move" (behind ts)))
  infer_instance

instance stopsAt_literalPhrase : StopsAt c c' ts literalPhrase literalPhrase := by
  unfold literalPhrase
  refine @stopsAt_bind _ _ _ _ _ _ _ _ _ inferInstance (fun literal ts' => ?_) fun literal => ?_
  · split
    · infer_instance
    · infer_instance
  · split
    · infer_instance
    · infer_instance

section Choices

variable {b b' : Bool} [hb : Agree b b'] {r r' : Rule} {o o' : Option Rule}
  {f : Rule → Reader Phrase} {other other' : Reader Phrase}

instance stopsAt_elim_none [h : StopsAt c c' ts other other'] :
    StopsAt c c' ts ((none : Option Rule).elim other f) ((none : Option Rule).elim other' f) := h

instance stopsAt_elim_ite [StopsAt c c' ts (f r) (f r')]
    [StopsAt c c' ts (o.elim other f) (o'.elim other' f)] :
    StopsAt c c' ts ((if b then some r else o).elim other f)
      ((if b' then some r' else o').elim other' f) := by
  rw [hb.agree]
  cases b with
  | false => assumption
  | true => assumption

end Choices

instance stopsAt_blockOr {other other' : Reader Phrase} [StopsAt c c' ts other other'] :
    StopsAt c c' ts (blockOr g (ts ++ c) other) (blockOr g (ts ++ c') other') := by
  unfold blockOr blockLike?
  infer_instance

instance stopsAt_atom (allowStruct : Bool) :
    StopsAt c c' ts (atom g allowStruct) (atom g allowStruct) := by
  have hblocks : StopsAt c c' ts (blockOr g (ts ++ c) (forbid "expected an expression"))
    (blockOr g (ts ++ c') (forbid "expected an expression")) := inferInstance
  unfold atom
  refine stopsAt_ahead (h := ?_)
  dsimp only
  repeat refine @stopsAt_choice _ _ _ _ _ _ _ _ inferInstance _ _ inferInstance ?_
  rw [blockOr_eq, blockOr_eq] at hblocks
  exact hblocks

/-! ## Behind an atom -/

variable (c c') in
/-- No number begins at the end. -/
theorem numberNext?_append_end (accepts : String → Bool) (ts : List Token) :
    numberNext? accepts (ts ++ c) =
        (numberNext? accepts ts).map (fun found => (found.1, found.2 ++ c)) ∧
      numberNext? accepts (ts ++ c') =
        (numberNext? accepts ts).map fun found => (found.1, found.2 ++ c') := by
  refine ⟨numberNext?_append_of (fun text r heq => ?_) (fun joint r heq => ?_) accepts ts,
    numberNext?_append_of (fun text r heq => ?_) (fun joint r heq => ?_) accepts ts⟩
  · cases hc with
    | _ => cases heq
  · cases hc with
    | bodies inner inner' more => cases heq
    | signs d joint more hparts =>
      cases heq
      revert hparts
      simp [Parts]
  · cases hc with
    | _ => cases heq
  · cases hc with
    | bodies inner inner' more => cases heq
    | signs d joint more hparts =>
      cases heq
      revert hparts
      simp [Parts]

instance stopsAt_indexRule : StopsAt c c' ts indexRule indexRule := by
  unfold indexRule
  refine stopsAt_ahead (h := ?_)
  obtain ⟨hend, hend'⟩ :=
    numberNext?_append_end c c' (fun text => (integerValue? text).isSome) ts
  rw [integerNext?_eq, integerNext?_eq, hend, hend']
  cases numberNext? (fun text => (integerValue? text).isSome) ts with
  | none =>
    dsimp only [Option.map]
    infer_instance
  | some found =>
    dsimp only [Option.map]
    infer_instance

instance stopsAt_member : StopsAt c c' ts member member := by
  unfold member
  infer_instance

instance stopsAt_memberBehind : StopsAt c c' ts (memberBehind g) (memberBehind g) := by
  unfold memberBehind
  infer_instance

instance likeTest_atDot : LikeTest c c' atDot := by
  unfold atDot
  infer_instance

instance stopsAt_behindDot (dot : List Token) :
    StopsAt c c' ts (behindDot g dot) (behindDot g dot) := by
  unfold behindDot
  refine stopsAt_ahead (h := ?_)
  obtain ⟨hend, hend'⟩ := numberNext?_append_end c c' isFloat ts
  rw [floatNext?_eq, floatNext?_eq, hend, hend']
  cases numberNext? isFloat ts with
  | none =>
    dsimp only [Option.map]
    infer_instance
  | some found =>
    dsimp only [Option.map]
    infer_instance

instance stopsAt_dotBehind : StopsAt c c' ts (dotBehind g) (dotBehind g) := by
  rw [dotBehind_eq]
  infer_instance

instance stopsAt_trailers (subject : Phrase) :
    StopsAt c c' ts (trailers g subject) (trailers g subject) := by
  unfold trailers
  dsimp only
  infer_instance

/-! ## Before an atom -/

instance stopsAt_referencePhrase (allowStruct : Bool) :
    StopsAt c c' ts (referencePhrase g allowStruct) (referencePhrase g allowStruct) := by
  unfold referencePhrase
  dsimp only
  infer_instance

instance likeTest_atUnarySign : LikeTest c c' atUnarySign := by
  unfold atUnarySign
  infer_instance

instance stopsAt_unaryRule (allowStruct : Bool) :
    StopsAt c c' ts (unaryRule g allowStruct) (unaryRule g allowStruct) := by
  unfold unaryRule
  infer_instance

instance stopsAt_expressionRule (allowStruct : Bool) :
    StopsAt c c' ts (expressionRule g allowStruct) (expressionRule g allowStruct) := by
  unfold expressionRule
  infer_instance

/-! ## Every depth -/

theorem stopping_succ {n : Nat} (h : Stopping (grammar n)) : Stopping (grammar (n + 1)) where
  below := below_succ h.below
  type _ _ _ _ plus := stopsAt_typeRule plus
  bound _ _ _ _ capture const := stopsAt_boundRule capture const
  namedFields _ _ _ _ := stopsAt_namedFieldsRule
  expression _ _ _ _ allowStruct := stopsAt_expressionRule allowStruct
  unary _ _ _ _ allowStruct := stopsAt_unaryRule allowStruct
  climb _ _ _ _ left allowStruct base := stopsAt_climbRule left allowStruct base
  pattern _ _ _ _ := stopsAt_patternRule

instance stopping_grammar (n : Nat) : Stopping (grammar n) := by
  induction n with
  | zero =>
    exact {
      below := below_exhausted _
      type _ _ _ _ _ := stopsAt_forbid _ _
      bound _ _ _ _ _ _ := stopsAt_forbid _ _
      namedFields _ _ _ _ := stopsAt_forbid _ _
      expression _ _ _ _ _ := stopsAt_forbid _ _
      unary _ _ _ _ _ := stopsAt_forbid _ _
      climb _ _ _ _ _ _ _ := stopsAt_forbid _ _
      pattern _ _ _ _ := stopsAt_forbid _ _ }
  | succ n ih => exact stopping_succ ih

end MarkerInjection.Source
