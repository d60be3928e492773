-- The rules for patterns and expressions carry over as those for types do. Three of
-- them need more than their parts: a closure behind `for`, operators that take
-- operands by strength, and what a cast must not be followed by.
import MarkerInjection.Proofs.CarryingRules

namespace MarkerInjection.Source

set_option synthInstance.maxSize 4000

variable {c ts : List Token} [hc : EndsMember c] {g g' : Grammar} [Below g g']

/-! ## Patterns -/

instance steadyTest_atBar : SteadyTest c atBar := by
  unfold atBar
  infer_instance

instance carriesAt_alternatives : CarriesAt c ts (alternatives g) (alternatives g') := by
  unfold alternatives
  infer_instance

instance carriesAt_alternativeTokens :
    CarriesAt c ts (alternativeTokens g) (alternativeTokens g') := by
  unfold alternativeTokens
  infer_instance

instance carriesAt_patternList : CarriesAt [] ts (patternList g) (patternList g') := by
  unfold patternList
  infer_instance

instance carriesAt_block : CarriesAt c ts (block g) (block g') := by
  unfold block
  infer_instance

instance carriesAt_plainBlock : CarriesAt c ts (plainBlock g) (plainBlock g') := by
  unfold plainBlock
  infer_instance

instance carriesAt_constBlock : CarriesAt c ts (constBlock g) (constBlock g') := by
  unfold constBlock
  infer_instance

/-- The number that comes next if it is one of these, with its minus sign if it has one. -/
def numberNext? (accepts : String → Bool) : List Token → Option (String × List Token)
  | .literal text :: r => if accepts text then some (text, r) else none
  | .punct '-' _ :: .literal text :: r => if accepts text then some ("-" ++ text, r) else none
  | _ => none

theorem integerNext?_eq (ts : List Token) :
    integerNext? ts = numberNext? (fun text => (integerValue? text).isSome) ts := rfl

theorem numberNext?_eq_some {accepts : String → Bool} {found : String × List Token} :
    numberNext? accepts ts = some found ↔
      (∃ text r, ts = .literal text :: r ∧ accepts text = true ∧ found = (text, r)) ∨
      ∃ joint text r, ts = .punct '-' joint :: .literal text :: r ∧ accepts text = true ∧
        found = ("-" ++ text, r) := by
  constructor
  · intro h
    unfold numberNext? at h
    split at h
    · split at h
      · exact Or.inl ⟨_, _, rfl, by assumption, (Option.some.inj h).symm⟩
      · cases h
    · split at h
      · exact Or.inr ⟨_, _, _, rfl, by assumption, (Option.some.inj h).symm⟩
      · cases h
    · cases h
  · rintro (⟨text, r, rfl, haccepts, rfl⟩ | ⟨joint, text, r, rfl, haccepts, rfl⟩)
    · exact if_pos haccepts
    · exact if_pos haccepts

omit hc in
/-- A number is found where it is if none begins behind the tokens. -/
theorem numberNext?_append_of (hliteral : ∀ text r, c ≠ .literal text :: r)
    (hminus : ∀ joint r, c ≠ .punct '-' joint :: r) (accepts : String → Bool) (ts : List Token) :
    numberNext? accepts (ts ++ c) =
      (numberNext? accepts ts).map fun found => (found.1, found.2 ++ c) := by
  fun_cases numberNext? accepts ts with
  | case1 text r haccepts => exact if_pos haccepts
  | case2 text r haccepts => exact if_neg haccepts
  | case3 joint text r haccepts => exact if_pos haccepts
  | case4 joint text r haccepts => exact if_neg haccepts
  | case5 _ hnone hnone' =>
    refine Option.eq_none_iff_forall_ne_some.mpr fun found hfound => ?_
    obtain ⟨text, r, heq, -⟩ | ⟨joint, text, r, heq, -⟩ := numberNext?_eq_some.mp hfound
    · cases ts with
      | nil => exact hliteral _ _ heq
      | cons t r' =>
        cases heq
        exact hnone _ _ rfl
    · rcases ts with _ | ⟨t, _ | ⟨u, r'⟩⟩
      · exact hminus _ _ heq
      · exact hliteral _ _ (List.cons.inj heq).2
      · cases heq
        exact hnone' _ _ _ rfl

/-- A number is found where it is, and what is behind it is an end of the tokens. -/
theorem numberNext?_append (accepts : String → Bool) (ts : List Token) :
    numberNext? accepts (ts ++ c) =
      (numberNext? accepts ts).map fun found => (found.1, found.2 ++ c) := by
  refine numberNext?_append_of (fun text r heq => ?_) (fun joint r heq => ?_) accepts ts
  · cases hc with
    | _ => cases heq
  · cases hc with
    | _ => cases heq

theorem suffix_of_numberNext? {accepts : String → Bool} {text : String} {r : List Token}
    (h : numberNext? accepts ts = some (text, r)) : r <:+ ts := by
  obtain ⟨text', r', rfl, -, heq⟩ | ⟨joint, text', r', rfl, -, heq⟩ := numberNext?_eq_some.mp h
  · cases heq
    exact List.suffix_cons _ _
  · cases heq
    exact (List.suffix_cons _ _).trans (List.suffix_cons _ _)

instance carriesAt_indexRule : CarriesAt c ts indexRule indexRule := by
  unfold indexRule
  refine carriesAt_ahead (h := ?_)
  rw [integerNext?_eq, integerNext?_eq, numberNext?_append]
  split
  · rename_i text r hinteger
    have hgo := carriesAt_goTo_of_suffix (c := c) (suffix_of_numberNext? hinteger)
    rw [hinteger]
    dsimp only [Option.map]
    infer_instance
  · infer_instance

instance carriesAt_member : CarriesAt c ts member member := by
  unfold member
  infer_instance

instance carriesAt_patternLimits : CarriesAt c ts patternLimits patternLimits := by
  unfold patternLimits
  infer_instance

instance steadyTest_atBoundEnd : SteadyTest c atBoundEnd := by
  refine steadyTest_of_stop (fun t r => ?_) rfl fun joint more => rfl
  have hempty : Agree (t :: r).isEmpty (t :: r ++ c).isEmpty := ⟨rfl⟩
  have hcomma := agree_comma_cons t r c
  unfold atBoundEnd
  exact (inferInstance : Agree _ _).agree

instance carriesAt_rangeBound : CarriesAt c ts (rangeBound g) (rangeBound g') := by
  unfold rangeBound
  infer_instance

instance carriesAt_rangeFrom (start : List Token) :
    CarriesAt c ts (rangeFrom g start) (rangeFrom g' start) := by
  unfold rangeFrom
  infer_instance

instance carriesAt_rangeUpTo : CarriesAt c ts (rangeUpTo g) (rangeUpTo g') := by
  unfold rangeUpTo
  infer_instance

instance carriesAt_fieldPattern : CarriesAt [] ts (fieldPattern g) (fieldPattern g') := by
  unfold fieldPattern
  infer_instance

instance carriesAt_fieldPatterns : CarriesAt [] ts (fieldPatterns g) (fieldPatterns g') := by
  unfold fieldPatterns
  infer_instance

instance carriesAt_pathPattern : CarriesAt c ts (pathPattern g) (pathPattern g') := by
  unfold pathPattern
  infer_instance

instance carriesAt_literalPattern : CarriesAt c ts (literalPattern g) (literalPattern g') := by
  unfold literalPattern
  infer_instance

instance carriesAt_namePattern : CarriesAt c ts (namePattern g) (namePattern g') := by
  unfold namePattern
  dsimp only
  infer_instance

instance carriesAt_referencePattern :
    CarriesAt c ts (referencePattern g) (referencePattern g') := by
  unfold referencePattern
  infer_instance

instance carriesAt_slicePattern : CarriesAt c ts (slicePattern g) (slicePattern g') := by
  unfold slicePattern
  infer_instance

/-- What stands behind the name that begins a pattern, unless the name is all of it. -/
def atPathSign (ts : List Token) : Bool :=
  atSign "::" ts || atSign "!" ts || atGroup .brace ts || atGroup .paren ts || atSign ".." ts

instance steadyTest_atPathSign : SteadyTest c atPathSign := by
  unfold atPathSign
  infer_instance

instance steadyTest_atPathPattern : SteadyTest c atPathPattern := by
  change SteadyTest c fun ts => (atName ts && atPathSign (behind ts)) ||
    (atWord "self" ts && atSign "::" (behind ts)) || atSign "::" ts || atSign "<" ts ||
    atWord "Self" ts || atWord "super" ts || atWord "crate" ts
  infer_instance

instance carriesAt_patternRule : CarriesAt c ts (patternRule g) (patternRule g') := by
  unfold patternRule
  infer_instance

/-! ## Lists of expressions -/

instance carriesAt_expressionTokens :
    CarriesAt c ts (expressionTokens g) (expressionTokens g') := by
  unfold expressionTokens
  infer_instance

instance carriesAt_headTokens : CarriesAt c ts (headTokens g) (headTokens g') := by
  unfold headTokens
  infer_instance

instance steadyTest_atExpression : SteadyTest c atExpression := by
  unfold atExpression
  simp only [List.all_cons, List.all_nil, Bool.and_true]
  infer_instance

instance carriesAt_optExpression : CarriesAt c ts (optExpression g) (optExpression g') := by
  unfold optExpression
  infer_instance

instance carriesAt_fieldValue : CarriesAt [] ts (fieldValue g) (fieldValue g') := by
  unfold fieldValue
  infer_instance

instance carriesAt_fieldValues : CarriesAt [] ts (fieldValues g) (fieldValues g') := by
  unfold fieldValues
  infer_instance

instance carriesAt_arrayRule : CarriesAt c ts (arrayRule g) (arrayRule g') := by
  unfold arrayRule
  infer_instance

instance carriesAt_pathPhrase (allowStruct : Bool) :
    CarriesAt c ts (pathPhrase g allowStruct) (pathPhrase g' allowStruct) := by
  unfold pathPhrase
  infer_instance

/-! ## Closures and control flow -/

instance carriesAt_closureParam : CarriesAt c ts (closureParam g) (closureParam g') := by
  unfold closureParam
  infer_instance

instance carriesAt_closure (allowStruct : Bool) :
    CarriesAt c ts (closure g allowStruct) (closure g' allowStruct) := by
  unfold closure
  infer_instance

instance carriesAt_ifRule : CarriesAt c ts (ifRule g) (ifRule g') := by
  unfold ifRule
  infer_instance

instance carriesAt_whileRule : CarriesAt c ts (whileRule g) (whileRule g') := by
  unfold whileRule
  infer_instance

instance carriesAt_forRule : CarriesAt c ts (forRule g) (forRule g') := by
  unfold forRule
  infer_instance

instance carriesAt_loopRule : CarriesAt c ts (loopRule g) (loopRule g') := by
  unfold loopRule
  infer_instance

instance carriesAt_arm : CarriesAt [] ts (arm g) (arm g') := by
  unfold arm
  dsimp only
  infer_instance

instance carriesAt_matchRule : CarriesAt c ts (matchRule g) (matchRule g') := by
  unfold matchRule
  infer_instance

instance carriesAt_letRule (allowStruct : Bool) :
    CarriesAt c ts (letRule g allowStruct) (letRule g' allowStruct) := by
  unfold letRule
  infer_instance

instance carriesAt_breakRule (allowStruct : Bool) :
    CarriesAt c ts (breakRule g allowStruct) (breakRule g' allowStruct) := by
  unfold breakRule
  infer_instance

instance carriesAt_labeled : CarriesAt c ts (labeled g) (labeled g') := by
  unfold labeled
  infer_instance

instance carriesAt_unsafeBlock : CarriesAt c ts (unsafeBlock g) (unsafeBlock g') := by
  unfold unsafeBlock
  infer_instance

instance carriesAt_tryBlock : CarriesAt c ts (tryBlock g) (tryBlock g') := by
  unfold tryBlock
  infer_instance

instance carriesAt_asyncBlock : CarriesAt c ts (asyncBlock g) (asyncBlock g') := by
  unfold asyncBlock
  infer_instance

/-! ## Operators -/

theorem find?_congr {α : Type} {p q : α → Bool} {l : List α} (h : ∀ x ∈ l, p x = q x) :
    l.find? p = l.find? q := by
  induction l with
  | nil => rfl
  | cons x l ih =>
    rw [List.find?_cons, List.find?_cons, h x List.mem_cons_self,
      ih fun y hy => h y (List.mem_cons_of_mem x hy)]

theorem commaless_of_operator {op : String × Nat} (hop : op ∈ binaryOperators) :
    Commaless op.1 := by
  have hcommaless : ∀ op ∈ binaryOperators, ',' ∉ op.1.toList ∧ ';' ∉ op.1.toList.dropLast := by
    decide
  exact ⟨(hcommaless op hop).1, (hcommaless op hop).2⟩

theorem binaryOperator?_append (ts : List Token) :
    binaryOperator? (ts ++ c) = binaryOperator? ts := by
  refine find?_congr fun op hop => ?_
  have hop : Commaless op.1 := commaless_of_operator hop
  exact (steadyTest_atSign op.1).steady ts

instance steadyTest_atAssign : SteadyTest c atAssign := by
  unfold atAssign
  infer_instance

theorem nextStrength_append (ts : List Token) : nextStrength (ts ++ c) = nextStrength ts := by
  have hassign : atAssign (ts ++ c) = atAssign ts := SteadyTest.steady ts
  have hdots : atSign ".." (ts ++ c) = atSign ".." ts := SteadyTest.steady ts
  have has : atWord "as" (ts ++ c) = atWord "as" ts := SteadyTest.steady ts
  unfold nextStrength
  rw [binaryOperator?_append, hassign, hdots, has]

/-- Stronger operators take the operand first; assignments also take one of their own strength. -/
def takesOperand (strength coming : Nat) : Bool :=
  coming > strength || (coming == strength && strength == Strength.assign)

theorem tighten_cons (g : Grammar) (allowStruct : Bool) (strength : Nat) (t : Token)
    (more : List Token) (right : Phrase) :
    tighten g allowStruct strength (t :: more) right = (do
      let ts ← ahead
      if takesOperand strength (nextStrength ts) then
        let wider ← g.climb right allowStruct (nextStrength ts)
        let rest ← ahead
        if rest.length == ts.length then return wider
        tighten g allowStruct strength more wider
      else return right) := rfl

/-- Where no stronger operator comes, the operand is whole. -/
theorem tighten_of_weak {allowStruct : Bool} {strength : Nat} {i : Input}
    (hweak : takesOperand strength (nextStrength i.tokens) = false) (fuel : List Token)
    (right : Phrase) : tighten g allowStruct strength fuel right i = .ok (right, i) := by
  cases fuel with
  | nil => rfl
  | cons t more =>
    rw [tighten_cons]
    change (if takesOperand strength (nextStrength i.tokens) then _ else _ : Reader Phrase) _ = _
    rw [hweak]
    rfl

/-- Where a stronger operator comes, it takes the operand first. It stops where that takes no
token. -/
theorem tighten_of_strong {allowStruct : Bool} {strength : Nat} {i k : Input}
    {right wider : Phrase} (hstrong : takesOperand strength (nextStrength i.tokens) = true)
    (hclimb : g.climb right allowStruct (nextStrength i.tokens) i = .ok (wider, k))
    (t : Token) (more : List Token) :
    tighten g allowStruct strength (t :: more) right i =
      if k.tokens.length = i.tokens.length then .ok (wider, k)
      else tighten g allowStruct strength more wider k := by
  rw [tighten_cons]
  change (if takesOperand strength (nextStrength i.tokens) then _ else _ : Reader Phrase) _ = _
  rw [if_pos hstrong, run_bind_of_ok hclimb]
  change (if k.tokens.length == i.tokens.length then _ else _ : Reader Phrase) _ = _
  by_cases hsame : k.tokens.length = i.tokens.length
  · rw [if_pos hsame, if_pos (beq_iff_eq.mpr hsame)]
    rfl
  · rw [if_neg hsame, if_neg (mt beq_iff_eq.mp hsame)]

theorem climb_of_tighten {allowStruct : Bool} {strength : Nat} {i j : Input}
    {t : Token} {more : List Token} {right x : Phrase}
    (hstrong : takesOperand strength (nextStrength i.tokens) = true)
    (h : tighten g allowStruct strength (t :: more) right i = .ok (x, j)) :
    ∃ wider k, g.climb right allowStruct (nextStrength i.tokens) i = .ok (wider, k) := by
  rw [tighten_cons] at h
  change (if takesOperand strength (nextStrength i.tokens) then _ else _ : Reader Phrase) _ = _ at h
  rw [if_pos hstrong] at h
  obtain ⟨wider, k, hclimb, -⟩ := ok_of_run_bind h
  exact ⟨wider, k, hclimb⟩

/-- Nothing is joined to an operand where the tokens end. -/
theorem tighten_of_end (allowStruct : Bool) (strength : Nat) (fuel : List Token) (right : Phrase)
    (l : Option Delimiter) :
    tighten g allowStruct strength fuel right ⟨c, l⟩ = .ok (right, ⟨c, l⟩) := by
  have hlowest : nextStrength c = Strength.lowest := nextStrength_append (c := c) []
  have hnone : takesOperand strength (nextStrength c) = false := by
    rw [hlowest]
    unfold takesOperand
    cases strength with
    | _ => simp [Strength.lowest, Strength.assign]
  exact tighten_of_weak hnone fuel right

/-- Every operand that is joined takes tokens, so there are enough steps for all of them. -/
theorem carries_tighten (allowStruct : Bool) (strength : Nat) {fuel fuel' : List Token}
    {right x : Phrase} {l : Option Delimiter} {j : Input} (hfuel : ts.length ≤ fuel.length)
    (hmore : fuel.length ≤ fuel'.length)
    (h : tighten g allowStruct strength fuel right ⟨ts, l⟩ = .ok (x, j)) :
    tighten g' allowStruct strength fuel' right ⟨ts ++ c, l⟩ =
      .ok (x, ⟨j.tokens ++ c, j.leftover⟩) ∧ j.tokens <:+ ts := by
  induction fuel generalizing fuel' ts right l with
  | nil =>
    obtain rfl : ts = [] := by simpa using hfuel
    cases h
    rw [List.nil_append]
    exact ⟨tighten_of_end allowStruct strength fuel' _ _, List.suffix_rfl⟩
  | cons t fuel ih =>
    cases fuel' with
    | nil => simp at hmore
    | cons t' fuel' =>
      have hcoming : nextStrength (ts ++ c) = nextStrength ts := nextStrength_append ts
      cases htakes : takesOperand strength (nextStrength ts) with
      | false =>
        rw [tighten_of_weak htakes] at h
        cases h
        exact ⟨tighten_of_weak (by rwa [hcoming]) _ _, List.suffix_rfl⟩
      | true =>
        obtain ⟨wider, k, hclimb⟩ := climb_of_tighten htakes h
        have hclimbs : CarriesAt c ts (g.climb right allowStruct (nextStrength ts))
            (g'.climb right allowStruct (nextStrength ts)) := inferInstance
        obtain ⟨hwider, hshort⟩ := hclimbs.carries hclimb
        rw [tighten_of_strong htakes hclimb] at h
        rw [tighten_of_strong (by rwa [hcoming]) (by rwa [hcoming])]
        have hlength : (k.tokens ++ c).length = (ts ++ c).length ↔
            k.tokens.length = ts.length := by simp
        split at h
        · rename_i hsame
          rw [if_pos (hlength.mpr hsame)]
          cases h
          exact ⟨rfl, hshort⟩
        · rename_i hother
          rw [if_neg (mt hlength.mp hother)]
          have hshorter := hshort.length_le
          simp only [List.length_cons] at hfuel hmore hother
          have hleft : k.tokens.length ≤ fuel.length := by omega
          have hothers : fuel.length ≤ fuel'.length := by omega
          obtain ⟨hrest, hsuffix⟩ := ih hleft hothers h
          exact ⟨hrest, hsuffix.trans hshort⟩

instance carriesAt_operand (allowStruct : Bool) (strength : Nat) :
    CarriesAt c ts (operand g allowStruct strength) (operand g' allowStruct strength) := by
  have htighten (ts' : List Token) (first : Phrase) : CarriesAt c ts'
      (tighten g allowStruct strength ts' first)
      (tighten g' allowStruct strength (ts' ++ c) first) :=
    ⟨fun h => carries_tighten allowStruct strength (Nat.le_refl _) (by simp) h⟩
  unfold operand
  infer_instance

instance carriesAt_limits : CarriesAt c ts limits limits := by
  unfold limits
  infer_instance

instance steadyTest_atRangeStop (allowStruct : Bool) :
    SteadyTest c (atRangeStop allowStruct) := by
  refine steadyTest_of_stop (fun t r => ?_) rfl fun joint more => ?_
  · have hempty : Agree (t :: r).isEmpty (t :: r ++ c).isEmpty := ⟨rfl⟩
    have hcomma := agree_comma_cons t r c
    unfold atRangeStop
    simp only [List.any_cons, List.any_nil]
    exact (inferInstance : Agree _ _).agree
  · unfold atRangeStop
    rw [Bool.or_eq_true]
    exact Or.inr (List.any_eq_true.mpr ⟨",", List.mem_cons_self, rfl⟩)

instance carriesAt_rangeBehind (start : List Token) (allowStruct : Bool) :
    CarriesAt c ts (rangeBehind g start allowStruct) (rangeBehind g' start allowStruct) := by
  unfold rangeBehind
  infer_instance

/-- What makes a member behind a dot a method. -/
def atCall (ts : List Token) : Bool := atGroup .paren ts || atSign "::" ts

instance steadyTest_atCall : SteadyTest c atCall := by
  unfold atCall
  infer_instance

theorem refusedBehindCast_append (ts : List Token) :
    refusedBehindCast (ts ++ c) = refusedBehindCast ts := by
  have hdot : (atSign "." (ts ++ c) && !atSign ".." (ts ++ c)) =
      (atSign "." ts && !atSign ".." ts) := Agree.agree
  have hquestion : atSign "?" (ts ++ c) = atSign "?" ts := Agree.agree
  have hbracket : atGroup .bracket (ts ++ c) = atGroup .bracket ts := Agree.agree
  have hparen : atGroup .paren (ts ++ c) = atGroup .paren ts := Agree.agree
  unfold refusedBehindCast
  rw [hdot, hquestion, hbracket, hparen]
  split
  · rename_i hdotted
    have hne : ts ≠ [] := by
      rintro rfl
      cases hdotted
    have hawait : atWord "await" (behind ts ++ c) = atWord "await" (behind ts) := Agree.agree
    have hcall : (atName (behind ts ++ c) && atCall (behind (behind ts ++ c))) =
        (atName (behind ts) && atCall (behind (behind ts))) := Agree.agree
    unfold atCall at hcall
    dsimp only
    rw [behind_append hne, hawait, hcall]
  · rfl

/-- A cast, if nothing follows that must not follow one. -/
def unlessRefused (cast : Phrase) : Reader Phrase := do
  match refusedBehindCast (← ahead) with
  | some what => forbid ("casts cannot be followed by " ++ what)
  | none => return cast

theorem castBehind_eq (g : Grammar) (subject : Phrase) : castBehind g subject = (do
    let word ← takeWord "as"
    let type ← g.type false
    unlessRefused ⟨subject.tokens ++ word ++ type.tokens, .other, subject.keptHead⟩) := rfl

instance carriesAt_unlessRefused (cast : Phrase) :
    CarriesAt c ts (unlessRefused cast) (unlessRefused cast) := by
  unfold unlessRefused
  refine carriesAt_ahead (h := ?_)
  rw [refusedBehindCast_append]
  split
  · infer_instance
  · infer_instance

instance carriesAt_castBehind (subject : Phrase) :
    CarriesAt c ts (castBehind g subject) (castBehind g' subject) := by
  rw [castBehind_eq, castBehind_eq]
  infer_instance

instance carriesAt_climbRule (left : Phrase) (allowStruct : Bool) (base : Nat) :
    CarriesAt c ts (climbRule g left allowStruct base) (climbRule g' left allowStruct base) := by
  unfold climbRule
  dsimp only
  refine @carriesAt_ite _ _ _ _ _ _ _ _ _ inferInstance (carriesAt_ahead (h := ?_))
  rw [binaryOperator?_append]
  split
  · infer_instance
  · infer_instance

/-! ## Atoms -/

instance steadyTest_atPathStart : SteadyTest c atPathStart := by
  unfold atPathStart
  infer_instance

/-- What makes a block asynchronous behind its `async`. -/
def atAsyncBody (ts : List Token) : Bool :=
  atGroup .brace ts || (atWord "move" ts && atGroup .brace (behind ts))

instance steadyTest_atAsyncBody : SteadyTest c atAsyncBody := by
  unfold atAsyncBody
  infer_instance

instance steadyTest_atAsyncBlock : SteadyTest c atAsyncBlock := by
  change SteadyTest c fun ts => atWord "async" ts && atAsyncBody (behind ts)
  infer_instance

instance carriesAt_literalPhrase : CarriesAt c ts literalPhrase literalPhrase := by
  unfold literalPhrase
  refine @carriesAt_bind _ _ _ _ _ _ _ _ inferInstance fun literal ts' => ?_
  split
  · infer_instance
  · infer_instance

section Choices

variable {b b' : Bool} [hb : Agree b b'] {r r' : Rule} {o o' : Option Rule}
  {f : Rule → Reader Phrase} {other other' : Reader Phrase}

instance carriesAt_elim_none [h : CarriesAt c ts other other'] :
    CarriesAt c ts ((none : Option Rule).elim other f) ((none : Option Rule).elim other' f) := h

instance carriesAt_elim_ite [CarriesAt c ts (f r) (f r')]
    [CarriesAt c ts (o.elim other f) (o'.elim other' f)] :
    CarriesAt c ts ((if b then some r else o).elim other f)
      ((if b' then some r' else o').elim other' f) := by
  rw [hb.agree]
  cases b with
  | false => assumption
  | true => assumption

end Choices

/-- A form that ends a statement by itself, or else what the other reader reads. -/
def blockOr (g : Grammar) (ts : List Token) (other : Reader Phrase) : Reader Phrase :=
  (blockLike? g ts).elim other fun r => return blockPhrase (← r)

theorem blockOr_eq (g : Grammar) (ts : List Token) (other : Reader Phrase) :
    blockOr g ts other = match blockLike? g ts with
      | some r => return blockPhrase (← r)
      | none => other := by
  unfold blockOr
  cases blockLike? g ts with
  | _ => rfl

instance carriesAt_blockOr {other other' : Reader Phrase} [CarriesAt c ts other other'] :
    CarriesAt c ts (blockOr g ts other) (blockOr g' (ts ++ c) other') := by
  unfold blockOr blockLike?
  infer_instance

/-- What stands behind the name of a parameter. -/
def atParamEnd (ts : List Token) : Bool :=
  atSign ">" ts || atSign "," ts || (atSign ":" ts && !atSign "::" ts) || atSign "=" ts

/-- What stands behind the opening bracket of parameters. -/
def atParam (ts : List Token) : Bool :=
  atSign ">" ts || atSign "#" ts || ((atLifetime ts || atName ts) && atParamEnd (behind ts)) ||
    atWord "const" ts

theorem atGenerics_eq (ts : List Token) :
    atGenerics ts = (atSign "<" ts && atParam (behind ts)) := rfl

theorem atName_iff {ts : List Token} :
    atName ts = true ↔ ∃ w r, ts = .ident w :: r ∧ reservedWords.contains w = false := by
  constructor
  · intro h
    unfold atName at h
    split at h
    · exact ⟨_, _, rfl, by simpa using h⟩
    · cases h
  · rintro ⟨w, r, rfl, hw⟩
    change (!reservedWords.contains w) = true
    rw [hw]
    rfl

/-- A lifetime or a name is no parameter yet where the tokens end behind it. -/
theorem atParam_of_last {ts : List Token} (hnamed : atLifetime ts || atName ts)
    (hbehind : behind ts = []) :
    atParam ts = false ∧ ∀ d inner, Token.group d inner ∉ ts := by
  rw [Bool.or_eq_true] at hnamed
  rcases hnamed with hlifetime | hname
  · obtain ⟨w, r, rfl⟩ := atLifetime_iff.mp hlifetime
    obtain rfl : r = [] := hbehind
    exact ⟨rfl, by simp⟩
  · obtain ⟨w, r, rfl, hw⟩ := atName_iff.mp hname
    obtain rfl : r = [] := hbehind
    have hword : (w == "const") = false := by
      rw [beq_eq_false_iff_ne]
      rintro rfl
      revert hw
      decide
    refine ⟨?_, by simp⟩
    change (false || false || ((false || atName [.ident w]) && false) || w == "const") = false
    rw [hword, Bool.and_false]
    rfl

/-- A comma may show that a name stands for a parameter, but only behind a name that is the last
token. -/
theorem atParam_append (ts : List Token) : atParam (ts ++ c) = atParam ts ∨
    (atParam ts = false ∧ ∀ d inner, Token.group d inner ∉ ts) := by
  have hgreater : atSign ">" (ts ++ c) = atSign ">" ts := Agree.agree
  have hhash : atSign "#" (ts ++ c) = atSign "#" ts := Agree.agree
  have hconst : atWord "const" (ts ++ c) = atWord "const" ts := Agree.agree
  have hhead : (atLifetime (ts ++ c) || atName (ts ++ c)) = (atLifetime ts || atName ts) :=
    Agree.agree
  cases hnamed : atLifetime ts || atName ts with
  | false =>
    left
    unfold atParam
    rw [hgreater, hhash, hconst, hhead, hnamed, Bool.false_and, Bool.false_and]
  | true =>
    have hne : ts ≠ [] := by
      rintro rfl
      cases hnamed
    cases hbehind : behind ts with
    | cons t r =>
      have hcomma := agree_comma_cons t r c
      have hend : atParamEnd (t :: r ++ c) = atParamEnd (t :: r) := by
        unfold atParamEnd
        exact (inferInstance : Agree _ _).agree
      left
      unfold atParam
      rw [hgreater, hhash, hconst, hhead, behind_append hne, hbehind, hend]
    | nil => exact Or.inr (atParam_of_last hnamed hbehind)

theorem exists_of_atWord {w : String} {ts : List Token} (hts : atWord w ts = true) :
    ∃ r, ts = .ident w :: r := by
  unfold atWord at hts
  split at hts
  · rw [beq_iff_eq] at hts
    exact ⟨_, by rw [hts]⟩
  · cases hts

theorem eq_of_startsSign {c : Char} {ts : List Token} (hs : startsSign [c] ts = true) :
    ∃ joint r, ts = .punct c joint :: r := by
  cases ts with
  | nil => cases hs
  | cons t r =>
    cases t with
    | punct d joint =>
      simp only [startsSign, Bool.and_eq_true, beq_iff_eq] at hs
      obtain ⟨rfl, -⟩ := hs
      exact ⟨joint, r, rfl⟩
    | _ => cases hs

theorem atGenerics_append (ts : List Token) : atGenerics (ts ++ c) = atGenerics ts ∨
    (atGenerics ts = false ∧ ∀ d inner, Token.group d inner ∉ ts) := by
  rw [atGenerics_eq, atGenerics_eq, show atSign "<" (ts ++ c) = atSign "<" ts from Agree.agree]
  cases hless : atSign "<" ts with
  | false => exact Or.inl rfl
  | true =>
    obtain ⟨joint, r, rfl⟩ := eq_of_startsSign (c := '<') hless
    rw [Bool.true_and, Bool.true_and]
    exact (atParam_append r).imp_right fun ⟨hparam, hnone⟩ => ⟨hparam, by simpa using hnone⟩

/-- A loop has a block, so there is one where a loop is read. -/
theorem exists_group_of_forRule (g' : Grammar) [Below g g'] {l : Option Delimiter}
    {x : List Token} {j : Input} (h : forRule g ⟨ts, l⟩ = .ok (x, j)) :
    ∃ d inner, Token.group d inner ∈ ts := by
  have hhead : CarriesAt [] ts
      (takeWord "for" ++ alternativeTokens g ++ takeWord "in" ++ headTokens g)
      (takeWord "for" ++ alternativeTokens g' ++ takeWord "in" ++ headTokens g') := inferInstance
  obtain ⟨y, k, hy, h⟩ := ok_of_run_bind h
  obtain ⟨z, k', hblock, -⟩ := ok_of_run_bind h
  obtain ⟨inside, k'', hinside, -⟩ := ok_of_run_bind hblock
  obtain ⟨inner, rest, -, -, -, hk, -⟩ := ok_of_insideThen hinside
  exact ⟨.brace, inner, (hhead.carries hy).2.mem (hk ▸ List.mem_cons_self)⟩

theorem atom_of_for (allowStruct : Bool) {s : List Token} (hgenerics : atGenerics s = false)
    (l : Option Delimiter) : atom g allowStruct ⟨.ident "for" :: s, l⟩ =
      (forRule g >>= fun x => pure (blockPhrase x) : Reader Phrase) ⟨.ident "for" :: s, l⟩ := by
  have hclosure : atClosure (.ident "for" :: s) = false := by
    change (_ || _ || (true && atGenerics s) || _ || _ || _) = false
    rw [hgenerics]
    rfl
  unfold atom
  change (if atClosure (.ident "for" :: s) then _ else _ : Reader Phrase) _ = _
  rw [hclosure]
  rfl

theorem atClosure_eq (ts : List Token) : atClosure ts =
    (atSign "|" ts || atWord "move" ts || (atWord "for" ts && atGenerics (behind ts)) ||
      (atWord "const" ts && !atGroup .brace (behind ts)) || atWord "static" ts ||
      (atWord "async" ts && (atSign "|" (behind ts) || atWord "move" (behind ts)))) := rfl

theorem carriesAt_atom_of_agree (allowStruct : Bool)
    (h : Agree (atClosure ts) (atClosure (ts ++ c))) :
    CarriesAt c ts (atom g allowStruct) (atom g' allowStruct) := by
  have hblocks : CarriesAt c ts (blockOr g ts (forbid "expected an expression"))
    (blockOr g' (ts ++ c) (forbid "expected an expression")) := inferInstance
  unfold atom
  refine carriesAt_ahead (h := ?_)
  dsimp only
  repeat refine @carriesAt_choice _ _ _ _ _ _ _ inferInstance _ _ inferInstance ?_
  rw [blockOr_eq, blockOr_eq] at hblocks
  exact hblocks

/-- A comma can only make a closure of a `for` that has no block behind it, and that is no loop
either. -/
instance carriesAt_atom (allowStruct : Bool) :
    CarriesAt c ts (atom g allowStruct) (atom g' allowStruct) := by
  by_cases hfor : ∃ s, ts = .ident "for" :: s ∧ atGenerics (s ++ c) ≠ atGenerics s
  · obtain ⟨s, rfl, hdiffer⟩ := hfor
    obtain ⟨hgenerics, hnone⟩ := (atGenerics_append s).resolve_left hdiffer
    constructor
    intro l x j h
    rw [atom_of_for allowStruct hgenerics] at h
    obtain ⟨y, k, hloop, -⟩ := ok_of_run_bind h
    obtain ⟨d, inner, hgroup⟩ := exists_group_of_forRule g' hloop
    exact absurd hgroup (by simpa using hnone d inner)
  · refine carriesAt_atom_of_agree allowStruct ?_
    have hloop : Agree (atWord "for" ts && atGenerics (behind ts))
        (atWord "for" (ts ++ c) && atGenerics (behind (ts ++ c))) := by
      constructor
      rw [show atWord "for" (ts ++ c) = atWord "for" ts from Agree.agree]
      cases hword : atWord "for" ts with
      | false => rfl
      | true =>
        obtain ⟨s, rfl⟩ := exists_of_atWord hword
        exact Decidable.byContradiction fun hdiffer => hfor ⟨s, rfl, hdiffer⟩
    rw [atClosure_eq, atClosure_eq]
    infer_instance

/-! ## Behind an atom -/

instance carriesAt_memberBehind : CarriesAt c ts (memberBehind g) (memberBehind g') := by
  unfold memberBehind
  infer_instance

instance steadyTest_atDot : SteadyTest c atDot := by
  unfold atDot
  infer_instance

theorem floatNext?_eq (ts : List Token) : floatNext? ts = numberNext? isFloat ts := rfl

/-- What is read behind a dot. -/
def behindDot (g : Grammar) (dot : List Token) : Rule := do
  match floatNext? (← ahead) with
  | some (text, rest) =>
    let (indices, pointed) ← joinedIndices text
    goTo rest
    if pointed then return indices ++ dot ++ (← memberBehind g) else return indices
  | none => return dot ++ (← memberBehind g)

theorem dotBehind_eq (g : Grammar) : dotBehind g = takeSign "." >>= behindDot g := rfl

instance carriesAt_behindDot (dot : List Token) :
    CarriesAt c ts (behindDot g dot) (behindDot g' dot) := by
  unfold behindDot
  refine carriesAt_ahead (h := ?_)
  rw [floatNext?_eq, floatNext?_eq, numberNext?_append]
  split
  · rename_i text r hfloat
    have hgo := carriesAt_goTo_of_suffix (c := c) (suffix_of_numberNext? hfloat)
    rw [hfloat]
    dsimp only [Option.map]
    infer_instance
  · rename_i hnone
    rw [hnone]
    dsimp only [Option.map]
    infer_instance

instance carriesAt_dotBehind : CarriesAt c ts (dotBehind g) (dotBehind g') := by
  rw [dotBehind_eq, dotBehind_eq]
  infer_instance

instance takesAt_dotBehind : TakesAt c ts (dotBehind g) (dotBehind g') := by
  rw [dotBehind_eq, dotBehind_eq]
  infer_instance

instance carriesAt_trailers (subject : Phrase) :
    CarriesAt c ts (trailers g subject) (trailers g' subject) := by
  unfold trailers
  dsimp only
  infer_instance

/-! ## Before an atom -/

instance carriesAt_referencePhrase (allowStruct : Bool) :
    CarriesAt c ts (referencePhrase g allowStruct) (referencePhrase g' allowStruct) := by
  unfold referencePhrase
  dsimp only
  infer_instance

instance steadyTest_atUnarySign : SteadyTest c atUnarySign := by
  unfold atUnarySign
  infer_instance

instance carriesAt_unaryRule (allowStruct : Bool) :
    CarriesAt c ts (unaryRule g allowStruct) (unaryRule g' allowStruct) := by
  unfold unaryRule
  infer_instance

/-! ## Whole expressions -/

instance carriesAt_expressionRule (allowStruct : Bool) :
    CarriesAt c ts (expressionRule g allowStruct) (expressionRule g' allowStruct) := by
  unfold expressionRule
  infer_instance

instance carriesAt_statementHead :
    CarriesAt [] ts (statementHead g) (statementHead g') := by
  have hblocks : CarriesAt [] ts (blockOr g ts (g.unary true)) (blockOr g' ts (g'.unary true)) := by
    have happend : CarriesAt [] ts (blockOr g ts (g.unary true))
        (blockOr g' (ts ++ []) (g'.unary true)) := inferInstance
    rwa [List.append_nil] at happend
  rw [blockOr_eq, blockOr_eq] at hblocks
  unfold statementHead
  refine carriesAt_ahead_nil (h := ?_)
  dsimp only
  repeat refine @carriesAt_choice _ _ _ _ _ _ _ inferInstance _ _ inferInstance ?_
  exact hblocks

instance carriesAt_statementRule :
    CarriesAt [] ts (statementRule g) (statementRule g') := by
  unfold statementRule
  infer_instance

end MarkerInjection.Source
