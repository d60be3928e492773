-- The rules for statements and items stand in groups only, so nothing follows what they
-- read. With those for expressions they make every grammar carry over to a deeper one.
import MarkerInjection.Proofs.CarryingExpressions

namespace MarkerInjection.Source

set_option synthInstance.maxSize 20000

variable {c ts : List Token} [EndsMember c] {g g' : Grammar} [Below g g']

/-! ## Places in the tokens -/

section Places

variable {α : Type} {r r' : Reader α} {f f' : Unit → Reader α} {rest : List Token}

/-- Reading may go on anywhere behind here. -/
theorem carriesAt_goTo_bind (hrest : rest <:+ ts) [hf : CarriesAt [] rest (f ()) (f' ())] :
    CarriesAt [] ts (goTo rest >>= f) (goTo rest >>= f') where
  carries := by
    intro l y j h
    have hgo : goTo rest ⟨ts, l⟩ = .ok ((), ⟨rest, l⟩) := rfl
    rw [run_bind_of_ok hgo] at h
    rw [List.append_nil, run_bind_of_ok hgo, List.append_nil]
    obtain ⟨hread, hshort⟩ := hf.carries_nil h
    exact ⟨hread, hshort.trans hrest⟩

/-- Where a refusal points to does not matter. -/
instance carriesAt_goTo_wanting (wanted : List String) :
    CarriesAt [] ts (goTo rest >>= fun _ => (wanting wanted : Reader α)) r' where
  carries h := by cases h

instance carriesAt_goTo_wantingOneOf (wanted : List String) :
    CarriesAt [] ts (goTo rest >>= fun _ => (wantingOneOf wanted : Reader α)) r' where
  carries h := by cases h

instance carriesAt_set_wantingOneOf (i : Input) (wanted : List String) :
    CarriesAt [] ts ((set i : Reader PUnit) >>= fun _ => (wantingOneOf wanted : Reader α)) r' where
  carries h := by cases h

/-- What is read ahead only shows how to read from the same place. -/
theorem carriesAt_looking {β : Type} {look : Reader β} [hlook : CarriesAt [] ts look look]
    {f f' : β → List Token → Input → Reader α}
    (hf : ∀ x rest after, rest <:+ ts → CarriesAt [] ts (f x rest after) (f' x rest after)) :
    CarriesAt [] ts
      (get >>= fun start => look >>= fun x => ahead >>= fun rest => get >>= fun after =>
        (set start : Reader PUnit) >>= fun _ => f x rest after)
      (get >>= fun start => look >>= fun x => ahead >>= fun rest => get >>= fun after =>
        (set start : Reader PUnit) >>= fun _ => f' x rest after) where
  carries := by
    intro l y j h
    have hget (i : Input) : (get : Reader Input) i = .ok (i, i) := rfl
    have hahead (i : Input) : ahead i = .ok (i.tokens, i) := rfl
    have hset (i k : Input) : (set k : Reader PUnit) i = .ok (⟨⟩, k) := rfl
    rw [run_bind_of_ok (hget _)] at h
    obtain ⟨x, k, hx, h⟩ := ok_of_run_bind h
    rw [run_bind_of_ok (hahead _), run_bind_of_ok (hget _), run_bind_of_ok (hset _ _)] at h
    obtain ⟨hread, hshort⟩ := (hf x k.tokens k (hlook.carries_nil hx).2).carries_nil h
    rw [List.append_nil, List.append_nil, run_bind_of_ok (hget _), run_bind_of_ok hx,
      run_bind_of_ok (hahead _), run_bind_of_ok (hget _), run_bind_of_ok (hset _ _)]
    exact ⟨hread, hshort⟩

end Places

/-! ## Statements -/

theorem suffix_of_macroHead {l : Option Delimiter} {call : Option (List Token × List Token)}
    {j : Input} (h : macroHead ⟨ts, l⟩ = .ok (call, j)) :
    j = ⟨ts, l⟩ ∧ ∀ path rest, call = some (path, rest) → rest <:+ ts := by
  obtain ⟨start, i, hstart, h⟩ := ok_of_run_bind h
  cases hstart
  obtain ⟨path, k, hpath, h⟩ := ok_of_run_bind h
  obtain ⟨rest, k', hrest, h⟩ := ok_of_run_bind h
  cases hrest
  obtain ⟨_, i, hset, h⟩ := ok_of_run_bind h
  cases hset
  have hattempt : CarriesAt [] ts (attempt plainPath) (attempt plainPath) := inferInstance
  have hsuffix := (hattempt.carries_nil hpath).2
  cases path with
  | none =>
    cases h
    exact ⟨rfl, by simp⟩
  | some path =>
    cases h
    refine ⟨rfl, fun path' rest' heq => ?_⟩
    split at heq
    · cases heq
      exact hsuffix
    · cases heq

/-- Looking for a macro call leaves the tokens, and finds what is left behind the path of one. -/
theorem carriesAt_macroHead_bind {α : Type}
    {f f' : Option (List Token × List Token) → Reader α}
    (hf : ∀ call, (∀ path rest, call = some (path, rest) → rest <:+ ts) →
      CarriesAt [] ts (f call) (f' call)) :
    CarriesAt [] ts (macroHead >>= f) (macroHead >>= f') where
  carries := by
    intro l y j h
    obtain ⟨call, k, hcall, h⟩ := ok_of_run_bind h
    obtain ⟨rfl, hsuffix⟩ := suffix_of_macroHead hcall
    obtain ⟨hread, hshort⟩ := (hf call hsuffix).carries_nil h
    rw [List.append_nil, run_bind_of_ok hcall, List.append_nil]
    exact ⟨hread, hshort⟩

instance carriesAt_localRule : CarriesAt [] ts (localRule g) (localRule g') := by
  unfold localRule
  infer_instance

instance carriesAt_expressionStatement (start attributes : List Token) :
    CarriesAt [] ts (expressionStatement g start attributes)
      (expressionStatement g' start attributes) := by
  unfold expressionStatement
  infer_instance

instance carriesAt_itemBehind (start attributes : List Token) :
    CarriesAt [] ts (itemBehind g start attributes) (itemBehind g' start attributes) := by
  unfold itemBehind
  infer_instance

instance carriesAt_statement : CarriesAt [] ts (statement g) (statement g') := by
  unfold statement
  refine carriesAt_ahead_nil (h := ?_)
  refine @carriesAt_bind _ _ _ _ _ _ _ _ inferInstance fun attributes ts' =>
    carriesAt_ahead_nil (h := carriesAt_macroHead_bind fun call hsuffix => ?_)
  cases call with
  | none =>
    dsimp only
    infer_instance
  | some call =>
    obtain ⟨path, rest⟩ := call
    dsimp only
    exact @carriesAt_ite _ _ _ _ _ _ _ _ _ inferInstance
      (@carriesAt_ite _ _ _ _ _ _ _ _ _ (carriesAt_goTo_bind (hsuffix path rest rfl))
        inferInstance)

instance carriesAt_loneSemicolons : CarriesAt [] ts loneSemicolons loneSemicolons := by
  unfold loneSemicolons
  infer_instance

instance carriesAt_statementsRule : CarriesAt [] ts (statementsRule g) (statementsRule g') := by
  unfold statementsRule
  infer_instance

/-! ## Functions -/

instance carriesAt_receiver : CarriesAt [] ts (receiver g) (receiver g') := by
  unfold receiver
  infer_instance

instance carriesAt_typedArgument : CarriesAt [] ts (typedArgument g) (typedArgument g') := by
  unfold typedArgument
  infer_instance

instance carriesAt_argument : CarriesAt [] ts (argument g) (argument g') := by
  unfold argument
  infer_instance

instance carriesAt_argumentsBehind (fuel : List Token) (earlier : List ArgumentKind) :
    CarriesAt [] ts (argumentsBehind g fuel earlier) (argumentsBehind g' fuel earlier) := by
  induction fuel generalizing ts earlier with
  | nil => exact carriesAt_nothing
  | cons t more ih =>
    unfold argumentsBehind
    cases refusedReceiver earlier with
    | _ => infer_instance

instance carriesAt_arguments : CarriesAt [] ts (arguments g) (arguments g') := by
  unfold arguments
  infer_instance

instance carriesAt_signature (allowSafe : Bool) :
    CarriesAt [] ts (signature g allowSafe) (signature g' allowSafe) := by
  unfold signature
  infer_instance

/-! ## Members -/

instance carriesAt_macroItem (allowName : Bool) :
    CarriesAt [] ts (macroItem allowName) (macroItem allowName) := by
  unfold macroItem
  infer_instance

instance carriesAt_constantRest (needsValue : Bool) :
    CarriesAt [] ts (constantRest g needsValue) (constantRest g' needsValue) := by
  unfold constantRest
  infer_instance

instance carriesAt_boundsUpTo (const : Bool) (stop : List Token → Bool) :
    CarriesAt [] ts (boundsUpTo g const stop) (boundsUpTo g' const stop) := by
  unfold boundsUpTo
  infer_instance

instance carriesAt_typeMember (place : WherePlace) :
    CarriesAt [] ts (typeMember g place) (typeMember g' place) := by
  unfold typeMember
  dsimp only
  infer_instance

instance carriesAt_optBody : CarriesAt [] ts (optBody g) (optBody g') := by
  unfold optBody
  infer_instance

instance carriesAt_traitFunction : CarriesAt [] ts (traitFunction g) (traitFunction g') := by
  unfold traitFunction
  infer_instance

instance carriesAt_traitMemberRest (marked : Bool) :
    CarriesAt [] ts (traitMemberRest g marked) (traitMemberRest g' marked) := by
  unfold traitMemberRest
  infer_instance

instance carriesAt_restriction : CarriesAt c ts restriction restriction := by
  unfold restriction
  refine carriesAt_ahead (h := ?_)
  rcases ts with _ | ⟨t, r⟩
  · cases ‹EndsMember c› with
    | _ => exact carriesAt_nothing
  · cases t with
    | group d inner =>
      cases d with
      | _ => dsimp only [List.cons_append]; infer_instance
    | _ => exact carriesAt_nothing

instance carriesAt_visibility : CarriesAt c ts visibility visibility := by
  unfold visibility
  infer_instance

instance carriesAt_traitMember : CarriesAt [] ts (traitMember g) (traitMember g') := by
  unfold traitMember
  infer_instance

instance carriesAt_implMemberRest (visible default : Bool) :
    CarriesAt [] ts (implMemberRest g visible default) (implMemberRest g' visible default) := by
  unfold implMemberRest
  infer_instance

instance carriesAt_implMember : CarriesAt [] ts (implMember g) (implMember g') := by
  unfold implMember
  infer_instance

instance carriesAt_foreignStatic : CarriesAt [] ts (foreignStatic g) (foreignStatic g') := by
  unfold foreignStatic
  infer_instance

instance carriesAt_foreignMemberRest (visible : Bool) :
    CarriesAt [] ts (foreignMemberRest g visible) (foreignMemberRest g' visible) := by
  unfold foreignMemberRest
  infer_instance

instance carriesAt_foreignMember : CarriesAt [] ts (foreignMember g) (foreignMember g') := by
  unfold foreignMember
  infer_instance

instance carriesAt_members {member member' : Rule} [∀ ts', CarriesAt [] ts' member member'] :
    CarriesAt [] ts (members g member) (members g' member') := by
  unfold members
  infer_instance

/-! ## Declarations -/

instance carriesAt_staticRule : CarriesAt [] ts (staticRule g) (staticRule g') := by
  unfold staticRule
  infer_instance

instance carriesAt_constantItem : CarriesAt [] ts (constantItem g) (constantItem g') := by
  unfold constantItem
  infer_instance

instance carriesAt_nameOrUnderscore : CarriesAt [] ts nameOrUnderscore nameOrUnderscore := by
  unfold nameOrUnderscore
  infer_instance

instance carriesAt_externCrate : CarriesAt [] ts externCrate externCrate := by
  unfold externCrate
  infer_instance

instance carriesAt_foreignModule : CarriesAt [] ts (foreignModule g) (foreignModule g') := by
  unfold foreignModule
  infer_instance

instance carriesAt_useTrees (allowLeading : Bool) :
    CarriesAt [] ts (useTrees g allowLeading) (useTrees g' allowLeading) := by
  unfold useTrees
  infer_instance

instance carriesAt_useTreeRule (allowLeading : Bool) :
    CarriesAt [] ts (useTreeRule g allowLeading) (useTreeRule g' allowLeading) := by
  unfold useTreeRule
  infer_instance

instance carriesAt_useItem : CarriesAt [] ts (useItem g) (useItem g') := by
  unfold useItem
  infer_instance

instance carriesAt_wholeItem : CarriesAt [] ts (wholeItem g) (wholeItem g') := by
  unfold wholeItem
  infer_instance

instance carriesAt_moduleRule : CarriesAt [] ts (moduleRule g) (moduleRule g') := by
  unfold moduleRule
  infer_instance

instance carriesAt_typeAlias : CarriesAt [] ts (typeAlias g) (typeAlias g') := by
  unfold typeAlias
  infer_instance

instance carriesAt_inlineFields : CarriesAt c ts (inlineFields g) (inlineFields g') := by
  unfold inlineFields
  infer_instance

instance carriesAt_namedField : CarriesAt c ts (namedField g) (namedField g') := by
  unfold namedField
  infer_instance

instance carriesAt_tupleField : CarriesAt [] ts (tupleField g) (tupleField g') := by
  unfold tupleField
  infer_instance

instance carriesAt_namedFieldsRule : CarriesAt c ts (namedFieldsRule g) (namedFieldsRule g') := by
  unfold namedFieldsRule
  infer_instance

instance carriesAt_tupleFields : CarriesAt [] ts (tupleFields g) (tupleFields g') := by
  unfold tupleFields
  infer_instance

instance carriesAt_structBody : CarriesAt [] ts (structBody g) (structBody g') := by
  unfold structBody
  infer_instance

instance carriesAt_structRule : CarriesAt [] ts (structRule g) (structRule g') := by
  unfold structRule
  infer_instance

instance carriesAt_variant : CarriesAt [] ts (variant g) (variant g') := by
  unfold variant
  infer_instance

instance carriesAt_enumRule : CarriesAt [] ts (enumRule g) (enumRule g') := by
  unfold enumRule
  infer_instance

instance carriesAt_unionRule : CarriesAt [] ts (unionRule g) (unionRule g') := by
  unfold unionRule
  infer_instance

instance carriesAt_traitRest (head : List Token) (name : String) (params : Generics) :
    CarriesAt [] ts (traitRest g head name params) (traitRest g' head name params) := by
  unfold traitRest
  infer_instance

instance carriesAt_markedTrait : CarriesAt [] ts (markedTrait g) (markedTrait g') := by
  unfold markedTrait
  infer_instance

instance carriesAt_traitOrAlias : CarriesAt [] ts (traitOrAlias g) (traitOrAlias g') := by
  unfold traitOrAlias
  infer_instance

instance carriesAt_implSubject : CarriesAt [] ts (implSubject g) (implSubject g') := by
  unfold implSubject
  infer_instance

instance carriesAt_implRule : CarriesAt [] ts (implRule g) (implRule g') := by
  unfold implRule
  infer_instance

/-- Takes the body of a macro in curly brackets. -/
def bracedBody {α : Type} (found : List Token → α) (wanted : List String) : Reader α := do
  match ← ahead with
  | .group .brace inner :: rest =>
    goTo rest
    return found inner
  | _ => wanting wanted

instance carriesAt_bracedBody {α : Type} (found : List Token → α) (wanted : List String) :
    CarriesAt [] ts (bracedBody found wanted) (bracedBody found wanted) := by
  unfold bracedBody
  refine carriesAt_ahead_nil (h := ?_)
  split
  · exact carriesAt_goTo_bind (List.suffix_cons _ _)
  · infer_instance

instance carriesAt_macroDeclaration :
    CarriesAt [] ts macroDeclaration macroDeclaration := by
  unfold macroDeclaration nothing
  refine @carriesAt_bind _ _ _ _ _ _ _ _ inferInstance fun head ts' =>
    carriesAt_ahead_nil (h := ?_)
  have hbody (arguments : List Token) (wanted : List String) (ts'' : List Token) :=
    @carriesAt_bracedBody ts'' _
      (fun inner => (head ++ arguments ++ [Token.group .brace inner], true)) wanted
  simp only [pure_bind]
  cases atGroup .paren ts' with
  | false => exact hbody _ _ _
  | true => exact @carriesAt_goTo_bind _ _ _ _ _ (List.drop_suffix 1 ts') (hbody _ _ _)

instance carriesAt_other (kind : DeclarationKind) {r r' : Rule} [CarriesAt [] ts r r'] :
    CarriesAt [] ts (other kind r) (other kind r') := by
  unfold other
  infer_instance

instance carriesAt_otherKept (kind : DeclarationKind) {r r' : Reader (List Token × Bool)}
    [CarriesAt [] ts r r'] : CarriesAt [] ts (otherKept kind r) (otherKept kind r') := by
  unfold otherKept
  infer_instance

instance carriesAt_traitItem {r r' : Reader TraitItem} [CarriesAt [] ts r r'] :
    CarriesAt [] ts (traitItem r) (traitItem r') := by
  unfold traitItem
  infer_instance

instance carriesAt_functionItem : CarriesAt [] ts (functionItem g) (functionItem g') := by
  unfold functionItem
  infer_instance

instance carriesAt_externItem (behindExtern : List Token) :
    CarriesAt [] ts (externItem g behindExtern) (externItem g' behindExtern) := by
  unfold externItem
  infer_instance

instance carriesAt_unsafeItem (behindUnsafe : List Token) :
    CarriesAt [] ts (unsafeItem g behindUnsafe) (unsafeItem g' behindUnsafe) := by
  unfold unsafeItem
  infer_instance

instance carriesAt_itemRule : CarriesAt [] ts (itemRule g) (itemRule g') := by
  unfold itemRule
  refine carriesAt_looking fun shown rest after _ => ?_
  infer_instance

/-! ## Deeper grammars -/

/-- No bound is read where the tokens have ended. -/
theorem boundRule_nil (g : Grammar) (capture const : Bool) (l : Option Delimiter) :
    ∃ e, boundRule g capture const ⟨[], l⟩ = .error e := ⟨_, rfl⟩

/-- Where the nesting is too deep nothing is read at all. -/
instance below_exhausted (g : Grammar) : Below Grammar.exhausted g where
  type _ _ _ _ := carriesAt_forbid _ _
  bound _ _ _ _ _ := carriesAt_forbid _ _
  boundBegins _ _ _ := ⟨_, rfl⟩
  expression _ _ _ _ := carriesAt_forbid _ _
  statement _ := carriesAt_forbid _ _
  unary _ _ _ _ := carriesAt_forbid _ _
  climb _ _ _ _ _ _ := carriesAt_forbid _ _
  pattern _ _ _ := carriesAt_forbid _ _
  statements _ := carriesAt_forbid _ _
  item _ := carriesAt_forbid _ _
  namedFields _ _ _ := carriesAt_forbid _ _
  useTree _ _ := carriesAt_forbid _ _

/-- The rules of a grammar are those over a grammar of one level less. -/
theorem below_succ {n m : Nat} (h : Below (grammar n) (grammar m)) :
    Below (grammar (n + 1)) (grammar (m + 1)) where
  type _ _ _ plus := carriesAt_typeRule plus
  bound _ _ _ capture const := carriesAt_boundRule capture const
  boundBegins := boundRule_nil (grammar n)
  expression _ _ _ allowStruct := carriesAt_expressionRule allowStruct
  statement _ := carriesAt_statementRule
  unary _ _ _ allowStruct := carriesAt_unaryRule allowStruct
  climb _ _ _ left allowStruct base := carriesAt_climbRule left allowStruct base
  pattern _ _ _ := carriesAt_patternRule
  statements _ := carriesAt_statementsRule
  item _ := carriesAt_itemRule
  namedFields _ _ _ := carriesAt_namedFieldsRule
  useTree _ allowLeading := carriesAt_useTreeRule allowLeading

theorem below_grammar {n m : Nat} (h : n ≤ m) : Below (grammar n) (grammar m) := by
  induction n generalizing m with
  | zero => exact below_exhausted (grammar m)
  | succ n ih =>
    cases m with
    | zero => cases h
    | succ m => exact below_succ (ih (Nat.le_of_succ_le_succ h))

end MarkerInjection.Source
