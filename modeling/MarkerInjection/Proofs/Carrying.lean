-- Readers that carry over: what one reads of some tokens, another one reads of them
-- too where nothing but a comma may stand behind them. One law for each way in which
-- readers are put together, so that a rule carries over because its parts do.
import MarkerInjection.Source.Reader

namespace MarkerInjection.Source

/-! ## Two readers -/

/-- Nothing stands behind a member of a list, or a comma. -/
class inductive EndsMember : List Token → Prop
  | nothing : EndsMember []
  | comma (joint : Bool) (more : List Token) : EndsMember (.punct ',' joint :: more)

attribute [instance] EndsMember.nothing

theorem sizeOfTokens_append (ts ts' : List Token) :
    sizeOfTokens (ts ++ ts') = sizeOfTokens ts + sizeOfTokens ts' := by
  induction ts with
  | nil => simp [sizeOfTokens]
  | cons t ts ih => simp [sizeOfTokens, ih, Nat.add_assoc]

variable {α β : Type} {c ts : List Token}

/-- What `r` reads of these tokens, `r'` reads of them with `c` behind them, and it leaves the
same: an end of the tokens. -/
class CarriesAt (c ts : List Token) (r r' : Reader α) : Prop where
  carries : ∀ {l x j}, r ⟨ts, l⟩ = .ok (x, j) →
    r' ⟨ts ++ c, l⟩ = .ok (x, ⟨j.tokens ++ c, j.leftover⟩) ∧ j.tokens <:+ ts

/-- With nothing behind the tokens, the second reader does the same. -/
theorem CarriesAt.carries_nil {r r' : Reader α} (hr : CarriesAt [] ts r r')
    {l : Option Delimiter} {x : α} {j : Input} (h : r ⟨ts, l⟩ = .ok (x, j)) :
    r' ⟨ts, l⟩ = .ok (x, j) ∧ j.tokens <:+ ts := by
  have hcarries := hr.carries h
  rwa [List.append_nil, List.append_nil] at hcarries

/-- What `r` reads takes a token at least. -/
class TakesAt (c ts : List Token) (r r' : Reader α) : Prop where
  takes : ∀ {l x j}, r ⟨ts, l⟩ = .ok (x, j) → j.tokens.length < ts.length

/-- A step of a loop that is to go on takes a token at least. -/
class AdvancesAt (c ts : List Token) (r r' : Reader (α × Bool)) : Prop where
  advances : ∀ {l x j}, r ⟨ts, l⟩ = .ok ((x, true), j) → j.tokens.length < ts.length

/-- What stands behind tokens does not change what the test finds. -/
class SteadyTest (c : List Token) (p : List Token → Bool) : Prop where
  steady : ∀ ts, p (ts ++ c) = p ts

/-- Two tests have the same outcome. -/
class Agree (b b' : Bool) : Prop where
  agree : b' = b

/-! ## One reader after another -/

section Sequences

variable {r r' : Reader α} {f f' : α → Reader β} {i j : Input}

theorem run_bind_of_ok {x : α} (hr : r i = .ok (x, j)) : (r >>= f) i = f x j := by
  change Except.bind (r i) _ = _
  rw [hr]
  rfl

theorem run_bind_of_error {e : SyntaxError} (hr : r i = .error e) : (r >>= f) i = .error e := by
  change Except.bind (r i) _ = _
  rw [hr]
  rfl

theorem ok_of_run_bind {y : β} (h : (r >>= f) i = .ok (y, j)) :
    ∃ x k, r i = .ok (x, k) ∧ f x k = .ok (y, j) := by
  cases hr : r i with
  | error e =>
    rw [run_bind_of_error hr] at h
    cases h
  | ok read =>
    obtain ⟨x, k⟩ := read
    rw [run_bind_of_ok hr] at h
    exact ⟨x, k, rfl, h⟩

instance (priority := low) carriesAt_bind [hr : CarriesAt c ts r r']
    [hf : ∀ x ts', CarriesAt c ts' (f x) (f' x)] : CarriesAt c ts (r >>= f) (r' >>= f') where
  carries := by
    intro l y j h
    obtain ⟨x, k, hx, hy⟩ := ok_of_run_bind h
    obtain ⟨hfirst, hshort⟩ := hr.carries hx
    obtain ⟨hsecond, hshorter⟩ := (hf x k.tokens).carries hy
    exact ⟨(run_bind_of_ok hfirst).trans hsecond, hshorter.trans hshort⟩

instance carriesAt_pure (x : α) : CarriesAt c ts (pure x) (pure x) where
  carries := by
    intro l y j h
    cases h
    exact ⟨rfl, List.suffix_rfl⟩

instance carriesAt_throw (e : SyntaxError) (r' : Reader α) :
    CarriesAt c ts (throw e : Reader α) r' where
  carries h := by cases h

instance carriesAt_wanting (wanted : List String) (r' : Reader α) :
    CarriesAt c ts (wanting wanted) r' where
  carries h := by cases h

instance carriesAt_wantingOneOf (wanted : List String) (r' : Reader α) :
    CarriesAt c ts (wantingOneOf wanted) r' where
  carries h := by cases h

instance carriesAt_forbid (text : String) (r' : Reader α) : CarriesAt c ts (forbid text) r' where
  carries h := by cases h

instance carriesAt_ite {p : Prop} [Decidable p] {s s' : Reader α} [CarriesAt c ts r r']
    [CarriesAt c ts s s'] : CarriesAt c ts (if p then r else s) (if p then r' else s') := by
  split
  · infer_instance
  · infer_instance

instance (priority := low) carriesAt_choice {b b' : Bool} [hb : Agree b b'] {s s' : Reader α}
    [CarriesAt c ts r r'] [CarriesAt c ts s s'] :
    CarriesAt c ts (if b then r else s) (if b' then r' else s') := by
  rw [hb.agree]
  infer_instance

instance carriesAt_ahead {f f' : List Token → Reader α} [h : CarriesAt c ts (f ts) (f' (ts ++ c))] :
    CarriesAt c ts (ahead >>= f) (ahead >>= f') where
  carries hx := h.carries hx

instance (priority := high) carriesAt_ahead_nil {f f' : List Token → Reader α}
    [h : CarriesAt [] ts (f ts) (f' ts)] : CarriesAt [] ts (ahead >>= f) (ahead >>= f') := by
  have hsame : CarriesAt [] ts (f ts) (f' (ts ++ [])) := by rwa [List.append_nil]
  infer_instance

theorem run_next (p : List Token → Bool) (i : Input) : next p i = .ok (p i.tokens, i) := rfl

instance carriesAt_atEnd_nil : CarriesAt [] ts atEnd atEnd where
  carries := by
    intro l x j h
    cases h
    exact ⟨by rw [List.append_nil]; rfl, List.suffix_rfl⟩

/-- Behind a test stand the same tokens as before it. -/
instance carriesAt_next_bind {p : List Token → Bool} [hp : SteadyTest c p]
    {f f' : Bool → Reader α} [h : ∀ b, CarriesAt c ts (f b) (f' b)] :
    CarriesAt c ts (next p >>= f) (next p >>= f') where
  carries := by
    intro l x j hx
    rw [run_bind_of_ok (run_next p _), hp.steady]
    exact (h _).carries hx

end Sequences

/-- What does not read at all leaves the tokens. -/
instance carriesAt_lift_bind {e : Except SyntaxError α} {f f' : α → Reader β}
    [h : ∀ x, CarriesAt c ts (f x) (f' x)] :
    CarriesAt c ts ((liftM e : Reader α) >>= f) ((liftM e : Reader α) >>= f') where
  carries := by
    intro l y j hy
    cases e with
    | error e => cases hy
    | ok x => exact (h x).carries hy

section Sequences

variable {γ : Type}

instance carriesAt_lift_bind_pair {e : Except SyntaxError (α × γ)} {f f' : α × γ → Reader β}
    [h : ∀ x y, CarriesAt c ts (f (x, y)) (f' (x, y))] :
    CarriesAt c ts ((liftM e : Reader (α × γ)) >>= f) ((liftM e : Reader (α × γ)) >>= f') :=
  @carriesAt_lift_bind _ _ _ _ _ _ _ fun ⟨x, y⟩ => h x y

/-- What comes in two parts is taken apart. -/
instance carriesAt_bind_pair {r r' : Reader (α × γ)} {f f' : α × γ → Reader β}
    [hr : CarriesAt c ts r r'] [hf : ∀ x y ts', CarriesAt c ts' (f (x, y)) (f' (x, y))] :
    CarriesAt c ts (r >>= f) (r' >>= f') :=
  @carriesAt_bind _ _ _ _ _ _ _ _ hr fun ⟨x, y⟩ ts' => hf x y ts'

instance carriesAt_append {r r' s s' : Rule} [CarriesAt c ts r r']
    [∀ ts', CarriesAt c ts' s s'] : CarriesAt c ts (r ++ s) (r' ++ s') :=
  inferInstanceAs (CarriesAt c ts (r >>= fun x => s >>= fun y => pure (x ++ y))
    (r' >>= fun x => s' >>= fun y => pure (x ++ y)))

end Sequences

/-! ## Readers that take a token -/

section Taking

variable {r r' : Reader α} {f f' : α → Reader β}

instance takesAt_bind [hr : TakesAt c ts r r'] [hf : ∀ x ts', CarriesAt c ts' (f x) (f' x)] :
    TakesAt c ts (r >>= f) (r' >>= f') where
  takes := by
    intro l y j h
    obtain ⟨x, k, hx, hy⟩ := ok_of_run_bind h
    exact Nat.lt_of_le_of_lt ((hf x k.tokens).carries hy).2.length_le (hr.takes hx)

instance takesAt_append {r r' s s' : Rule} [TakesAt c ts r r'] [∀ ts', CarriesAt c ts' s s'] :
    TakesAt c ts (r ++ s) (r' ++ s') :=
  inferInstanceAs (TakesAt c ts (r >>= fun x => s >>= fun y => pure (x ++ y))
    (r' >>= fun x => s' >>= fun y => pure (x ++ y)))

instance takesAt_wanting (wanted : List String) (r' : Reader α) :
    TakesAt c ts (wanting wanted) r' where
  takes h := by cases h

instance takesAt_ite {p : Prop} [Decidable p] {s s' : Reader α} [TakesAt c ts r r']
    [TakesAt c ts s s'] : TakesAt c ts (if p then r else s) (if p then r' else s') := by
  split
  · infer_instance
  · infer_instance

instance takesAt_ahead {f f' : List Token → Reader α} [h : TakesAt c ts (f ts) (f' (ts ++ c))] :
    TakesAt c ts (ahead >>= f) (ahead >>= f') where
  takes hx := h.takes hx

variable {g g' : α → Reader (β × Bool)}

instance advancesAt_of_takes [hr : TakesAt c ts r r']
    [hg : ∀ x ts', CarriesAt c ts' (g x) (g' x)] : AdvancesAt c ts (r >>= g) (r' >>= g') where
  advances := by
    intro l y j h
    obtain ⟨x, k, hx, hy⟩ := ok_of_run_bind h
    exact Nat.lt_of_le_of_lt ((hg x k.tokens).carries hy).2.length_le (hr.takes hx)

instance (priority := low) advancesAt_bind [hr : CarriesAt c ts r r']
    [hg : ∀ x ts', AdvancesAt c ts' (g x) (g' x)] : AdvancesAt c ts (r >>= g) (r' >>= g') where
  advances := by
    intro l y j h
    obtain ⟨x, k, hx, hy⟩ := ok_of_run_bind h
    exact Nat.lt_of_lt_of_le ((hg x k.tokens).advances hy) (hr.carries hx).2.length_le

instance advancesAt_pure (x : α) : AdvancesAt c ts (pure (x, false)) (pure (x, false)) where
  advances h := by cases h

instance advancesAt_ite {p : Prop} [Decidable p] {s s' t t' : Reader (α × Bool)}
    [AdvancesAt c ts s s'] [AdvancesAt c ts t t'] :
    AdvancesAt c ts (if p then s else t) (if p then s' else t') := by
  split
  · infer_instance
  · infer_instance

instance (priority := low) advancesAt_choice {b b' : Bool} {s s' t t' : Reader (α × Bool)}
    [hs : AdvancesAt c ts s s'] [ht : AdvancesAt c ts t t'] :
    AdvancesAt c ts (if b then s else t) (if b' then s' else t') where
  advances := by
    split
    · exact hs.advances
    · exact ht.advances

instance advancesAt_ahead {s s' : List Token → Reader (α × Bool)}
    [h : AdvancesAt c ts (s ts) (s' (ts ++ c))] : AdvancesAt c ts (ahead >>= s) (ahead >>= s') where
  advances hx := h.advances hx

instance advancesAt_next_bind {p : List Token → Bool} {s s' : Bool → Reader (α × Bool)}
    [h : ∀ b, AdvancesAt c ts (s b) (s' b)] : AdvancesAt c ts (next p >>= s) (next p >>= s') where
  advances hx := (h _).advances hx

end Taking

/-! ## Tests -/

section Tests

variable {p q : List Token → Bool}

instance (priority := high) steadyTest_nil : SteadyTest [] p where
  steady ts := by rw [List.append_nil]

/-- A test that is put together is steady if its outcomes agree. -/
instance (priority := low) steadyTest_of_agree [hp : ∀ ts, Agree (p ts) (p (ts ++ c))] :
    SteadyTest c p where
  steady ts := (hp ts).agree

instance agree_of_steady [hp : SteadyTest c p] : Agree (p ts) (p (ts ++ c)) where
  agree := hp.steady ts

section Agreement

variable {a a' b b' : Bool}

instance (priority := high) agree_refl : Agree b b where
  agree := rfl

instance agree_and [ha : Agree a a'] [hb : Agree b b'] : Agree (a && b) (a' && b') where
  agree := by rw [ha.agree, hb.agree]

instance agree_or [ha : Agree a a'] [hb : Agree b b'] : Agree (a || b) (a' || b') where
  agree := by rw [ha.agree, hb.agree]

instance agree_not [ha : Agree a a'] : Agree (!a) (!a') where
  agree := by rw [ha.agree]

end Agreement

/-- A test of the next token that a comma does not pass, nor the end. -/
theorem steadyTest_of_head [hc : EndsMember c]
    (hhead : ∀ t r, p (t :: r ++ c) = p (t :: r)) (hnil : p [] = false)
    (hcomma : ∀ joint more, p (.punct ',' joint :: more) = false) : SteadyTest c p where
  steady ts := by
    cases ts with
    | nil =>
      cases hc with
      | nothing => rfl
      | comma joint more => exact (hcomma joint more).trans hnil.symm
    | cons t r => exact hhead t r

/-- A test for places where a list stops: the end passes it, and so does a comma. -/
theorem steadyTest_of_stop [hc : EndsMember c] (hhead : ∀ t r, p (t :: r ++ c) = p (t :: r))
    (hnil : p [] = true) (hcomma : ∀ joint more, p (.punct ',' joint :: more) = true) :
    SteadyTest c p where
  steady ts := by
    cases ts with
    | nil =>
      cases hc with
      | nothing => rfl
      | comma joint more => exact (hcomma joint more).trans hnil.symm
    | cons t r => exact hhead t r

variable [hc : EndsMember c]

instance steadyTest_atWord (w : String) : SteadyTest c (atWord w) := by
  refine steadyTest_of_head (fun t r => ?_) rfl fun joint more => rfl
  cases t with
  | _ => rfl

instance steadyTest_atAnyWord : SteadyTest c atAnyWord := by
  refine steadyTest_of_head (fun t r => ?_) rfl fun joint more => rfl
  cases t with
  | _ => rfl

instance steadyTest_atName : SteadyTest c atName := by
  refine steadyTest_of_head (fun t r => ?_) rfl fun joint more => rfl
  cases t with
  | _ => rfl

instance steadyTest_atGroup (d : Delimiter) : SteadyTest c (atGroup d) := by
  refine steadyTest_of_head (fun t r => ?_) rfl fun joint more => rfl
  cases t with
  | _ => rfl

instance steadyTest_atTruthValue : SteadyTest c atTruthValue := by
  refine steadyTest_of_head (fun t r => ?_) rfl fun joint more => rfl
  cases t with
  | _ => rfl

instance steadyTest_atString : SteadyTest c atString := by
  refine steadyTest_of_head (fun t r => ?_) rfl fun joint more => rfl
  cases t with
  | _ => rfl

/-- A test of the next two tokens. A comma is neither of them. -/
theorem steadyTest_of_pair (hpair : ∀ t u r, p (t :: u :: r ++ c) = p (t :: u :: r))
    (hlast : ∀ t joint more, p (t :: .punct ',' joint :: more) = p [t]) (hnil : p [] = false)
    (hcomma : ∀ joint more, p (.punct ',' joint :: more) = false) : SteadyTest c p := by
  refine steadyTest_of_head (fun t r => ?_) hnil hcomma
  cases r with
  | nil =>
    cases hc with
    | nothing => rfl
    | comma joint more => exact hlast t joint more
  | cons u r => exact hpair t u r

theorem atLifetime_iff {ts : List Token} :
    atLifetime ts = true ↔ ∃ w r, ts = .punct '\'' true :: .ident w :: r := by
  constructor
  · intro h
    unfold atLifetime at h
    split at h
    · exact ⟨_, _, rfl⟩
    · cases h
  · rintro ⟨w, r, rfl⟩
    rfl

theorem atLiteral_iff {ts : List Token} :
    atLiteral ts = true ↔ (∃ text r, ts = .literal text :: r) ∨
      (∃ text r, ts = .ident text :: r ∧ (text = "true" ∨ text = "false")) ∨
      ∃ joint text r, ts = .punct '-' joint :: .literal text :: r ∧ isNumber text = true := by
  constructor
  · intro h
    unfold atLiteral at h
    split at h
    · exact Or.inl ⟨_, _, rfl⟩
    · exact Or.inr (Or.inl ⟨_, _, rfl, by simpa using h⟩)
    · exact Or.inr (Or.inr ⟨_, _, _, rfl, h⟩)
    · cases h
  · rintro (⟨text, r, rfl⟩ | ⟨text, r, rfl, htext⟩ | ⟨joint, text, r, rfl, hnumber⟩)
    · rfl
    · simpa [atLiteral] using htext
    · exact hnumber

instance steadyTest_atLifetime : SteadyTest c atLifetime := by
  refine steadyTest_of_pair (fun t u r => ?_) (fun t joint more => ?_) rfl fun joint more => rfl
  · rw [Bool.eq_iff_iff, atLifetime_iff, atLifetime_iff]
    simp
  · rw [Bool.eq_iff_iff, atLifetime_iff, atLifetime_iff]
    simp

instance steadyTest_atLiteral : SteadyTest c atLiteral := by
  refine steadyTest_of_pair (fun t u r => ?_) (fun t joint more => ?_) rfl fun joint more => rfl
  · rw [Bool.eq_iff_iff, atLiteral_iff, atLiteral_iff]
    simp
  · rw [Bool.eq_iff_iff, atLiteral_iff, atLiteral_iff]
    simp

/-! ### Signs -/

/-- A sign without a comma in it, and with a semicolon at its end only. -/
class Commaless (s : String) : Prop where
  commaless : ',' ∉ s.toList
  semicolon : ';' ∉ s.toList.dropLast

/-- A sign of more than one character: the first stands here, joined to the others. -/
theorem startsSign_cons {d e : Char} {more : List Char} {joint : Bool} {r : List Token}
    (hmore : more ≠ []) : startsSign (d :: more) (.punct e joint :: r) =
      (d == e && e != '\'' && joint && startsSign more r) := by
  cases more with
  | nil => exact absurd rfl hmore
  | cons d' more => rfl

theorem startsSign_append {s : List Char} {ts : List Token} (hs : startsSign s ts = true)
    (c : List Token) : startsSign s (ts ++ c) = true := by
  fun_induction startsSign s ts with
  | case1 => cases hs
  | case2 d e joint r => exact hs
  | case3 d more e joint r hmore ih =>
    rw [Bool.and_eq_true] at hs
    rw [List.cons_append, startsSign_cons (fun h => hmore h), Bool.and_eq_true]
    exact ⟨hs.1, ih hs.2⟩
  | case4 => cases hs

theorem length_le_of_startsSign {s : List Char} {ts : List Token} (hs : startsSign s ts = true) :
    s.length ≤ ts.length := by
  fun_induction startsSign s ts with
  | case1 => cases hs
  | case2 d e joint r => simp
  | case3 d more e joint r hmore ih =>
    rw [Bool.and_eq_true] at hs
    exact Nat.succ_le_succ (ih hs.2)
  | case4 => cases hs

theorem startsSign_of_append {s : List Char} {ts : List Token}
    (hcomma : ',' ∉ s) (hs : startsSign s (ts ++ c) = true) : startsSign s ts = true := by
  induction s generalizing ts with
  | nil => cases hs
  | cons d more ih =>
    rw [List.mem_cons, not_or] at hcomma
    cases ts with
    | nil =>
      cases hc with
      | nothing => exact hs
      | comma joint c =>
        cases more with
        | nil => simp [startsSign, Ne.symm hcomma.1] at hs
        | cons d' more => simp [startsSign, Ne.symm hcomma.1] at hs
    | cons t r =>
      cases t with
      | punct e joint =>
        by_cases hmore : more = []
        · subst hmore
          exact hs
        · rw [List.cons_append, startsSign_cons hmore, Bool.and_eq_true] at hs
          rw [startsSign_cons hmore, Bool.and_eq_true]
          exact ⟨hs.1, ih hcomma.2 hs.2⟩
      | _ =>
        cases more with
        | nil => cases hs
        | cons d' more => cases hs

instance steadyTest_atSign (s : String) [hs : Commaless s] : SteadyTest c (atSign s) where
  steady ts := by
    rw [Bool.eq_iff_iff]
    exact ⟨startsSign_of_append hs.commaless, fun h => startsSign_append h c⟩

instance commaless_colons : Commaless "::" := ⟨by decide, by decide⟩
instance commaless_colon : Commaless ":" := ⟨by decide, by decide⟩
instance commaless_semicolon : Commaless ";" := ⟨by decide, by decide⟩
instance commaless_less : Commaless "<" := ⟨by decide, by decide⟩
instance commaless_lessEqual : Commaless "<=" := ⟨by decide, by decide⟩
instance commaless_shiftEqual : Commaless "<<=" := ⟨by decide, by decide⟩
instance commaless_greater : Commaless ">" := ⟨by decide, by decide⟩
instance commaless_equal : Commaless "=" := ⟨by decide, by decide⟩
instance commaless_equals : Commaless "==" := ⟨by decide, by decide⟩
instance commaless_thickArrow : Commaless "=>" := ⟨by decide, by decide⟩
instance commaless_arrow : Commaless "->" := ⟨by decide, by decide⟩
instance commaless_plus : Commaless "+" := ⟨by decide, by decide⟩
instance commaless_minus : Commaless "-" := ⟨by decide, by decide⟩
instance commaless_minusEqual : Commaless "-=" := ⟨by decide, by decide⟩
instance commaless_star : Commaless "*" := ⟨by decide, by decide⟩
instance commaless_starEqual : Commaless "*=" := ⟨by decide, by decide⟩
instance commaless_slash : Commaless "/" := ⟨by decide, by decide⟩
instance commaless_percent : Commaless "%" := ⟨by decide, by decide⟩
instance commaless_caret : Commaless "^" := ⟨by decide, by decide⟩
instance commaless_question : Commaless "?" := ⟨by decide, by decide⟩
instance commaless_bang : Commaless "!" := ⟨by decide, by decide⟩
instance commaless_bangEqual : Commaless "!=" := ⟨by decide, by decide⟩
instance commaless_hash : Commaless "#" := ⟨by decide, by decide⟩
instance commaless_ampersand : Commaless "&" := ⟨by decide, by decide⟩
instance commaless_ampersandEqual : Commaless "&=" := ⟨by decide, by decide⟩
instance commaless_bar : Commaless "|" := ⟨by decide, by decide⟩
instance commaless_bars : Commaless "||" := ⟨by decide, by decide⟩
instance commaless_barEqual : Commaless "|=" := ⟨by decide, by decide⟩
instance commaless_at : Commaless "@" := ⟨by decide, by decide⟩
instance commaless_dot : Commaless "." := ⟨by decide, by decide⟩
instance commaless_dots : Commaless ".." := ⟨by decide, by decide⟩
instance commaless_dotsEqual : Commaless "..=" := ⟨by decide, by decide⟩
instance commaless_ellipsis : Commaless "..." := ⟨by decide, by decide⟩

/-- Whether a comma is next shows where a token is next. -/
theorem agree_comma_cons (t : Token) (r c : List Token) :
    Agree (atSign "," (t :: r)) (atSign "," (t :: r ++ c)) := by
  constructor
  cases t with
  | _ => rfl

/-! ### Further tokens -/

/-- A test that finds nothing at the end. -/
class FailsAtEnd (p : List Token → Bool) : Prop where
  fails : p [] = false

instance failsAtEnd_atWord (w : String) : FailsAtEnd (atWord w) := ⟨rfl⟩
instance failsAtEnd_atName : FailsAtEnd atName := ⟨rfl⟩
instance failsAtEnd_atLifetime : FailsAtEnd atLifetime := ⟨rfl⟩

instance failsAtEnd_atSign (s : String) : FailsAtEnd (atSign s) where
  fails := by
    unfold atSign
    cases s.toList with
    | nil => rfl
    | cons d more => cases more with
      | _ => rfl

theorem behind_of_not_lifetime {t : Token} {r : List Token} (h : atLifetime (t :: r) = false) :
    behind (t :: r) = r := by
  unfold behind
  split
  · rename_i heq
    rw [heq] at h
    cases h
  · rename_i heq
    exact (List.cons.inj heq).2.symm
  · rename_i heq
    cases heq

/-- A token is the same one, and so is what is behind it, with `c` at the end. -/
theorem behind_append (hts : ts ≠ []) : behind (ts ++ c) = behind ts ++ c := by
  cases ts with
  | nil => exact absurd rfl hts
  | cons t r =>
    cases hlifetime : atLifetime (t :: r) with
    | true =>
      obtain ⟨w, r', heq⟩ := atLifetime_iff.mp hlifetime
      rw [heq]
      rfl
    | false =>
      have hsteady := (steadyTest_atLifetime (c := c)).steady (t :: r)
      rw [hlifetime, List.cons_append] at hsteady
      rw [behind_of_not_lifetime hlifetime, List.cons_append, behind_of_not_lifetime hsteady]

theorem steady_behind (hp : SteadyTest c p) (hfails : FailsAtEnd p) (hq : SteadyTest c q)
    (ts : List Token) : (p (ts ++ c) && q (behind (ts ++ c))) = (p ts && q (behind ts)) := by
  by_cases hts : ts = []
  · subst hts
    rw [hp.steady, hfails.fails, Bool.false_and, Bool.false_and]
  · rw [hp.steady, behind_append hts, hq.steady]

instance (priority := high) agree_behind [hp : SteadyTest c p] [hfails : FailsAtEnd p]
    [hq : SteadyTest c q] :
    Agree (p ts && q (behind ts)) (p (ts ++ c) && q (behind (ts ++ c))) where
  agree := steady_behind hp hfails hq ts

instance (priority := high) agree_not_behind [hp : SteadyTest c p] [hfails : FailsAtEnd p]
    [hq : SteadyTest c q] :
    Agree (p ts && !q (behind ts)) (p (ts ++ c) && !q (behind (ts ++ c))) where
  agree := by
    have hnot : SteadyTest c fun ts => !q ts := inferInstance
    exact steady_behind hp hfails hnot ts

instance (priority := high) agree_behind_or {q' : List Token → Bool} [hp : SteadyTest c p]
    [hfails : FailsAtEnd p] [hq : SteadyTest c q] [hq' : SteadyTest c q'] :
    Agree (p ts && (q (behind ts) || q' (behind ts)))
      (p (ts ++ c) && (q (behind (ts ++ c)) || q' (behind (ts ++ c)))) where
  agree := by
    have hor : SteadyTest c fun ts => q ts || q' ts := inferInstance
    exact steady_behind hp hfails hor ts

/-- Two colons are two tokens. -/
theorem eq_of_atSign_colons {ts : List Token} (hts : atSign "::" ts = true) :
    ∃ joint r, ts = .punct ':' true :: .punct ':' joint :: r := by
  have hs : startsSign [':', ':'] ts = true := hts
  cases ts with
  | nil => cases hs
  | cons t r =>
    cases t with
    | punct d joint =>
      simp only [startsSign_cons (List.cons_ne_nil _ _), Bool.and_eq_true, beq_iff_eq] at hs
      obtain ⟨⟨⟨rfl, -⟩, rfl⟩, hs⟩ := hs
      cases r with
      | nil => cases hs
      | cons u r =>
        cases u with
        | punct e joint =>
          simp only [startsSign, Bool.and_eq_true, beq_iff_eq] at hs
          obtain ⟨rfl, -⟩ := hs
          exact ⟨joint, r, rfl⟩
        | _ => cases hs
    | _ => cases hs

/-- What is tested behind two colons only matters where they are. -/
theorem and_colons_congr {ts : List Token} {b b' : Bool}
    (hb : ∀ joint r, ts = .punct ':' true :: .punct ':' joint :: r → b = b') :
    (atSign "::" ts && b) = (atSign "::" ts && b') := by
  cases hcolons : atSign "::" ts with
  | false => rfl
  | true =>
    obtain ⟨joint, r, hts⟩ := eq_of_atSign_colons hcolons
    rw [hb joint r hts]

instance (priority := high) agree_behindColons [hq : SteadyTest c q] :
    Agree (atSign "::" ts && q (behind (behind ts)))
      (atSign "::" (ts ++ c) && q (behind (behind (ts ++ c)))) where
  agree := by
    rw [show atSign "::" (ts ++ c) = atSign "::" ts from (steadyTest_atSign "::").steady ts]
    refine and_colons_congr fun joint r hts => ?_
    subst hts
    exact hq.steady r

end Tests

end MarkerInjection.Source
