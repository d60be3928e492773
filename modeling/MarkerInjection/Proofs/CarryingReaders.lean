-- The readers that all rules are made of: single tokens, optional parts, loops and
-- groups. Each of them carries over.
import MarkerInjection.Proofs.Carrying

namespace MarkerInjection.Source

variable {α β : Type} {c ts : List Token}

/-! ## Single tokens -/

section Single

variable {t u : Token} {r : List Token}

instance carriesAt_goTo : CarriesAt c (t :: r) (goTo r) (goTo (r ++ c)) where
  carries := by
    intro l x j h
    cases h
    exact ⟨rfl, List.suffix_cons _ _⟩

instance carriesAt_goTo_second : CarriesAt c (t :: u :: r) (goTo r) (goTo (r ++ c)) where
  carries := by
    intro l x j h
    cases h
    exact ⟨rfl, (List.suffix_cons _ _).trans (List.suffix_cons _ _)⟩

theorem carriesAt_goTo_of_suffix {ts r : List Token} (hr : r <:+ ts) :
    CarriesAt c ts (goTo r) (goTo (r ++ c)) where
  carries := by
    intro l x j h
    cases h
    exact ⟨rfl, hr⟩

instance takesAt_goTo : TakesAt c (t :: r) (goTo r) (goTo (r ++ c)) where
  takes := by
    intro l x j h
    cases h
    exact Nat.lt_succ_self _

instance takesAt_goTo_second : TakesAt c (t :: u :: r) (goTo r) (goTo (r ++ c)) where
  takes := by
    intro l x j h
    cases h
    exact Nat.lt_add_of_pos_right (Nat.succ_pos 1)

end Single

instance carriesAt_takeWord (w : String) : CarriesAt c ts (takeWord w) (takeWord w) := by
  unfold takeWord
  refine carriesAt_ahead (h := ?_)
  split
  · rw [List.cons_append]
    infer_instance
  · infer_instance

instance takesAt_takeWord (w : String) : TakesAt c ts (takeWord w) (takeWord w) := by
  unfold takeWord
  refine takesAt_ahead (h := ?_)
  split
  · rw [List.cons_append]
    infer_instance
  · infer_instance

instance carriesAt_takeName : CarriesAt c ts takeName takeName := by
  unfold takeName
  refine carriesAt_ahead (h := ?_)
  split
  · rw [List.cons_append]
    infer_instance
  · infer_instance

instance carriesAt_takeAnyWord : CarriesAt c ts takeAnyWord takeAnyWord := by
  unfold takeAnyWord
  refine carriesAt_ahead (h := ?_)
  split
  · rw [List.cons_append]
    infer_instance
  · infer_instance

instance takesAt_takeAnyWord : TakesAt c ts takeAnyWord takeAnyWord := by
  unfold takeAnyWord
  refine takesAt_ahead (h := ?_)
  split
  · rw [List.cons_append]
    infer_instance
  · infer_instance

instance carriesAt_takeLifetime : CarriesAt c ts takeLifetime takeLifetime := by
  unfold takeLifetime
  refine carriesAt_ahead (h := ?_)
  split
  · simp only [List.cons_append]
    infer_instance
  · infer_instance

instance takesAt_takeLifetime : TakesAt c ts takeLifetime takeLifetime := by
  unfold takeLifetime
  refine takesAt_ahead (h := ?_)
  split
  · simp only [List.cons_append]
    infer_instance
  · infer_instance

instance carriesAt_literalRule : CarriesAt c ts literalRule literalRule := by
  unfold literalRule
  refine carriesAt_ahead (h := ?_)
  split
  · rw [List.cons_append]
    infer_instance
  · rw [List.cons_append]
    infer_instance
  · simp only [List.cons_append]
    infer_instance
  · infer_instance

instance carriesAt_anyGroup : CarriesAt c ts anyGroup anyGroup := by
  unfold anyGroup
  refine carriesAt_ahead (h := ?_)
  split
  · rw [List.cons_append]
    infer_instance
  · infer_instance

theorem run_takeSign_of_at {s : String} (hs : atSign s ts = true) (l : Option Delimiter) :
    takeSign s ⟨ts, l⟩ = .ok (sign s, ⟨ts.drop s.length, l⟩) := by
  change (if atSign s ts then _ else _ : Rule) _ = _
  rw [if_pos hs]
  rfl

theorem at_of_run_takeSign {s : String} {l : Option Delimiter} {x : List Token} {j : Input}
    (h : takeSign s ⟨ts, l⟩ = .ok (x, j)) : atSign s ts = true := by
  change (if atSign s ts then _ else _ : Rule) _ = _ at h
  split at h
  · assumption
  · cases h

instance carriesAt_takeSign (s : String) : CarriesAt c ts (takeSign s) (takeSign s) where
  carries := by
    intro l x j h
    have hs := at_of_run_takeSign h
    have hlength : s.length ≤ ts.length := String.length_toList ▸ length_le_of_startsSign hs
    rw [run_takeSign_of_at hs] at h
    cases h
    rw [run_takeSign_of_at (startsSign_append hs c), List.drop_append_of_le_length hlength]
    exact ⟨rfl, List.drop_suffix _ _⟩

instance takesAt_takeSign (s : String) : TakesAt c ts (takeSign s) (takeSign s) where
  takes := by
    intro l x j h
    have hs := at_of_run_takeSign h
    have hlength : s.length ≤ ts.length := String.length_toList ▸ length_le_of_startsSign hs
    have hpos : 0 < s.length := by
      rw [← String.length_toList]
      refine List.length_pos_iff.mpr fun hnil => ?_
      rw [atSign, hnil] at hs
      cases hs
    rw [run_takeSign_of_at hs] at h
    cases h
    rw [List.length_drop]
    omega

instance carriesAt_nameRule : CarriesAt c ts nameRule nameRule := by
  unfold nameRule
  infer_instance

instance carriesAt_anyWordRule : CarriesAt c ts anyWordRule anyWordRule := by
  unfold anyWordRule
  infer_instance

instance takesAt_anyWordRule : TakesAt c ts anyWordRule anyWordRule := by
  unfold anyWordRule
  infer_instance

instance carriesAt_lifetimeRule : CarriesAt c ts lifetimeRule lifetimeRule := by
  unfold lifetimeRule
  infer_instance

instance takesAt_lifetimeRule : TakesAt c ts lifetimeRule lifetimeRule := by
  unfold lifetimeRule
  infer_instance

/-! ## Optional parts -/

instance carriesAt_nothing : CarriesAt c ts nothing nothing := carriesAt_pure _

instance carriesAt_whenNext {p : List Token → Bool} [SteadyTest c p] {r r' : Rule}
    [CarriesAt c ts r r'] : CarriesAt c ts (whenNext p r) (whenNext p r') := by
  unfold whenNext
  infer_instance

section Optional

variable [EndsMember c]

instance carriesAt_optSign (s : String) [Commaless s] :
    CarriesAt c ts (optSign s) (optSign s) := by
  unfold optSign
  infer_instance

instance (priority := high) carriesAt_optSign_nil (s : String) :
    CarriesAt [] ts (optSign s) (optSign s) := by
  unfold optSign
  infer_instance

instance carriesAt_optWord (w : String) : CarriesAt c ts (optWord w) (optWord w) := by
  unfold optWord
  infer_instance

instance carriesAt_optLifetime : CarriesAt c ts optLifetime optLifetime := by
  unfold optLifetime
  infer_instance

instance carriesAt_stringRule : CarriesAt c ts stringRule stringRule := by
  unfold stringRule
  infer_instance

end Optional

instance carriesAt_since (start : List Token) :
    CarriesAt c ts (since start) (since (start ++ c)) where
  carries := by
    intro l x j h
    cases h
    refine ⟨?_, List.suffix_rfl⟩
    have hcount : (start ++ c).length - (ts ++ c).length = start.length - ts.length := by
      simp only [List.length_append]
      omega
    change Except.ok ((start ++ c).take ((start ++ c).length - (ts ++ c).length), _) = _
    rw [hcount, List.take_append_of_le_length (Nat.sub_le _ _)]

instance (priority := high) carriesAt_since_nil (start : List Token) :
    CarriesAt [] ts (since start) (since start) := by
  have hsince : CarriesAt [] ts (since start) (since (start ++ [])) := carriesAt_since start
  rwa [List.append_nil] at hsince

theorem run_attempt_of_ok {r : Reader α} {i j : Input} {x : α} (hr : r i = .ok (x, j)) :
    attempt r i = .ok (some x, j) := by
  have hrun : r.run i = .ok (x, j) := hr
  have hget : (get : Reader Input) i = .ok (i, i) := rfl
  unfold attempt
  rw [run_bind_of_ok hget, hrun]
  rfl

theorem run_attempt_of_error {r : Reader α} {i : Input} {e : SyntaxError} (hr : r i = .error e) :
    attempt r i = .ok (none, i) := by
  have hrun : r.run i = .error e := hr
  have hget : (get : Reader Input) i = .ok (i, i) := rfl
  unfold attempt
  rw [run_bind_of_ok hget, hrun]
  rfl

/-- Whether an attempt succeeds does not depend on what may stand behind a member only if nothing
does. -/
instance carriesAt_attempt_nil {r : Reader α} [hr : CarriesAt [] ts r r] :
    CarriesAt [] ts (attempt r) (attempt r) where
  carries := by
    intro l x j h
    rw [List.append_nil, List.append_nil]
    refine ⟨h, ?_⟩
    cases hread : r ⟨ts, l⟩ with
    | error e =>
      rw [run_attempt_of_error hread] at h
      cases h
      exact List.suffix_rfl
    | ok read =>
      obtain ⟨y, k⟩ := read
      rw [run_attempt_of_ok hread] at h
      cases h
      exact (hr.carries_nil hread).2

instance carriesAt_asWritten {r r' : Reader α} [CarriesAt c ts r r'] :
    CarriesAt c ts (asWritten r) (asWritten r') := by
  unfold asWritten
  infer_instance

instance carriesAt_keptIf {r r' : Reader (List Token × Bool)} [CarriesAt c ts r r'] :
    CarriesAt c ts (keptIf r) (keptIf r') := by
  unfold keptIf
  infer_instance

/-! ## Loops -/

set_option synthInstance.maxSize 4000

section Loops

variable {step step' : Reader (α × Bool)} {i j k : Input} {x : α} {xs : List α}

theorem repeatAlong_stop (hstep : step i = .ok ((x, false), j)) (fuel : List Token) :
    repeatAlong step fuel i = .ok ([x], j) := by
  cases fuel with
  | nil => exact run_bind_of_ok hstep
  | cons t fuel => exact run_bind_of_ok hstep

theorem repeatAlong_again (hstep : step i = .ok ((x, true), j)) {t : Token}
    {fuel : List Token}
    (hmore : repeatAlong step fuel j = .ok (xs, k)) :
    repeatAlong step (t :: fuel) i = .ok (x :: xs, k) := by
  unfold repeatAlong
  rw [run_bind_of_ok hstep]
  exact run_bind_of_ok hmore

/-- A loop does its first step, and that is all or more follows. -/
theorem ok_of_repeatAlong {fuel : List Token} (h : repeatAlong step fuel i = .ok (xs, j)) :
    ∃ x again k, step i = .ok ((x, again), k) ∧
      ((fuel = [] ∨ again = false) ∧ xs = [x] ∧ k = j ∨
        ∃ t more ys, fuel = t :: more ∧ again = true ∧ xs = x :: ys ∧
          repeatAlong step more k = .ok (ys, j)) := by
  cases fuel with
  | nil =>
    obtain ⟨⟨x, again⟩, k, hstep, hrest⟩ := ok_of_run_bind h
    cases hrest
    exact ⟨x, again, _, hstep, Or.inl ⟨Or.inl rfl, rfl, rfl⟩⟩
  | cons t more =>
    obtain ⟨⟨x, again⟩, k, hstep, hrest⟩ := ok_of_run_bind h
    refine ⟨x, again, k, hstep, ?_⟩
    cases again with
    | false =>
      cases hrest
      exact Or.inl ⟨Or.inr rfl, rfl, rfl⟩
    | true =>
      obtain ⟨ys, k', hmore, hdone⟩ := ok_of_run_bind hrest
      cases hdone
      exact Or.inr ⟨t, more, ys, rfl, rfl, rfl, hmore⟩

/-- A loop whose steps take tokens never uses up the steps it may do, so it carries over to one
that may do more. -/
theorem carries_repeatAlong (hstep : ∀ ts', CarriesAt c ts' step step')
    (hadvances : ∀ ts', AdvancesAt c ts' step step') {fuel fuel' : List Token}
    {l : Option Delimiter} (hfuel : ts.length ≤ fuel.length) (hmore : fuel.length ≤ fuel'.length)
    (h : repeatAlong step fuel ⟨ts, l⟩ = .ok (xs, j)) :
    repeatAlong step' fuel' ⟨ts ++ c, l⟩ = .ok (xs, ⟨j.tokens ++ c, j.leftover⟩) ∧
      j.tokens <:+ ts := by
  induction fuel generalizing fuel' ts l xs with
  | nil =>
    obtain ⟨x, again, k, hx, ⟨-, rfl, rfl⟩ | ⟨t, more, ys, hcons, -⟩⟩ := ok_of_repeatAlong h
    · obtain ⟨hfirst, hshort⟩ := (hstep ts).carries hx
      cases again with
      | false => exact ⟨repeatAlong_stop hfirst fuel', hshort⟩
      | true => exact absurd ((hadvances ts).advances hx) (by simp at hfuel; simp [hfuel])
    · cases hcons
  | cons t fuel ih =>
    obtain ⟨x, again, k, hx, ⟨hstop, rfl, rfl⟩ | ⟨t, more, ys, hcons, rfl, rfl, hrest⟩⟩ :=
      ok_of_repeatAlong h
    · obtain ⟨hfirst, hshort⟩ := (hstep ts).carries hx
      obtain rfl : again = false := by simpa using hstop
      exact ⟨repeatAlong_stop hfirst fuel', hshort⟩
    · cases hcons
      obtain ⟨hfirst, hshort⟩ := (hstep ts).carries hx
      have htaken := (hadvances ts).advances hx
      cases fuel' with
      | nil => simp at hmore
      | cons t' fuel' =>
        simp only [List.length_cons, Nat.add_le_add_iff_right] at hfuel hmore
        obtain ⟨hothers, hshorter⟩ := ih (by omega) hmore hrest
        exact ⟨repeatAlong_again hfirst hothers, hshorter.trans hshort⟩

instance carriesAt_repeated [hstep : ∀ ts', CarriesAt c ts' step step']
    [hadvances : ∀ ts', AdvancesAt c ts' step step'] :
    CarriesAt c ts (repeated step) (repeated step') where
  carries h := carries_repeatAlong hstep hadvances (Nat.le_refl _) (by simp) h

/-- The same tokens allow the same number of steps, so the steps need not take tokens. -/
theorem carries_repeatAlong_nil (hstep : ∀ ts', CarriesAt [] ts' step step') {fuel : List Token}
    {l : Option Delimiter} (h : repeatAlong step fuel ⟨ts, l⟩ = .ok (xs, j)) :
    repeatAlong step' fuel ⟨ts, l⟩ = .ok (xs, j) ∧ j.tokens <:+ ts := by
  induction fuel generalizing ts l xs with
  | nil =>
    obtain ⟨x, again, k, hx, ⟨-, rfl, rfl⟩ | ⟨t, more, ys, hcons, -⟩⟩ := ok_of_repeatAlong h
    · obtain ⟨hfirst, hshort⟩ := (hstep ts).carries_nil hx
      exact ⟨run_bind_of_ok hfirst, hshort⟩
    · cases hcons
  | cons t fuel ih =>
    obtain ⟨x, again, k, hx, ⟨hstop, rfl, rfl⟩ | ⟨t, more, ys, hcons, rfl, rfl, hrest⟩⟩ :=
      ok_of_repeatAlong h
    · obtain ⟨hfirst, hshort⟩ := (hstep ts).carries_nil hx
      obtain rfl : again = false := by simpa using hstop
      exact ⟨repeatAlong_stop hfirst _, hshort⟩
    · cases hcons
      obtain ⟨hfirst, hshort⟩ := (hstep ts).carries_nil hx
      obtain ⟨hothers, hshorter⟩ := ih hrest
      exact ⟨repeatAlong_again hfirst hothers, hshorter.trans hshort⟩

instance (priority := high) carriesAt_repeated_nil [hstep : ∀ ts', CarriesAt [] ts' step step'] :
    CarriesAt [] ts (repeated step) (repeated step') where
  carries h := by
    rw [List.append_nil, List.append_nil]
    exact carries_repeatAlong_nil hstep h

end Loops

section Lists

variable {stop : List Token → Bool} {separator : String} {member member' : Reader α}
  [hmember : ∀ ts', CarriesAt c ts' member member']

instance carriesAt_punctuated [SteadyTest c stop] :
    CarriesAt c ts (punctuated stop separator member) (punctuated stop separator member') := by
  unfold punctuated
  infer_instance

instance carriesAt_chained [SteadyTest c stop] [SteadyTest c (atSign separator)] :
    CarriesAt c ts (chained stop separator member) (chained stop separator member') := by
  unfold chained
  infer_instance

/-- What is read where a list goes on: a member, with the separator behind it if it has one. -/
def chainedMember (separator : String) (member : Reader α) : Reader (List (α × Bool) × Bool) := do
  let x ← member
  if ← next (atSign separator) then
    let _ ← takeSign separator
    return ([(x, true)], true)
  return ([(x, false)], false)

/-- A test that a comma passes and the end does not is as good as a steady one before a reader that
refuses the end. -/
theorem carriesAt_unless {r r' : Reader α} [hr : CarriesAt c ts r r'] {x : α}
    (hstop : ∀ t r, stop (t :: r ++ c) = stop (t :: r)) (hnil : stop [] = false)
    (hrefuses : ∀ l, ∃ e, r ⟨[], l⟩ = .error e) :
    CarriesAt c ts (next stop >>= fun b => if b then pure x else r)
      (next stop >>= fun b => if b then pure x else r') where
  carries := by
    intro l y j h
    rw [run_bind_of_ok (run_next stop _)] at h ⊢
    cases ts with
    | nil =>
      obtain ⟨e, he⟩ := hrefuses l
      rw [hnil, if_neg Bool.false_ne_true, he] at h
      cases h
    | cons t rest =>
      have hsame : Agree (stop (t :: rest)) (stop (t :: rest ++ c)) := ⟨hstop t rest⟩
      have hchoice : CarriesAt c (t :: rest) (if stop (t :: rest) then pure x else r)
          (if stop (t :: rest ++ c) then pure x else r') := inferInstance
      exact hchoice.carries h

/-- Where a comma ends the list, the end of the tokens need not: no member begins there. -/
theorem carriesAt_chained_of_begins [SteadyTest c (atSign separator)]
    (hstop : ∀ t r, stop (t :: r ++ c) = stop (t :: r)) (hnil : stop [] = false)
    (hbegins : ∀ l, ∃ e, member ⟨[], l⟩ = .error e) :
    CarriesAt c ts (chained stop separator member) (chained stop separator member') := by
  have hstep (ts' : List Token) : CarriesAt c ts'
      (next stop >>= fun b => if b then pure ([], false) else chainedMember separator member)
      (next stop >>= fun b => if b then pure ([], false) else chainedMember separator member') := by
    have hmember : CarriesAt c ts' (chainedMember separator member)
        (chainedMember separator member') := by
      unfold chainedMember
      infer_instance
    refine carriesAt_unless hstop hnil fun l => ?_
    obtain ⟨e, he⟩ := hbegins l
    exact ⟨e, run_bind_of_error he⟩
  unfold chainedMember at hstep
  unfold chained
  infer_instance

end Lists

instance carriesAt_commaList {member member' : Rule} [∀ ts', CarriesAt [] ts' member member'] :
    CarriesAt [] ts (commaList member) (commaList member') := by
  unfold commaList
  infer_instance

instance carriesAt_untilEnd {r r' : Reader α} [∀ ts', CarriesAt [] ts' r r'] :
    CarriesAt [] ts (untilEnd r) (untilEnd r') := by
  unfold untilEnd atEnd
  infer_instance

/-! ## Whole inputs -/

theorem run_of_readAll {α : Type} {r : Reader α} {ts : List Token} {x : α}
    (h : readAll r ts = .ok x) : r ⟨ts, none⟩ = .ok (x, ⟨[], none⟩) := by
  have hrun : r.run ⟨ts, none⟩ = r ⟨ts, none⟩ := rfl
  unfold readAll at h
  rw [hrun] at h
  split at h
  · cases h
  · rename_i y after hread
    obtain ⟨rest, leftover⟩ := after
    split at h
    · cases h
    · rename_i hleftover
      split at h
      · rename_i hrest
        cases h
        obtain rfl : leftover = none := hleftover
        obtain rfl : rest = [] := List.isEmpty_iff.mp hrest
        exact hread
      · cases h

/-! ## Groups -/

section Groups

variable {r r' : Reader α} {more more' : α → Reader β}

/-- What a group is read as: what stands in it, then what stands behind it. What is left of the
inside is remembered behind both. -/
theorem run_insideThen {d : Delimiter} {inner rest : List Token} {l : Option Delimiter} {x : α}
    {after : Input} (hr : r ⟨inner, l⟩ = .ok (x, after)) {y : β} {k : Input}
    (hmore : more x ⟨rest, after.leftover⟩ = .ok (y, k)) :
    insideThen d r more ⟨.group d inner :: rest, l⟩ =
      .ok (y, ⟨k.tokens, k.leftover.or (if after.tokens.isEmpty then none else some d)⟩) := by
  have hrun : r.run ⟨inner, l⟩ = .ok (x, after) := hr
  have hget : (get : Reader Input) ⟨.group d inner :: rest, l⟩ = .ok (_, _) := rfl
  unfold insideThen
  rw [run_bind_of_ok hget]
  simp only [BEq.rfl, if_true, hrun]
  rw [run_bind_of_ok (j := ⟨rest, after.leftover⟩) rfl, run_bind_of_ok hmore]
  rfl

theorem ok_of_insideThen {d : Delimiter} {l : Option Delimiter} {y : β} {j : Input}
    (h : insideThen d r more ⟨ts, l⟩ = .ok (y, j)) :
    ∃ inner rest x after k, ts = .group d inner :: rest ∧ r ⟨inner, l⟩ = .ok (x, after) ∧
      more x ⟨rest, after.leftover⟩ = .ok (y, k) ∧
      j = ⟨k.tokens, k.leftover.or (if after.tokens.isEmpty then none else some d)⟩ := by
  unfold insideThen at h
  obtain ⟨i, i', hget, h⟩ := ok_of_run_bind h
  cases hget
  dsimp only at h
  split at h
  · rename_i e inner rest _
    by_cases hd : (d == e) = true
    · obtain rfl : d = e := eq_of_beq hd
      rcases hr : r.run ⟨inner, l⟩ with err | ⟨x, after⟩
      · simp only [hd, if_true, hr] at h
        cases h
      · simp only [hd, if_true, hr] at h
        obtain ⟨_, i, hset, h⟩ := ok_of_run_bind h
        cases hset
        obtain ⟨y', k, hmore, h⟩ := ok_of_run_bind h
        cases h
        exact ⟨inner, rest, x, after, k, rfl, hr, hmore, rfl⟩
    · rw [if_neg hd] at h
      cases h
  · cases h

instance carriesAt_insideThen {d : Delimiter} [hr : ∀ ts', CarriesAt [] ts' r r']
    [hmore : ∀ x ts', CarriesAt c ts' (more x) (more' x)] :
    CarriesAt c ts (insideThen d r more) (insideThen d r' more') where
  carries := by
    intro l y j h
    obtain ⟨inner, rest, x, after, k, rfl, hx, hy, rfl⟩ := ok_of_insideThen h
    have hinner := ((hr inner).carries_nil hx).1
    obtain ⟨hbehind, hshort⟩ := (hmore x rest).carries hy
    rw [List.cons_append, run_insideThen hinner hbehind]
    exact ⟨rfl, hshort.trans (List.suffix_cons _ _)⟩

instance takesAt_insideThen {d : Delimiter} [hmore : ∀ x ts', CarriesAt c ts' (more x) (more' x)] :
    TakesAt c ts (insideThen d r more) (insideThen d r' more') where
  takes := by
    intro l y j h
    obtain ⟨inner, rest, x, after, k, rfl, hx, hy, rfl⟩ := ok_of_insideThen h
    exact Nat.lt_succ_of_le ((hmore x rest).carries hy).2.length_le

instance carriesAt_inside {d : Delimiter} [∀ ts', CarriesAt [] ts' r r'] :
    CarriesAt c ts (inside d r) (inside d r') := by
  unfold inside
  infer_instance

instance takesAt_inside {d : Delimiter} : TakesAt c ts (inside d r) (inside d r') := by
  unfold inside
  infer_instance

instance carriesAt_within {d : Delimiter} {r r' : Rule} [∀ ts', CarriesAt [] ts' r r'] :
    CarriesAt c ts (within d r) (within d r') := by
  unfold within
  infer_instance

instance takesAt_within {d : Delimiter} {r r' : Rule} :
    TakesAt c ts (within d r) (within d r') := by
  unfold within
  infer_instance

end Groups

end MarkerInjection.Source
