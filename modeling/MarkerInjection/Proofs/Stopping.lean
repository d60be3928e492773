-- Readers that stop before the end of the tokens: as long as the end looks alike, it does not
-- matter what it is, a sign with more behind it or brackets with something else in them.
-- One law for each way in which readers are put together, as for those that carry over.
import MarkerInjection.Proofs.CarryingItems

namespace MarkerInjection.Source

/-! ## Ends that look alike -/

/-- A sign that parts what is before it from what is behind it. A comma and a semicolon do so
even if they are joined to what comes next, as no longer sign begins with one. -/
def Parts (d : Char) (joint : Bool) : Prop :=
  d = ',' ∨ d = ';' ∨ ((d = '>' ∨ d = '=') ∧ joint = false)

/-- A last token, and what looks like it to a reader that does not take it: a sign with more
behind it, or curly brackets with something else in them. -/
class inductive LikeEnds : List Token → List Token → Prop
  | signs (d : Char) (joint : Bool) (more : List Token) (hparts : Parts d joint) :
    LikeEnds [.punct d joint] (.punct d joint :: more)
  | bodies (inner inner' more : List Token) :
    LikeEnds [.group .brace inner] (.group .brace inner' :: more)

variable {α β : Type} {c c' ts : List Token}

/-- As far as `r` reads before the end `c`, so does `r'` before the end `c'`. -/
class StopsAt (c c' ts : List Token) (r r' : Reader α) : Prop where
  stops : ∀ {l x j}, r ⟨ts ++ c, l⟩ = .ok (x, j) → j.tokens ≠ [] →
    ∃ us, j.tokens = us ++ c ∧ r' ⟨ts ++ c', l⟩ = .ok (x, ⟨us ++ c', j.leftover⟩)

/-- The test does not tell the two ends apart. -/
class LikeTest (c c' : List Token) (p : List Token → Bool) : Prop where
  like : ∀ ts, p (ts ++ c') = p (ts ++ c)

/-! ## One reader after another -/

section Sequences

variable {r r' : Reader α} {f f' : α → Reader β}

theorem nil_of_run_nil {l : Option Delimiter} {x : α} {j : Input} (hr : CarriesAt [] [] r r)
    (h : r ⟨[], l⟩ = .ok (x, j)) : j.tokens = [] := List.suffix_nil.mp (hr.carries_nil h).2

instance (priority := low) stopsAt_bind [hr : StopsAt c c' ts r r']
    [hf : ∀ x ts', StopsAt c c' ts' (f x) (f' x)] [hend : ∀ x, CarriesAt [] [] (f x) (f x)] :
    StopsAt c c' ts (r >>= f) (r' >>= f') where
  stops := by
    intro l y j h hj
    obtain ⟨x, ⟨rest, l'⟩, hx, hy⟩ := ok_of_run_bind h
    have hrest : rest ≠ [] := by
      rintro rfl
      exact hj (nil_of_run_nil (hend x) hy)
    obtain ⟨us, rfl, hfirst⟩ := hr.stops hx hrest
    obtain ⟨vs, hvs, hsecond⟩ := (hf x us).stops hy hj
    exact ⟨vs, hvs, (run_bind_of_ok hfirst).trans hsecond⟩

instance stopsAt_pure (x : α) : StopsAt c c' ts (pure x) (pure x) where
  stops := by
    intro l y j h hj
    cases h
    exact ⟨ts, rfl, rfl⟩

instance stopsAt_throw (e : SyntaxError) (r' : Reader α) :
    StopsAt c c' ts (throw e : Reader α) r' where
  stops h := by cases h

instance stopsAt_wanting (wanted : List String) (r' : Reader α) :
    StopsAt c c' ts (wanting wanted) r' where
  stops h := by cases h

instance stopsAt_forbid (text : String) (r' : Reader α) : StopsAt c c' ts (forbid text) r' where
  stops h := by cases h

instance stopsAt_ite {p : Prop} [Decidable p] {s s' : Reader α} [StopsAt c c' ts r r']
    [StopsAt c c' ts s s'] : StopsAt c c' ts (if p then r else s) (if p then r' else s') := by
  split
  · infer_instance
  · infer_instance

instance (priority := low) stopsAt_choice {b b' : Bool} [hb : Agree b b'] {s s' : Reader α}
    [StopsAt c c' ts r r'] [StopsAt c c' ts s s'] :
    StopsAt c c' ts (if b then r else s) (if b' then r' else s') := by
  rw [hb.agree]
  infer_instance

instance stopsAt_ahead {f f' : List Token → Reader α}
    [h : StopsAt c c' ts (f (ts ++ c)) (f' (ts ++ c'))] :
    StopsAt c c' ts (ahead >>= f) (ahead >>= f') where
  stops hx hj := h.stops hx hj

instance stopsAt_next_bind {p : List Token → Bool} [hp : LikeTest c c' p]
    {f f' : Bool → Reader α} [h : ∀ b, StopsAt c c' ts (f b) (f' b)] :
    StopsAt c c' ts (next p >>= f) (next p >>= f') where
  stops := by
    intro l x j hx hj
    rw [run_bind_of_ok (run_next p _)] at hx ⊢
    rw [hp.like]
    exact (h _).stops hx hj

/-- What does not read at all leaves the tokens. -/
instance stopsAt_lift_bind {e : Except SyntaxError α} {f f' : α → Reader β}
    [h : ∀ x, StopsAt c c' ts (f x) (f' x)] :
    StopsAt c c' ts ((liftM e : Reader α) >>= f) ((liftM e : Reader α) >>= f') where
  stops := by
    intro l y j hy hj
    cases e with
    | error e => cases hy
    | ok x => exact (h x).stops hy hj

instance stopsAt_append {r r' s s' : Rule} [StopsAt c c' ts r r']
    [∀ ts', StopsAt c c' ts' s s'] [CarriesAt [] [] s s] :
    StopsAt c c' ts (r ++ s) (r' ++ s') :=
  inferInstanceAs (StopsAt c c' ts (r >>= fun x => s >>= fun y => pure (x ++ y))
    (r' >>= fun x => s' >>= fun y => pure (x ++ y)))

end Sequences

/-! ## Tests -/

section Tests

variable {p q : List Token → Bool}

instance (priority := low) likeTest_of_agree [hp : ∀ ts, Agree (p (ts ++ c)) (p (ts ++ c'))] :
    LikeTest c c' p where
  like ts := (hp ts).agree

instance agree_of_like [hp : LikeTest c c' p] : Agree (p (ts ++ c)) (p (ts ++ c')) where
  agree := hp.like ts

variable [hc : LikeEnds c c']

/-- A test of the next token finds the same at both ends. -/
theorem likeTest_of_head (hhead : ∀ t r r', p (t :: r) = p (t :: r'))
    (hbody : ∀ inner inner', p [.group .brace inner'] = p [.group .brace inner]) :
    LikeTest c c' p where
  like ts := by
    cases ts with
    | nil =>
      cases hc with
      | signs d joint more hparts => exact hhead _ _ _
      | bodies inner inner' more => exact (hhead _ _ _).trans (hbody inner inner')
    | cons t r => exact hhead t _ _

instance likeTest_isEmpty : LikeTest c c' List.isEmpty :=
  likeTest_of_head (fun _ _ _ => rfl) fun _ _ => rfl

instance likeTest_atWord (w : String) : LikeTest c c' (atWord w) :=
  likeTest_of_head (fun t _ _ => by cases t <;> rfl) fun _ _ => rfl

instance likeTest_atAnyWord : LikeTest c c' atAnyWord :=
  likeTest_of_head (fun t _ _ => by cases t <;> rfl) fun _ _ => rfl

instance likeTest_atName : LikeTest c c' atName :=
  likeTest_of_head (fun t _ _ => by cases t <;> rfl) fun _ _ => rfl

instance likeTest_atGroup (d : Delimiter) : LikeTest c c' (atGroup d) :=
  likeTest_of_head (fun t _ _ => by cases t <;> rfl) fun _ _ => rfl

instance likeTest_atString : LikeTest c c' atString :=
  likeTest_of_head (fun t _ _ => by cases t <;> rfl) fun _ _ => rfl

/-- A test of the next two tokens, neither of which is one of the ends. -/
theorem likeTest_of_pair (hpair : ∀ t u r r', p (t :: u :: r) = p (t :: u :: r'))
    (hsign : ∀ d joint more, Parts d joint → p (.punct d joint :: more) = false)
    (hbody : ∀ inner more, p (.group .brace inner :: more) = false)
    (hlast : ∀ t inner inner', p [t, .group .brace inner'] = p [t, .group .brace inner]) :
    LikeTest c c' p where
  like ts := by
    rcases ts with _ | ⟨t, _ | ⟨u, r⟩⟩
    · cases hc with
      | signs d joint more hparts =>
        exact (hsign d joint more hparts).trans (hsign d joint [] hparts).symm
      | bodies inner inner' more => exact (hbody inner' more).trans (hbody inner []).symm
    · cases hc with
      | signs d joint more hparts => exact hpair t _ _ _
      | bodies inner inner' more => exact (hpair t _ _ _).trans (hlast t inner inner')
    · exact hpair t u _ _

instance likeTest_atLifetime : LikeTest c c' atLifetime := by
  refine likeTest_of_pair (fun t u r r' => ?_) (fun d joint more hparts => ?_) (fun _ _ => rfl)
    fun t _ _ => ?_
  · rw [Bool.eq_iff_iff, atLifetime_iff, atLifetime_iff]
    simp
  · rw [Bool.eq_false_iff, ne_eq, atLifetime_iff]
    rcases hparts with rfl | rfl | ⟨rfl | rfl, -⟩ <;> simp
  · rw [Bool.eq_iff_iff, atLifetime_iff, atLifetime_iff]
    simp

instance likeTest_atLiteral : LikeTest c c' atLiteral := by
  refine likeTest_of_pair (fun t u r r' => ?_) (fun d joint more hparts => ?_) (fun _ _ => rfl)
    fun t _ _ => ?_
  · rw [Bool.eq_iff_iff, atLiteral_iff, atLiteral_iff]
    simp
  · rw [Bool.eq_false_iff, ne_eq, atLiteral_iff]
    rcases hparts with rfl | rfl | ⟨rfl | rfl, -⟩ <;> simp
  · rw [Bool.eq_iff_iff, atLiteral_iff, atLiteral_iff]
    simp

/-! ### Signs -/

/-- What stands behind the last token of a sign is no part of it. -/
theorem startsSign_append_end {s : List Char} (hcomma : ',' ∉ s.dropLast)
    (hsemicolon : ';' ∉ s.dropLast) (ts : List Token) :
    startsSign s (ts ++ c') = startsSign s (ts ++ c) := by
  induction ts generalizing s with
  | nil =>
    rcases s with _ | ⟨e, _ | ⟨e', s⟩⟩
    · rfl
    · cases hc with
      | _ => rfl
    · cases hc with
      | bodies inner inner' more => rfl
      | signs d joint more hparts =>
        have hne (hjoint : joint = true) : (e == d) = false := by
          rcases hparts with rfl | rfl | ⟨-, hfalse⟩
          · exact beq_eq_false_iff_ne.mpr fun h => hcomma (by simp [h])
          · exact beq_eq_false_iff_ne.mpr fun h => hsemicolon (by simp [h])
          · rw [hjoint] at hfalse
            cases hfalse
        simp only [List.nil_append, startsSign_cons (List.cons_ne_nil e' s)]
        cases joint with
        | false => simp
        | true => simp [hne rfl]
  | cons t r ih =>
    rcases s with _ | ⟨e, _ | ⟨e', s⟩⟩
    · rfl
    · cases t with
      | _ => rfl
    · cases t with
      | punct d joint =>
        simp only [List.cons_append, startsSign_cons (List.cons_ne_nil e' s)]
        rw [ih (fun h => hcomma (List.mem_cons_of_mem e h))
          fun h => hsemicolon (List.mem_cons_of_mem e h)]
      | _ => rfl

instance likeTest_atSign (s : String) [hs : Commaless s] : LikeTest c c' (atSign s) where
  like ts := startsSign_append_end (fun h => hs.commaless ((List.dropLast_sublist _).subset h))
    hs.semicolon ts

instance likeTest_comma : LikeTest c c' (atSign ",") :=
  likeTest_of_head (fun t _ _ => by cases t <;> rfl) fun _ _ => rfl

/-! ### Further tokens -/

/-- A test that the end does not pass. -/
class FailsAt (c c' : List Token) (p : List Token → Bool) : Prop where
  fails : p c = false

instance failsAt_atWord (w : String) : FailsAt c c' (atWord w) where
  fails := by
    cases hc with
    | _ => rfl

instance failsAt_atName : FailsAt c c' atName where
  fails := by
    cases hc with
    | _ => rfl

instance failsAt_atLifetime : FailsAt c c' atLifetime where
  fails := by
    cases hc with
    | bodies inner inner' more => rfl
    | signs d joint more hparts =>
      rw [Bool.eq_false_iff, ne_eq, atLifetime_iff]
      simp

/-- A sign without any of the characters that part. -/
class Partless (s : String) : Prop where
  comma : ',' ∉ s.toList
  semicolon : ';' ∉ s.toList
  greater : '>' ∉ s.toList
  equals : '=' ∉ s.toList

theorem Partless.not_mem {s : String} (h : Partless s) :
    ∀ d ∈ [',', ';', '>', '='], d ∉ s.toList := by
  simp only [List.forall_mem_cons]
  exact ⟨h.comma, h.semicolon, h.greater, h.equals, by simp⟩

instance partless_colons : Partless "::" := ⟨by decide, by decide, by decide, by decide⟩
instance partless_less : Partless "<" := ⟨by decide, by decide, by decide, by decide⟩
instance partless_hash : Partless "#" := ⟨by decide, by decide, by decide, by decide⟩
instance partless_bang : Partless "!" := ⟨by decide, by decide, by decide, by decide⟩
instance partless_dot : Partless "." := ⟨by decide, by decide, by decide, by decide⟩
instance partless_ampersand : Partless "&" := ⟨by decide, by decide, by decide, by decide⟩

theorem startsSign_cons_parts {s : List Char} {d : Char} {joint : Bool} {more : List Token}
    (hs : ∀ d ∈ [',', ';', '>', '='], d ∉ s) (hparts : Parts d joint) :
    startsSign s (.punct d joint :: more) = false := by
  have hd : d ∉ s := by
    rcases hparts with rfl | rfl | ⟨rfl | rfl, -⟩
    · exact hs _ (by simp)
    · exact hs _ (by simp)
    · exact hs _ (by simp)
    · exact hs _ (by simp)
  cases s with
  | nil => rfl
  | cons e s =>
    have hne : (e == d) = false := beq_eq_false_iff_ne.mpr fun h => hd (by simp [h])
    cases s with
    | nil => simp [startsSign, hne]
    | cons e' s => simp [startsSign, hne]

/-- Such a sign has nothing of the end. -/
theorem startsSign_append_partless {s : List Char} (hs : ∀ d ∈ [',', ';', '>', '='], d ∉ s)
    (ts : List Token) :
    startsSign s (ts ++ c) = startsSign s ts ∧ startsSign s (ts ++ c') = startsSign s ts := by
  induction ts generalizing s with
  | nil =>
    have hnil : startsSign s [] = false := by
      rcases s with _ | ⟨e, _ | ⟨e', s⟩⟩
      · rfl
      · rfl
      · rfl
    cases hc with
    | signs d joint more hparts =>
      exact ⟨(startsSign_cons_parts hs hparts).trans hnil.symm,
        (startsSign_cons_parts hs hparts).trans hnil.symm⟩
    | bodies inner inner' more =>
      rcases s with _ | ⟨e, _ | ⟨e', s⟩⟩
      · exact ⟨rfl, rfl⟩
      · exact ⟨rfl, rfl⟩
      · exact ⟨rfl, rfl⟩
  | cons t r ih =>
    rcases s with _ | ⟨e, _ | ⟨e', s⟩⟩
    · exact ⟨rfl, rfl⟩
    · cases t with
      | _ => exact ⟨rfl, rfl⟩
    · cases t with
      | punct d joint =>
        obtain ⟨hend, hend'⟩ := ih (s := e' :: s) fun d hd h => hs d hd (List.mem_cons_of_mem e h)
        simp only [List.cons_append, startsSign_cons (List.cons_ne_nil e' s), hend, hend', and_self]
      | _ => exact ⟨rfl, rfl⟩

variable (c c') in
theorem atSign_append (s : String) [hs : Partless s] (ts : List Token) :
    atSign s (ts ++ c) = atSign s ts ∧ atSign s (ts ++ c') = atSign s ts :=
  startsSign_append_partless hs.not_mem ts

instance failsAt_atSign (s : String) [Partless s] : FailsAt c c' (atSign s) where
  fails := (atSign_append c c' s []).1.trans (failsAtEnd_atSign s).fails

instance failsAt_or [hp : FailsAt c c' p] [hq : FailsAt c c' q] :
    FailsAt c c' (fun ts => p ts || q ts) where
  fails := by rw [hp.fails, hq.fails, Bool.or_self]

theorem behind_pair (t u : Token) (r : List Token) :
    behind (t :: u :: r) = if atLifetime [t, u] then r else u :: r := by
  cases h : atLifetime [t, u] with
  | true =>
    obtain ⟨w, r', heq⟩ := atLifetime_iff.mp h
    obtain ⟨rfl, rfl, -⟩ : t = .punct '\'' true ∧ u = .ident w ∧ r' = [] := by simpa using heq
    rfl
  | false =>
    have hnot : atLifetime (t :: u :: r) = false := by
      rw [Bool.eq_false_iff, ne_eq, atLifetime_iff] at h ⊢
      simpa using h
    exact behind_of_not_lifetime hnot

variable (c c') in
/-- What is behind a token has the same end. -/
theorem behind_append_end (hts : ts ≠ []) :
    behind (ts ++ c) = behind ts ++ c ∧ behind (ts ++ c') = behind ts ++ c' := by
  rcases ts with _ | ⟨t, _ | ⟨u, r⟩⟩
  · exact absurd rfl hts
  · have hnone (u : Token) (hu : ∀ w, u ≠ .ident w) (r : List Token) :
        behind (t :: u :: r) = u :: r := by
      rw [behind_pair, if_neg]
      simp [atLifetime_iff, hu]
    have hbehind : behind [t] = [] := by
      refine behind_of_not_lifetime ?_
      rw [Bool.eq_false_iff, ne_eq, atLifetime_iff]
      simp
    rw [hbehind]
    cases hc with
    | _ => exact ⟨hnone _ (by simp) _, hnone _ (by simp) _⟩
  · simp only [List.cons_append, behind_pair]
    split
    · exact ⟨rfl, rfl⟩
    · exact ⟨rfl, rfl⟩

theorem like_behind (hp : LikeTest c c' p) (hfails : FailsAt c c' p) (hq : LikeTest c c' q)
    (ts : List Token) :
    (p (ts ++ c') && q (behind (ts ++ c'))) = (p (ts ++ c) && q (behind (ts ++ c))) := by
  by_cases hts : ts = []
  · subst hts
    have hfails' : p c' = false := (hp.like []).trans hfails.fails
    simp [hfails.fails, hfails']
  · obtain ⟨hbehind, hbehind'⟩ := behind_append_end c c' hts
    rw [hp.like, hbehind, hbehind', hq.like]

instance (priority := high) agree_like_behind [hp : LikeTest c c' p] [hfails : FailsAt c c' p]
    [hq : LikeTest c c' q] :
    Agree (p (ts ++ c) && q (behind (ts ++ c))) (p (ts ++ c') && q (behind (ts ++ c'))) where
  agree := like_behind hp hfails hq ts

instance (priority := high) agree_like_not_behind [hp : LikeTest c c' p]
    [hfails : FailsAt c c' p] [hq : LikeTest c c' q] :
    Agree (p (ts ++ c) && !q (behind (ts ++ c))) (p (ts ++ c') && !q (behind (ts ++ c'))) where
  agree := by
    have hnot : LikeTest c c' fun ts => !q ts := inferInstance
    exact like_behind hp hfails hnot ts

instance (priority := high) agree_like_behind_or {q' : List Token → Bool} [hp : LikeTest c c' p]
    [hfails : FailsAt c c' p] [hq : LikeTest c c' q] [hq' : LikeTest c c' q'] :
    Agree (p (ts ++ c) && (q (behind (ts ++ c)) || q' (behind (ts ++ c))))
      (p (ts ++ c') && (q (behind (ts ++ c')) || q' (behind (ts ++ c')))) where
  agree := by
    have hor : LikeTest c c' fun ts => q ts || q' ts := inferInstance
    exact like_behind hp hfails hor ts

instance (priority := high) agree_like_behindColons [hq : LikeTest c c' q] :
    Agree (atSign "::" (ts ++ c) && q (behind (behind (ts ++ c))))
      (atSign "::" (ts ++ c') && q (behind (behind (ts ++ c')))) where
  agree := by
    obtain ⟨hsame, hsame'⟩ := atSign_append c c' "::" ts
    rw [hsame, hsame']
    refine and_colons_congr fun joint r hts => ?_
    subst hts
    exact hq.like r

end Tests

/-! ## Single tokens -/

section Single

variable [hc : LikeEnds c c']

instance stopsAt_goTo (r : List Token) : StopsAt c c' ts (goTo (r ++ c)) (goTo (r ++ c')) where
  stops := by
    intro l x j h hj
    cases h
    exact ⟨r, rfl, rfl⟩

instance stopsAt_takeWord (w : String) : StopsAt c c' ts (takeWord w) (takeWord w) := by
  unfold takeWord
  refine stopsAt_ahead (h := ?_)
  rcases ts with _ | ⟨t, r⟩
  · cases hc with
    | _ => exact stopsAt_wanting _ _
  · cases t with
    | _ => dsimp only [List.cons_append]; infer_instance

instance stopsAt_takeName : StopsAt c c' ts takeName takeName := by
  unfold takeName
  refine stopsAt_ahead (h := ?_)
  rcases ts with _ | ⟨t, r⟩
  · cases hc with
    | _ => exact stopsAt_wanting _ _
  · cases t with
    | _ => dsimp only [List.cons_append]; infer_instance

instance stopsAt_takeAnyWord : StopsAt c c' ts takeAnyWord takeAnyWord := by
  unfold takeAnyWord
  refine stopsAt_ahead (h := ?_)
  rcases ts with _ | ⟨t, r⟩
  · cases hc with
    | _ => exact stopsAt_wanting _ _
  · cases t with
    | _ => dsimp only [List.cons_append]; infer_instance

/-- Two tokens are taken at once only if neither of them is the end. -/
theorem pair_of_append (hc : LikeEnds c c') {t u : Token} {r : List Token}
    (hu : ∀ inner, u ≠ .group .brace inner) (hsign : ∀ d joint, u ≠ .punct d joint)
    (h : ts ++ c = t :: u :: r) : ∃ r', ts = t :: u :: r' ∧ r = r' ++ c := by
  rcases ts with _ | ⟨t', _ | ⟨u', r'⟩⟩
  · cases hc with
    | signs d joint more hparts => cases h
    | bodies inner inner' more => cases h
  · cases hc with
    | signs d joint more hparts =>
      exact absurd (List.cons.inj (List.cons.inj h).2).1.symm (hsign d joint)
    | bodies inner inner' more => exact absurd (List.cons.inj (List.cons.inj h).2).1.symm (hu inner)
  · simp only [List.cons_append, List.cons.injEq] at h
    obtain ⟨rfl, rfl, rfl⟩ := h
    exact ⟨r', rfl, rfl⟩

instance stopsAt_takeLifetime : StopsAt c c' ts takeLifetime takeLifetime := by
  unfold takeLifetime
  refine stopsAt_ahead (h := ?_)
  split
  · rename_i w r heq
    obtain ⟨r', rfl, rfl⟩ := pair_of_append hc (by simp) (by simp) heq
    simp only [List.cons_append]
    infer_instance
  · infer_instance

instance stopsAt_literalRule : StopsAt c c' ts literalRule literalRule := by
  unfold literalRule
  refine stopsAt_ahead (h := ?_)
  rcases ts with _ | ⟨t, r⟩
  · cases hc with
    | bodies inner inner' more => exact stopsAt_wanting _ _
    | signs d joint more hparts =>
      split
      · rename_i heq
        cases heq
      · rename_i heq
        cases heq
      · rename_i heq
        cases heq
      · exact stopsAt_wanting _ _
  · cases t with
    | punct d joint =>
      split
      · rename_i heq
        cases heq
      · rename_i heq
        cases heq
      · rename_i joint' text r' heq
        obtain ⟨r'', hts, rfl⟩ := pair_of_append hc (by simp) (by simp) heq
        rw [hts]
        simp only [List.cons_append]
        infer_instance
      · infer_instance
    | _ => dsimp only [List.cons_append]; infer_instance

/-- If the group that is taken is the last one, nothing is left. -/
instance stopsAt_anyGroup : StopsAt c c' ts anyGroup anyGroup where
  stops := by
    intro l x j h hj
    rcases ts with _ | ⟨t, r⟩
    · cases hc with
      | signs d joint more hparts => cases h
      | bodies inner inner' more =>
        cases h
        exact absurd rfl hj
    · cases t with
      | group d inner =>
        cases h
        exact ⟨r, rfl, rfl⟩
      | _ => cases h

theorem startsSign_take (s : List Char) (ts : List Token) :
    startsSign s (ts.take s.length) = startsSign s ts := by
  induction s generalizing ts with
  | nil => rfl
  | cons d s ih =>
    cases ts with
    | nil => rfl
    | cons t r =>
      cases s with
      | nil => cases t with
        | _ => rfl
      | cons e s =>
        cases t with
        | punct d' joint =>
          have hmore := ih r
          simp only [List.length_cons, List.take_succ_cons, startsSign] at hmore ⊢
          rw [hmore]
        | _ => rfl

instance stopsAt_takeSign (s : String) : StopsAt c c' ts (takeSign s) (takeSign s) where
  stops := by
    intro l x j h hj
    have hs := at_of_run_takeSign h
    rw [run_takeSign_of_at hs] at h
    cases h
    have hlength : s.length ≤ ts.length := by
      refine Nat.le_of_not_lt fun hlong => hj (List.drop_eq_nil_of_le ?_)
      have hone : c.length = 1 := by
        cases hc with
        | _ => rfl
      rw [List.length_append, hone]
      omega
    have hsame : atSign s (ts ++ c') = true := by
      rw [atSign, ← startsSign_take, String.length_toList, List.take_append_of_le_length hlength]
      rw [atSign, ← startsSign_take, String.length_toList,
        List.take_append_of_le_length hlength] at hs
      exact hs
    refine ⟨ts.drop s.length, List.drop_append_of_le_length hlength, ?_⟩
    rw [run_takeSign_of_at hsame, List.drop_append_of_le_length hlength]

instance stopsAt_nameRule : StopsAt c c' ts nameRule nameRule := by
  unfold nameRule
  infer_instance

instance stopsAt_anyWordRule : StopsAt c c' ts anyWordRule anyWordRule := by
  unfold anyWordRule
  infer_instance

instance stopsAt_lifetimeRule : StopsAt c c' ts lifetimeRule lifetimeRule := by
  unfold lifetimeRule
  infer_instance

end Single

/-! ## Optional parts -/

section Optional

instance stopsAt_nothing : StopsAt c c' ts nothing nothing := stopsAt_pure _

instance stopsAt_whenNext {p : List Token → Bool} [LikeTest c c' p] {r r' : Rule}
    [StopsAt c c' ts r r'] : StopsAt c c' ts (whenNext p r) (whenNext p r') := by
  unfold whenNext
  infer_instance

variable [hc : LikeEnds c c']

instance stopsAt_optSign (s : String) [LikeTest c c' (atSign s)] :
    StopsAt c c' ts (optSign s) (optSign s) := by
  unfold optSign
  infer_instance

instance stopsAt_optWord (w : String) : StopsAt c c' ts (optWord w) (optWord w) := by
  unfold optWord
  infer_instance

instance stopsAt_optLifetime : StopsAt c c' ts optLifetime optLifetime := by
  unfold optLifetime
  infer_instance

instance stopsAt_stringRule : StopsAt c c' ts stringRule stringRule := by
  unfold stringRule
  infer_instance

/-- The tokens up to here are the same, as the end is still ahead. -/
instance stopsAt_since (start : List Token) :
    StopsAt c c' ts (since (start ++ c)) (since (start ++ c')) where
  stops := by
    intro l x j h hj
    cases h
    refine ⟨ts, rfl, ?_⟩
    have hcount (e : List Token) :
        (start ++ e).length - (ts ++ e).length = start.length - ts.length := by
      simp only [List.length_append]
      omega
    have hsame (e : List Token) : (start ++ e).take ((start ++ e).length - (ts ++ e).length) =
        start.take (start.length - ts.length) := by
      rw [hcount, List.take_append_of_le_length (Nat.sub_le _ _)]
    change Except.ok ((start ++ c').take _, _) = Except.ok ((start ++ c).take _, _)
    rw [hsame, hsame]

instance stopsAt_keptIf {r r' : Reader (List Token × Bool)} [StopsAt c c' ts r r'] :
    StopsAt c c' ts (keptIf r) (keptIf r') := by
  unfold keptIf
  infer_instance

instance stopsAt_asWritten {r r' : Reader α} [StopsAt c c' ts r r'] :
    StopsAt c c' ts (asWritten r) (asWritten r') := by
  unfold asWritten
  infer_instance

end Optional

/-! ## Loops -/

set_option synthInstance.maxSize 4000

section Loops

variable [hc : LikeEnds c c'] {step step' : Reader (α × Bool)} {j : Input} {xs : List α}

variable (c c') in
theorem length_end : c.length = 1 ∧ 1 ≤ c'.length := by
  cases hc with
  | _ => exact ⟨rfl, Nat.succ_pos _⟩

/-- While the end is ahead, both loops do the same steps. As these take tokens, the loops never use
up the steps they may do. -/
theorem stops_repeatAlong (hstep : ∀ ts', StopsAt c c' ts' step step')
    (hshrinks : ∀ ts', CarriesAt [] ts' step step)
    (hadvances : ∀ ts', AdvancesAt [] ts' step step) {fuel fuel' : List Token}
    {l : Option Delimiter} (hfuel : (ts ++ c).length ≤ fuel.length)
    (hmore : fuel.length ≤ fuel'.length)
    (h : repeatAlong step fuel ⟨ts ++ c, l⟩ = .ok (xs, j)) (hj : j.tokens ≠ []) :
    ∃ us, j.tokens = us ++ c ∧
      repeatAlong step' fuel' ⟨ts ++ c', l⟩ = .ok (xs, ⟨us ++ c', j.leftover⟩) := by
  have hone : c.length = 1 := (length_end c c').1
  induction fuel generalizing fuel' ts l xs with
  | nil =>
    rw [List.length_append, hone] at hfuel
    cases hfuel
  | cons t fuel ih =>
    obtain ⟨x, again, ⟨rest, l'⟩, hx, ⟨hstop, rfl, rfl⟩ | ⟨t, more, ys, hcons, rfl, rfl, hrest⟩⟩ :=
      ok_of_repeatAlong h
    · obtain rfl : again = false := by simpa using hstop
      obtain ⟨us, hus, hfirst⟩ := (hstep ts).stops hx hj
      exact ⟨us, hus, repeatAlong_stop hfirst fuel'⟩
    · cases hcons
      have hsome : rest ≠ [] := by
        rintro rfl
        exact hj (List.suffix_nil.mp (carries_repeatAlong_nil hshrinks hrest).2)
      have htaken : rest.length < (ts ++ c).length := (hadvances (ts ++ c)).advances hx
      obtain ⟨us, rfl, hfirst⟩ := (hstep ts).stops hx hsome
      cases fuel' with
      | nil => simp at hmore
      | cons t' fuel' =>
        simp only [List.length_cons, Nat.add_le_add_iff_right] at hfuel hmore
        obtain ⟨vs, hvs, hothers⟩ := ih (by omega) hmore hrest
        exact ⟨vs, hvs, repeatAlong_again hfirst hothers⟩

instance stopsAt_repeated [hstep : ∀ ts', StopsAt c c' ts' step step']
    [hshrinks : ∀ ts', CarriesAt [] ts' step step]
    [hadvances : ∀ ts', AdvancesAt [] ts' step step] :
    StopsAt c c' ts (repeated step) (repeated step') where
  stops h hj := by
    refine stops_repeatAlong hstep hshrinks hadvances (Nat.le_refl _) ?_ h hj
    have hlengths := length_end c c'
    rw [List.length_append, List.length_append]
    omega

variable {stop : List Token → Bool} {separator : String} {member member' : Reader α}
  [∀ ts', StopsAt c c' ts' member member'] [∀ ts', CarriesAt [] ts' member member]

instance stopsAt_punctuated [LikeTest c c' stop] :
    StopsAt c c' ts (punctuated stop separator member) (punctuated stop separator member') := by
  unfold punctuated
  infer_instance

instance stopsAt_chained [LikeTest c c' stop] [LikeTest c c' (atSign separator)] :
    StopsAt c c' ts (chained stop separator member) (chained stop separator member') := by
  unfold chained
  infer_instance

end Loops

/-! ## Groups -/

section Groups

variable [hc : LikeEnds c c'] {r : Reader α} {more more' : α → Reader β}

/-- What stands in a group before the end is the same. The end itself is not taken. -/
instance stopsAt_insideThen {d : Delimiter} [hmore : ∀ x ts', StopsAt c c' ts' (more x) (more' x)]
    [hend : ∀ x, CarriesAt [] [] (more x) (more x)] :
    StopsAt c c' ts (insideThen d r more) (insideThen d r more') where
  stops := by
    intro l y j h hj
    obtain ⟨inner, rest, x, after, k, heq, hx, hy, rfl⟩ := ok_of_insideThen h
    have hrest : rest ≠ [] := by
      rintro rfl
      have hnil : k.tokens = [] := nil_of_run_nil (hend x) hy
      exact hj hnil
    rcases ts with _ | ⟨t, ts⟩
    · have hlength := congrArg List.length heq
      rw [List.nil_append, (length_end c c').1, List.length_cons] at hlength
      exact absurd (List.length_eq_zero_iff.mp (Nat.succ.inj hlength).symm) hrest
    · rw [List.cons_append, List.cons.injEq] at heq
      obtain ⟨rfl, rfl⟩ := heq
      obtain ⟨us, hus, hbehind⟩ := (hmore x ts).stops hy hj
      refine ⟨us, hus, ?_⟩
      rw [List.cons_append, run_insideThen hx hbehind]

instance stopsAt_inside {d : Delimiter} : StopsAt c c' ts (inside d r) (inside d r) := by
  unfold inside
  infer_instance

instance stopsAt_within {d : Delimiter} {r : Rule} :
    StopsAt c c' ts (within d r) (within d r) := by
  unfold within
  infer_instance

end Groups

end MarkerInjection.Source
