-- Members of `impl` blocks that are read alone are read so in front of anything: each of them ends
-- in a semicolon or in curly brackets, and its reader takes these without a look behind them.
import MarkerInjection.Proofs.StoppingExpressions

namespace MarkerInjection.Source

set_option synthInstance.maxSize 20000

variable {α β : Type}

/-! ## Readers that need a token -/

/-- At the end of the tokens the reader refuses. -/
class Needs (r : Reader α) : Prop where
  needs : ∀ {l x j}, r ⟨[], l⟩ ≠ .ok (x, j)

section Needing

variable {r s : Reader α} {f : α → Reader β}

instance (priority := low) needs_bind_first [hr : Needs r] : Needs (r >>= f) where
  needs h := by
    obtain ⟨x, k, hx, -⟩ := ok_of_run_bind h
    exact hr.needs hx

instance (priority := low) needs_bind_second [hr : CarriesAt [] [] r r] [hf : ∀ x, Needs (f x)] :
    Needs (r >>= f) where
  needs h := by
    obtain ⟨x, ⟨rest, l⟩, hx, h⟩ := ok_of_run_bind h
    obtain rfl : rest = [] := nil_of_run_nil hr hx
    exact (hf x).needs h

instance needs_append {r s : Rule} [Needs (r >>= fun x => s >>= fun y => pure (x ++ y))] :
    Needs (r ++ s) :=
  inferInstanceAs (Needs (r >>= fun x => s >>= fun y => pure (x ++ y)))

instance needs_ite {p : Prop} [Decidable p] [Needs r] [Needs s] : Needs (if p then r else s) := by
  split
  · assumption
  · assumption

instance needs_ahead {f : List Token → Reader α} [h : Needs (f [])] : Needs (ahead >>= f) where
  needs hx := h.needs hx

instance needs_next {p : List Token → Bool} {f : Bool → Reader α} [h : ∀ b, Needs (f b)] :
    Needs (next p >>= f) where
  needs hx := (h _).needs hx

instance needs_wanting (wanted : List String) : Needs (wanting wanted : Reader α) where
  needs h := by cases h

instance needs_wantingOneOf (wanted : List String) : Needs (wantingOneOf wanted : Reader α) where
  needs h := by cases h

instance needs_takeSign (s : String) : Needs (takeSign s) where
  needs h := by
    have hs := length_le_of_startsSign (at_of_run_takeSign h)
    have hsome := at_of_run_takeSign h
    rw [(failsAtEnd_atSign s).fails] at hsome
    cases hsome

instance needs_takeWord (w : String) : Needs (takeWord w) where
  needs h := by cases h

instance needs_insideThen {d : Delimiter} {more : α → Reader β} : Needs (insideThen d r more) where
  needs h := by
    obtain ⟨inner, rest, -, -, -, heq, -⟩ := ok_of_insideThen h
    cases heq

instance needs_within {d : Delimiter} {r : Rule} : Needs (within d r) := by
  unfold within inside
  infer_instance

instance needs_block {g : Grammar} : Needs (block g) := by
  unfold block
  infer_instance

end Needing

/-- The reader reads nothing. -/
class Still (r : Reader α) : Prop where
  still : ∃ x, ∀ i, r i = .ok (x, i)

instance still_pure (x : α) : Still (pure x) where
  still := ⟨x, fun _ => rfl⟩

/-! ## The last token -/

/-- The tokens end in a semicolon or in curly brackets. -/
inductive Closed : List Token → Prop
  | semicolon (ts : List Token) (joint : Bool) : Closed (ts ++ [.punct ';' joint])
  | body (ts inner : List Token) : Closed (ts ++ [.group .brace inner])

theorem Closed.of_suffix {ts us : List Token} (h : Closed us) (hsuffix : us <:+ ts) :
    Closed ts := by
  obtain ⟨before, rfl⟩ := hsuffix
  cases h with
  | semicolon us joint =>
    rw [← List.append_assoc]
    exact .semicolon _ joint
  | body us inner =>
    rw [← List.append_assoc]
    exact .body _ inner

theorem Closed.ne_nil {ts : List Token} (h : Closed ts) : ts ≠ [] := by
  cases h with
  | _ => simp

/-- Where the reader reads all of the tokens, they are closed. -/
class EndsClosed (r : Reader α) : Prop where
  ends : ∀ {i x j}, r i = .ok (x, j) → j.tokens = [] → Closed i.tokens

section Ending

variable {r s : Reader α} {f : α → Reader β}

/-- What is read last closes the tokens. -/
instance (priority := low) endsClosed_bind [hr : ∀ ts, CarriesAt [] ts r r]
    [hf : ∀ x, EndsClosed (f x)] : EndsClosed (r >>= f) where
  ends h hj := by
    obtain ⟨x, k, hx, h⟩ := ok_of_run_bind h
    exact ((hf x).ends h hj).of_suffix ((hr _).carries_nil hx).2

instance endsClosed_still [hr : EndsClosed r] [hf : ∀ x, Still (f x)] : EndsClosed (r >>= f) where
  ends h hj := by
    obtain ⟨x, k, hx, h⟩ := ok_of_run_bind h
    obtain ⟨y, hy⟩ := (hf x).still
    rw [hy] at h
    cases h
    exact hr.ends hx hj

instance endsClosed_ite {p : Prop} [Decidable p] [EndsClosed r] [EndsClosed s] :
    EndsClosed (if p then r else s) := by
  split
  · assumption
  · assumption

instance endsClosed_ahead {f : List Token → Reader α} [h : ∀ ts, EndsClosed (f ts)] :
    EndsClosed (ahead >>= f) where
  ends hx hj := (h _).ends hx hj

instance endsClosed_next {p : List Token → Bool} {f : Bool → Reader α} [h : ∀ b, EndsClosed (f b)] :
    EndsClosed (next p >>= f) where
  ends hx hj := (h _).ends hx hj

instance endsClosed_wanting (wanted : List String) : EndsClosed (wanting wanted : Reader α) where
  ends h := by cases h

instance endsClosed_wantingOneOf (wanted : List String) :
    EndsClosed (wantingOneOf wanted : Reader α) where
  ends h := by cases h

theorem eq_of_takeSign_all {c : Char} {i : Input} {x : List Token} {j : Input} {s : String}
    (hs : s.toList = [c]) (h : takeSign s i = .ok (x, j)) (hj : j.tokens = []) :
    ∃ joint, i.tokens = [.punct c joint] := by
  have hat := at_of_run_takeSign h
  rw [run_takeSign_of_at hat] at h
  cases h
  rw [atSign, hs] at hat
  obtain ⟨joint, r, heq⟩ := eq_of_startsSign hat
  have hlength : s.length = 1 := by rw [← String.length_toList, hs]; rfl
  rw [heq, hlength] at hj
  obtain rfl : r = [] := hj
  exact ⟨joint, heq⟩

instance endsClosed_semicolon : EndsClosed (takeSign ";") where
  ends h hj := by
    obtain ⟨joint, heq⟩ := eq_of_takeSign_all (c := ';') rfl h hj
    rw [heq]
    exact .semicolon [] joint

instance endsClosed_block {g : Grammar} : EndsClosed (block g) where
  ends := by
    rintro ⟨ts, l⟩ x j h hj
    obtain ⟨y, k, hy, h⟩ := ok_of_run_bind h
    cases h
    obtain ⟨inner, rest, z, after, k, rfl, -, hmore, rfl⟩ := ok_of_insideThen hy
    cases hmore
    obtain rfl : rest = [] := hj
    exact .body [] inner

instance endsClosed_keptIf {r : Reader (List Token × Bool)} [hr : EndsClosed r] :
    EndsClosed (keptIf r) where
  ends := by
    rintro ⟨ts, l⟩ x j h hj
    obtain ⟨start, k, hstart, h⟩ := ok_of_run_bind h
    cases hstart
    obtain ⟨⟨tokens, kept⟩, k, hread, h⟩ := ok_of_run_bind h
    refine hr.ends hread ?_
    cases kept with
    | _ =>
      cases h
      exact hj

end Ending

/-! ## Tokens behind the last one -/

variable {c more ts : List Token}

/-- What `r` reads of all tokens up to the end `c`, `r'` reads of them with more behind, and it
leaves that. -/
class ClosesAt (c more ts : List Token) (r r' : Reader α) : Prop where
  closes : ∀ {l x l'}, r ⟨ts ++ c, l⟩ = .ok (x, ⟨[], l'⟩) →
    r' ⟨ts ++ (c ++ more), l⟩ = .ok (x, ⟨more, l'⟩)

section Closing

variable {r r' s s' : Reader α} {f f' : α → Reader β}

instance (priority := low) closesAt_bind [hr : StopsAt c (c ++ more) ts r r']
    [hf : ∀ x ts', ClosesAt c more ts' (f x) (f' x)] [hneeds : ∀ x, Needs (f x)] :
    ClosesAt c more ts (r >>= f) (r' >>= f') where
  closes h := by
    obtain ⟨x, ⟨rest, l⟩, hx, h⟩ := ok_of_run_bind h
    have hrest : rest ≠ [] := by
      rintro rfl
      exact (hneeds x).needs h
    obtain ⟨us, rfl, hfirst⟩ := hr.stops hx hrest
    exact (run_bind_of_ok hfirst).trans ((hf x us).closes h)

instance closesAt_still [hr : ClosesAt c more ts r r'] [hf : ∀ x, Still (f x)] :
    ClosesAt c more ts (r >>= f) (r' >>= f) where
  closes h := by
    obtain ⟨x, ⟨rest, l⟩, hx, h⟩ := ok_of_run_bind h
    obtain ⟨y, hy⟩ := (hf x).still
    rw [hy] at h
    cases h
    exact (run_bind_of_ok (hr.closes hx)).trans (hy _)

instance closesAt_wanting (wanted : List String) (r' : Reader α) :
    ClosesAt c more ts (wanting wanted) r' where
  closes h := by cases h

instance closesAt_wantingOneOf (wanted : List String) (r' : Reader α) :
    ClosesAt c more ts (wantingOneOf wanted) r' where
  closes h := by cases h

instance closesAt_ite {p : Prop} [Decidable p] [hr : ClosesAt c more ts r r']
    [hs : ClosesAt c more ts s s'] :
    ClosesAt c more ts (if p then r else s) (if p then r' else s') := by
  split
  · assumption
  · assumption

instance (priority := low) closesAt_choice {b b' : Bool} [hb : Agree b b']
    [hr : ClosesAt c more ts r r'] [hs : ClosesAt c more ts s s'] :
    ClosesAt c more ts (if b then r else s) (if b' then r' else s') := by
  rw [hb.agree]
  split
  · assumption
  · assumption

instance closesAt_ahead {f f' : List Token → Reader α}
    [h : ClosesAt c more ts (f (ts ++ c)) (f' (ts ++ (c ++ more)))] :
    ClosesAt c more ts (ahead >>= f) (ahead >>= f') where
  closes hx := h.closes hx

instance closesAt_next_bind {p : List Token → Bool} [hp : LikeTest c (c ++ more) p]
    {f f' : Bool → Reader α} [h : ∀ b, ClosesAt c more ts (f b) (f' b)] :
    ClosesAt c more ts (next p >>= f) (next p >>= f') where
  closes hx := by
    rw [run_bind_of_ok (run_next p _)] at hx ⊢
    rw [hp.like]
    exact (h _).closes hx

/-- One token that is all there is left is taken as well with more behind it. -/
theorem closesAt_of_one [hc : LikeEnds c (c ++ more)]
    (hone : ∀ {i x j}, r i = .ok (x, j) → j.tokens = [] → i.tokens.length = 1)
    (hmore : ∀ {t l x l'}, r ⟨[t], l⟩ = .ok (x, ⟨[], l'⟩) →
      r ⟨t :: more, l⟩ = .ok (x, ⟨more, l'⟩)) :
    ClosesAt c more ts r r where
  closes h := by
    obtain ⟨t, rfl⟩ := List.length_eq_one_iff.mp (length_end c (c ++ more)).1
    have hlength := hone h rfl
    obtain rfl : ts = [] := by simpa using hlength
    exact hmore h

variable [LikeEnds c (c ++ more)]

instance closesAt_semicolon : ClosesAt c more ts (takeSign ";") (takeSign ";") := by
  refine closesAt_of_one (fun h hj => ?_) fun {t l x l'} h => ?_
  · obtain ⟨joint, heq⟩ := eq_of_takeSign_all (c := ';') rfl h hj
    rw [heq]
    rfl
  · obtain ⟨joint, heq⟩ := eq_of_takeSign_all (c := ';') rfl h rfl
    obtain rfl : t = .punct ';' joint := by simpa using heq
    cases h
    rfl

instance closesAt_block {g : Grammar} : ClosesAt c more ts (block g) (block g) := by
  refine closesAt_of_one (fun {i x j} h hj => ?_) fun {t l x l'} h => ?_
  · obtain ⟨rest, l⟩ := i
    obtain ⟨y, k, hy, h⟩ := ok_of_run_bind h
    cases h
    obtain ⟨inner, rest, z, after, k, rfl, -, hmore, rfl⟩ := ok_of_insideThen hy
    cases hmore
    obtain rfl : rest = [] := hj
    rfl
  · obtain ⟨y, k, hy, h⟩ := ok_of_run_bind h
    cases h
    obtain ⟨inner, rest, z, after, k, heq, hinner, hmore, hend⟩ := ok_of_insideThen hy
    obtain ⟨rfl, rfl⟩ : t = .group .brace inner ∧ rest = [] := by simpa [eq_comm] using heq
    cases hmore
    cases hend
    have hmore : (pure y : Rule) ⟨more, after.leftover⟩ = .ok (y, ⟨more, after.leftover⟩) := rfl
    exact run_bind_of_ok (run_insideThen hinner hmore)

instance closesAt_keptIf {r : Reader (List Token × Bool)} [hr : ClosesAt c more ts r r] :
    ClosesAt c more ts (keptIf r) (keptIf r) where
  closes {l x l'} h := by
    obtain ⟨start, k, hstart, h⟩ := ok_of_run_bind h
    cases hstart
    obtain ⟨⟨tokens, kept⟩, ⟨rest, l''⟩, hread, h⟩ := ok_of_run_bind h
    have hstart : ahead ⟨ts ++ (c ++ more), l⟩ = .ok (ts ++ (c ++ more), _) := rfl
    unfold keptIf
    cases kept with
    | false =>
      cases h
      rw [run_bind_of_ok hstart, run_bind_of_ok (hr.closes hread)]
      rfl
    | true =>
      cases h
      rw [run_bind_of_ok hstart, run_bind_of_ok (hr.closes hread)]
      have hall : (ts ++ (c ++ more)).take ((ts ++ (c ++ more)).length - more.length) =
          (ts ++ c).take ((ts ++ c).length - 0) := by
        rw [← List.append_assoc, List.length_append, Nat.add_sub_cancel, List.take_left,
          Nat.sub_zero, List.take_length]
      exact congrArg (fun x => Except.ok (x, Input.mk more l')) hall

end Closing

/-! ## Members of `impl` blocks -/

/-- A test of what is behind the next token, where that token passes `p`, and else another one. -/
def behindIf (p q other : List Token → Bool) (ts : List Token) : Bool :=
  if p ts then q (behind ts) else other ts

theorem atSignature_eq : atSignature false =
    let name := behindIf (atWord "extern") (behindIf atString (atWord "fn") (atWord "fn"))
      (atWord "fn")
    let mark := behindIf (atWord "unsafe") name name
    let word := behindIf (atWord "async") mark mark
    behindIf (atWord "const") word word := by
  funext ts
  simp only [atSignature, behindIf, Bool.false_and, Bool.false_eq_true, if_false]
  repeat' split
  all_goals simp_all

section Members

variable {c' : List Token} [LikeEnds c c'] {g : Grammar} [Stopping g]

instance failsAt_atString : FailsAt c c' atString where
  fails := by
    cases ‹LikeEnds c c'› with
    | _ => rfl

instance likeTest_behindIf {p q other : List Token → Bool} [hp : LikeTest c c' p]
    [hfails : FailsAt c c' p] [hq : LikeTest c c' q] [hother : LikeTest c c' other] :
    LikeTest c c' (behindIf p q other) where
  like ts := by
    unfold behindIf
    rw [hp.like, hother.like]
    split
    · rename_i htest
      have hts : ts ≠ [] := by
        rintro rfl
        rw [List.nil_append, hfails.fails] at htest
        cases htest
      obtain ⟨hbehind, hbehind'⟩ := behind_append_end c c' hts
      rw [hbehind, hbehind', hq.like]
    · rfl

instance likeTest_atSignature : LikeTest c c' (atSignature false) := by
  rw [atSignature_eq]
  dsimp only
  infer_instance

instance likeTest_atMacroPath : LikeTest c c' atMacroPath := by
  unfold atMacroPath
  infer_instance

instance stopsAt_signature (allowSafe : Bool) :
    StopsAt c c' ts (signature g allowSafe) (signature g allowSafe) := by
  unfold signature
  infer_instance

instance stopsAt_boundsUpTo (const : Bool) (stop : List Token → Bool) [LikeTest c c' stop] :
    StopsAt c c' ts (boundsUpTo g const stop) (boundsUpTo g const stop) := by
  unfold boundsUpTo
  infer_instance

instance stopsAt_plainPath : StopsAt c c' ts plainPath plainPath := by
  unfold plainPath
  dsimp only
  infer_instance

instance endsClosed_constantRest (needsValue : Bool) :
    EndsClosed (constantRest g needsValue) := by
  unfold constantRest
  infer_instance

instance endsClosed_typeMember (place : WherePlace) : EndsClosed (typeMember g place) := by
  unfold typeMember
  dsimp only
  infer_instance

variable [LikeEnds c (c ++ more)]

instance needs_constantRest (needsValue : Bool) : Needs (constantRest g needsValue) := by
  unfold constantRest
  infer_instance

instance needs_typeMember (place : WherePlace) : Needs (typeMember g place) := by
  unfold typeMember
  dsimp only
  infer_instance

instance closesAt_constantRest (needsValue : Bool) :
    ClosesAt c more ts (constantRest g needsValue) (constantRest g needsValue) := by
  unfold constantRest
  infer_instance

instance closesAt_typeMember (place : WherePlace) :
    ClosesAt c more ts (typeMember g place) (typeMember g place) := by
  unfold typeMember
  dsimp only
  infer_instance

/-- The body of a macro call closes the tokens if it is in curly brackets, else the semicolon
behind it does. -/
def macroEnd (h : List Token → List Token → List Token) : Rule := do
  let (body, braces) ← macroBody
  return h body (← if braces then nothing else takeSign ";")

theorem macroItem_eq (allowName : Bool) : macroItem allowName = (do
    let head ← plainPath ++ takeSign "!"
    let name ← whenNext (fun ts => allowName && (atName ts || atWord "try" ts)) anyWordRule
    macroEnd fun body last => head ++ name ++ body ++ last) := rfl

section MacroEnds

variable {h : List Token → List Token → List Token} {l : Option Delimiter} {x : List Token}

theorem macroEnd_of_brace (inner rest : List Token) :
    macroEnd h ⟨.group .brace inner :: rest, l⟩ = .ok (h [.group .brace inner] [], ⟨rest, l⟩) :=
  rfl

theorem macroEnd_of_semicolon {d : Delimiter} (hd : (d == .brace) = false) (inner : List Token)
    (joint : Bool) (rest : List Token) :
    macroEnd h ⟨.group d inner :: .punct ';' joint :: rest, l⟩ =
      .ok (h [.group d inner] (sign ";"), ⟨rest, l⟩) := by
  cases d with
  | brace => cases hd
  | _ => rfl

theorem cases_of_macroEnd {i j : Input} (hrun : macroEnd h i = .ok (x, j)) :
    (∃ inner, i.tokens = .group .brace inner :: j.tokens) ∨
      ∃ d inner joint, (d == .brace) = false ∧
        i.tokens = .group d inner :: .punct ';' joint :: j.tokens := by
  obtain ⟨ts, l⟩ := i
  obtain ⟨⟨body, braces⟩, k, hbody, hrun⟩ := ok_of_run_bind hrun
  obtain ⟨⟨d, inner⟩, k', hgroup, hbody⟩ := ok_of_run_bind hbody
  cases hbody
  rcases ts with _ | ⟨t, rest⟩
  · cases hgroup
  cases t with
  | group e content =>
    cases hgroup
    cases hd : d == .brace with
    | true =>
      obtain rfl : d = .brace := by
        cases d with
        | brace => rfl
        | _ => cases hd
      cases hrun
      exact Or.inl ⟨inner, rfl⟩
    | false =>
      rw [hd] at hrun
      obtain ⟨last, k, hlast, hrun⟩ := ok_of_run_bind hrun
      cases hrun
      have hsemicolon := at_of_run_takeSign hlast
      rw [run_takeSign_of_at hsemicolon] at hlast
      cases hlast
      obtain ⟨joint, more, rfl⟩ := eq_of_startsSign (c := ';') hsemicolon
      exact Or.inr ⟨d, inner, joint, hd, rfl⟩
  | _ => cases hgroup

instance needs_macroEnd : Needs (macroEnd h) where
  needs hrun := by
    rcases cases_of_macroEnd hrun with ⟨inner, heq⟩ | ⟨d, inner, joint, -, heq⟩
    · cases heq
    · cases heq

instance endsClosed_macroEnd : EndsClosed (macroEnd h) where
  ends hrun hj := by
    rcases cases_of_macroEnd hrun with ⟨inner, heq⟩ | ⟨d, inner, joint, -, heq⟩
    · rw [heq, hj]
      exact .body [] inner
    · rw [heq, hj]
      exact .semicolon [.group d inner] joint

instance closesAt_macroEnd : ClosesAt c more ts (macroEnd h) (macroEnd h) where
  closes {l x l'} hrun := by
    rw [← List.append_assoc]
    rcases cases_of_macroEnd hrun with ⟨inner, heq⟩ | ⟨d, inner, joint, hd, heq⟩
    · dsimp only at heq
      rw [heq, macroEnd_of_brace] at hrun
      cases hrun
      rw [heq]
      exact macroEnd_of_brace inner more
    · dsimp only at heq
      rw [heq, macroEnd_of_semicolon hd] at hrun
      cases hrun
      rw [heq]
      exact macroEnd_of_semicolon hd inner joint more

end MacroEnds

instance needs_macroItem (allowName : Bool) : Needs (macroItem allowName) := by
  rw [macroItem_eq]
  infer_instance

instance endsClosed_macroItem (allowName : Bool) : EndsClosed (macroItem allowName) := by
  rw [macroItem_eq]
  infer_instance

instance closesAt_macroItem (allowName : Bool) :
    ClosesAt c more ts (macroItem allowName) (macroItem allowName) := by
  rw [macroItem_eq]
  infer_instance

instance needs_implMemberRest (visible default : Bool) :
    Needs (implMemberRest g visible default) := by
  unfold implMemberRest
  infer_instance

instance endsClosed_implMemberRest (visible default : Bool) :
    EndsClosed (implMemberRest g visible default) := by
  unfold implMemberRest
  infer_instance

instance closesAt_implMemberRest (visible default : Bool) :
    ClosesAt c more ts (implMemberRest g visible default) (implMemberRest g visible default) := by
  unfold implMemberRest
  infer_instance

instance endsClosed_implMember : EndsClosed (implMember g) := by
  unfold implMember
  infer_instance

instance closesAt_implMember : ClosesAt c more ts (implMember g) (implMember g) := by
  unfold implMember
  infer_instance

end Members

/-- A member that is read alone is read so in front of anything. -/
theorem run_implMember_append {g : Grammar} [Stopping g] {m x : List Token}
    {l l' : Option Delimiter} (h : implMember g ⟨m, l⟩ = .ok (x, ⟨[], l'⟩)) (more : List Token) :
    implMember g ⟨m ++ more, l⟩ = .ok (x, ⟨more, l'⟩) := by
  have hclosed : Closed m := EndsClosed.ends h rfl
  cases hclosed with
  | semicolon ts joint =>
    have hends : LikeEnds [.punct ';' joint] ([.punct ';' joint] ++ more) :=
      .signs ';' joint more (Or.inr (Or.inl rfl))
    rw [List.append_assoc]
    exact ClosesAt.closes h
  | body ts inner =>
    have hends : LikeEnds [.group .brace inner] ([.group .brace inner] ++ more) :=
      .bodies inner inner more
    rw [List.append_assoc]
    exact ClosesAt.closes h

end MarkerInjection.Source
