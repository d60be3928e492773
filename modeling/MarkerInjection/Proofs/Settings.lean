-- Settings one by one: what is given for each, and what there is after some were
-- put one after another. Configurations that pass the check have all that a run
-- needs.
import MarkerInjection.Config.Document

namespace MarkerInjection

/-! ## Settings -/

namespace Setting

/-- What is given for a setting. -/
def Value : Setting → Type
  | marker => String
  | valueMember => String
  | failureScope => FailureScope
  | threads => Nat

instance : (s : Setting) → DecidableEq s.Value
  | marker => inferInstanceAs (DecidableEq String)
  | valueMember => inferInstanceAs (DecidableEq String)
  | failureScope => inferInstanceAs (DecidableEq FailureScope)
  | threads => inferInstanceAs (DecidableEq Nat)

theorem ofName?_name (s : Setting) : ofName? s.name = some s := by cases s <;> decide

theorem ofName?_eq_some {name : String} {s : Setting} :
    ofName? name = some s ↔ name = s.name := by
  constructor
  · intro hs
    have hfound : (s.name == name) = true := by
      have hall := List.find?_some hs
      exact hall
    exact (eq_of_beq hfound).symm
  · rintro rfl
    exact ofName?_name s

end Setting

/-! ## What is given -/

namespace Given

def get? (g : Given) : (s : Setting) → Option s.Value
  | .marker => g.marker
  | .valueMember => g.valueMember
  | .failureScope => g.failureScope
  | .threads => g.threads

def put (g : Given) : (s : Setting) → s.Value → Given
  | .marker, x => { g with marker := some x }
  | .valueMember, x => { g with valueMember := some x }
  | .failureScope, x => { g with failureScope := some x }
  | .threads, x => { g with threads := some x }

/-- The settings for which something is given. -/
def settings (g : Given) : List Setting := Setting.all.filter g.has

theorem has_eq (g : Given) (s : Setting) : g.has s = (g.get? s).isSome := by cases s <;> rfl

theorem get?_put_self (g : Given) (s : Setting) (x : s.Value) : (g.put s x).get? s = some x := by
  cases s <;> rfl

theorem get?_put_of_ne (g : Given) {s s' : Setting} (x : s.Value) (hne : s' ≠ s) :
    (g.put s x).get? s' = g.get? s' := by
  cases s <;> cases s' <;> first | rfl | exact absurd rfl hne

theorem ext_get? {g g' : Given} (h : ∀ s, g.get? s = g'.get? s) : g = g' := by
  obtain ⟨marker, valueMember, failureScope, threads⟩ := g
  obtain ⟨marker', valueMember', failureScope', threads'⟩ := g'
  have hmarker : marker = marker' := h .marker
  have hvalueMember : valueMember = valueMember' := h .valueMember
  have hfailureScope : failureScope = failureScope' := h .failureScope
  have hthreads : threads = threads' := h .threads
  rw [hmarker, hvalueMember, hfailureScope, hthreads]

theorem nodup_settings (g : Given) : g.settings.Nodup :=
  List.Pairwise.filter _ (by decide)

/-! ## Settings one after another -/

/-- In `k` these settings are as in `g`, and the others as in `h`. -/
def Filled (g h : Given) (order : List Setting) (k : Given) : Prop :=
  ∀ s, k.get? s = if s ∈ order then g.get? s else h.get? s

variable {g h k : Given} {s : Setting} {order : List Setting}

theorem filled_nil (g h : Given) : g.Filled h [] h := fun s => by simp

theorem filled_cons {x : s.Value} (hs : s ∉ order) (hx : g.get? s = some x)
    (hk : g.Filled (h.put s x) order k) : g.Filled h (s :: order) k := by
  intro s'
  rw [hk s']
  by_cases hhere : s' = s
  · subst hhere
    rw [if_neg hs, if_pos (by simp), get?_put_self, hx]
  · simp only [List.mem_cons, hhere, false_or, get?_put_of_ne h x hhere]

/-- Where all that is given was put on nothing, it is what there is. -/
theorem eq_of_filled (horder : order.Perm g.settings) (hk : g.Filled {} order k) : k = g := by
  refine ext_get? fun s => ?_
  have hall : s ∈ Setting.all := by cases s <;> decide
  have hmem : s ∈ order ↔ (g.get? s).isSome := by
    rw [horder.mem_iff, settings, List.mem_filter, has_eq]
    exact and_iff_right hall
  rw [hk s]
  split
  · rfl
  · rename_i hnot
    rw [hmem, Option.not_isSome_iff_eq_none] at hnot
    rw [hnot]
    cases s <;> rfl

end Given

/-! ## Configurations that pass -/

/-- The number of threads on a machine that offers so many. -/
def ThreadCount.on (machine : Nat) : ThreadCount → Nat
  | .machine => machine
  | .exactly count => count

/-- The names are there, and so is a thread, on whatever machine. -/
structure Config.Fit (c : Config) : Prop where
  marker : c.marker ≠ ""
  valueMember : c.valueMember ≠ ""
  threads : ∀ machine, 1 ≤ machine → 1 ≤ c.threads.on machine

theorem fit_of_checked {c c' : Config} (hc : c.checked = .ok c') : c'.Fit := by
  unfold Config.checked at hc
  split at hc
  · contradiction
  rename_i hmarker
  split at hc
  · contradiction
  rename_i hmember
  split at hc
  · contradiction
  rename_i hthreads
  obtain rfl : c = c' := by simpa using hc
  refine ⟨hmarker, hmember, fun machine hmachine => ?_⟩
  cases hcount : c.threads with
  | machine => exact hmachine
  | exactly count =>
    have hne : count ≠ 0 := by
      rintro rfl
      exact hthreads hcount
    exact Nat.one_le_iff_ne_zero.mpr hne

end MarkerInjection
