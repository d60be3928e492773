-- Settings in a store: keys, the texts under them, and the configuration that they
-- give. Numbers in decimal are read back as what they are.
import MarkerInjection.Config.Store
import MarkerInjection.Proofs.Settings

namespace MarkerInjection

/-! ## Keys and texts -/

namespace Setting

/-- The key in a store. -/
def key : Setting → String
  | marker => ConfigKey.marker
  | valueMember => ConfigKey.valueMember
  | failureScope => ConfigKey.failureScope
  | threads => ConfigKey.threads

/-- What is given for a setting as it is stored; numbers are in decimal. -/
def stored : (s : Setting) → s.Value → String
  | .marker, x => x
  | .valueMember, x => x
  | .failureScope, x => FailureScope.text x
  | .threads, x => Nat.repr x

end Setting

/-- The store holds what is given, and nothing for the other settings. -/
def ConfigStore.Holds (store : ConfigStore) (g : Given) : Prop :=
  ∀ s : Setting, store.get? s.key = (g.get? s).map s.stored

theorem exists_holds (g : Given) : ∃ store : ConfigStore, store.Holds g := by
  refine ⟨⟨Setting.all.filterMap fun s => (g.get? s).map fun x => (s.key, s.stored x)⟩, ?_⟩
  obtain ⟨marker, valueMember, failureScope, threads⟩ := g
  intro s
  cases marker <;> cases valueMember <;> cases failureScope <;> cases threads <;> cases s <;> rfl

/-! ## Reading them back -/

theorem ofText?_text (f : FailureScope) : FailureScope.ofText? f.text = some f := by
  cases f <;> decide

theorem le_ofDigitChars (value : Nat) (cs : List Char) :
    value ≤ Nat.ofDigitChars 10 cs value := by
  induction cs generalizing value with
  | nil => exact Nat.le_refl _
  | cons c cs ih =>
    have hstep := ih (10 * value + (c.toNat - '0'.toNat))
    rw [Nat.ofDigitChars_cons]
    omega

/-- Digits whose number stays below the limit are read, and then what is behind them. -/
theorem numberFrom_append {cs : List Char} (hcs : ∀ c ∈ cs, c.isDigit = true) (rest : List Char)
    (value : Nat) (hlimit : Nat.ofDigitChars 10 cs value < threadLimit) :
    numberFrom value (cs ++ rest) = numberFrom (Nat.ofDigitChars 10 cs value) rest := by
  induction cs generalizing value with
  | nil => rfl
  | cons c cs ih =>
    have hdigit : '0' ≤ c ∧ c ≤ '9' := by
      simpa [Char.isDigit, Char.le_def] using hcs c (by simp)
    have hvalue : value * 10 + (c.toNat - 48) = 10 * value + (c.toNat - '0'.toNat) := by
      rw [Nat.mul_comm]
      rfl
    rw [Nat.ofDigitChars_cons] at hlimit ⊢
    have hfits := Nat.lt_of_le_of_lt (le_ofDigitChars _ cs) hlimit
    rw [List.cons_append, numberFrom, if_pos hdigit]
    dsimp only
    rw [hvalue, if_pos hfits]
    exact ih (fun d hd => hcs d (List.mem_cons_of_mem c hd)) _ hlimit

/-- Digits whose number stays below the limit are read as this number. -/
theorem numberFrom_digits {cs : List Char} (hcs : ∀ c ∈ cs, c.isDigit = true) (value : Nat)
    (hlimit : Nat.ofDigitChars 10 cs value < threadLimit) :
    numberFrom value cs = .ok (Nat.ofDigitChars 10 cs value) := by
  have hread := numberFrom_append hcs [] value hlimit
  rwa [List.append_nil] at hread

/-- A number below the limit is read back from its decimal digits. -/
theorem readThreads_repr {n : Nat} (hn : n < threadLimit) : readThreads n.repr = .ok n := by
  have hdigits : ∀ c ∈ Nat.toDigits 10 n, c.isDigit = true := fun c hc =>
    Nat.isDigit_of_mem_toDigits (by decide) (by decide) hc
  have hvalue : Nat.ofDigitChars 10 (Nat.toDigits 10 n) 0 = n :=
    Nat.ofDigitChars_toDigits (by decide) (by decide)
  have hnumber : numberFrom 0 (Nat.toDigits 10 n) = .ok n := by
    rw [numberFrom_digits hdigits 0 (by rw [hvalue]; exact hn), hvalue]
  have hchars : n.repr.toList = Nat.toDigits 10 n := String.toList_ofList
  unfold readThreads
  rw [hchars]
  cases hlist : Nat.toDigits 10 n with
  | nil => exact absurd hlist Nat.toDigits_ne_nil
  | cons c cs =>
    rw [hlist] at hdigits hnumber
    have hplus : c ≠ '+' := by
      rintro rfl
      exact absurd (hdigits '+' (by simp)) (by decide)
    split
    · contradiction
    · simp_all
    · simp_all
    · exact hnumber

section Stored

variable {store : ConfigStore} {g : Given}

theorem storedScope_of_holds (hstore : store.Holds g) :
    Config.storedScope store = .ok g.config.failureScope := by
  have hscope : store.get? ConfigKey.failureScope = g.failureScope.map FailureScope.text :=
    hstore .failureScope
  unfold Config.storedScope
  rw [hscope]
  cases hg : g.failureScope with
  | none => simp [Given.config, hg]
  | some f => simp [Given.config, hg, ofText?_text]

theorem storedThreads_of_holds (hthreads : ∀ n, g.threads = some n → n < threadLimit)
    (hstore : store.Holds g) : Config.storedThreads store = .ok g.config.threads := by
  have hcount : store.get? ConfigKey.threads = g.threads.map Nat.repr := hstore .threads
  unfold Config.storedThreads
  rw [hcount]
  cases hg : g.threads with
  | none => simp [Given.config, hg]
  | some n => simp [Given.config, hg, readThreads_repr (hthreads n hg)]

theorem ofStore_of_holds (hthreads : ∀ n, g.threads = some n → n < threadLimit)
    (hstore : store.Holds g) : Config.ofStore store = g.config.checked := by
  have hmarker : store.get? ConfigKey.marker = g.marker :=
    (hstore .marker).trans (congrFun Option.map_id g.marker)
  have hmember : store.get? ConfigKey.valueMember = g.valueMember :=
    (hstore .valueMember).trans (congrFun Option.map_id g.valueMember)
  unfold Config.ofStore
  rw [storedScope_of_holds hstore, storedThreads_of_holds hthreads hstore, hmarker, hmember]
  rfl

end Stored

theorem fit_of_ofStore {store : ConfigStore} {c : Config} (hc : Config.ofStore store = .ok c) :
    c.Fit := by
  unfold Config.ofStore at hc
  cases hscope : Config.storedScope store with
  | error failure =>
    rw [hscope] at hc
    contradiction
  | ok scope =>
    cases hthreads : Config.storedThreads store with
    | error failure =>
      rw [hscope, hthreads] at hc
      contradiction
    | ok threads =>
      rw [hscope, hthreads] at hc
      exact fit_of_checked hc

end MarkerInjection
