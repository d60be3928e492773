-- Digits, and scanners of texts. A scanner takes what it knows from the front of a
-- text and leaves the rest.
import MarkerInjection.Text.Digits
import Mathlib.Algebra.Group.Nat.Defs
import Mathlib.Tactic.Common

namespace MarkerInjection

/-! ## Digits -/

namespace Text

/-- The value of a digit in a base of at most sixteen. Letters are small. -/
def digitValue? (base : Nat) (c : Char) : Option Nat :=
  let value :=
    if '0' ≤ c ∧ c ≤ '9' then some (c.toNat - 48)
    else if 'a' ≤ c ∧ c ≤ 'f' then some (c.toNat - 87)
    else none
  value.filter (· < base)

/-- The number that digits make. -/
def digitsValue? (base : Nat) (cs : List Char) : Option Nat :=
  cs.foldlM (fun n c => (digitValue? base c).map (n * base + ·)) 0

theorem digitValue?_digitChar {base d : Nat} (hbase : base ≤ 16) (hd : d < base) :
    digitValue? base (Nat.digitChar d) = some d := by
  have hall : ∀ d < 16, digitValue? 16 (Nat.digitChar d) = some d := by decide
  have hwide := hall d (by omega)
  unfold digitValue? at hwide ⊢
  rw [Option.filter_eq_some_iff] at hwide ⊢
  exact ⟨hwide.1, by simpa using hd⟩

theorem digitsValue?_append_digit {base n d : Nat} {cs : List Char} (hbase : base ≤ 16)
    (hd : d < base) (hcs : digitsValue? base cs = some n) :
    digitsValue? base (cs ++ [Nat.digitChar d]) = some (n * base + d) := by
  unfold digitsValue? at hcs ⊢
  rw [List.foldlM_append, hcs]
  simp [digitValue?_digitChar hbase hd]

/-- The last digits of a number make what it leaves over when the power of the base is taken out. -/
theorem digitsValue?_lastDigits {base : Nat} (hpos : 0 < base) (hbase : base ≤ 16)
    (count n : Nat) : digitsValue? base (lastDigits base count n) = some (n % base ^ count) := by
  induction count generalizing n with
  | zero => simp [lastDigits, digitsValue?, Nat.mod_one]
  | succ count ih =>
    rw [lastDigits, digitsValue?_append_digit hbase (Nat.mod_lt n hpos) (ih (n / base)),
      Nat.pow_succ', Nat.mod_mul, Nat.mul_comm base, Nat.add_comm]

theorem length_lastDigits (base count n : Nat) : (lastDigits base count n).length = count := by
  induction count generalizing n with
  | zero => rfl
  | succ count ih => rw [lastDigits, List.length_append, ih, List.length_singleton]

theorem isDigit_of_mem_lastDigits {count n : Nat} {c : Char} (hc : c ∈ lastDigits 10 count n) :
    c.isDigit = true := by
  induction count generalizing n with
  | zero => simp [lastDigits] at hc
  | succ count ih =>
    rw [lastDigits, List.mem_append, List.mem_singleton] at hc
    rcases hc with hc | rfl
    · exact ih hc
    · rw [Nat.isDigit_digitChar, decide_eq_true_eq]
      exact Nat.mod_lt n (by omega)

theorem digitsValue?_toDigits (n : Nat) : digitsValue? 10 (Nat.toDigits 10 n) = some n := by
  induction n using Nat.strongRecOn with
  | ind n ih =>
    rcases Nat.lt_or_ge n 10 with hsmall | hlarge
    · have hnone : digitsValue? 10 [] = some 0 := rfl
      have hdigit := digitsValue?_append_digit (by omega) hsmall hnone
      rw [Nat.toDigits_of_lt_base hsmall]
      simpa using hdigit
    · have hbefore := ih (n / 10) (by omega)
      rw [Nat.toDigits_of_base_le (by omega) hlarge,
        digitsValue?_append_digit (by omega) (Nat.mod_lt n (by omega)) hbefore, Nat.div_add_mod']

/-- Zeros at the start do not count. -/
theorem digitsValue?_leftpad {base : Nat} (hpos : 0 < base) (count : Nat) (cs : List Char) :
    digitsValue? base (cs.leftpad count '0') = digitsValue? base cs := by
  have hzero : digitValue? base '0' = some 0 := by
    unfold digitValue?
    simpa using hpos
  unfold List.leftpad
  induction count - cs.length with
  | zero => rw [List.replicate_zero, List.nil_append]
  | succ zeros ih =>
    rw [← ih, List.replicate_succ]
    simp [digitsValue?, hzero]

end Text

/-! ## Scanners -/

/-- Takes a value from the front of a text and leaves the rest. -/
abbrev Scanner (α : Type) := StateT (List Char) Option α

namespace Scanner

variable {α β : Type}

/-- Takes this character if it is ahead, and tells whether it was. -/
def char? (c : Char) : Scanner Bool
  | [] => some (false, [])
  | d :: rest => if d = c then some (true, rest) else some (false, d :: rest)

/-- Takes this character. -/
def char (c : Char) : Scanner Unit
  | [] => none
  | d :: rest => if d = c then some ((), rest) else none

/-- Takes so many digits. -/
def digits (base count : Nat) : Scanner Nat := fun cs =>
  if count ≤ cs.length then
    (Text.digitsValue? base (cs.take count)).map fun n => (n, cs.drop count)
  else none

/-- Takes all decimal digits that are ahead: the number that they make, and how many they are. -/
def allDigits : Scanner (Nat × Nat) := fun cs =>
  let ds := cs.takeWhile Char.isDigit
  (Text.digitsValue? 10 ds).map fun n => ((n, ds.length), cs.dropWhile Char.isDigit)

/-- Nothing is left. -/
def done : Scanner Unit
  | [] => some ((), [])
  | _ :: _ => none

theorem bind_of_some {p : Scanner α} {f : α → Scanner β} {cs rest : List Char} {a : α}
    (hp : p cs = some (a, rest)) : (p >>= f) cs = f a rest := by
  change (p cs).bind _ = _
  rw [hp]
  rfl

theorem char_cons (c : Char) (rest : List Char) : char c (c :: rest) = some ((), rest) :=
  if_pos rfl

theorem char?_cons (c : Char) (rest : List Char) : char? c (c :: rest) = some (true, rest) :=
  if_pos rfl

theorem char?_of_ne {c : Char} {cs : List Char} (hcs : cs.head? ≠ some c) :
    char? c cs = some (false, cs) := by
  cases cs with
  | nil => rfl
  | cons d rest =>
    have hne : d ≠ c := by simpa using hcs
    exact if_neg hne

section Digits

variable {ds : List Char} {n : Nat} (rest : List Char)

theorem digits_append {base count : Nat} (hlength : ds.length = count)
    (hvalue : Text.digitsValue? base ds = some n) :
    digits base count (ds ++ rest) = some (n, rest) := by
  unfold digits
  rw [if_pos (by simp [hlength]), List.take_left' hlength, List.drop_left' hlength, hvalue]
  rfl

theorem digits_lastDigits {base : Nat} (hpos : 0 < base) (hbase : base ≤ 16) (count n : Nat) :
    digits base count (Text.lastDigits base count n ++ rest) = some (n % base ^ count, rest) :=
  digits_append rest (Text.length_lastDigits base count n)
    (Text.digitsValue?_lastDigits hpos hbase count n)

theorem allDigits_append (hdigits : ∀ c ∈ ds, c.isDigit = true)
    (hvalue : Text.digitsValue? 10 ds = some n) (hrest : ∀ c ∈ rest.head?, ¬ c.isDigit = true) :
    allDigits (ds ++ rest) = some ((n, ds.length), rest) := by
  have hnone : rest.takeWhile Char.isDigit = [] ∧ rest.dropWhile Char.isDigit = rest := by
    cases rest with
    | nil => exact ⟨rfl, rfl⟩
    | cons c rest => simp [hrest c rfl]
  unfold allDigits
  rw [List.takeWhile_append_of_pos hdigits, List.dropWhile_append_of_pos hdigits, hnone.1, hnone.2,
    List.append_nil]
  dsimp only
  rw [hvalue]
  rfl

end Digits

end Scanner

end MarkerInjection
