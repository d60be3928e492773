-- Run ids are read back from their texts: each group of digits goes on with the
-- number where the group before it ended.
import MarkerInjection.Diagnostic.RunId
import MarkerInjection.Proofs.Scanners

namespace MarkerInjection

namespace RunId

/-- Takes a hyphen and a group of hexadecimal digits, which go on with the number before. -/
def group (before count : Nat) : Scanner Nat := do
  Scanner.char '-'
  return before * 16 ^ count + (← Scanner.digits 16 count)

/-- Takes five groups of digits with hyphens between. -/
def scan : Scanner Nat := do
  let n ← Scanner.digits 16 8
  let n ← group n 4
  let n ← group n 4
  let n ← group n 4
  let n ← group n 12
  Scanner.done
  return n

/-- The id that the text stands for. -/
def ofText? (text : String) : Option RunId := (scan.run' text.toList).map fun n => ⟨.ofNat 128 n⟩

theorem group_lastDigits (before count n : Nat) (rest : List Char) :
    group before count ('-' :: (Text.lastDigits 16 count n ++ rest)) =
      some (before * 16 ^ count + n % 16 ^ count, rest) := by
  unfold group
  rw [Scanner.bind_of_some (Scanner.char_cons _ _),
    Scanner.bind_of_some (Scanner.digits_lastDigits rest (by omega) (by omega) count n)]
  rfl

/-- A group goes on with the number where the one before it ended. -/
theorem scan_group (n count shift : Nat) (rest : List Char) :
    group (n >>> (shift + 4 * count)) count
      ('-' :: (Text.lastDigits 16 count (n >>> shift) ++ rest)) = some (n >>> shift, rest) := by
  have hpow : 2 ^ (shift + 4 * count) = 2 ^ shift * 16 ^ count := by
    rw [Nat.pow_add, Nat.pow_mul]
  have hwhole : n >>> (shift + 4 * count) * 16 ^ count + n >>> shift % 16 ^ count =
      n >>> shift := by
    rw [Nat.shiftRight_eq_div_pow, Nat.shiftRight_eq_div_pow, hpow, ← Nat.div_div_eq_div_mul,
      Nat.mul_comm, Nat.div_add_mod]
  rw [group_lastDigits, hwhole]

theorem scan_text (id : RunId) : scan id.text.toList = some (id.value.toNat, []) := by
  obtain ⟨value⟩ := id
  generalize hn : value.toNat = n
  have hlt : n < 2 ^ 128 := hn ▸ value.isLt
  have hfirst : n >>> 96 % 16 ^ 8 = n >>> 96 := by
    rw [Nat.shiftRight_eq_div_pow]
    omega
  have hsecond (rest : List Char) : group (n >>> 96) 4 _ = some (_, rest) := scan_group n 4 80 rest
  have hthird (rest : List Char) : group (n >>> 80) 4 _ = some (_, rest) := scan_group n 4 64 rest
  have hfourth (rest : List Char) : group (n >>> 64) 4 _ = some (_, rest) := scan_group n 4 48 rest
  have hlast : group (n >>> 48) 12 _ = some (_, []) := scan_group n 12 0 []
  rw [List.append_nil] at hlast
  unfold scan text
  simp only [hn, String.toList_ofList, List.append_assoc, List.cons_append, List.nil_append]
  rw [Scanner.bind_of_some (Scanner.digits_lastDigits _ (by omega) (by omega) _ _), hfirst,
    Scanner.bind_of_some (hsecond _), Scanner.bind_of_some (hthird _),
    Scanner.bind_of_some (hfourth _), Scanner.bind_of_some hlast]
  rfl

theorem ofText?_text (id : RunId) : ofText? id.text = some id := by
  unfold ofText?
  change ((scan id.text.toList).map (·.1)).map _ = _
  rw [scan_text]
  simp

end RunId

end MarkerInjection
