-- Every text and every natural number of 64 bits can be written: characters for
-- themselves where they may stand so, and decimal digits without a leading zero.
import MarkerInjection.Proofs.JsonStrings
import MarkerInjection.Proofs.JsonNumbers

namespace MarkerInjection.Json

/-! ## Texts -/

/-- A character of two hexadecimal digits by its number. -/
def CodeUnit.ofByte (n : Nat) : CodeUnit :=
  ⟨⟨0, false⟩, ⟨0, false⟩, ⟨Fin.ofNat 16 (n / 16), false⟩, ⟨Fin.ofNat 16 n, false⟩⟩

theorem value_ofByte {n : Nat} (hn : n < 256) : (CodeUnit.ofByte n).value = n := by
  simp only [CodeUnit.ofByte, CodeUnit.value, Fin.ofNat]
  change ((0 * 16 + 0) * 16 + n / 16 % 16) * 16 + n % 16 = n
  omega

/-- A character for itself, or by its number if it may not stand so. -/
def Piece.of (c : Char) : Piece :=
  if hc : c ≠ '"' ∧ c ≠ '\\' ∧ 32 ≤ c.toNat then .plain ⟨c, hc⟩ else .code (.ofByte c.toNat)

/-- A text as a string. -/
def Pieces.of (s : String) : Pieces := s.toList.map Piece.of

theorem meaning?_cons_of (c : Char) (ps : Pieces) :
    Pieces.meaning? (Piece.of c :: ps) = (Pieces.meaning? ps).map (c :: ·) := by
  by_cases hc : c ≠ '"' ∧ c ≠ '\\' ∧ 32 ≤ c.toNat
  · rw [Piece.of, dif_pos hc]
    rfl
  · have hsmall : c.toNat < 128 := by
      by_cases hquote : c = '"'
      · subst hquote
        decide
      by_cases hbackslash : c = '\\'
      · subst hbackslash
        decide
      have hcontrol : ¬ 32 ≤ c.toNat := fun h => hc ⟨hquote, hbackslash, h⟩
      omega
    have hvalue : (CodeUnit.ofByte c.toNat).value = c.toNat := value_ofByte (by omega)
    have hhigh : ¬ (CodeUnit.ofByte c.toNat).IsHigh := by
      rw [CodeUnit.IsHigh, hvalue]
      omega
    have hlow : ¬ (CodeUnit.ofByte c.toNat).IsLow := by
      rw [CodeUnit.IsLow, hvalue]
      omega
    rw [Piece.of, dif_neg hc, Pieces.meaning?.eq_def]
    dsimp only
    rw [if_neg hhigh, if_neg hlow, hvalue, Char.ofNat_toNat]

/-- A text stands for itself if it is written character by character. -/
theorem text?_map {piece : Char → Piece}
    (hpiece : ∀ c ps, Pieces.meaning? (piece c :: ps) = (Pieces.meaning? ps).map (c :: ·))
    (s : String) : Pieces.text? (s.toList.map piece) = some s := by
  have hmeaning (cs : List Char) : Pieces.meaning? (cs.map piece) = some cs := by
    induction cs with
    | nil => rfl
    | cons c cs ih => rw [List.map_cons, hpiece, ih, Option.map_some]
  rw [Pieces.text?, hmeaning, Option.map_some, String.ofList_toList]

theorem text?_of (s : String) : (Pieces.of s).text? = some s := text?_map meaning?_cons_of s

/-! ## Numbers -/

/-- The decimal digits of a number. -/
def Digits.of (n : Nat) : Digits :=
  if hn : n < 10 then ⟨⟨n, hn⟩, []⟩
  else ⟨(Digits.of (n / 10)).first, (Digits.of (n / 10)).more ++ [Fin.ofNat 10 n]⟩

theorem value_of (n : Nat) : (Digits.of n).value = n := by
  induction n using Digits.of.induct with
  | case1 n hn =>
    rw [Digits.of, dif_pos hn]
    rfl
  | case2 n hn ih =>
    rw [Digits.of, dif_neg hn, Digits.value, List.foldl_append]
    change (Digits.of (n / 10)).value * 10 + n % 10 = n
    omega

theorem eq_zero_of_first {n : Nat} (hfirst : (Digits.of n).first = 0) : n = 0 := by
  induction n using Digits.of.induct with
  | case1 n hn =>
    rw [Digits.of, dif_pos hn] at hfirst
    exact congrArg Fin.val hfirst
  | case2 n hn ih =>
    rw [Digits.of, dif_neg hn] at hfirst
    have hzero := ih hfirst
    omega

/-- A natural number in digits alone. -/
def Numeral.of (n : Nat) : Numeral where
  minus := false
  whole := Digits.of n
  first_ne_zero := by
    intro hmore hfirst
    rw [eq_zero_of_first hfirst] at hmore
    exact hmore (by rw [Digits.of]; rfl)
  fraction := none
  exponent := none

theorem natural?_of {n : Nat} (hn : n < threadLimit) : (Numeral.of n).natural? = some n := by
  have hvalue : (Numeral.of n).whole.value = n := value_of n
  rw [Numeral.natural?, if_pos ⟨rfl, rfl, rfl, by rw [hvalue]; exact hn⟩, hvalue]

end MarkerInjection.Json
