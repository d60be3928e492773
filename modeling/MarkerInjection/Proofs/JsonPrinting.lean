-- What is written as JSON is a JSON text: strings with their shortest escapes,
-- natural numbers as their digits, and objects without blanks.
import MarkerInjection.Text.Json
import MarkerInjection.Proofs.JsonDecoding
import MarkerInjection.Proofs.JsonWriting

namespace MarkerInjection.Json

/-! ## Strings -/

/-- The escape by a letter that a character is written with, if there is one. -/
def ShortEscape.of? (c : Char) : Option ShortEscape :=
  [quote, backslash, backspace, formFeed, newline, lineReturn, tab].find? (·.meaning = c)

/-- A character by a letter if that can be, else for itself or by its number. -/
def Piece.shortest (c : Char) : Piece := (ShortEscape.of? c).elim (.of c) .short

def Pieces.shortest (s : String) : Pieces := s.toList.map Piece.shortest

theorem meaning?_cons_shortest (c : Char) (ps : Pieces) :
    Pieces.meaning? (Piece.shortest c :: ps) = (Pieces.meaning? ps).map (c :: ·) := by
  unfold Piece.shortest
  cases he : ShortEscape.of? c with
  | none => exact meaning?_cons_of c ps
  | some e =>
    have hmeaning : e.meaning = c := by simpa using List.find?_some he
    rw [Option.elim_some, Pieces.meaning?, hmeaning]

theorem text?_shortest (s : String) : (Pieces.shortest s).text? = some s :=
  text?_map meaning?_cons_shortest s

theorem chars_ofByte : ∀ n < 32, (CodeUnit.ofByte n).chars = Text.lastDigits 16 4 n := by
  decide

theorem chars_shortest (c : Char) : (Piece.shortest c).chars = Text.jsonChar c := by
  unfold Text.jsonChar
  split
  case h_8 hquote hbackslash hbackspace hformFeed hnewline hreturn htab =>
    have hnone : ShortEscape.of? c = none := by
      unfold ShortEscape.of?
      rw [List.find?_eq_none]
      simp only [List.forall_mem_cons, decide_eq_true_eq]
      exact ⟨Ne.symm hquote, Ne.symm hbackslash, Ne.symm hbackspace, Ne.symm hformFeed,
        Ne.symm hnewline, Ne.symm hreturn, Ne.symm htab, by simp⟩
    unfold Piece.shortest Piece.of
    rw [hnone, Option.elim_none]
    by_cases hcontrol : c.toNat < 32
    · rw [if_pos hcontrol, dif_neg fun hc => absurd hcontrol (Nat.not_lt.mpr hc.2.2), Piece.chars,
        chars_ofByte _ hcontrol]
      rfl
    · rw [if_neg hcontrol, dif_pos ⟨hquote, hbackslash, Nat.le_of_not_lt hcontrol⟩]
      rfl
  all_goals rfl

theorem chars_string_shortest (s : String) :
    (Written.string (.shortest s)).chars = (Text.jsonString s).toList := by
  unfold Written.chars Pieces.chars Pieces.shortest Text.jsonString
  simp [List.flatMap_map, chars_shortest]

/-! ## Numbers -/

theorem chars_digits (n : Nat) : (Digits.of n).chars = Nat.toDigits 10 n := by
  have hdigit : ∀ d : Fin 10, digitChar d = Nat.digitChar d.val := by decide
  induction n using Digits.of.induct with
  | case1 n hn =>
    rw [Digits.of, dif_pos hn, Nat.toDigits_of_lt_base hn, ← hdigit ⟨n, hn⟩]
    rfl
  | case2 n hn ih =>
    have hlast : digitChar (Fin.ofNat 10 n) = Nat.digitChar (n % 10) := hdigit _
    rw [Digits.of, dif_neg hn, Nat.toDigits_of_base_le (by omega) (Nat.le_of_not_lt hn), ← ih,
      ← hlast]
    simp [Digits.chars]

theorem chars_number (n : Nat) : (Written.number (.of n)).chars = (toString n).toList := by
  rw [Nat.toString_eq_ofList_toDigits, String.toList_ofList, ← chars_digits]
  simp [Written.chars, Numeral.chars, Numeral.of]

theorem decimal_of (n : Nat) : (Numeral.of n).decimal = ⟨n, 0⟩ := by
  have hvalue : (Digits.of n).onto 0 = n := by
    have hvalue := value_of n
    unfold Digits.value at hvalue
    simpa [Digits.onto, goOn] using hvalue
  simp [Numeral.decimal, Numeral.significand, Numeral.power, Numeral.of, hvalue]

/-- The natural number, if it is one. -/
def Decimal.natural? (d : Decimal) : Option Nat :=
  if d.exponent = 0 ∧ 0 ≤ d.significand then some d.significand.toNat else none

/-! ## Objects -/

/-- A member without blanks. -/
def Member.of (name : String) (v : Written) : Member Written :=
  ⟨⟨[], .shortest name, []⟩, ⟨[], v, []⟩⟩

/-- The text of a member. -/
def memberText (name value : String) : String := Text.jsonString name ++ ":" ++ value

theorem chars_member (isFirst : Bool) (name : String) (v : Written) (ms : List (Member Written)) :
    membersChars isFirst (.of name v :: ms) =
      (if isFirst then [] else [',']) ++ (memberText name (.ofList v.chars)).toList ++
        membersChars false ms := by
  have hkey := chars_string_shortest name
  unfold Written.chars at hkey
  simp [membersChars, Member.of, Spaced.chars, memberText, hkey]

/-- Members without blanks stand between commas. -/
theorem membersChars_of (isFirst : Bool) (ms : List (String × Written)) :
    membersChars isFirst (ms.map fun (name, v) => .of name v) =
      (if isFirst ∨ ms = [] then [] else [',']) ++
        [','].intercalate (ms.map fun (name, v) => (memberText name (.ofList v.chars)).toList) := by
  -- Behind the first member all others have a comma before them, the next one included.
  induction ms generalizing isFirst with
  | nil => simp [membersChars]
  | cons m ms ih =>
    rw [List.map_cons, chars_member, ih]
    cases ms with
    | nil => simp
    | cons m' ms => simp

end MarkerInjection.Json
