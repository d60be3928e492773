-- What a JSON text means, and a reader for all of them (RFC 8259). Strings are kept
-- as texts and numbers exactly, so that nothing of the meaning is lost.
import MarkerInjection.Proofs.Documents
import Mathlib.Algebra.Group.Nat.Defs

namespace MarkerInjection.Json

/-! ## Meanings -/

/-- A decimal number: a whole number, and the power of ten that it is taken by. -/
structure Decimal where
  significand : Int
  exponent : Int
  deriving Repr, DecidableEq

/-- A value without its notation. An object keeps its members in their order. -/
inductive Value
  | null
  | boolean (b : Bool)
  | number (d : Decimal)
  | string (s : String)
  | list (elements : List Value)
  | object (members : List (String × Value))

/-- The number that the digits go on with. -/
def Digits.onto (ds : Digits) (value : Nat) : Nat := goOn value (ds.first :: ds.more)

/-- How many digits there are. -/
def Digits.count (ds : Digits) : Nat := ds.more.length + 1

def Exponent.value (e : Exponent) : Int :=
  if e.minus = some true then -(e.digits.onto 0 : Nat) else (e.digits.onto 0 : Nat)

namespace Numeral

/-- The number that all digits make. Those of a fraction go on with those of the whole part. -/
def significand (n : Numeral) : Nat :=
  n.fraction.elim (n.whole.onto 0) fun ds => ds.onto (n.whole.onto 0)

/-- The power of ten: each digit of a fraction takes one from the exponent. -/
def power (n : Numeral) : Int :=
  n.exponent.elim 0 Exponent.value - (n.fraction.elim 0 Digits.count : Nat)

/-- The number that is meant. -/
def decimal (n : Numeral) : Decimal :=
  ⟨if n.minus then -n.significand else n.significand, n.power⟩

end Numeral

mutual

/-- The value that is meant, unless a string in it stands for none. -/
def Written.meaning? : Written → Option Value
  | .null => some .null
  | .boolean b => some (.boolean b)
  | .number n => some (.number n.decimal)
  | .string ps => ps.text?.map .string
  | .list _ es => (elementsMeaning? es).map .list
  | .object _ ms => (membersMeaning? ms).map .object

def elementsMeaning? : List (Spaced Written) → Option (List Value)
  | [] => some []
  | ⟨_, v, _⟩ :: es => v.meaning?.bind fun x => (elementsMeaning? es).map (x :: ·)

def membersMeaning? : List (Member Written) → Option (List (String × Value))
  | [] => some []
  | ⟨key, _, v, _⟩ :: ms =>
    key.value.text?.bind fun name =>
      v.meaning?.bind fun x => (membersMeaning? ms).map ((name, x) :: ·)

end

/-! ## The decoder -/

namespace Decoder

/-- Reads digits, of which there is one at least: the number that they go on with, and how many
they are. -/
def digits (value : Nat) : Reader (Nat × Nat) := do
  let room := (← get).rest.length + 1
  let (value, count, _) ← digitsOnto ((value + 1) * 10 ^ room) room value 0
  if count = 0 then failAhead .badNumber
  return (value, count)

/-- Reads the whole part of a number. No digit follows a zero at its start. -/
def whole : Reader Nat := do
  if (← peek) == some (code '0') then
    skip
    return 0
  else return (← digits 0).1

/-- Reads a fraction, if there is one: the digits go on with those of the whole part. -/
def fraction (whole : Nat) : Reader (Nat × Nat) := do
  if (← peek) == some (code '.') then
    skip
    digits whole
  else return (whole, 0)

/-- Reads an exponent, if there is one. -/
def exponent : Reader Int := do
  if atExponent (← peek) then
    skip
    let mark ← peek
    if mark == some (code '-') then
      skip
      return -((← digits 0).1 : Int)
    else if mark == some (code '+') then
      skip
      return (← digits 0).1
    else return (← digits 0).1
  else return 0

/-- Reads a number behind its sign. -/
def unsigned : Reader (Nat × Int) := do
  let (significand, count) ← fraction (← whole)
  let e ← exponent
  return (significand, e - count)

/-- Reads a number. -/
def decimal : Reader Decimal := do
  if (← peek) == some (code '-') then
    skip
    let (significand, power) ← unsigned
    return ⟨-significand, power⟩
  else
    let (significand, power) ← unsigned
    return ⟨significand, power⟩

mutual

/-- Reads a value. The bounds are only there to end the recursion. -/
def value : Nat → Reader Value
  | 0 => failAhead .endOfValue
  | n + 1 => do
    let b ← peekValue
    if b == code '"' then
      skip
      return .string (← stringRest)
    else if b == code '[' then
      skip
      return .list (← elements n true)
    else if b == code '\x7b' then
      skip
      return .object (← members n true)
    else if b == code 'n' then
      takeWord "null".toList
      return .null
    else if b == code 't' then
      takeWord "true".toList
      return .boolean true
    else if b == code 'f' then
      takeWord "false".toList
      return .boolean false
    else return .number (← decimal)

/-- Reads the elements of a list and its end. -/
def elements : Nat → Bool → Reader (List Value)
  | 0, _ => failAhead .endOfList
  | n + 1, isFirst => do
    if ← Document.atElement isFirst then
      let x ← value n
      return x :: (← elements n false)
    else
      skip
      return []

/-- Reads the members of an object and its end. -/
def members : Nat → Bool → Reader (List (String × Value))
  | 0, _ => failAhead .endOfObject
  | n + 1, isFirst => do
    if ← Document.atKey isFirst then
      skip
      let name ← stringRest
      Document.colon
      let x ← value n
      return (name, x) :: (← members n false)
    else
      skip
      return []

end

/-- Reads a value behind which nothing may follow. -/
def document : Reader Value := do
  let x ← value ((← get).rest.length + 1)
  if (← peekSolid).isSome then failAhead .trailingCharacters
  return x

end Decoder

/-- The value that a text means. -/
def decode (text : String) : Except Fault Value :=
  Decoder.document.run' ⟨[], text.toUTF8.toList⟩

namespace Decoder

/-! ## Numbers -/

theorem goOn_lt (value : Nat) (ds : List (Fin 10)) :
    goOn value ds < (value + 1) * 10 ^ ds.length := by
  induction ds generalizing value with
  | nil => simp [goOn]
  | cons d ds ih =>
    have hrest := ih (value * 10 + d.val)
    have hfirst : value * 10 + d.val + 1 ≤ (value + 1) * 10 := by omega
    have hscaled := Nat.mul_le_mul_right (10 ^ ds.length) hfirst
    unfold goOn at hrest ⊢
    rw [List.foldl_cons, List.length_cons, Nat.pow_succ, Nat.mul_comm (10 ^ ds.length) 10,
      ← Nat.mul_assoc]
    omega

section Numbers

variable {rest : List Char}

theorem yields_digits (hrest : EndsDigits rest) (value : Nat) (ds : Digits) :
    Yields (digits value) (ds.chars ++ rest) (some (ds.onto value, ds.count)) rest := by
  have hroom := length_digits_lt (ds.first :: ds.more) rest
  generalize hlength : (utf8 ((ds.first :: ds.more).map digitChar ++ rest)).length + 1 = room
    at hroom
  have hbound : goOn value (ds.first :: ds.more) < (value + 1) * 10 ^ room := by
    refine Nat.lt_of_lt_of_le (goOn_lt value (ds.first :: ds.more)) ?_
    exact Nat.mul_le_mul_left _ (Nat.pow_le_pow_right (by omega) (Nat.le_of_lt hroom))
  have hread : Yields (do
      let (value, count, _) ← digitsOnto ((value + 1) * 10 ^ room) room value 0
      if count = 0 then failAhead .badNumber
      return (value, count)) (ds.chars ++ rest) (some (ds.onto value, ds.count)) rest := by
    refine (yields_digitsOnto hrest (ds.first :: ds.more) hroom hbound).then ?_
    dsimp only
    rw [if_neg (by simp), Nat.zero_add]
    exact yields_pure _ rest
  intro read
  subst hlength
  exact hread read

/-- A digit is none of the marks in a number. -/
theorem code_digitChar_ne (d : Fin 10) :
    ∀ c ∈ ['.', 'e', 'E', '+', '-'], code (digitChar d) ≠ code c := by
  have hall : ∀ d : Fin 10, (['.', 'e', 'E', '+', '-'].all fun c =>
      decide (code (digitChar d) ≠ code c)) = true := by
    decide
  exact forall_mem_of_all (hall d)

theorem yields_whole (hrest : EndsDigits rest) {w : Digits}
    (hzero : w.more ≠ [] → w.first ≠ 0) :
    Yields whole (w.chars ++ rest) (some (w.onto 0)) rest := by
  obtain ⟨first, more⟩ := w
  have hpeek := yields_peek (isAscii_digitChar first) (more.map digitChar ++ rest)
  by_cases hfirst : first = 0
  · have hmore : more = [] := Classical.byContradiction fun hmore => hzero hmore hfirst
    subst hfirst hmore
    refine hpeek.then ?_
    exact (yields_skip (isAscii_digitChar 0) rest).then (yields_pure 0 rest)
  · have hne : ∀ d : Fin 10, d ≠ 0 → ¬ (some (code (digitChar d)) == some (code '0')) = true := by
      decide
    refine hpeek.then ?_
    rw [if_neg (hne first hfirst)]
    exact (yields_digits hrest 0 ⟨first, more⟩).map _

/-- The exponent of a number and what follows the number. -/
def exponentTail (e : Option Exponent) (rest : List Char) : List Char :=
  e.elim [] Exponent.chars ++ rest

theorem exponentTail_some (e : Exponent) (rest : List Char) :
    exponentTail (some e) rest = (if e.capital then 'E' else 'e') ::
      ((e.minus.map fun m => if m then '-' else '+').toList ++ (e.digits.chars ++ rest)) := by
  simp [exponentTail, Exponent.chars]

theorem yields_exponent (hrest : Closes rest) (e : Option Exponent) :
    Yields exponent (exponentTail e rest) (some (e.elim 0 Exponent.value)) rest := by
  have hends := hrest.endsDigits
  cases e with
  | none =>
    refine hends.peek.1.then ?_
    rw [hrest.unmarked.2]
    exact yields_pure 0 rest
  | some e =>
    obtain ⟨capital, minus, ds⟩ := e
    rw [exponentTail_some]
    have hletter : IsAscii (if capital then 'E' else 'e') ∧
        atExponent (some (code (if capital then 'E' else 'e'))) = true := by
      revert capital
      decide
    refine (yields_peek hletter.1 _).then ?_
    rw [if_pos hletter.2]
    refine (yields_skip hletter.1 _).then ?_
    have hdigits := yields_digits hends 0 ds
    cases minus with
    | none =>
      obtain ⟨first, more⟩ := ds
      have hmark := code_digitChar_ne first
      refine (yields_peek (isAscii_digitChar first) _).then ?_
      rw [if_neg (by simpa using hmark '-' (by simp)), if_neg (by simpa using hmark '+' (by simp))]
      exact hdigits.map _
    | some minus =>
      cases minus with
      | true =>
        refine (yields_peek (by decide) _).then ((yields_skip (by decide) _).then ?_)
        exact hdigits.map _
      | false =>
        refine (yields_peek (by decide) _).then ((yields_skip (by decide) _).then ?_)
        exact hdigits.map _

/-- An exponent, or what follows a number, is no digit and no point. -/
theorem exponentTail_head (hrest : Closes rest) (e : Option Exponent) :
    EndsDigits (exponentTail e rest) ∧
      (exponentTail e rest).head?.map code ≠ some (code '.') := by
  cases e with
  | none => exact ⟨hrest.endsDigits, hrest.unmarked.1⟩
  | some e =>
    rw [exponentTail_some]
    have hletter : (if e.capital then 'E' else 'e') ∈ marks ∧
        some (code (if e.capital then 'E' else 'e')) ≠ some (code '.') := by
      cases e.capital with
      | true => decide
      | false => decide
    exact ⟨endsDigits_mark hletter.1 _, hletter.2⟩

/-- The digits of a fraction, or what follows the whole part of a number. -/
theorem yields_fraction (hrest : Closes rest) (n : Numeral) (w : Nat) :
    Yields (fraction w) (n.tail rest)
      (some (n.fraction.elim w fun ds => ds.onto w, n.fraction.elim 0 Digits.count))
      (exponentTail n.exponent rest) := by
  obtain ⟨hends, hpoint⟩ := exponentTail_head hrest n.exponent
  unfold Numeral.tail
  cases n.fraction with
  | none =>
    refine hends.peek.1.then ?_
    rw [if_neg (by simpa using hpoint)]
    exact yields_pure _ _
  | some ds =>
    refine (yields_peek (by decide) _).then ?_
    rw [if_pos (by decide)]
    exact (yields_skip (by decide) _).then (yields_digits hends w ds)

theorem yields_unsigned (hrest : Closes rest) (n : Numeral) :
    Yields unsigned (n.whole.chars ++ n.tail rest) (some (n.significand, n.power)) rest := by
  refine (yields_whole (n.endsDigits_tail hrest) n.first_ne_zero).then ?_
  refine (yields_fraction hrest n _).then ?_
  exact (yields_exponent hrest n.exponent).map _

/-- A number is read as what it means. -/
theorem yields_decimal (hrest : Closes rest) (n : Numeral) :
    Yields decimal (n.chars ++ rest) (some n.decimal) rest := by
  have hunsigned := yields_unsigned hrest n
  rw [Numeral.chars_append, Numeral.decimal]
  cases n.minus with
  | true =>
    refine (yields_peek (by decide) _).then ((yields_skip (by decide) _).then ?_)
    exact hunsigned.then (yields_pure _ _)
  | false =>
    have hmark : code (digitChar n.whole.first) ≠ code '-' :=
      code_digitChar_ne n.whole.first '-' (by simp)
    refine (yields_peek (isAscii_digitChar n.whole.first) _).then ?_
    rw [if_neg (by simpa using hmark)]
    exact hunsigned.then (yields_pure _ _)

end Numbers

/-! ## Values -/

/-- Within this bound, values with what belongs to them are read as what they mean. -/
structure ReadsWithin (n : Nat) : Prop where
  value : ∀ (bs : List Blank) (v : Written) (rest : List Char), v.chars.length < n → Closes rest →
    Yields (value n) (bs.map Blank.char ++ (v.chars ++ rest)) v.meaning? rest
  elements : ∀ (isFirst : Bool) (bs : List Blank) (es : List (Spaced Written)) (rest : List Char),
    (elementsChars isFirst es).length + 1 < n →
    Yields (elements n isFirst) (bs.map Blank.char ++ listRest isFirst es rest)
      (elementsMeaning? es) rest
  members : ∀ (isFirst : Bool) (bs : List Blank) (ms : List (Member Written)) (rest : List Char),
    (membersChars isFirst ms).length + 1 < n →
    Yields (members n isFirst) (bs.map Blank.char ++ objectRest isFirst ms rest)
      (membersMeaning? ms) rest

theorem length_chars_pos (v : Written) : 0 < v.chars.length := by
  have hhead := head_written v []
  rw [List.append_nil] at hhead
  cases hchars : v.chars with
  | nil => simp [hchars] at hhead
  | cons c cs => simp

section Bounds

variable {n : Nat} (hn : ReadsWithin n) {rest : List Char}

include hn

theorem yields_value_succ (bs : List Blank) (v : Written) (hlength : v.chars.length < n + 1)
    (hrest : Closes rest) :
    Yields (value (n + 1)) (bs.map Blank.char ++ (v.chars ++ rest)) v.meaning? rest := by
  have hpeek := yields_peekValue bs (startsWith_written v rest)
  unfold value
  refine hpeek.then ?_
  cases v with
  | string ps =>
    rw [Written.first, if_pos (by decide), chars_string]
    exact (yields_skip (by decide) _).then ((yields_stringRest ps rest).map Value.string)
  | list inner es =>
    have hbound : (elementsChars true es).length + 1 < n := by
      simp only [Written.chars, List.length_cons, List.length_append, List.length_nil] at hlength
      omega
    rw [Written.first, if_neg (by decide), if_pos (by decide), chars_list]
    exact (yields_skip (by decide) _).then ((hn.elements true inner es rest hbound).map Value.list)
  | object inner ms =>
    have hbound : (membersChars true ms).length + 1 < n := by
      simp only [Written.chars, List.length_cons, List.length_append, List.length_nil] at hlength
      omega
    rw [Written.first, if_neg (by decide), if_neg (by decide), if_pos (by decide), chars_object]
    exact (yields_skip (by decide) _).then ((hn.members true inner ms rest hbound).map Value.object)
  | null =>
    rw [if_neg (by decide), if_neg (by decide), if_neg (by decide), if_pos (by decide)]
    exact (yields_takeWord (forall_mem_of_all (by decide)) rest).then (yields_pure _ rest)
  | boolean b =>
    cases b with
    | true =>
      rw [if_neg (by decide), if_neg (by decide), if_neg (by decide), if_neg (by decide),
        if_pos (by decide)]
      exact (yields_takeWord (forall_mem_of_all (by decide)) rest).then (yields_pure _ rest)
    | false =>
      rw [if_neg (by decide), if_neg (by decide), if_neg (by decide), if_neg (by decide),
        if_neg (by decide), if_pos (by decide)]
      exact (yields_takeWord (forall_mem_of_all (by decide)) rest).then (yields_pure _ rest)
  | number m =>
    have hne := code_numberFirst_ne (first_number_mem m)
    simp only [List.forall_mem_cons, List.not_mem_nil] at hne
    obtain ⟨hquote, hbracket, hbrace, hnull, htrue, hfalse, -⟩ := hne
    simp only [beq_iff_eq, hquote, hbracket, hbrace, hnull, htrue, hfalse, if_false]
    exact (yields_decimal hrest m).map Value.number

theorem yields_elements_succ (isFirst : Bool) (bs : List Blank) (es : List (Spaced Written))
    (hlength : (elementsChars isFirst es).length + 1 < n + 1) :
    Yields (elements (n + 1) isFirst) (bs.map Blank.char ++ listRest isFirst es rest)
      (elementsMeaning? es) rest := by
  unfold elements
  cases es with
  | nil =>
    refine (Document.yields_atElement_end isFirst bs).then ?_
    rw [if_neg (by decide)]
    exact (yields_skip (by decide) rest).then (yields_pure _ rest)
  | cons e es =>
    obtain ⟨before, v, after⟩ := e
    have hpos := length_chars_pos v
    simp only [elementsChars, List.length_append] at hlength
    have hvalue := hn.value [] v (after.map Blank.char ++ listRest false es rest) (by omega)
      (closes_blanks after (closes_listRest es rest))
    have hmore := hn.elements false after es rest (by omega)
    refine (Document.yields_atElement isFirst bs ⟨before, v, after⟩ es).then ?_
    rw [if_pos rfl, elementsMeaning?]
    exact hvalue.bind fun x => hmore.map (x :: ·)

theorem yields_members_succ (isFirst : Bool) (bs : List Blank) (ms : List (Member Written))
    (hlength : (membersChars isFirst ms).length + 1 < n + 1) :
    Yields (members (n + 1) isFirst) (bs.map Blank.char ++ objectRest isFirst ms rest)
      (membersMeaning? ms) rest := by
  unfold members
  cases ms with
  | nil =>
    refine (Document.yields_atKey_end isFirst bs).then ?_
    rw [if_neg (by decide)]
    exact (yields_skip (by decide) rest).then (yields_pure _ rest)
  | cons m ms =>
    obtain ⟨key, before, v, after⟩ := m
    simp only [membersChars, List.length_append, List.length_cons, List.length_nil] at hlength
    have hvalue := hn.value before v (after.map Blank.char ++ objectRest false ms rest) (by omega)
      (closes_blanks after (closes_objectRest ms rest))
    have hmore := hn.members false after ms rest (by omega)
    refine (Document.yields_atKey isFirst bs ⟨key, before, v, after⟩ ms).then ?_
    rw [if_pos rfl, chars_string, membersMeaning?]
    refine (yields_skip (by decide) _).then ((yields_stringRest key.value _).bind fun name => ?_)
    refine (Document.yields_colon key.after _).then ?_
    exact hvalue.bind fun x => hmore.map ((name, x) :: ·)

end Bounds

theorem readsWithin (n : Nat) : ReadsWithin n := by
  induction n with
  | zero =>
    refine ⟨fun _ _ _ hlength => ?_, fun _ _ _ _ hlength => ?_, fun _ _ _ _ hlength => ?_⟩
    · exact absurd hlength (Nat.not_lt_zero _)
    · exact absurd hlength (Nat.not_lt_zero _)
    · exact absurd hlength (Nat.not_lt_zero _)
  | succ n ih =>
    refine ⟨fun bs v rest => ?_, fun isFirst bs es rest => ?_, fun isFirst bs ms rest => ?_⟩
    · exact yields_value_succ ih bs v
    · exact yields_elements_succ ih isFirst bs es
    · exact yields_members_succ ih isFirst bs ms

/-! ## Documents -/

theorem yields_document (doc : Spaced Written) :
    Yields document (doc.chars Written.chars) doc.value.meaning? [] := by
  have hchars : doc.chars Written.chars =
      doc.before.map Blank.char ++ (doc.value.chars ++ doc.after.map Blank.char) :=
    List.append_assoc _ _ _
  have hcloses : Closes (doc.after.map Blank.char) := by
    have hnone : Closes [] := by simp [Closes]
    simpa using closes_blanks doc.after hnone
  have hlength : doc.value.chars.length ≤ (utf8 (doc.chars Written.chars)).length := by
    have hbytes := length_le_length_utf8 (doc.chars Written.chars)
    rw [hchars, List.length_append, List.length_append] at hbytes
    rw [hchars]
    omega
  have hread (bound : Nat) (hbound : doc.value.chars.length < bound) : Yields (do
      let x ← value bound
      if (← peekSolid).isSome then failAhead .trailingCharacters
      return x) (doc.chars Written.chars) doc.value.meaning? [] := by
    rw [hchars, ← Option.bind_fun_some doc.value.meaning?]
    refine ((readsWithin bound).value doc.before doc.value _ hbound hcloses).bind fun x => ?_
    exact (yields_peekSolid_end doc.after).then (yields_pure x [])
  exact fun read => hread _ (Nat.lt_succ_of_le hlength) read

end Decoder

/-- A text is decoded as what it means, in whichever notation. -/
theorem decode_text (doc : Spaced Written) : (decode doc.text).toOption = doc.value.meaning? :=
  toOption_run (Decoder.yields_document doc)

end MarkerInjection.Json
