-- Numbers as a reader takes them: a natural number is one that fits into 64 bits
-- and is written in digits alone. A sign, a fraction, an exponent or a digit too
-- many make another number of it.
import MarkerInjection.Proofs.JsonReading

namespace MarkerInjection.Json

/-! ## Ends of numbers -/

/-- What may follow a value. -/
def delimiters : List Char := [' ', '\n', '\t', '\r', ',', ']', '\x7d']

/-- The text is at its end, or it goes on with what may follow a value. -/
def Closes (rest : List Char) : Prop := ∀ c ∈ rest.head?, c ∈ delimiters

/-- Whatever comes next takes one byte and is no digit. -/
def EndsDigits (rest : List Char) : Prop :=
  ∀ c ∈ rest.head?, IsAscii c ∧ digit? (some (code c)) = none

theorem Closes.endsDigits {rest : List Char} (hrest : Closes rest) : EndsDigits rest := by
  have hall : ∀ c ∈ delimiters, IsAscii c ∧ digit? (some (code c)) = none :=
    forall_mem_of_all (by decide)
  exact fun c hc => hall c (hrest c hc)

/-- Behind a value there is neither a fraction nor an exponent. -/
theorem Closes.unmarked {rest : List Char} (hrest : Closes rest) :
    rest.head?.map code ≠ some (code '.') ∧ atExponent (rest.head?.map code) = false := by
  have hall : ∀ c ∈ delimiters, some (code c) ≠ some (code '.') ∧
      atExponent (some (code c)) = false := forall_mem_of_all (by decide)
  cases rest with
  | nil => exact ⟨by simp, rfl⟩
  | cons c rest => exact hall c (hrest c (by simp))

theorem EndsDigits.peek {rest : List Char} (hrest : EndsDigits rest) :
    Yields peek rest (some (rest.head?.map code)) rest ∧ digit? (rest.head?.map code) = none := by
  cases rest with
  | nil => exact ⟨yields_peek_end, rfl⟩
  | cons c rest =>
    obtain ⟨hascii, hdigit⟩ := hrest c (by simp)
    exact ⟨yields_peek hascii rest, hdigit⟩

/-! ## Digits -/

theorem isAscii_digitChar (d : Fin 10) : IsAscii (digitChar d) := by
  revert d
  decide

theorem digit?_digitChar (d : Fin 10) : digit? (some (code (digitChar d))) = some d.val := by
  revert d
  decide

/-- The number that the digits go on with. -/
def goOn (value : Nat) (ds : List (Fin 10)) : Nat := ds.foldl (fun n d => n * 10 + d.val) value

theorem le_goOn (value : Nat) (ds : List (Fin 10)) : value ≤ goOn value ds := by
  induction ds generalizing value with
  | nil => exact Nat.le_refl _
  | cons d ds ih =>
    have hstep := ih (value * 10 + d.val)
    unfold goOn at hstep ⊢
    rw [List.foldl_cons]
    omega

section DigitsOnto

variable {limit n value count : Nat} {rest left : List Char}

/-- One digit is read if the number stays below the limit. -/
theorem yields_digitsOnto_cons {result : Option (Nat × Nat × Bool)} {d : Fin 10} {input : List Char}
    (hlimit : value * 10 + d.val < limit)
    (hmore : Yields (digitsOnto limit n (value * 10 + d.val) (count + 1)) input result left) :
    Yields (digitsOnto limit (n + 1) value count) (digitChar d :: input) result left := by
  refine (yields_peek (isAscii_digitChar d) input).then ?_
  rw [digit?_digitChar]
  dsimp only
  rw [if_neg (Nat.not_le.mpr hlimit)]
  exact (yields_skip (isAscii_digitChar d) input).then hmore

theorem yields_digitsOnto (hrest : EndsDigits rest) (ds : List (Fin 10)) (hn : ds.length < n)
    (hlimit : goOn value ds < limit) :
    Yields (digitsOnto limit n value count) (ds.map digitChar ++ rest)
      (some (goOn value ds, count + ds.length, false)) rest := by
  induction ds generalizing n value count with
  | nil =>
    obtain ⟨n, rfl⟩ := Nat.exists_eq_add_of_lt hn
    obtain ⟨hpeek, hend⟩ := hrest.peek
    refine hpeek.then ?_
    rw [hend]
    exact yields_pure _ _
  | cons d ds ih =>
    obtain _ | n := n
    · exact absurd hn (Nat.not_lt_zero _)
    refine yields_digitsOnto_cons (Nat.lt_of_le_of_lt (le_goOn _ ds) hlimit) ?_
    rw [List.length_cons, Nat.add_comm ds.length, ← Nat.add_assoc]
    exact ih (Nat.lt_of_succ_lt_succ hn) hlimit

/-- From some digit on, the digits do not fit any more. -/
theorem yields_digitsOnto_clipped (count : Nat) (ds : List (Fin 10)) (hn : ds.length < n)
    (hvalue : value < limit) (hlimit : limit ≤ goOn value ds) :
    ∃ clipped count' left, Yields (digitsOnto limit n value count) (ds.map digitChar ++ rest)
      (some (clipped, count', true)) left := by
  induction ds generalizing n value count with
  | nil => exact absurd hvalue (Nat.not_lt.mpr hlimit)
  | cons d ds ih =>
    obtain _ | n := n
    · exact absurd hn (Nat.not_lt_zero _)
    by_cases hfits : value * 10 + d.val < limit
    · obtain ⟨clipped, count', left, hmore⟩ :=
        ih (count + 1) (Nat.lt_of_succ_lt_succ hn) hfits hlimit
      exact ⟨clipped, count', left, yields_digitsOnto_cons hfits hmore⟩
    · refine ⟨value, count, (d :: ds).map digitChar ++ rest,
        (yields_peek (isAscii_digitChar d) _).then ?_⟩
      rw [digit?_digitChar]
      dsimp only
      rw [if_pos (Nat.not_lt.mp hfits)]
      exact yields_pure _ _

end DigitsOnto

/-! ## Numbers that are not natural -/

/-- From here the reader comes to no natural number. -/
def NoNatural (r : Reader Number) (c : Cursor) : Prop := ∀ n c', r c ≠ .ok (.natural n, c')

section NoNatural

variable {α : Type} {r : Reader α} {f : α → Reader Number}

theorem noNatural_bind (c : Cursor) (hf : ∀ a c', NoNatural (f a) c') :
    NoNatural (r >>= f) c := by
  intro n c'
  cases hr : r c with
  | ok result =>
    rw [bind_of_ok hr]
    exact hf result.1 result.2 n c'
  | error fault =>
    rw [bind_of_error hr]
    simp

theorem Yields.noNatural {a : α} {input middle : List Char} (hr : Yields r input (some a) middle)
    (hf : ∀ read, NoNatural (f a) ⟨read, utf8 middle⟩) (read : List UInt8) :
    NoNatural (r >>= f) ⟨read, utf8 input⟩ := by
  obtain ⟨read', hread'⟩ := hr read
  intro n c'
  rw [bind_of_ok hread']
  exact hf read' n c'

theorem AlwaysFails.noNatural {r : Reader Number} (hr : AlwaysFails r) (c : Cursor) :
    NoNatural r c := by
  intro n c' hok
  obtain ⟨fault, hfault⟩ := hr c
  rw [hfault] at hok
  simp at hok

theorem noNatural_double (r : Reader Double) (minus : Bool) (c : Cursor) :
    NoNatural (r >>= fun x => return .double x minus) c :=
  noNatural_bind c fun x c' n c'' => by
    change Except.ok (Number.double x minus, c') ≠ _
    simp

/-- Behind a minus sign, or with digits dropped, there is no natural number. -/
theorem noNatural_numberRest {minus : Bool} {dropped : Option Nat}
    (hother : minus = true ∨ dropped.isSome = true) (significand : Nat) (c : Cursor) :
    NoNatural (numberRest minus significand dropped) c := by
  refine noNatural_bind c fun next c' => ?_
  split
  · exact noNatural_double _ _ _
  split
  · exact noNatural_double _ _ _
  split
  · exact noNatural_double _ _ _
  split
  · simp_all
  split
  · intro n c''
    change Except.ok (Number.double _ true, c') ≠ _
    simp
  · intro n c''
    change Except.ok (Number.negative significand, c') ≠ _
    simp

theorem noNatural_number_minus (c : Cursor) : NoNatural (number true) c := by
  have hrest (significand : Nat) (dropped : Option Nat) (c' : Cursor) :
      NoNatural (numberRest true significand dropped) c' :=
    noNatural_numberRest (.inl rfl) significand c'
  refine noNatural_bind c fun b c' => ?_
  cases b with
  | none => exact (alwaysFails_failHere _).noNatural c'
  | some b =>
    dsimp only
    split
    · exact (alwaysFails_failHere _).noNatural c'
    · refine noNatural_bind c' fun b c'' => ?_
      split
      · exact (alwaysFails_failAhead _).noNatural c''
      · exact hrest _ _ c''
    · refine noNatural_bind c' fun _ c'' => ?_
      refine noNatural_bind c'' fun onto c'' => ?_
      split
      · exact noNatural_bind c'' fun dropped c'' => hrest _ _ c''
      · exact hrest _ _ c''

end NoNatural

/-! ## Whole parts -/

section Whole

variable {w : Digits} {tail : List Char}

/-- Behind the first digit of a whole part. -/
theorem number_of_digit (minus : Bool) {first : Fin 10} (hfirst : first ≠ 0) (input : List Char)
    (read : List UInt8) :
    ∃ read', number minus ⟨read, utf8 (digitChar first :: input)⟩ = (do
      let (value, _, clipped) ← digitsOnto wordLimit ((utf8 input).length + 1) first.val 0
      if clipped then
        let dropped ← skipDigits
        numberRest minus value (some dropped)
      else numberRest minus value none : Reader Number) ⟨read', utf8 input⟩ := by
  obtain ⟨read', hread'⟩ := yields_take (isAscii_digitChar first) input read
  obtain ⟨d, hd⟩ := Nat.exists_eq_succ_of_ne_zero fun h => hfirst (Fin.ext h)
  refine ⟨read', ?_⟩
  rw [number, bind_of_ok hread']
  dsimp only
  rw [digit?_digitChar, hd]
  rfl

theorem length_digits_lt (ds : List (Fin 10)) (tail : List Char) :
    ds.length < (utf8 (ds.map digitChar ++ tail)).length + 1 := by
  have hle := length_le_length_utf8 (ds.map digitChar ++ tail)
  rw [List.length_append, List.length_map] at hle
  omega

/-- A whole part that fits is followed by the rest of the number. -/
theorem number_of_fits (minus : Bool) (hzero : w.more ≠ [] → w.first ≠ 0)
    (hfits : w.value < wordLimit) (htail : EndsDigits tail) (read : List UInt8) :
    ∃ read', number minus ⟨read, utf8 (w.chars ++ tail)⟩ =
      numberRest minus w.value none ⟨read', utf8 tail⟩ := by
  obtain ⟨first, more⟩ := w
  change ∃ read', number minus ⟨read, utf8 (digitChar first :: (more.map digitChar ++ tail))⟩ = _
  -- A zero has a branch of its own, which looks at the byte behind it before it goes on.
  by_cases hfirst : first = 0
  · obtain rfl : more = [] := Classical.byContradiction fun hmore => hzero hmore hfirst
    subst hfirst
    obtain ⟨hpeek, hend⟩ := htail.peek
    obtain ⟨read', hread'⟩ := yields_take (isAscii_digitChar 0) tail read
    obtain ⟨read'', hread''⟩ := hpeek read'
    refine ⟨read'', ?_⟩
    change number minus ⟨read, utf8 (digitChar 0 :: tail)⟩ = _
    rw [number, bind_of_ok hread']
    dsimp only
    rw [digit?_digitChar]
    change (peek >>= _ : Reader Number) _ = _
    rw [bind_of_ok hread'', hend]
    rfl
  · have honto : Yields
        (digitsOnto wordLimit ((utf8 (more.map digitChar ++ tail)).length + 1) first.val 0)
        (more.map digitChar ++ tail) (some (goOn first.val more, 0 + more.length, false)) tail :=
      yields_digitsOnto htail more (length_digits_lt more tail) hfits
    obtain ⟨read', hread'⟩ := number_of_digit minus hfirst (more.map digitChar ++ tail) read
    obtain ⟨read'', hread''⟩ := honto read'
    refine ⟨read'', ?_⟩
    rw [hread', bind_of_ok hread'']
    rfl

/-- A whole part that does not fit loses digits. -/
theorem noNatural_of_not_fits (minus : Bool) (hzero : w.more ≠ [] → w.first ≠ 0)
    (hfits : ¬ w.value < wordLimit) (read : List UInt8) :
    NoNatural (number minus) ⟨read, utf8 (w.chars ++ tail)⟩ := by
  obtain ⟨first, more⟩ := w
  have hsmall : first.val < wordLimit := Nat.lt_of_lt_of_le first.isLt (by decide)
  have hfirst : first ≠ 0 := by
    rintro rfl
    have hmore : more ≠ [] := by
      rintro rfl
      exact hfits hsmall
    exact hzero hmore rfl
  obtain ⟨clipped, count, left, honto⟩ := yields_digitsOnto_clipped 0 more
    (length_digits_lt more tail) hsmall (Nat.not_lt.mp hfits)
  obtain ⟨read', hread'⟩ := number_of_digit minus hfirst (more.map digitChar ++ tail) read
  change NoNatural (number minus)
    ⟨read, utf8 (digitChar first :: (more.map digitChar ++ tail))⟩
  unfold NoNatural
  rw [hread']
  refine honto.noNatural (fun read'' => ?_) read'
  exact noNatural_bind _ fun dropped c => noNatural_numberRest (.inr rfl) _ c

end Whole

/-! ## Numerals -/

section Numerals

variable {rest : List Char} (hrest : Closes rest)

include hrest in
theorem yields_numberRest (significand : Nat) :
    Yields (numberRest false significand none) rest (some (.natural significand)) rest := by
  refine hrest.endsDigits.peek.1.then ?_
  simp only [beq_iff_eq, hrest.unmarked.1, hrest.unmarked.2, if_false]
  exact yields_pure _ _

/-- What begins a fraction or an exponent. -/
def marks : List Char := ['.', 'e', 'E']

theorem endsDigits_mark {c : Char} (hc : c ∈ marks) (tail : List Char) :
    EndsDigits (c :: tail) := by
  have hall : ∀ c ∈ marks, IsAscii c ∧ digit? (some (code c)) = none :=
    forall_mem_of_all (by decide)
  intro c' hc'
  obtain rfl : c = c' := by simpa using hc'
  exact hall c hc

/-- A number with a fraction or an exponent is not natural. -/
theorem noNatural_mark {c : Char} (hc : c ∈ marks) (significand : Nat) (tail : List Char)
    (read : List UInt8) :
    NoNatural (numberRest false significand none) ⟨read, utf8 (c :: tail)⟩ := by
  have hascii : IsAscii c := (endsDigits_mark hc tail c (by simp)).1
  refine (yields_peek hascii tail).noNatural (fun read' => ?_) read
  simp only [marks, List.mem_cons, List.not_mem_nil, or_false] at hc
  rcases hc with rfl | rfl | rfl
  · exact noNatural_double _ _ _
  · exact noNatural_double _ _ _
  · exact noNatural_double _ _ _

namespace Numeral

/-- What follows the whole part. -/
def tail (n : Numeral) (rest : List Char) : List Char :=
  n.fraction.elim [] (fun ds => '.' :: ds.chars) ++ (n.exponent.elim [] Exponent.chars ++ rest)

theorem chars_append (n : Numeral) (rest : List Char) :
    n.chars ++ rest = (if n.minus then ['-'] else []) ++ (n.whole.chars ++ n.tail rest) := by
  simp [chars, tail]

/-- The whole part is followed by what begins a fraction or an exponent, or the number is at its
end. -/
theorem tail_cases (n : Numeral) (rest : List Char) :
    (∃ c more, c ∈ marks ∧ n.tail rest = c :: more) ∨ (n.fraction = none ∧ n.exponent = none) := by
  obtain ⟨_, _, _, fraction, exponent⟩ := n
  cases fraction with
  | some ds => exact .inl ⟨'.', _, by decide, rfl⟩
  | none =>
    cases exponent with
    | none => exact .inr ⟨rfl, rfl⟩
    | some e =>
      refine .inl ⟨if e.capital then 'E' else 'e', _, ?_, rfl⟩
      split <;> decide

theorem tail_of_end {n : Numeral} (hfraction : n.fraction = none) (hexponent : n.exponent = none)
    (rest : List Char) : n.tail rest = rest := by
  simp [tail, hfraction, hexponent]

include hrest in
theorem endsDigits_tail (n : Numeral) : EndsDigits (n.tail rest) := by
  rcases n.tail_cases rest with ⟨c, more, hc, htail⟩ | ⟨hfraction, hexponent⟩
  · rw [htail]
    exact endsDigits_mark hc more
  · rw [tail_of_end hfraction hexponent]
    exact hrest.endsDigits

end Numeral

include hrest in
theorem noNatural_number {n : Numeral} (hplus : n.minus = false) (hnone : n.natural? = none)
    (read : List UInt8) :
    NoNatural (number false) ⟨read, utf8 (n.whole.chars ++ n.tail rest)⟩ := by
  by_cases hfits : n.whole.value < wordLimit
  · obtain ⟨read', hread'⟩ :=
      number_of_fits false n.first_ne_zero hfits (n.endsDigits_tail hrest) read
    rcases n.tail_cases rest with ⟨c, more, hc, htail⟩ | ⟨hfraction, hexponent⟩
    · unfold NoNatural
      rw [hread', htail]
      exact noNatural_mark hc _ more read'
    · rw [Numeral.natural?, if_pos ⟨hplus, hfraction, hexponent, hfits⟩] at hnone
      contradiction
  · exact noNatural_of_not_fits false n.first_ne_zero hfits read

include hrest in
theorem yields_number {n : Numeral} {value : Nat} (hvalue : n.natural? = some value) :
    Yields (number false) (n.whole.chars ++ n.tail rest) (some (.natural value)) rest := by
  rw [Numeral.natural?] at hvalue
  split at hvalue
  · rename_i hnatural
    obtain ⟨-, hfraction, hexponent, hfits⟩ := hnatural
    obtain rfl : n.whole.value = value := Option.some.inj hvalue
    intro read
    obtain ⟨read', hread'⟩ :=
      number_of_fits false n.first_ne_zero hfits (n.endsDigits_tail hrest) read
    rw [hread', Numeral.tail_of_end hfraction hexponent]
    exact yields_numberRest hrest n.whole.value read'
  · contradiction

/-- Where a number is due, one that is not natural is refused. -/
theorem yields_natural_none {wanted : String} {minus : Bool} {input : List Char}
    (hnumber : ∀ read, NoNatural (number minus) ⟨read, utf8 input⟩) :
    Yields (do
      match ← number minus with
      | .natural n => return n
      | .negative n => failHere (.wrongValue (Number.negative n).phrase wanted)
      | .double x minus => failHere (.wrongType (Number.double x minus).phrase wanted))
      input none rest := by
  intro read
  cases hresult : number minus ⟨read, utf8 input⟩ with
  | error fault => exact ⟨fault, bind_of_error hresult⟩
  | ok result =>
    obtain ⟨x, c⟩ := result
    rw [bind_of_ok hresult]
    cases x with
    | natural n => exact absurd hresult (hnumber read n c)
    | negative n => exact ⟨_, rfl⟩
    | double x minus => exact ⟨_, rfl⟩

theorem startsWith_digit (d : Fin 10) (tail : List Char) :
    StartsWith (digitChar d) (digitChar d :: tail) := by
  have hsolid : isBlank (code (digitChar d)) = false := by
    revert d
    decide
  exact ⟨rfl, isAscii_digitChar d, hsolid⟩

include hrest in
/-- A number is read as the natural number it is, if it is one. -/
theorem yields_natural (wanted : String) (bs : List Blank) (n : Numeral) :
    Yields (natural wanted) (bs.map Blank.char ++ (n.chars ++ rest)) n.natural? rest := by
  rw [Numeral.chars_append]
  cases hminus : n.minus with
  | true =>
    have hstart : StartsWith '-' ('-' :: (n.whole.chars ++ n.tail rest)) :=
      ⟨rfl, by decide, by decide⟩
    have hnone : n.natural? = none := by simp [Numeral.natural?, hminus]
    rw [hnone]
    refine (yields_peekValue bs hstart).then ((yields_skip (by decide) _).then ?_)
    exact yields_natural_none fun read => noNatural_number_minus _
  | false =>
    have hstart : StartsWith (digitChar n.whole.first) (n.whole.chars ++ n.tail rest) :=
      startsWith_digit n.whole.first _
    have hbyte (d : Fin 10) : (code (digitChar d) == code '-') = false ∧
        isDigit (code (digitChar d)) = true := by
      revert d
      decide
    refine (yields_peekValue bs hstart).then ?_
    simp only [hbyte, Bool.false_or, if_true]
    cases hvalue : n.natural? with
    | none => exact yields_natural_none (noNatural_number hrest hminus hvalue)
    | some value => exact (yields_number hrest hvalue).then (yields_pure _ _)

end Numerals

end MarkerInjection.Json
