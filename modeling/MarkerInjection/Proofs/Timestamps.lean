-- Instants are read back from their texts. A text is read as date and time (RFC
-- 3339), with a sign for the years beyond 0 to 9999 and second 60 for a leap second,
-- and the instant is counted from the parts of it. A leap second within a minute is
-- not on the calendar: its text shows the second behind it.
import MarkerInjection.Proofs.Calendar
import MarkerInjection.Proofs.Scanners

namespace MarkerInjection

/-! ## Readings -/

/-- Date and time as they are written. -/
structure Reading where
  date : Date
  hour : Nat
  minute : Nat
  second : Nat
  /-- The fraction of the second. -/
  nanos : Nat
  /-- How far the time is ahead of the one at no offset, in seconds. -/
  offset : Int

namespace Reading

/-- The day is one of the calendar, and the time one of the clock. -/
def Valid (r : Reading) : Prop :=
  r.date.Valid ∧ r.hour < 24 ∧ r.minute < 60 ∧ r.second ≤ 60

instance (r : Reading) : Decidable r.Valid := inferInstanceAs (Decidable (_ ∧ _))

/-- The instant that is meant, if it is one. Second 60 is the leap second behind second 59. -/
def instant? (r : Reading) : Option Instant :=
  if r.Valid then
    let minutes := (r.date.dayNumber * 24 + r.hour) * 60 + r.minute
    if r.second = 60 then Instant.ofUnix? (minutes * 60 + 59 - r.offset) (1000000000 + r.nanos)
    else Instant.ofUnix? (minutes * 60 + r.second - r.offset) r.nanos
  else none

end Reading

namespace Instant

/-! ## The reader -/

/-- Takes the digits of a year with a sign: four or more. -/
def longYear : Scanner Nat := do
  let (year, count) ← Scanner.allDigits
  if 4 ≤ count then return year else failure

/-- Takes a year. Without a sign it has four digits. -/
def year : Scanner Int := do
  if ← Scanner.char? '-' then return -(← longYear : Nat)
  else if ← Scanner.char? '+' then return (← longYear : Nat)
  else return (← Scanner.digits 10 4 : Nat)

/-- Takes a point and digits, if there is a point: the nanoseconds. -/
def fraction : Scanner Nat := do
  if ← Scanner.char? '.' then
    let (n, count) ← Scanner.allDigits
    if 1 ≤ count then return n * 1000000000 / 10 ^ count else failure
  else return 0

/-- Takes an offset, or the letter for none. -/
def offset : Scanner Int := do
  if ← Scanner.char? 'Z' then return 0
  else
    let behind ← Scanner.char? '-'
    if !behind then Scanner.char '+'
    let hour ← Scanner.digits 10 2
    Scanner.char ':'
    let minute ← Scanner.digits 10 2
    let seconds : Int := (hour * 60 + minute) * 60
    if hour < 24 ∧ minute < 60 then return if behind then -seconds else seconds else failure

/-- Takes date and time, behind which nothing may follow. -/
def scan : Scanner Reading := do
  let year ← year
  Scanner.char '-'
  let month ← Scanner.digits 10 2
  Scanner.char '-'
  let day ← Scanner.digits 10 2
  Scanner.char 'T'
  let hour ← Scanner.digits 10 2
  Scanner.char ':'
  let minute ← Scanner.digits 10 2
  Scanner.char ':'
  let second ← Scanner.digits 10 2
  let nanos ← fraction
  let offset ← offset
  Scanner.done
  return ⟨⟨year, month, day⟩, hour, minute, second, nanos, offset⟩

/-- The instant that the text stands for. -/
def ofText? (text : String) : Option Instant :=
  (scan.run' text.toList).bind Reading.instant?

/-! ## The parts of a text -/

theorem digits_decimalDigits {count n : Nat} (hn : n < 10 ^ count) (rest : List Char) :
    Scanner.digits 10 count (decimalDigits count n ++ rest) = some (n, rest) := by
  unfold decimalDigits
  rw [Scanner.digits_lastDigits rest (by omega) (by omega), Nat.mod_eq_of_lt hn]

theorem allDigits_decimalDigits {count n : Nat} (hn : n < 10 ^ count) {rest : List Char}
    (hrest : ∀ c ∈ rest.head?, ¬ c.isDigit = true) :
    Scanner.allDigits (decimalDigits count n ++ rest) = some ((n, count), rest) := by
  have hvalue : Text.digitsValue? 10 (Text.lastDigits 10 count n) = some n := by
    rw [Text.digitsValue?_lastDigits (by omega) (by omega), Nat.mod_eq_of_lt hn]
  unfold decimalDigits
  rw [Scanner.allDigits_append rest (fun _ => Text.isDigit_of_mem_lastDigits) hvalue hrest,
    Text.length_lastDigits]

/-- Four digits or more, with zeros before a small year. -/
def paddedDigits (n : Nat) : List Char := (Nat.toDigits 10 n).leftpad 4 '0'

theorem isDigit_of_mem_paddedDigits {n : Nat} {c : Char} (hc : c ∈ paddedDigits n) :
    c.isDigit = true := by
  unfold paddedDigits List.leftpad at hc
  rw [List.mem_append] at hc
  rcases hc with hc | hc
  · rw [List.eq_of_mem_replicate hc]
    rfl
  · exact Nat.isDigit_of_mem_toDigits (by omega) (by omega) hc

theorem digitsValue?_paddedDigits (n : Nat) : Text.digitsValue? 10 (paddedDigits n) = some n := by
  unfold paddedDigits
  rw [Text.digitsValue?_leftpad (by omega), Text.digitsValue?_toDigits]

theorem length_paddedDigits (n : Nat) :
    4 ≤ (paddedDigits n).length ∧ (n < 10000 → (paddedDigits n).length = 4) := by
  unfold paddedDigits
  rw [List.length_leftpad]
  have hiff : (Nat.toDigits 10 n).length ≤ 4 ↔ n < 10 ^ 4 :=
    Nat.length_toDigits_le_iff (by omega) (by omega)
  omega

/-- Digits start with no mark. -/
theorem head?_ne_of_isDigit {ds rest : List Char} (hds : ds ≠ [])
    (hdigits : ∀ c ∈ ds, c.isDigit = true) {c : Char} (hc : c.isDigit = false) :
    (ds ++ rest).head? ≠ some c := by
  obtain ⟨d, ds, rfl⟩ := List.exists_cons_of_ne_nil hds
  have hd := hdigits d (by simp)
  rw [List.cons_append, List.head?_cons]
  rintro ⟨rfl⟩
  simp [hd] at hc

theorem longYear_paddedDigits (n : Nat) (rest : List Char) :
    longYear (paddedDigits n ++ '-' :: rest) = some (n, '-' :: rest) := by
  have hdigits : Scanner.allDigits (paddedDigits n ++ '-' :: rest) = some (_, '-' :: rest) :=
    Scanner.allDigits_append _ (fun _ => isDigit_of_mem_paddedDigits) (digitsValue?_paddedDigits n)
      (by simp [Char.isDigit])
  unfold longYear
  rw [Scanner.bind_of_some hdigits]
  dsimp only
  rw [if_pos (length_paddedDigits n).1]
  rfl

/-- A year without a sign. -/
theorem year_paddedDigits {n : Nat} (hn : n < 10000) (rest : List Char) :
    year (paddedDigits n ++ rest) = some ((n : Int), rest) := by
  obtain ⟨hleast, hshort⟩ := length_paddedDigits n
  have hnil : paddedDigits n ≠ [] := by
    intro hnil
    simp [hnil] at hleast
  have hmark {c : Char} (hc : c.isDigit = false) :
      Scanner.char? c (paddedDigits n ++ rest) = some (false, paddedDigits n ++ rest) :=
    Scanner.char?_of_ne (head?_ne_of_isDigit hnil (fun _ => isDigit_of_mem_paddedDigits) hc)
  have hdigits := Scanner.digits_append rest (hshort hn) (digitsValue?_paddedDigits n)
  unfold year
  rw [Scanner.bind_of_some (hmark (by decide)), if_neg (by decide),
    Scanner.bind_of_some (hmark (by decide)), if_neg (by decide), Scanner.bind_of_some hdigits]
  rfl

theorem yearDigits_eq (y : Int) :
    yearDigits y = if y < 0 then '-' :: paddedDigits y.natAbs
      else if y ≤ 9999 then paddedDigits y.natAbs else '+' :: paddedDigits y.natAbs :=
  rfl

theorem year_yearDigits (y : Int) (rest : List Char) :
    year (yearDigits y ++ '-' :: rest) = some (y, '-' :: rest) := by
  have hlong := longYear_paddedDigits y.natAbs rest
  rw [yearDigits_eq]
  -- A sign goes before the digits of a year before year 0 and of one behind 9999.
  by_cases hbefore : y < 0
  · have hyear : -(y.natAbs : Int) = y := by omega
    unfold year
    rw [if_pos hbefore, List.cons_append, Scanner.bind_of_some (Scanner.char?_cons _ _),
      if_pos rfl, Scanner.bind_of_some hlong, hyear]
    rfl
  have hyear : (y.natAbs : Int) = y := by omega
  rw [if_neg hbefore]
  by_cases hlarge : y ≤ 9999
  · rw [if_pos hlarge, year_paddedDigits (by omega), hyear]
  · have hplus : Scanner.char? '-' ('+' :: (paddedDigits y.natAbs ++ '-' :: rest)) =
        some (false, _) :=
      Scanner.char?_of_ne (by simp)
    unfold year
    rw [if_neg hlarge, List.cons_append, Scanner.bind_of_some hplus, if_neg (by decide),
      Scanner.bind_of_some (Scanner.char?_cons _ _), if_pos rfl, Scanner.bind_of_some hlong, hyear]
    rfl

/-- A fraction of so many digits that are exact. -/
theorem fraction_digits {count scale nanos : Nat} (hcount : 1 ≤ count)
    (hscale : scale * 10 ^ count = 1000000000) (hexact : nanos % scale = 0)
    (hnanos : nanos < 1000000000) (rest : List Char) :
    fraction ('.' :: (decimalDigits count (nanos / scale) ++ 'Z' :: rest)) =
      some (nanos, 'Z' :: rest) := by
  have hpos : 0 < 10 ^ count := Nat.pow_pos (by omega)
  have hscaled : nanos / scale * scale = nanos := by
    rw [Nat.div_mul_cancel (Nat.dvd_of_mod_eq_zero hexact)]
  have hscalePos : 0 < scale := by
    rcases Nat.eq_zero_or_pos scale with rfl | hpos
    · omega
    · exact hpos
  have hlt : nanos / scale < 10 ^ count := by
    rw [Nat.div_lt_iff_lt_mul hscalePos, Nat.mul_comm, hscale]
    exact hnanos
  have hmark : ∀ c ∈ ('Z' :: rest).head?, ¬ c.isDigit = true := by simp [Char.isDigit]
  have hdigits := allDigits_decimalDigits hlt hmark
  unfold fraction
  rw [Scanner.bind_of_some (Scanner.char?_cons _ _), if_pos rfl, Scanner.bind_of_some hdigits]
  dsimp only
  rw [if_pos hcount, ← hscale, ← Nat.mul_assoc, hscaled, Nat.mul_div_cancel _ hpos]
  rfl

theorem fraction_fractionDigits {nanos : Nat} (hnanos : nanos < 1000000000) (rest : List Char) :
    fraction (fractionDigits nanos ++ 'Z' :: rest) = some (nanos, 'Z' :: rest) := by
  unfold fractionDigits
  by_cases hwhole : nanos = 0
  · have hpoint : Scanner.char? '.' ('Z' :: rest) = some (false, 'Z' :: rest) :=
      Scanner.char?_of_ne (by simp)
    rw [if_pos hwhole, List.nil_append, hwhole]
    unfold fraction
    rw [Scanner.bind_of_some hpoint]
    rfl
  rw [if_neg hwhole]
  by_cases hmilli : nanos % 1000000 = 0
  · rw [if_pos hmilli]
    exact fraction_digits (by omega) rfl hmilli hnanos rest
  rw [if_neg hmilli]
  by_cases hmicro : nanos % 1000 = 0
  · rw [if_pos hmicro]
    exact fraction_digits (by omega) rfl hmicro hnanos rest
  · have hnine : 1 * 10 ^ 9 = 1000000000 := rfl
    have hnano := fraction_digits (by omega) hnine (Nat.mod_one nanos) hnanos rest
    rw [Nat.div_one] at hnano
    rw [if_neg hmicro]
    exact hnano

/-! ## Whole texts -/

/-- The parts of the text of an instant. -/
def reading (i : Instant) : Reading :=
  let second := (i.seconds % 86400).toNat
  let leap := if i.nanos < 1000000000 then 0 else 1
  ⟨Date.ofDayNumber (i.seconds / 86400), second / 3600, second / 60 % 60, second % 60 + leap,
    i.nanos % 1000000000, 0⟩

/-- A leap second stands where the calendar has it: behind the last second of a minute. -/
def Placed (i : Instant) : Prop := i.nanos < 1000000000 ∨ i.seconds % 60 = 59

instance (i : Instant) : Decidable i.Placed := inferInstanceAs (Decidable (_ ∨ _))

/-- The instant that the text shows. A leap second that the calendar does not have is the second
behind it. -/
def shown (i : Instant) : Instant :=
  if hplaced : i.Placed then i
  else
    have hlater : 1000000000 ≤ i.nanos ∧ i.seconds % 60 ≠ 59 := by
      unfold Placed at hplaced
      omega
    have hvalid := i.nanosValid
    -- The last second of the range is the last one of its minute, so another one follows here.
    have hrange : firstSecond ≤ i.seconds + 1 ∧ i.seconds + 1 ≤ lastSecond := by
      have hrange := i.inRange
      unfold firstSecond lastSecond at *
      omega
    ⟨i.seconds + 1, i.nanos - 1000000000, hrange, by omega⟩

theorem shown_of_placed {i : Instant} (hi : i.Placed) : i.shown = i := dif_pos hi

theorem shown_of_not_placed {i : Instant} (hi : ¬ i.Placed) :
    i.shown.seconds = i.seconds + 1 ∧ i.shown.nanos = i.nanos - 1000000000 := by
  unfold shown
  rw [dif_neg hi]
  exact ⟨rfl, rfl⟩

theorem shown_eq_self_iff (i : Instant) : i.shown = i ↔ i.Placed := by
  constructor
  · intro hsame
    by_contra hi
    have hseconds := (shown_of_not_placed hi).1
    rw [hsame] at hseconds
    omega
  · exact shown_of_placed

theorem placed_shown (i : Instant) : i.shown.Placed := by
  by_cases hi : i.Placed
  · rw [shown_of_placed hi]
    exact hi
  · have hvalid := i.nanosValid
    have hnanos := (shown_of_not_placed hi).2
    unfold Placed at hi ⊢
    omega

/-- As far from the start of 1970 as the instant itself. -/
theorem shown_count (i : Instant) :
    i.shown.seconds * 1000000000 + i.shown.nanos = i.seconds * 1000000000 + i.nanos := by
  by_cases hi : i.Placed
  · rw [shown_of_placed hi]
  · obtain ⟨hseconds, hnanos⟩ := shown_of_not_placed hi
    unfold Placed at hi
    omega

theorem ofUnix?_self {i : Instant} (hi : i.Placed) : ofUnix? i.seconds i.nanos = some i := by
  have hvalid := i.nanosValid
  unfold Placed at hi
  unfold ofUnix?
  rw [dif_pos i.inRange, dif_pos (by omega)]

theorem valid_reading (i : Instant) : i.reading.Valid := by
  obtain ⟨seconds, nanos, hrange, hnanos⟩ := i
  refine ⟨(Date.dayNumber_ofDayNumber _).1, ?_, ?_, ?_⟩
  · dsimp only [reading]
    omega
  · dsimp only [reading]
    omega
  · dsimp only [reading]
    split
    · omega
    · omega

/-- The parts of a text mean the instant that is shown. -/
theorem instant?_reading (i : Instant) : i.reading.instant? = some i.shown := by
  have hvalid := i.nanosValid
  have hminutes : (i.reading.date.dayNumber * 24 + i.reading.hour) * 60 + i.reading.minute =
      i.seconds / 60 := by
    dsimp only [reading]
    rw [(Date.dayNumber_ofDayNumber _).2]
    omega
  have hoffset : i.reading.offset = 0 := rfl
  unfold Reading.instant?
  rw [if_pos i.valid_reading, hminutes, hoffset, ← ofUnix?_self i.placed_shown]
  by_cases hleap : i.nanos < 1000000000
  · have hsecond : i.reading.second = i.seconds % 60 := by
      dsimp only [reading]
      rw [if_pos hleap]
      omega
    have hfraction : i.reading.nanos = i.nanos := Nat.mod_eq_of_lt hleap
    rw [if_neg (by omega), hsecond, hfraction, shown_of_placed (.inl hleap)]
    congr 1
    omega
  have hsecond : (i.reading.second : Int) = i.seconds % 60 + 1 := by
    dsimp only [reading]
    rw [if_neg hleap]
    omega
  have hfraction : i.reading.nanos = i.nanos - 1000000000 := by
    dsimp only [reading]
    omega
  by_cases hlast : i.seconds % 60 = 59
  · have hsum : 1000000000 + (i.nanos - 1000000000) = i.nanos := by omega
    have hminute : i.seconds / 60 * 60 + 59 - 0 = i.seconds := by omega
    rw [if_pos (by omega), hfraction, shown_of_placed (.inr hlast), hsum, hminute]
  · have hplaced : ¬ i.Placed := by
      unfold Placed
      omega
    obtain ⟨hseconds, hnanos⟩ := shown_of_not_placed hplaced
    rw [if_neg (by omega), hsecond, hfraction, hseconds, hnanos]
    congr 1
    omega

theorem reading_shown (i : Instant) : i.shown.reading = i.reading := by
  by_cases hi : i.Placed
  · rw [shown_of_placed hi]
  have hvalid := i.nanosValid
  obtain ⟨hseconds, hnanos⟩ := shown_of_not_placed hi
  unfold Placed at hi
  have hday : (i.seconds + 1) / 86400 = i.seconds / 86400 := by omega
  have hnext : ((i.seconds + 1) % 86400).toNat = (i.seconds % 86400).toNat + 1 := by omega
  have hhour : ((i.seconds % 86400).toNat + 1) / 3600 = (i.seconds % 86400).toNat / 3600 := by omega
  have hminute : ((i.seconds % 86400).toNat + 1) / 60 = (i.seconds % 86400).toNat / 60 := by omega
  have hsecond : ((i.seconds % 86400).toNat + 1) % 60 = (i.seconds % 86400).toNat % 60 + 1 := by
    omega
  have hfraction : (i.nanos - 1000000000) % 1000000000 = i.nanos % 1000000000 := by omega
  dsimp only [reading]
  rw [hseconds, hnanos, hday, hnext, hhour, hminute, hsecond, hfraction, if_pos (by omega),
    if_neg (by omega)]

/-- The text is written from its parts. -/
theorem text_eq (i : Instant) :
    i.text.toList = yearDigits i.reading.date.year ++ '-' ::
      (decimalDigits 2 i.reading.date.month ++ '-' :: (decimalDigits 2 i.reading.date.day ++ 'T' ::
        (decimalDigits 2 i.reading.hour ++ ':' :: (decimalDigits 2 i.reading.minute ++ ':' ::
          (decimalDigits 2 i.reading.second ++ (fractionDigits i.reading.nanos ++ ['Z'])))))) := by
  simp [text, reading]

theorem text_shown (i : Instant) : i.shown.text = i.text := by
  rw [← String.toList_inj, text_eq, text_eq, reading_shown]

theorem scan_text (i : Instant) : scan i.text.toList = some (i.reading, []) := by
  obtain ⟨hdate, hhour, hminute, hsecond⟩ := i.valid_reading
  obtain ⟨hmonth, hday⟩ := hdate.bounds
  have hnanos : i.reading.nanos < 1000000000 := Nat.mod_lt _ (by omega)
  have hdigits {n : Nat} (hn : n < 10 ^ 2) (rest : List Char) :
      Scanner.digits 10 2 (decimalDigits 2 n ++ rest) = some (n, rest) :=
    digits_decimalDigits hn rest
  have hoffset : offset ['Z'] = some (0, []) := rfl
  rw [text_eq]
  unfold scan
  rw [Scanner.bind_of_some (year_yearDigits _ _), Scanner.bind_of_some (Scanner.char_cons _ _),
    Scanner.bind_of_some (hdigits (by omega) _), Scanner.bind_of_some (Scanner.char_cons _ _),
    Scanner.bind_of_some (hdigits (by omega) _), Scanner.bind_of_some (Scanner.char_cons _ _),
    Scanner.bind_of_some (hdigits (by omega) _), Scanner.bind_of_some (Scanner.char_cons _ _),
    Scanner.bind_of_some (hdigits (by omega) _), Scanner.bind_of_some (Scanner.char_cons _ _),
    Scanner.bind_of_some (hdigits (by omega) _),
    Scanner.bind_of_some (fraction_fractionDigits hnanos []), Scanner.bind_of_some hoffset]
  rfl

/-- The instant that is shown is read back from the text, to the nanosecond. -/
theorem ofText?_text (i : Instant) : ofText? i.text = some i.shown := by
  unfold ofText?
  change ((scan i.text.toList).map (·.1)).bind _ = _
  rw [scan_text]
  exact instant?_reading i

example : ofText? "1990-12-31T23:59:60Z" = ofUnix? 662687999 1000000000 := by decide

end Instant

end MarkerInjection
