-- Instants: seconds since the start of 1970 with nanoseconds, leap seconds
-- among them, and how an instant is written as date and time.
import MarkerInjection.Text.Digits

namespace MarkerInjection

/-! ## The calendar -/

/-- A day of the calendar. The year before year 1 is year 0. -/
structure Date where
  year : Int
  month : Nat
  day : Nat
  deriving Repr, DecidableEq

/-- The date so many days after the first of January 1970. Years are counted from March, so
that the leap day comes last, in cycles of 400 years, which all have 146097 days. -/
def Date.ofDayNumber (days : Int) : Date :=
  let shifted := days + 719468
  let cycle := shifted / 146097
  let dayOfCycle := (shifted % 146097).toNat
  let yearOfCycle :=
    (dayOfCycle - dayOfCycle / 1460 + dayOfCycle / 36524 - dayOfCycle / 146096) / 365
  let dayOfYear := dayOfCycle - (365 * yearOfCycle + yearOfCycle / 4 - yearOfCycle / 100)
  let marchMonth := (5 * dayOfYear + 2) / 153
  let day := dayOfYear - (153 * marchMonth + 2) / 5 + 1
  let month := if marchMonth < 10 then marchMonth + 3 else marchMonth - 9
  let year := (yearOfCycle : Int) + cycle * 400 + (if month ≤ 2 then 1 else 0)
  ⟨year, month, day⟩

/-! ## Instants -/

/-- The first second of the year -262143. -/
def firstSecond : Int := -8334601228800

/-- The last second of the year 262142. -/
def lastSecond : Int := 8210266876799

/-- An instant. The nanoseconds behind the first billion belong to a leap second. On the calendar
it stands behind the last second of a minute, but any second may hold one. -/
structure Instant where
  seconds : Int
  nanos : Nat
  inRange : firstSecond ≤ seconds ∧ seconds ≤ lastSecond
  nanosValid : nanos < 2000000000
  deriving Repr, DecidableEq

namespace Instant

/-- The instant with these seconds and nanoseconds, if there is one on the calendar: a leap second
is taken behind the last second of a minute only. -/
def ofUnix? (seconds : Int) (nanos : Nat) : Option Instant :=
  if hs : firstSecond ≤ seconds ∧ seconds ≤ lastSecond then
    if hn : nanos < 1000000000 ∨ (nanos < 2000000000 ∧ seconds % 60 = 59) then
      some ⟨seconds, nanos, hs, by omega⟩
    else none
  else none

/-- The start of 1970. -/
def epoch : Instant := ⟨0, 0, by decide, by decide⟩

/-! ## The text -/

/-- The last decimal digits of a number, so many as asked for. -/
def decimalDigits (count n : Nat) : List Char := Text.lastDigits 10 count n

/-- Four digits; a year that has more of them, or lies before year 0, has a sign. -/
def yearDigits (year : Int) : List Char :=
  let digits := (Nat.toDigits 10 year.natAbs).leftpad 4 '0'
  if year < 0 then '-' :: digits else if year ≤ 9999 then digits else '+' :: digits

/-- A point and three, six or nine digits, as few as are exact; nothing for a whole second. -/
def fractionDigits (nanos : Nat) : List Char :=
  if nanos = 0 then []
  else if nanos % 1000000 = 0 then '.' :: decimalDigits 3 (nanos / 1000000)
  else if nanos % 1000 = 0 then '.' :: decimalDigits 6 (nanos / 1000)
  else '.' :: decimalDigits 9 nanos

/-- Date and time of the instant, at no offset. A leap second counts as one more second: it is
second 60 behind the last second of a minute. -/
def text (i : Instant) : String :=
  let date := Date.ofDayNumber (i.seconds / 86400)
  let second := (i.seconds % 86400).toNat
  let leap := if i.nanos < 1000000000 then 0 else 1
  String.ofList (yearDigits date.year ++ ['-'] ++ decimalDigits 2 date.month ++ ['-'] ++
    decimalDigits 2 date.day ++ ['T'] ++ decimalDigits 2 (second / 3600) ++ [':'] ++
    decimalDigits 2 (second / 60 % 60) ++ [':'] ++ decimalDigits 2 (second % 60 + leap) ++
    fractionDigits (i.nanos % 1000000000) ++ ['Z'])

end Instant

end MarkerInjection
