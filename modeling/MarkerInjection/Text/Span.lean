-- Spans: a set of code points written as a list of runs, each with a step.
-- The character tables of the library are such lists.

namespace MarkerInjection.Text

/-! ## Runs of code points -/

/-- The code points from `first` to `last` in steps of `step`. -/
structure Span where
  first : Nat
  last : Nat
  step : Nat
  deriving Repr, DecidableEq

/-- The run holds the code point `n`. -/
def Span.holds (s : Span) (n : Nat) : Bool :=
  s.first ≤ n && n ≤ s.last && (n - s.first) % s.step == 0

/-- One of the runs holds the code point of `c`. -/
def inSpans (spans : List Span) (c : Char) : Bool :=
  spans.any fun s => s.holds c.toNat

end MarkerInjection.Text
