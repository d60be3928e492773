-- Numbers written with a fixed number of digits.

namespace MarkerInjection.Text

/-- The last digits of a number in a base of at most sixteen, so many as asked for. Zeros lead a
number that has fewer, and letters are small. -/
def lastDigits (base : Nat) : Nat → Nat → List Char
  | 0, _ => []
  | count + 1, n => lastDigits base count (n / base) ++ [Nat.digitChar (n % base)]

end MarkerInjection.Text
