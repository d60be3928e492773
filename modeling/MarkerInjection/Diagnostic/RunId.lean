-- Run ids: numbers of 128 bits, written in five groups of digits.
import MarkerInjection.Text.Digits

namespace MarkerInjection

/-- The id of a run. -/
structure RunId where
  value : BitVec 128
  deriving Repr, DecidableEq

namespace RunId

/-- Thirty-two hexadecimal digits in groups of 8, 4, 4, 4 and 12, with hyphens between. -/
def text (id : RunId) : String :=
  let n := id.value.toNat
  let group := fun (count shift : Nat) => Text.lastDigits 16 count (n >>> shift)
  String.ofList (group 8 96 ++ ['-'] ++ group 4 80 ++ ['-'] ++ group 4 64 ++ ['-'] ++
    group 4 48 ++ ['-'] ++ group 12 0)

end RunId

end MarkerInjection
