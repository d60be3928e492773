-- Lists with separators, which know whether a separator ends them.
import MarkerInjection.Source.Token

namespace MarkerInjection.Source

/-- A list with separators: its members, and whether a separator stands after the last one. -/
structure Punctuated (α : Type) where
  members : List α
  trailing : Bool
  deriving Repr, DecidableEq, Inhabited

namespace Punctuated

variable {α : Type}

/-- Each member with whether a separator follows it: one does after all but the last, and
after the last one if the list ends in one. -/
def pairs (p : Punctuated α) : List (α × Bool) :=
  match p.members.reverse with
  | [] => []
  | last :: rest => rest.reverse.map (·, true) ++ [(last, p.trailing)]

/-- The list with these members, given with the separators after them. -/
def ofPairs (found : List (α × Bool)) : Punctuated α :=
  ⟨found.map (·.1), (found.getLast?.map (·.2)).getD false⟩

/-- One member printed, and the separator after it. -/
def printPair (separator : String) (form : α → List Token) (pair : α × Bool) : List Token :=
  form pair.1 ++ if pair.2 then sign separator else []

/-- The members in order, with the separators after them. -/
def print (p : Punctuated α) (separator : String) (form : α → List Token) : List Token :=
  p.pairs.flatMap (printPair separator form)

/-- One more member at the end. No separator comes after it. -/
def push (p : Punctuated α) (x : α) : Punctuated α := ⟨p.members ++ [x], false⟩

end Punctuated

end MarkerInjection.Source
