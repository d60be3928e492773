-- Steps on a class of source text: injections, members that are pushed, and visits.
import MarkerInjection.Source.Expansion

namespace MarkerInjection.Source

/-- A step on a class. Members and arguments are given as tokens. -/
inductive ClassStep
  | inject (feature : Feature)
  | push (member : List Token)
  | visit (config : Config) (tagName : String) (arguments : List Token)

/-- What comes of a step. -/
inductive ClassResult
  | injected (result : Except String Unit)
  | pushed
  /-- The tokens could not be read, and the class is as it was. -/
  | refused (error : SyntaxError)
  | visited (result : Except Failure Outcome) (records : List Diagnostic)

/-- Takes a step on a class, in the unit of the given name. -/
def Class.step (unitName : String) (c : Class) : ClassStep → Class × ClassResult
  | .inject feature =>
    let (c, result) := feature.change c
    (c, .injected result)
  | .push member =>
    match readImplMember member with
    | .ok printed => (c.push printed, .pushed)
    | .error e => (c, .refused e)
  | .visit config tagName arguments =>
    match Tag.read tagName arguments with
    | .ok tag =>
      let (c, records, result) := visitClass config unitName tag c
      (c, .visited result records)
    | .error e => (c, .refused e)

end MarkerInjection.Source
