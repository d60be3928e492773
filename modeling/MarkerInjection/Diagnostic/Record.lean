-- Diagnostics: the record of an injector that failed, and its text.
import MarkerInjection.ArtefactType
import MarkerInjection.Text.Json
import MarkerInjection.Diagnostic.RunId
import MarkerInjection.Diagnostic.Instant

namespace MarkerInjection

/-- The record of an injector that failed. -/
structure Diagnostic where
  runId : RunId
  time : Instant
  unitName : String
  className : String
  type : ArtefactType
  injector : String
  /-- The position of the injector among those that apply. -/
  index : Nat
  message : String
  /-- All messages of the cause. -/
  cause : String
  deriving Repr, DecidableEq

namespace Diagnostic

/-- The fields with their texts as JSON values, in the order in which they are written. -/
def fields (d : Diagnostic) : List (String × String) :=
  [("run_id", Text.jsonString d.runId.text), ("timestamp", Text.jsonString d.time.text),
    ("unit", Text.jsonString d.unitName), ("class", Text.jsonString d.className),
    ("artefact_type", Text.jsonString d.type.name), ("injector", Text.jsonString d.injector),
    ("index", toString d.index), ("message", Text.jsonString d.message),
    ("cause", Text.jsonString d.cause)]

/-- The diagnostic as one JSON object. -/
def json (d : Diagnostic) : String :=
  "\x7b" ++ ",".intercalate (d.fields.map fun (name, value) =>
    Text.jsonString name ++ ":" ++ value) ++ "\x7d"

end Diagnostic

end MarkerInjection
