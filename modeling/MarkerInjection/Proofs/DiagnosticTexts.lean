-- Diagnostics are read back from their texts. The text is a JSON text of one object,
-- written without blanks; decoded, it gives the nine members in their order, and
-- what they stand for is the diagnostic, at the instant that its text shows.
import MarkerInjection.Diagnostic.Record
import MarkerInjection.Proofs.JsonPrinting
import MarkerInjection.Proofs.RunIds
import MarkerInjection.Proofs.Timestamps

namespace MarkerInjection

open Json

namespace Diagnostic

/-! ## The object -/

/-- The fields with their values as they are written. -/
def writtenFields (d : Diagnostic) : List (String × Written) :=
  [("run_id", .string (.shortest d.runId.text)), ("timestamp", .string (.shortest d.time.text)),
    ("unit", .string (.shortest d.unitName)), ("class", .string (.shortest d.className)),
    ("artefact_type", .string (.shortest d.type.name)),
    ("injector", .string (.shortest d.injector)), ("index", .number (.of d.index)),
    ("message", .string (.shortest d.message)), ("cause", .string (.shortest d.cause))]

/-- The diagnostic as it is written. -/
def written (d : Diagnostic) : Spaced Written :=
  ⟨[], .object [] (d.writtenFields.map fun (name, v) => .of name v), []⟩

theorem fields_eq (d : Diagnostic) :
    d.fields = d.writtenFields.map fun (name, v) => (name, String.ofList v.chars) := by
  simp only [fields, writtenFields, List.map_cons, List.map_nil, chars_string_shortest,
    chars_number, String.ofList_toList]

theorem text_written (d : Diagnostic) : d.written.text = d.json := by
  have hmembers := membersChars_of true d.writtenFields
  have htexts : (d.fields.map fun f => memberText f.1 f.2).map String.toList =
      d.writtenFields.map fun (name, v) => (memberText name (.ofList v.chars)).toList := by
    rw [fields_eq, List.map_map, List.map_map]
    rfl
  unfold memberText at hmembers htexts
  unfold written Spaced.text Spaced.chars json
  rw [← String.toList_inj]
  simp only [Written.chars, hmembers, ← htexts]
  simp [String.toList_intercalate]

/-- The members of the object, in their order. -/
def members (d : Diagnostic) : List (String × Value) :=
  [("run_id", .string d.runId.text), ("timestamp", .string d.time.text),
    ("unit", .string d.unitName), ("class", .string d.className),
    ("artefact_type", .string d.type.name), ("injector", .string d.injector),
    ("index", .number ⟨d.index, 0⟩), ("message", .string d.message), ("cause", .string d.cause)]

theorem meaning?_written (d : Diagnostic) :
    d.written.value.meaning? = some (.object d.members) := by
  simp [written, writtenFields, members, Written.meaning?, membersMeaning?, Member.of,
    text?_shortest, decimal_of]

theorem decode_json (d : Diagnostic) : (decode d.json).toOption = some (.object d.members) := by
  rw [← text_written, decode_text, meaning?_written]

/-! ## The way back -/

/-- The names of the members. -/
def names : List String :=
  ["run_id", "timestamp", "unit", "class", "artefact_type", "injector", "index", "message", "cause"]

/-- The diagnostic that the values of the members stand for. -/
def ofValues? : List Value → Option Diagnostic
  | [.string runId, .string time, .string unitName, .string className, .string type,
      .string injector, .number index, .string message, .string cause] => do
    return ⟨← RunId.ofText? runId, ← Instant.ofText? time, unitName, className,
      ← ArtefactType.ofName? type, injector, ← index.natural?, message, cause⟩
  | _ => none

/-- The diagnostic that a value stands for: an object with these members in this order. -/
def ofValue? : Value → Option Diagnostic
  | .object ms => if ms.map Prod.fst = names then ofValues? (ms.map Prod.snd) else none
  | _ => none

/-- The diagnostic that a text stands for. -/
def ofJson? (text : String) : Option Diagnostic := (decode text).toOption.bind ofValue?

/-- The diagnostic at the instant that its text shows. -/
def shown (d : Diagnostic) : Diagnostic := { d with time := d.time.shown }

theorem ofValue?_members (d : Diagnostic) : ofValue? (.object d.members) = some d.shown := by
  have hrunId := d.runId.ofText?_text
  have htime := d.time.ofText?_text
  have htype := d.type.ofName?_name
  have hindex : (Decimal.mk d.index 0).natural? = some d.index := by simp [Decimal.natural?]
  have hnames : d.members.map Prod.fst = names := rfl
  rw [ofValue?, if_pos hnames]
  simp only [members, List.map_cons, List.map_nil, ofValues?, hrunId, htime, htype, hindex]
  rfl

theorem ofJson?_json (d : Diagnostic) : ofJson? d.json = some d.shown := by
  rw [ofJson?, decode_json, Option.bind_some, ofValue?_members]

theorem json_shown (d : Diagnostic) : d.shown.json = d.json := by
  unfold json fields shown
  rw [Instant.text_shown]

/-- The text of a diagnostic is a JSON text that means one object with the nine members, whichever
way it is taken apart, and a decoder of JSON gives this object. The text of the run id is read
back, and that of the instant as the instant that it shows. This one is as far from the start of
1970, and it is the instant itself unless that lies in a leap second within a minute. So the whole
diagnostic is read back as it is shown, and the texts of two are the same just if they are shown
as the same. -/
theorem a_diagnostic_is_read_back_as_shown (d : Diagnostic) :
    (∃ doc : Spaced Written, doc.text = d.json) ∧
    (∀ doc : Spaced Written, doc.text = d.json → doc.value.meaning? = some (.object d.members)) ∧
    (decode d.json).toOption = some (.object d.members) ∧
    d.members.map Prod.fst = names ∧
    RunId.ofText? d.runId.text = some d.runId ∧
    Instant.ofText? d.time.text = some d.time.shown ∧
    d.time.shown.seconds * 1000000000 + d.time.shown.nanos =
      d.time.seconds * 1000000000 + d.time.nanos ∧
    (d.time.shown = d.time ↔ d.time.Placed) ∧
    ofJson? d.json = some { d with time := d.time.shown } ∧
    ∀ d' : Diagnostic, d'.json = d.json ↔
      { d' with time := d'.time.shown } = { d with time := d.time.shown } := by
  refine ⟨⟨d.written, d.text_written⟩, ?_, d.decode_json, rfl, d.runId.ofText?_text,
    d.time.ofText?_text, d.time.shown_count, d.time.shown_eq_self_iff, d.ofJson?_json, ?_⟩
  · intro doc hdoc
    rw [← decode_text, hdoc, decode_json]
  · intro d'
    constructor
    · intro hd
      have hback := d'.ofJson?_json
      rw [hd, ofJson?_json] at hback
      exact (Option.some.inj hback).symm
    · intro hd
      have hsame : d'.shown = d.shown := hd
      rw [← json_shown, hsame, json_shown]

/-- A third of a second behind the leap second that would follow 23:56:04. -/
def withinMinute : Instant := ⟨86164, 1333333333, by decide, by decide⟩

/-- The instant with the same text. -/
def nextSecond : Instant := ⟨86165, 333333333, by decide, by decide⟩

/-- A diagnostic of a failed service injection at an instant. -/
def failedAt (time : Instant) : Diagnostic :=
  ⟨⟨0⟩, time, "Foo.groovy", "app.Foo", ⟨"Service", by decide⟩, "service", 2,
    "Error occurred calling AST injector: boom", "boom"⟩

theorem two_diagnostics_share_a_text :
    (failedAt withinMinute).json = (failedAt nextSecond).json ∧
      failedAt withinMinute ≠ failedAt nextSecond ∧
      Instant.ofText? withinMinute.text ≠ some withinMinute := by
  have hshown : withinMinute.shown = nextSecond := by decide
  refine ⟨?_, ?_, ?_⟩
  · rw [← json_shown (failedAt withinMinute)]
    unfold shown failedAt
    rw [hshown]
  · decide
  · rw [Instant.ofText?_text, hshown]
    decide

end Diagnostic

end MarkerInjection
