-- The laws of one visit: in which order it looks at the nodes, the tag and the
-- class, and that it leaves all as it was unless it gets as far as injection.
import MarkerInjection.Compilation
import Mathlib.Data.List.Basic

namespace MarkerInjection

variable {h : Host}

/-! ## What a tag declares -/

/-- The value member names no artefact type: it is not there, or no known string, or empty. -/
def NamesNoType (tag : h.Tag) (valueMember : String) : Prop :=
  h.member tag valueMember = none ∨
    (∃ text, h.member tag valueMember = some (.expression text)) ∨
      h.member tag valueMember = some (.literal "")

theorem declaredType?_of_literal {tag : h.Tag} {valueMember : String} {type : ArtefactType}
    (hm : h.member tag valueMember = some (.literal type.name)) :
    declaredType? tag valueMember = some type := by
  simp [declaredType?, hm, MemberValue.literal?, ArtefactType.ofName?_name]

theorem declaredType?_of_namesNoType {tag : h.Tag} {valueMember : String}
    (hm : NamesNoType tag valueMember) : declaredType? tag valueMember = none := by
  rcases hm with hm | ⟨text, hm⟩ | hm
  · simp [declaredType?, hm]
  · simp [declaredType?, hm, MemberValue.literal?]
  · simp [declaredType?, hm, MemberValue.literal?, ArtefactType.ofName?]

/-- A tag names a type or it names none. -/
theorem namesNoType_or_literal (tag : h.Tag) (valueMember : String) :
    NamesNoType tag valueMember ∨
      ∃ type : ArtefactType, h.member tag valueMember = some (.literal type.name) := by
  rcases hm : h.member tag valueMember with _ | value
  · exact Or.inl (Or.inl hm)
  · cases value with
    | expression text => exact Or.inl (Or.inr (Or.inl ⟨text, hm⟩))
    | literal text =>
      by_cases htext : text = ""
      · subst htext
        exact Or.inl (Or.inr (Or.inr hm))
      · exact Or.inr ⟨⟨text, htext⟩, rfl⟩

/-! ## Validation -/

/-- A tag and a declaration, which may be a class. -/
def IsSite (first second : Node h) : Prop :=
  (∃ tag, first = .tag tag) ∧ ((∃ c, second = .ofClass c) ∨ ∃ kind, second = .declaration kind)

theorem validate_of_not_isSite (marker valueMember : String) {first second : Node h}
    (hsite : ¬ IsSite first second) :
    validate marker valueMember first second = .error (.nodeKinds first.kind second.kind) := by
  cases first with
  | tag tag =>
    cases second with
    | ofClass c => exact absurd ⟨⟨tag, rfl⟩, Or.inl ⟨c, rfl⟩⟩ hsite
    | declaration kind => exact absurd ⟨⟨tag, rfl⟩, Or.inr ⟨kind, rfl⟩⟩ hsite
    | tag _ => rfl
    | expression => rfl
  | ofClass _ => rfl
  | declaration _ => rfl
  | expression => rfl

theorem validate_of_unmarked {marker valueMember : String} {tag : h.Tag} {target : Node h}
    (hsite : IsSite (.tag tag) target)
    (hmark : h.tagName tag ≠ marker ∨ ¬ ∃ c, target = .ofClass c) :
    validate marker valueMember (.tag tag) target = .ok .ignored := by
  rcases hsite.2 with ⟨c, rfl⟩ | ⟨kind, rfl⟩
  · rcases hmark with hmark | hclass
    · simp [validate, hmark]
    · exact absurd ⟨c, rfl⟩ hclass
  · rfl

theorem validate_of_marked {marker : String} (valueMember : String) {tag : h.Tag} (c : h.Class)
    (hmark : h.tagName tag = marker) :
    validate marker valueMember (.tag tag) (.ofClass c) = .ok (judge valueMember tag c) := by
  simp [validate, hmark]

theorem validate_error {marker valueMember : String} {first second : Node h} {failure : Failure}
    (hv : validate marker valueMember first second = .error failure) :
    failure = .nodeKinds first.kind second.kind := by
  unfold validate at hv
  split at hv
  · simp at hv
  · simp at hv
  · simpa using hv.symm

/-! ## Visits -/

/-- The visit gives this result and changes nothing: nodes, unit and world are as before, with
the memory of the injectors, the diagnostics and the log. -/
def Transform.Untouched (t : Transform h) (nodes : List (Node h)) (unit : h.SourceUnit)
    (world : World h) (result : Except Failure Outcome) : Prop :=
  t.visit nodes unit world = ⟨nodes, unit, world, result⟩

section Cases

variable {t : Transform h} {unit : h.SourceUnit} {world : World h}

theorem untouched_of_length {nodes : List (Node h)} (hlen : nodes.length ≠ 2) :
    t.Untouched nodes unit world (.error (.nodeCount nodes.length)) := by
  match nodes with
  | [] => rfl
  | [_] => rfl
  | [_, _] => exact absurd rfl hlen
  | _ :: _ :: _ :: _ => rfl

theorem untouched_of_error {first second : Node h} {failure : Failure}
    (hv : validate t.config.marker t.config.valueMember first second = .error failure) :
    t.Untouched [first, second] unit world (.error failure) := by
  simp only [Transform.Untouched, Transform.visit, hv]

theorem untouched_of_ignored {first second : Node h}
    (hv : validate t.config.marker t.config.valueMember first second = .ok .ignored) :
    t.Untouched [first, second] unit world (.ok .ignored) := by
  simp only [Transform.Untouched, Transform.visit, hv]

theorem untouched_of_refused {first second : Node h} {className : String} {reason : Refusal}
    (hv : validate t.config.marker t.config.valueMember first second =
      .ok (.refused className reason)) :
    t.Untouched [first, second] unit world
      (.error (.refused className reason (t.refusalMessage className reason))) := by
  simp only [Transform.Untouched, Transform.visit, hv]

theorem visit_of_accepted {first second : Node h} {c : h.Class} {type : ArtefactType}
    (hv : validate t.config.marker t.config.valueMember first second = .ok (.accepted c type)) :
    t.visit [first, second] unit world =
      let performed := t.perform type ⟨world, unit, c⟩
      ⟨[first, .ofClass performed.1.target], performed.1.unit, performed.1.world,
        performed.2.map .completed⟩ := by
  simp only [Transform.visit, hv]

end Cases

/-- The nodes are a marked class, no interface, and the tag names this type. -/
def Transform.Accepts (t : Transform h) (nodes : List (Node h)) (tag : h.Tag) (c : h.Class)
    (type : ArtefactType) : Prop :=
  nodes = [.tag tag, .ofClass c] ∧ h.tagName tag = t.config.marker ∧ h.isInterface c = false ∧
    h.member tag t.config.valueMember = some (.literal type.name)

/-- A result that no injection has a part in: the site is ignored or turned away, or it is not
what was agreed on. -/
def WithoutInjection : Except Failure Outcome → Prop
  | .ok outcome => outcome = .ignored
  | .error failure => failure.isUsageError = true ∨ failure.isContractViolation = true

theorem isInjectorFailure_of_withoutInjection {failure : Failure}
    (hfailure : WithoutInjection (.error failure)) : failure.isInjectorFailure = false := by
  cases failure with
  | injection _ _ _ _ _ =>
    simp [WithoutInjection, Failure.isUsageError, Failure.isContractViolation] at hfailure
  | _ => rfl

/-- Whatever a visit does not accept, it leaves untouched, and its result is none of an
injection. -/
theorem withoutInjection_or_accepts (t : Transform h) (nodes : List (Node h))
    (unit : h.SourceUnit) (world : World h) :
    (∃ result, t.Untouched nodes unit world result ∧ WithoutInjection result) ∨
      ∃ tag c type, t.Accepts nodes tag c type := by
  by_cases hlen : nodes.length = 2
  swap
  · exact Or.inl ⟨_, untouched_of_length hlen, Or.inr rfl⟩
  obtain ⟨first, second, rfl⟩ := List.length_eq_two.mp hlen
  by_cases hsite : IsSite first second
  swap
  · exact Or.inl ⟨_, untouched_of_error (validate_of_not_isSite _ _ hsite), Or.inr rfl⟩
  obtain ⟨tag, rfl⟩ := hsite.1
  by_cases hmark : h.tagName tag = t.config.marker ∧ ∃ c, second = .ofClass c
  swap
  · rw [not_and_or] at hmark
    exact Or.inl ⟨_, untouched_of_ignored (validate_of_unmarked hsite hmark), rfl⟩
  obtain ⟨hmark, c, rfl⟩ := hmark
  have hv := validate_of_marked t.config.valueMember c hmark
  rcases hi : h.isInterface c with _ | _
  · rcases namesNoType_or_literal tag t.config.valueMember with hnone | ⟨type, htype⟩
    · have hrefused : validate t.config.marker t.config.valueMember (.tag tag) (.ofClass c) =
          .ok (.refused (h.className c) .missingType) := by
        simp [hv, judge, hi, declaredType?_of_namesNoType hnone]
      exact Or.inl ⟨_, untouched_of_refused hrefused, Or.inl rfl⟩
    · exact Or.inr ⟨tag, c, type, rfl, hmark, hi, htype⟩
  · have hrefused : validate t.config.marker t.config.valueMember (.tag tag) (.ofClass c) =
        .ok (.refused (h.className c) .interface) := by
      simp [hv, judge, hi]
    exact Or.inl ⟨_, untouched_of_refused hrefused, Or.inl rfl⟩

/-- Whatever a visit does not accept, it leaves untouched. -/
theorem untouched_or_accepts (t : Transform h) (nodes : List (Node h)) (unit : h.SourceUnit)
    (world : World h) :
    (∃ result, t.Untouched nodes unit world result) ∨ ∃ tag c type, t.Accepts nodes tag c type := by
  rcases withoutInjection_or_accepts t nodes unit world with ⟨result, huntouched, -⟩ | haccepts
  · exact Or.inl ⟨result, huntouched⟩
  · exact Or.inr haccepts

/-- A visit that fails in nothing ignored the site or completed it. -/
theorem visit_ok {t : Transform h} {nodes : List (Node h)} {unit : h.SourceUnit}
    {world : World h} {outcome : Outcome} (hv : (t.visit nodes unit world).result = .ok outcome) :
    outcome = .ignored ∨ ∃ n, outcome = .completed n := by
  unfold Transform.visit at hv
  split at hv
  · split at hv
    · simp at hv
    · exact Or.inl (by simpa using hv.symm)
    · simp at hv
    · rename_i c type _
      rcases hp : (t.perform type ⟨world, unit, c⟩).2 with failure | n
      · simp [hp, Except.map] at hv
      · exact Or.inr ⟨n, by simpa [hp, Except.map] using hv.symm⟩
  · simp at hv

/-- What a visit accepts is handed to `perform`. -/
theorem visit_of_accepts {t : Transform h} {nodes : List (Node h)} {tag : h.Tag} {c : h.Class}
    {type : ArtefactType} (haccepts : t.Accepts nodes tag c type) (unit : h.SourceUnit)
    (world : World h) :
    t.visit nodes unit world =
      let performed := t.perform type ⟨world, unit, c⟩
      ⟨[.tag tag, .ofClass performed.1.target], performed.1.unit, performed.1.world,
        performed.2.map .completed⟩ := by
  obtain ⟨rfl, hmark, hi, htype⟩ := haccepts
  have hv := validate_of_marked t.config.valueMember c hmark
  exact visit_of_accepted (by simp [hv, judge, hi, declaredType?_of_literal htype])

/-! ## Sites of a run -/

namespace Transform

/-- The visit that a run makes at a site. -/
def visitSite (t : Transform h) (world : World h) (unit : h.SourceUnit) (site : Site h) :
    Visit h :=
  t.visit [.tag site.tag, site.target.node] unit world

/-- The report of a site: names from before the visit, and the result of it. -/
def reportOf (unit : h.SourceUnit) (site : Site h) (result : Except Failure Outcome) :
    SiteReport :=
  ⟨h.unitName unit, site.target.class?.map h.className, outcomeOf result,
    match result with
    | .ok _ => none
    | .error failure => some failure⟩

section Steps

variable {t : Transform h} {p : Progress h} {unit : h.SourceUnit} {site : Site h}

theorem runSite_of_stopped (hp : p.stopped = true) :
    t.runSite p unit site =
      (p, unit, site, ⟨h.unitName unit, site.target.class?.map h.className, .skipped, none⟩) := by
  simp [runSite, hp]

theorem runSite_of_ok (hp : p.stopped = false) {outcome : Outcome}
    (hv : (t.visitSite p.world unit site).result = .ok outcome) :
    t.runSite p unit site =
      let v := t.visitSite p.world unit site
      (⟨v.world, false⟩, v.unit, { site with target := site.target.after v.nodes },
        reportOf unit site v.result) := by
  simp only [visitSite] at hv ⊢
  simp [runSite, hp, hv, reportOf, outcomeOf]

theorem runSite_of_error (hp : p.stopped = false) {failure : Failure}
    (hv : (t.visitSite p.world unit site).result = .error failure) :
    t.runSite p unit site =
      let v := t.visitSite p.world unit site
      (⟨v.world.logged (.siteFailed (h.unitName unit) failure),
          t.config.failureScope = .wholeBuild⟩,
        v.unit, { site with target := site.target.after v.nodes },
        reportOf unit site v.result) := by
  simp only [visitSite] at hv ⊢
  simp [runSite, hp, hv, reportOf]

theorem outcomeOf_error (failure : Failure) :
    outcomeOf (.error failure) = .rejected ∨ outcomeOf (.error failure) = .failed := by
  simp only [outcomeOf]
  split
  · exact Or.inl rfl
  · exact Or.inr rfl

/-- A report is one of an error exactly if it holds a failure, whatever the failure is. -/
theorem isError_runSite (t : Transform h) (p : Progress h) (unit : h.SourceUnit)
    (site : Site h) :
    (t.runSite p unit site).2.2.2.outcome.isError =
      (t.runSite p unit site).2.2.2.failure.isSome := by
  rcases hp : p.stopped with _ | _
  · rcases hv : (t.visitSite p.world unit site).result with failure | outcome
    · rw [runSite_of_error hp hv]
      rcases outcomeOf_error failure with hout | hout
      · simp [reportOf, hv, hout, Outcome.isError]
      · simp [reportOf, hv, hout, Outcome.isError]
    · rw [runSite_of_ok hp hv]
      rcases visit_ok hv with rfl | ⟨n, rfl⟩
      · simp [reportOf, hv, outcomeOf, Outcome.isError]
      · simp [reportOf, hv, outcomeOf, Outcome.isError]
  · rw [runSite_of_stopped hp]
    rfl

/-- No site is skipped before the flag is set. -/
theorem runSite_not_skipped (hp : p.stopped = false) :
    (t.runSite p unit site).2.2.2.outcome ≠ .skipped := by
  rcases hv : (t.visitSite p.world unit site).result with failure | outcome
  · rw [runSite_of_error hp hv]
    rcases outcomeOf_error failure with hout | hout
    · simp [reportOf, hv, hout]
    · simp [reportOf, hv, hout]
  · rw [runSite_of_ok hp hv]
    rcases visit_ok hv with rfl | ⟨n, rfl⟩
    · simp [reportOf, hv, outcomeOf]
    · simp [reportOf, hv, outcomeOf]

/-- In a run per class nothing sets the flag. -/
theorem runSite_perClass (ht : t.config.failureScope = .perClass) (hp : p.stopped = false) :
    (t.runSite p unit site).1.stopped = false := by
  rcases hv : (t.visitSite p.world unit site).result with failure | outcome
  · rw [runSite_of_error hp hv]
    simp [ht]
  · rw [runSite_of_ok hp hv]

end Steps

end Transform

/-! ## The order of a visit -/

/-- A visit looks at its nodes in this order, whatever the registry and the names in the
configuration are: their number, their kinds, the name of the tag and whether it stands on a
class, whether the class is an interface, and which type the tag names. Only what is accepted
in the end is touched, by what `perform` does. -/
theorem a_visit_looks_in_this_order (t : Transform h) (nodes : List (Node h))
    (unit : h.SourceUnit) (world : World h) :
    (nodes.length ≠ 2 → t.Untouched nodes unit world (.error (.nodeCount nodes.length))) ∧
    (∀ first second, nodes = [first, second] → ¬ IsSite first second →
      t.Untouched nodes unit world (.error (.nodeKinds first.kind second.kind))) ∧
    (∀ tag target, nodes = [.tag tag, target] → IsSite (.tag tag) target →
      (h.tagName tag ≠ t.config.marker ∨ ¬ ∃ c, target = .ofClass c) →
      t.Untouched nodes unit world (.ok .ignored)) ∧
    (∀ tag c, nodes = [.tag tag, .ofClass c] → h.tagName tag = t.config.marker →
      (h.isInterface c = true →
        t.Untouched nodes unit world (.error (.refused (h.className c) .interface
          (t.refusalMessage (h.className c) .interface)))) ∧
      (h.isInterface c = false → NamesNoType tag t.config.valueMember →
        t.Untouched nodes unit world (.error (.refused (h.className c) .missingType
          (t.refusalMessage (h.className c) .missingType))))) ∧
    (∀ tag c type, t.Accepts nodes tag c type →
      t.visit nodes unit world =
        let performed := t.perform type ⟨world, unit, c⟩
        ⟨[.tag tag, .ofClass performed.1.target], performed.1.unit, performed.1.world,
          performed.2.map .completed⟩) ∧
    ((∃ result, t.Untouched nodes unit world result) ∨
      ∃ tag c type, t.Accepts nodes tag c type) := by
  refine ⟨untouched_of_length, ?_, ?_, ?_, ?_, untouched_or_accepts t nodes unit world⟩
  · rintro first second rfl hsite
    exact untouched_of_error (validate_of_not_isSite _ _ hsite)
  · rintro tag target rfl hsite hmark
    exact untouched_of_ignored (validate_of_unmarked hsite hmark)
  · rintro tag c rfl hmark
    have hv := validate_of_marked t.config.valueMember c hmark
    refine ⟨fun hi => ?_, fun hi hnone => ?_⟩
    · exact untouched_of_refused (by simp [hv, judge, hi])
    · exact untouched_of_refused (by simp [hv, judge, hi, declaredType?_of_namesNoType hnone])
  · rintro tag c type ⟨rfl, hmark, hi, htype⟩
    have hv := validate_of_marked t.config.valueMember c hmark
    exact visit_of_accepted (by simp [hv, judge, hi, declaredType?_of_literal htype])

end MarkerInjection
