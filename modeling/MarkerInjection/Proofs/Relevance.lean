-- What has a say in a visit. Two registries may differ in all that does not
-- apply to the type, and in all that stands behind the first failure; two tags
-- may differ in all members but one; and two memories may differ in all that the
-- injectors which run do not look at. Visits come to the same all the same.
import MarkerInjection.Proofs.Routes
import Mathlib.Logic.Relation

namespace MarkerInjection

variable {h : Host} {α : Type} {part : h.Memory → α}

/-! ## What two runs share -/

/-- Two injectors with one name that do the same. What they apply to may differ. -/
structure Descriptor.Alike (d e : Descriptor h) : Prop where
  name : d.name = e.name
  inject : d.inject = e.inject

/-- The injector keeps to a part of the memory: what it does to unit, class and this part follows
from unit, class and this part, whatever else there is in the memory. -/
def Descriptor.KeepsTo (part : h.Memory → α) (d : Descriptor h) : Prop :=
  ∀ memory memory' unit target, part memory = part memory' →
    (d.inject memory unit target).2 = (d.inject memory' unit target).2 ∧
      part (d.inject memory unit target).1 = part (d.inject memory' unit target).1

/-- Unit and class are the same, and so is this part of the memory. -/
structure Workpiece.Shares (part : h.Memory → α) (w w' : Workpiece h) : Prop where
  memory : part w.memory = part w'.memory
  unit : w.unit = w'.unit
  target : w.target = w'.target

/-- The two lists are alike as far as an injection goes: all of them if no injector of the first
fails, else up to the first one that does. The injectors that run keep to a part of the memory. -/
inductive AlikeToFailure (part : h.Memory → α) (ds es : List (Descriptor h)) (w : Workpiece h) :
    Prop
  | whole (hall : AllSucceed ds w) (halike : List.Forall₂ Descriptor.Alike ds es)
    (hkeeps : ∀ d ∈ ds, d.KeepsTo part)
  | upTo {k : Nat} {cause : Cause} (hk : FirstFailure ds w k cause)
    (halike : List.Forall₂ Descriptor.Alike (ds.take (k + 1)) (es.take (k + 1)))
    (hkeeps : ∀ d ∈ ds.take (k + 1), d.KeepsTo part)

/-! ## Two injections -/

section Injections

variable {ds es : List (Descriptor h)} {w w' : Workpiece h}

theorem alike_refl (ds : List (Descriptor h)) : List.Forall₂ Descriptor.Alike ds ds :=
  List.forall₂_same.mpr fun _ _ => ⟨rfl, rfl⟩

theorem keepsTo_id (d : Descriptor h) : d.KeepsTo id := by
  rintro memory memory' unit target rfl
  exact ⟨rfl, rfl⟩

theorem shares_work {d e : Descriptor h} (halike : d.Alike e) (hkeeps : d.KeepsTo part)
    (hw : w.Shares part w') :
    (d.work w).1.Shares part (e.work w').1 ∧ (d.work w).2 = (e.work w').2 := by
  obtain ⟨hsame, hpart⟩ := hkeeps w.memory w'.memory w.unit w.target hw.memory
  simp only [Descriptor.work, ← halike.inject, ← hw.unit, ← hw.target, ← hsame]
  exact ⟨⟨hpart, rfl, rfl⟩, trivial⟩

theorem shares_after (halike : List.Forall₂ Descriptor.Alike ds es)
    (hkeeps : ∀ d ∈ ds, d.KeepsTo part) (hw : w.Shares part w') :
    (w.after ds).Shares part (w'.after es) := by
  induction halike generalizing w w' with
  | nil => exact hw
  | cons hhead _ ih =>
    exact ih (fun d hd => hkeeps d (List.mem_cons_of_mem _ hd))
      (shares_work hhead (hkeeps _ (by simp)) hw).1

theorem allSucceed_alike (halike : List.Forall₂ Descriptor.Alike ds es)
    (hkeeps : ∀ d ∈ ds, d.KeepsTo part) (hw : w.Shares part w') (hall : AllSucceed ds w) :
    AllSucceed es w' := by
  induction halike generalizing w w' with
  | nil => exact allSucceed_nil w'
  | cons hhead _ ih =>
    obtain ⟨hd, hrest⟩ := allSucceed_cons.mp hall
    obtain ⟨hleft, hresult⟩ := shares_work hhead (hkeeps _ (by simp)) hw
    exact allSucceed_cons.mpr ⟨hresult.symm.trans hd,
      ih (fun d hd => hkeeps d (List.mem_cons_of_mem _ hd)) hleft hrest⟩

/-- If the lists are alike up to the first failure, the other list fails there, too, for the same
cause and by an injector of the same name. -/
theorem firstFailure_alike {k : Nat} {cause : Cause} (hk : FirstFailure ds w k cause)
    (halike : List.Forall₂ Descriptor.Alike (ds.take (k + 1)) (es.take (k + 1)))
    (hkeeps : ∀ d ∈ ds.take (k + 1), d.KeepsTo part) (hw : w.Shares part w') :
    FirstFailure es w' k cause ∧ ∃ d e, ds[k]? = some d ∧ es[k]? = some e ∧ d.name = e.name := by
  induction ds generalizing es w w' k with
  | nil => exact absurd hk.lt_length (by simp)
  | cons d ds ih =>
    cases es with
    | nil => simp at halike
    | cons e es =>
      rw [List.take_succ_cons, List.take_succ_cons, List.forall₂_cons] at halike
      obtain ⟨hhead, hrest⟩ := halike
      obtain ⟨hleft, hresult⟩ := shares_work hhead (hkeeps d (by simp)) hw
      cases k with
      | zero =>
        have hfails := work_of_firstFailure_zero hk
        exact ⟨firstFailure_head (hresult.symm.trans hfails) es, d, e, rfl, rfl, hhead.name⟩
      | succ k =>
        obtain ⟨hok, htail⟩ := firstFailure_tail hk
        obtain ⟨hfirst, d', e', hd', he', hname⟩ := ih htail hrest
          (fun d' hd' => hkeeps d' (List.mem_cons_of_mem d hd')) hleft
        exact ⟨firstFailure_cons (hresult.symm.trans hok) hfirst, d', e', by simpa using hd',
          by simpa using he', hname⟩

end Injections

/-! ## Two visits -/

/-- Two visits of a class come to the same: the same result, the same class, unit and part of the
memory, and the same diagnostic, but for its id and time. -/
structure ComesToSame (part : h.Memory → α) (t t' : Transform h) (tag tag' : h.Tag)
    (world world' : World h) (v v' : Visit h) : Prop where
  result : v.result = v'.result
  nodes : ∃ c, v.nodes = [.tag tag, .ofClass c] ∧ v'.nodes = [.tag tag', .ofClass c]
  unit : v.unit = v'.unit
  memory : part v.world.memory = part v'.world.memory
  gave : ∃ report, t.channel.Gave world v.world report ∧ t'.channel.Gave world' v'.world report

section Visits

variable {t t' : Transform h} {type : ArtefactType} {s s' : Scene h}

/-- Two injections into one class come to the same. -/
theorem perform_alike (hs : s.workpiece.Shares part s'.workpiece)
    (halike : AlikeToFailure part (t.registry.matching type) (t'.registry.matching type)
      s.workpiece) :
    (t.perform type s).2 = (t'.perform type s').2 ∧
      (t.perform type s).1.workpiece.Shares part (t'.perform type s').1.workpiece ∧
      ∃ report, t.channel.Gave s.world (t.perform type s).1.world report ∧
        t'.channel.Gave s'.world (t'.perform type s').1.world report := by
  cases halike with
  | whole hall halike hkeeps =>
    have hran : RanThrough t.channel type _ (s.matched t type) :=
      ranThrough_of_allSucceed t.channel type hall
    have hran' : RanThrough t'.channel type _ (s'.matched t' type) :=
      ranThrough_of_allSucceed t'.channel type (allSucceed_alike halike hkeeps hs hall)
    refine ⟨?_, ?_, none, gave_matched (gave_of_ranThrough hran),
      gave_matched (gave_of_ranThrough hran')⟩
    · rw [perform_eq_apply, perform_eq_apply, hran.result, hran'.result, halike.length_eq]
    · rw [perform_eq_apply, perform_eq_apply, hran.workpiece, hran'.workpiece]
      exact shares_after halike hkeeps hs
  | upTo hk halike hkeeps =>
    obtain ⟨hk', d, e, hd, he, hname⟩ := firstFailure_alike hk halike hkeeps hs
    have hstop : StoppedAt t.channel type _ (s.matched t type) _ d _ :=
      stoppedAt_of_firstFailure t.channel type hk hd
    have hstop' : StoppedAt t'.channel type _ (s'.matched t' type) _ e _ :=
      stoppedAt_of_firstFailure t'.channel type hk' he
    have hleft : (t.perform type s).1.workpiece.Shares part (t'.perform type s').1.workpiece := by
      rw [perform_eq_apply, perform_eq_apply, hstop.workpiece, hstop'.workpiece]
      exact shares_after halike hkeeps hs
    refine ⟨?_, hleft, _, gave_matched (gave_of_stoppedAt hstop t.channel hleft.unit hleft.target),
      ?_⟩
    · have htarget := hleft.target
      simp only [Scene.workpiece] at htarget
      rw [perform_eq_apply, perform_eq_apply] at htarget ⊢
      rw [hstop.result, hstop'.result, htarget, hname]
    · rw [hname]
      exact gave_matched (gave_of_stoppedAt hstop' t.channel rfl rfl)

variable {tag tag' : h.Tag} {c : h.Class} {unit : h.SourceUnit} {world world' : World h}

/-- Where neither visit gets as far as injection, nothing is touched and nothing is reported. -/
theorem comesToSame_of_untouched (hmemory : part world.memory = part world'.memory)
    {result : Except Failure Outcome}
    (h₁ : t.Untouched [.tag tag, .ofClass c] unit world result)
    (h₂ : t'.Untouched [.tag tag', .ofClass c] unit world' result) :
    ComesToSame part t t' tag tag' world world' (t.visit [.tag tag, .ofClass c] unit world)
      (t'.visit [.tag tag', .ofClass c] unit world') := by
  unfold Transform.Untouched at h₁ h₂
  rw [h₁, h₂]
  exact ⟨rfl, ⟨c, rfl, rfl⟩, rfl, hmemory, none, by simp [Channel.Gave], by simp [Channel.Gave]⟩

theorem comesToSame_of_accepts (hmemory : part world.memory = part world'.memory)
    (h₁ : t.Accepts [.tag tag, .ofClass c] tag c type)
    (h₂ : t'.Accepts [.tag tag', .ofClass c] tag' c type)
    (halike : AlikeToFailure part (t.registry.matching type) (t'.registry.matching type)
      ⟨world.memory, unit, c⟩) :
    ComesToSame part t t' tag tag' world world' (t.visit [.tag tag, .ofClass c] unit world)
      (t'.visit [.tag tag', .ofClass c] unit world') := by
  have hshares : (⟨world, unit, c⟩ : Scene h).workpiece.Shares part
      (⟨world', unit, c⟩ : Scene h).workpiece := ⟨hmemory, rfl, rfl⟩
  obtain ⟨hresult, hleft, report, hgave, hgave'⟩ := perform_alike hshares halike
  have htarget := hleft.target
  simp only [Scene.workpiece] at htarget
  rw [visit_of_accepts h₁, visit_of_accepts h₂]
  refine ⟨?_, ⟨_, rfl, ?_⟩, hleft.unit, hleft.memory, report, hgave, hgave'⟩
  · simp only [hresult]
  · simp only [htarget]

/-- The visits are under the same names: that of the tag that marks, and that of its member. -/
structure Transform.SameNames (t t' : Transform h) : Prop where
  marker : t.config.marker = t'.config.marker
  valueMember : t.config.valueMember = t'.config.valueMember

/-- A class that is turned away under both names is turned away in the same words. -/
theorem comesToSame_of_refused (hnames : t.SameNames t') (hmark : h.tagName tag = t.config.marker)
    (hmark' : h.tagName tag' = t.config.marker)
    (hmemory : part world.memory = part world'.memory) {reason : Refusal}
    (hjudge : judge t.config.valueMember tag c = .refused (h.className c) reason)
    (hjudge' : judge t'.config.valueMember tag' c = .refused (h.className c) reason) :
    ComesToSame part t t' tag tag' world world' (t.visit [.tag tag, .ofClass c] unit world)
      (t'.visit [.tag tag', .ofClass c] unit world') := by
  have hv := validate_of_marked t.config.valueMember c hmark
  have hv' := validate_of_marked t'.config.valueMember c (hmark'.trans hnames.marker)
  rw [hjudge] at hv
  rw [hjudge'] at hv'
  have hmessage : t'.refusalMessage (h.className c) reason =
      t.refusalMessage (h.className c) reason := by
    unfold Transform.refusalMessage
    rw [hnames.marker]
  have huntouched : t'.Untouched [.tag tag', .ofClass c] unit world'
      (.error (.refused (h.className c) reason (t.refusalMessage (h.className c) reason))) := by
    rw [← hmessage]
    exact untouched_of_refused hv'
  exact comesToSame_of_untouched hmemory (untouched_of_refused hv) huntouched

theorem comesToSame_of_alike (hnames : t.SameNames t') (hmark : h.tagName tag = t.config.marker)
    (hmark' : h.tagName tag' = t.config.marker)
    (hmember : h.member tag t.config.valueMember = h.member tag' t.config.valueMember)
    (hmemory : part world.memory = part world'.memory)
    (halike : ∀ type : ArtefactType,
      h.member tag t.config.valueMember = some (.literal type.name) →
        AlikeToFailure part (t.registry.matching type) (t'.registry.matching type)
          ⟨world.memory, unit, c⟩) :
    ComesToSame part t t' tag tag' world world' (t.visit [.tag tag, .ofClass c] unit world)
      (t'.visit [.tag tag', .ofClass c] unit world') := by
  have hmember' : h.member tag' t'.config.valueMember = h.member tag t.config.valueMember := by
    rw [hmember, hnames.valueMember]
  rcases hi : h.isInterface c with _ | _
  · rcases namesNoType_or_literal tag t.config.valueMember with hnone | ⟨type, htype⟩
    · have hnone' : NamesNoType tag' t'.config.valueMember := by
        unfold NamesNoType at hnone ⊢
        rw [hmember']
        exact hnone
      have hjudge : judge t.config.valueMember tag c = .refused (h.className c) .missingType := by
        simp [judge, hi, declaredType?_of_namesNoType hnone]
      have hjudge' : judge t'.config.valueMember tag' c =
          .refused (h.className c) .missingType := by
        simp [judge, hi, declaredType?_of_namesNoType hnone']
      exact comesToSame_of_refused hnames hmark hmark' hmemory hjudge hjudge'
    · exact comesToSame_of_accepts hmemory ⟨rfl, hmark, hi, htype⟩
        ⟨rfl, hmark'.trans hnames.marker, hi, hmember'.trans htype⟩ (halike type htype)
  · have hjudge (member : String) (tag : h.Tag) :
        judge member tag c = .refused (h.className c) .interface := by simp [judge, hi]
    exact comesToSame_of_refused hnames hmark hmark' hmemory (hjudge _ _) (hjudge _ _)

end Visits

/-! ## Edits of a registry -/

/-- A change of a list of injectors that has to do with injectors alone that do not apply: one comes
to stand anywhere, or goes, or changes places with its neighbour. -/
inductive Edit (type : ArtefactType) : List (Descriptor h) → List (Descriptor h) → Prop
  | insert (pre post : List (Descriptor h)) (d : Descriptor h) (hd : d.supports type = false) :
    Edit type (pre ++ post) (pre ++ d :: post)
  | remove (pre post : List (Descriptor h)) (d : Descriptor h) (hd : d.supports type = false) :
    Edit type (pre ++ d :: post) (pre ++ post)
  | swap (pre post : List (Descriptor h)) (d e : Descriptor h)
    (hde : d.supports type = false ∨ e.supports type = false) :
    Edit type (pre ++ d :: e :: post) (pre ++ e :: d :: post)

theorem filter_of_edit {type : ArtefactType} {ds es : List (Descriptor h)}
    (hedit : Edit type ds es) :
    ds.filter (·.supports type) = es.filter (·.supports type) := by
  cases hedit with
  | insert pre post d hd => simp [hd]
  | remove pre post d hd => simp [hd]
  | swap pre post d e hde =>
    rcases hde with hd | he
    · simp [List.filter_cons, hd]
    · simp [List.filter_cons, he]

/-- However often a list is edited, those that apply stay the same, in the same order. -/
theorem filter_of_edits {type : ArtefactType} {ds es : List (Descriptor h)}
    (hedits : Relation.ReflTransGen (Edit type) ds es) :
    ds.filter (·.supports type) = es.filter (·.supports type) := by
  induction hedits with
  | refl => rfl
  | tail _ hedit ih => exact ih.trans (filter_of_edit hedit)

/-- What applies is the same in both lists, so they are alike however far an injection goes. -/
theorem alikeToFailure_refl (ds : List (Descriptor h)) (w : Workpiece h) :
    AlikeToFailure id ds ds w := by
  rcases allSucceed_or_firstFailure ds w with hall | ⟨k, cause, hk⟩
  · exact .whole hall (alike_refl ds) fun d _ => keepsTo_id d
  · exact .upTo hk (alike_refl _) fun d _ => keepsTo_id d

/-- Behind an injector that fails, the lists may go on as they like. -/
theorem alikeToFailure_of_failure {ds : List (Descriptor h)} {d : Descriptor h}
    (rest rest' : List (Descriptor h)) {w : Workpiece h} {cause : Cause} (hall : AllSucceed ds w)
    (hd : (d.work (w.after ds)).2 = .error cause) :
    AlikeToFailure id (ds ++ d :: rest) (ds ++ d :: rest') w := by
  have hk : FirstFailure (ds ++ d :: rest) w ds.length cause := by
    induction ds generalizing w with
    | nil => exact firstFailure_head hd rest
    | cons e ds ih =>
      obtain ⟨he, hrest⟩ := allSucceed_cons.mp hall
      exact firstFailure_cons he (ih hrest hd)
  have htake (rest : List (Descriptor h)) :
      (ds ++ d :: rest).take (ds.length + 1) = ds ++ [d] := by
    rw [List.take_length_add_append]
    rfl
  refine .upTo hk ?_ fun d _ => keepsTo_id d
  rw [htake rest, htake rest']
  exact alike_refl _

/-! ## Scripts -/

namespace Scripted

/-- The numbers of calls of some injectors are a part of the memory that those keep to. -/
theorem keepsTo_injector {names : List String} {name : String} (hname : name ∈ names)
    (capability : Capability) (script : List Act) :
    Descriptor.KeepsTo (h := host) (fun calls : String → Nat => names.map calls)
      ⟨name, capability, injector name script⟩ := by
  intro calls calls' u c hcalls
  have hsame := List.map_inj_left.mp hcalls
  simp only [injector, hsame name hname]
  refine ⟨trivial, List.map_congr_left fun n hn => ?_⟩
  split
  · rfl
  · exact hsame n hn

/-- The injectors of `mixed` that apply to controllers, among others. -/
def rearranged : Transform host where
  registry := ⟨[⟨"label", .only (.ofList ["Controller"]), injector "label" [.record "label"]⟩,
    ⟨"audit", .only (.ofList ["Admin"]), injector "audit" [.record "audit"]⟩,
    ⟨"guard", .universal, injector "guard" [.fail ["closed", "at night"]]⟩,
    ⟨"late", .universal, injector "late" [.renameClass "B"]⟩], by decide⟩
  config := { Config.standard with threads := .exactly 1 }
  channel := ⟨.log, ⟨7⟩⟩

/-- A world in which some injectors have been called before. -/
def laterWorld : World host :=
  World.initial (fun name => if name = "label" ∨ name = "guard" then 0 else 5) Instant.epoch

end Scripted

/-! ## The law -/

/-- Visit a marked class twice, from worlds with the same memory, or at least with the same of that
part of it which the injectors that run keep to. Let the registries be alike, among what applies
to the type, up to the first injector that fails, and let the tags have the same value member.
Then the visits come to the same. In particular it makes no difference to add, take out or move
injectors that do not apply, or to put others behind the one that fails. -/
theorem only_what_runs_has_a_say (t t' : Transform h) (hnames : t.SameNames t') (tag tag' : h.Tag)
    (hmark : h.tagName tag = t.config.marker) (hmark' : h.tagName tag' = t.config.marker)
    (hmember : h.member tag t.config.valueMember = h.member tag' t.config.valueMember)
    (c : h.Class) (unit : h.SourceUnit) (world world' : World h) :
    let v := t.visit [.tag tag, .ofClass c] unit world
    let v' := t'.visit [.tag tag', .ofClass c] unit world'
    let Declared := fun type : ArtefactType =>
      h.member tag t.config.valueMember = some (.literal type.name)
    (∀ (α : Type) (part : h.Memory → α), part world.memory = part world'.memory →
      (∀ type, Declared type → AlikeToFailure part (t.registry.matching type)
        (t'.registry.matching type) ⟨world.memory, unit, c⟩) →
      ComesToSame part t t' tag tag' world world' v v') ∧
    (world.memory = world'.memory →
      (∀ type, Declared type → Relation.ReflTransGen (Edit type) t.registry.descriptors
        t'.registry.descriptors) →
      ComesToSame id t t' tag tag' world world' v v') ∧
    (world.memory = world'.memory →
      (∀ type, Declared type → ∃ pre d post post' cause,
        t.registry.descriptors = pre ++ d :: post ∧ t'.registry.descriptors = pre ++ d :: post' ∧
        d.supports type = true ∧
        let earlier := pre.filter (·.supports type)
        AllSucceed earlier ⟨world.memory, unit, c⟩ ∧
          (d.work ((⟨world.memory, unit, c⟩ : Workpiece h).after earlier)).2 = .error cause) →
      ComesToSame id t t' tag tag' world world' v v') := by
  intro v v' Declared
  refine ⟨?_, ?_, ?_⟩
  · intro α part hmemory halike
    exact comesToSame_of_alike hnames hmark hmark' hmember hmemory halike
  · intro hmemory hedits
    refine comesToSame_of_alike hnames hmark hmark' hmember hmemory fun type htype => ?_
    have hsame : t.registry.matching type = t'.registry.matching type :=
      filter_of_edits (hedits type htype)
    rw [← hsame]
    exact alikeToFailure_refl _ _
  · intro hmemory hbehind
    refine comesToSame_of_alike hnames hmark hmark' hmember hmemory fun type htype => ?_
    obtain ⟨pre, d, post, post', cause, hds, hds', hd, hall, hfails⟩ := hbehind type htype
    unfold Registry.matching
    have hkept (rest : List (Descriptor h)) : (d :: rest).filter (·.supports type) =
        d :: rest.filter (·.supports type) := by simp [hd]
    rw [hds, hds', List.filter_append, List.filter_append, hkept, hkept]
    exact alikeToFailure_of_failure _ _ hall hfails

/-- Another registry, another tag and other memories of injectors that do not run. -/
theorem the_guard_closes_both :
    let tag : Scripted.Tag :=
      ⟨"Artefact", [("since", .literal "2"), ("value", .literal "Controller")]⟩
    let v := Scripted.mixed.visit [.tag Scripted.controllerTag, .ofClass ⟨"A", false, []⟩]
      ⟨"unit", 0⟩ Scripted.world
    let v' := Scripted.rearranged.visit [.tag tag, .ofClass ⟨"A", false, []⟩] ⟨"unit", 0⟩
      Scripted.laterWorld
    v.result = .error (.injection "A" "Controller" "guard" 1 ⟨"closed", ["at night"]⟩) ∧
      ComesToSame (fun calls : String → Nat => ["label", "guard"].map calls) Scripted.mixed
        Scripted.rearranged Scripted.controllerTag tag Scripted.world Scripted.laterWorld v v' := by
  intro tag v v'
  refine ⟨rfl, ?_⟩
  have hlaw := (only_what_runs_has_a_say Scripted.mixed Scripted.rearranged ⟨rfl, rfl⟩
    Scripted.controllerTag tag rfl rfl rfl ⟨"A", false, []⟩ ⟨"unit", 0⟩ Scripted.world
    Scripted.laterWorld).1 (List Nat) (fun calls : String → Nat => ["label", "guard"].map calls) rfl
  refine hlaw fun type htype => ?_
  obtain rfl : type = Scripted.controller := by
    obtain ⟨name, hname⟩ := type
    have hliteral : some (MemberValue.literal "Controller") = some (.literal name) := htype
    obtain rfl : "Controller" = name := by simpa using hliteral
    rfl
  have hguard : FirstFailure (Scripted.mixed.registry.matching Scripted.controller)
      ⟨Scripted.world.memory, ⟨"unit", 0⟩, ⟨"A", false, []⟩⟩ 1 ⟨"closed", ["at night"]⟩ := by
    refine ⟨rfl, fun j hj => ?_⟩
    obtain rfl : j = 0 := by omega
    rfl
  refine .upTo hguard ?_ ?_
  · exact .cons ⟨rfl, rfl⟩ (.cons ⟨rfl, rfl⟩ .nil)
  · intro d hd
    change d ∈ [⟨"label", _, _⟩, ⟨"guard", _, _⟩] at hd
    simp only [List.mem_cons, List.not_mem_nil, or_false] at hd
    rcases hd with rfl | rfl
    · exact Scripted.keepsTo_injector (by simp) _ _
    · exact Scripted.keepsTo_injector (by simp) _ _

end MarkerInjection
