-- The laws of one injection. The injectors of a list work one after the other
-- on what the ones before left, and the first that fails is the last that is
-- called. Injectors are arbitrary functions here, so the laws hold of all.
import MarkerInjection.Proofs.Traces
import Mathlib.Logic.Basic

namespace MarkerInjection

variable {h : Host}

/-! ## The fold -/

/-- What injectors can reach: their memory, the unit and the class. -/
structure Workpiece (h : Host) where
  memory : h.Memory
  unit : h.SourceUnit
  target : h.Class

def Scene.workpiece (s : Scene h) : Workpiece h := ⟨s.world.memory, s.unit, s.target⟩

/-- What one injector makes of a workpiece. -/
def Descriptor.work (d : Descriptor h) (w : Workpiece h) : Workpiece h × Except Cause Unit :=
  let (memory, unit, target, result) := d.inject w.memory w.unit w.target
  (⟨memory, unit, target⟩, result)

/-- The workpiece after all injectors of the list, each on what the one before left, whatever
their results are. -/
def Workpiece.after (w : Workpiece h) (ds : List (Descriptor h)) : Workpiece h :=
  ds.foldl (fun w d => (d.work w).1) w

/-- The result of the injector at a position, on what the ones before it left. -/
def resultAt (ds : List (Descriptor h)) (w : Workpiece h) (k : Nat) : Option (Except Cause Unit) :=
  ds[k]?.map fun d => (d.work (w.after (ds.take k))).2

/-- Every injector of the list succeeds in its turn. -/
def AllSucceed (ds : List (Descriptor h)) (w : Workpiece h) : Prop :=
  ∀ k < ds.length, resultAt ds w k = some (.ok ())

/-- Position `k` is the least whose injector fails. -/
structure FirstFailure (ds : List (Descriptor h)) (w : Workpiece h) (k : Nat) (cause : Cause) :
    Prop where
  fails : resultAt ds w k = some (.error cause)
  earlier : ∀ j < k, resultAt ds w j = some (.ok ())

theorem resultAt_cons_succ (d : Descriptor h) (ds : List (Descriptor h)) (w : Workpiece h)
    (k : Nat) : resultAt (d :: ds) w (k + 1) = resultAt ds (d.work w).1 k := rfl

theorem allSucceed_cons {d : Descriptor h} {ds : List (Descriptor h)} {w : Workpiece h} :
    AllSucceed (d :: ds) w ↔ (d.work w).2 = .ok () ∧ AllSucceed ds (d.work w).1 := by
  constructor
  · intro hall
    refine ⟨by simpa [resultAt, Workpiece.after] using hall 0 (by simp), fun k hk => ?_⟩
    rw [← resultAt_cons_succ]
    exact hall (k + 1) (by simpa using hk)
  · rintro ⟨hd, hall⟩ k hk
    cases k with
    | zero => simp [resultAt, Workpiece.after, hd]
    | succ k =>
      rw [resultAt_cons_succ]
      exact hall k (by simpa using hk)

/-- A first failure behind the head of a list is one of the tail, once the head succeeded. -/
theorem firstFailure_tail {d : Descriptor h} {ds : List (Descriptor h)} {w : Workpiece h}
    {k : Nat} {cause : Cause} (hk : FirstFailure (d :: ds) w (k + 1) cause) :
    (d.work w).2 = .ok () ∧ FirstFailure ds (d.work w).1 k cause := by
  refine ⟨by simpa [resultAt, Workpiece.after] using hk.earlier 0 (by omega), ?_, ?_⟩
  · rw [← resultAt_cons_succ]
    exact hk.fails
  · intro j hj
    rw [← resultAt_cons_succ]
    exact hk.earlier (j + 1) (by omega)

theorem firstFailure_cons {d : Descriptor h} {ds : List (Descriptor h)} {w : Workpiece h}
    {k : Nat} {cause : Cause} (hd : (d.work w).2 = .ok ())
    (hk : FirstFailure ds (d.work w).1 k cause) : FirstFailure (d :: ds) w (k + 1) cause := by
  refine ⟨by rw [resultAt_cons_succ]; exact hk.fails, fun j hj => ?_⟩
  cases j with
  | zero => simp [resultAt, Workpiece.after, hd]
  | succ j =>
    rw [resultAt_cons_succ]
    exact hk.earlier j (by omega)

theorem work_of_firstFailure_zero {d : Descriptor h} {ds : List (Descriptor h)}
    {w : Workpiece h} {cause : Cause} (hk : FirstFailure (d :: ds) w 0 cause) :
    (d.work w).2 = .error cause := by
  simpa [resultAt, Workpiece.after] using hk.fails

theorem firstFailure_head {d : Descriptor h} {w : Workpiece h} {cause : Cause}
    (hd : (d.work w).2 = .error cause) (ds : List (Descriptor h)) :
    FirstFailure (d :: ds) w 0 cause := by
  refine ⟨?_, fun j hj => absurd hj (by omega)⟩
  simp [resultAt, Workpiece.after, hd]

theorem allSucceed_nil (w : Workpiece h) : AllSucceed [] w := fun k hk => absurd hk (by simp)

/-- Either all succeed or there is a first failure. -/
theorem allSucceed_or_firstFailure (ds : List (Descriptor h)) (w : Workpiece h) :
    AllSucceed ds w ∨ ∃ k cause, FirstFailure ds w k cause := by
  induction ds generalizing w with
  | nil => exact Or.inl (allSucceed_nil w)
  | cons d ds ih =>
    rcases hd : (d.work w).2 with cause | ⟨⟩
    · exact Or.inr ⟨0, cause, firstFailure_head hd ds⟩
    · rcases ih (d.work w).1 with hall | ⟨k, cause, hk⟩
      · exact Or.inl (allSucceed_cons.mpr ⟨hd, hall⟩)
      · exact Or.inr ⟨k + 1, cause, firstFailure_cons hd hk⟩

theorem FirstFailure.lt_length {ds : List (Descriptor h)} {w : Workpiece h} {k : Nat}
    {cause : Cause} (hk : FirstFailure ds w k cause) : k < ds.length := by
  rcases Nat.lt_or_ge k ds.length with hlt | hge
  · exact hlt
  · have hfails := hk.fails
    simp [resultAt, List.getElem?_eq_none hge] at hfails

theorem not_allSucceed_of_firstFailure {ds : List (Descriptor h)} {w : Workpiece h} {k : Nat}
    {cause : Cause} (hk : FirstFailure ds w k cause) : ¬ AllSucceed ds w := by
  intro hall
  have hok := hall k hk.lt_length
  rw [hk.fails] at hok
  simp at hok

/-! ## The calls -/

/-- The scene after the call of an injector, whatever its result is. -/
def Scene.calling (type : ArtefactType) (s : Scene h) (d : Descriptor h) : Scene h :=
  (d.call (s.announced type d)).1

/-- The scene after the calls of all injectors of the list. -/
def Scene.callingAll (type : ArtefactType) (s : Scene h) (ds : List (Descriptor h)) : Scene h :=
  ds.foldl (Scene.calling type) s

theorem call_result (type : ArtefactType) (s : Scene h) (d : Descriptor h) :
    (d.call (s.announced type d)).2 = (d.work s.workpiece).2 := rfl

theorem workpiece_calling (type : ArtefactType) (s : Scene h) (d : Descriptor h) :
    (s.calling type d).workpiece = (d.work s.workpiece).1 := rfl

theorem workpiece_callingAll (type : ArtefactType) (s : Scene h) (ds : List (Descriptor h)) :
    (s.callingAll type ds).workpiece = s.workpiece.after ds := by
  induction ds generalizing s with
  | nil => rfl
  | cons d ds ih =>
    unfold Scene.callingAll Workpiece.after at ih ⊢
    rw [List.foldl_cons, List.foldl_cons, ih, workpiece_calling]

theorem received_callingAll (sink : Sink) (type : ArtefactType) (s : Scene h)
    (ds : List (Descriptor h)) :
    sink.received (s.callingAll type ds).world = sink.received s.world := by
  induction ds generalizing s with
  | nil => rfl
  | cons d ds ih =>
    have hone : sink.received (s.calling type d).world = sink.received s.world :=
      received_logged sink (.applying d.name (h.className s.target) type) s.world rfl
    exact (ih (s.calling type d)).trans hone

theorem calls_callingAll (type : ArtefactType) (s : Scene h) (ds : List (Descriptor h)) :
    (s.callingAll type ds).world.calls = s.world.calls ++ ds.map (·.name) := by
  induction ds generalizing s with
  | nil => simp [Scene.callingAll]
  | cons d ds ih =>
    have hone : (s.calling type d).world.calls = s.world.calls ++ [d.name] :=
      calls_logged (.applying d.name (h.className s.target) type) s.world
    unfold Scene.callingAll at ih ⊢
    rw [List.foldl_cons, ih, hone]
    simp

/-! ## What an injection does -/

theorem applyFrom_of_allSucceed (ch : Channel) (type : ArtefactType) (ds : List (Descriptor h))
    (index : Nat) (s : Scene h) (hall : AllSucceed ds s.workpiece) :
    ch.applyFrom type index ds s = (s.callingAll type ds, .ok (index + ds.length)) := by
  induction ds generalizing index s with
  | nil => rfl
  | cons d ds ih =>
    obtain ⟨hd, hrest⟩ := allSucceed_cons.mp hall
    have hcall : d.call (s.announced type d) = (s.calling type d, .ok ()) :=
      Prod.ext rfl ((call_result type s d).trans hd)
    rw [applyFrom_cons_ok ch index ds hcall, ih (index + 1) (s.calling type d) hrest]
    simp only [List.length_cons, Nat.add_assoc, Nat.add_comm 1]
    rfl

theorem applyFrom_of_firstFailure (ch : Channel) (type : ArtefactType)
    (ds : List (Descriptor h)) (index : Nat) (s : Scene h) {k : Nat} {cause : Cause}
    {d : Descriptor h} (hk : FirstFailure ds s.workpiece k cause) (hd : ds[k]? = some d) :
    ch.applyFrom type index ds s =
      let stop := s.callingAll type (ds.take (k + 1))
      ({ stop with
          world := ch.sink.emit (ch.diagnostic type d.name (index + k) cause stop) stop.world },
        .error (Channel.failure type d.name (index + k) cause stop)) := by
  induction ds generalizing index s k with
  | nil => simp at hd
  | cons e ds ih =>
    cases k with
    | zero =>
      obtain rfl : e = d := by simpa using hd
      have hcall : e.call (s.announced type e) = (s.calling type e, .error cause) :=
        Prod.ext rfl ((call_result type s e).trans (work_of_firstFailure_zero hk))
      exact applyFrom_cons_error ch index ds hcall
    | succ k =>
      obtain ⟨hok, htail⟩ := firstFailure_tail hk
      have hcall : e.call (s.announced type e) = (s.calling type e, .ok ()) :=
        Prod.ext rfl ((call_result type s e).trans hok)
      rw [applyFrom_cons_ok ch index ds hcall,
        ih (index + 1) (s.calling type e) htail (by simpa using hd)]
      have hindex : index + 1 + k = index + (k + 1) := by omega
      rw [hindex]
      rfl

/-- What comes behind the position of the first failure plays no part. -/
theorem resultAt_take_append {ds : List (Descriptor h)} {k j : Nat} (hk : k < ds.length)
    (hj : j ≤ k) (rest : List (Descriptor h)) (w : Workpiece h) :
    resultAt (ds.take (k + 1) ++ rest) w j = resultAt ds w j := by
  have hlen : (ds.take (k + 1)).length = k + 1 := by simp; omega
  unfold resultAt
  rw [List.getElem?_append_left (by omega), List.getElem?_take_of_lt (by omega),
    List.take_append_of_le_length (by omega), List.take_take, Nat.min_eq_left (by omega)]

theorem apply_take_append (ch : Channel) (type : ArtefactType) {ds : List (Descriptor h)}
    {s : Scene h} {k : Nat} {cause : Cause} (hk : FirstFailure ds s.workpiece k cause)
    (rest : List (Descriptor h)) :
    ch.apply type (ds.take (k + 1) ++ rest) s = ch.apply type ds s := by
  have hlt := hk.lt_length
  have hlen : (ds.take (k + 1)).length = k + 1 := by simp; omega
  have hd : ds[k]? = some ds[k] := List.getElem?_eq_getElem hlt
  have hd' : (ds.take (k + 1) ++ rest)[k]? = some ds[k] := by
    rw [List.getElem?_append_left (by omega), List.getElem?_take_of_lt (by omega), hd]
  have hk' : FirstFailure (ds.take (k + 1) ++ rest) s.workpiece k cause := by
    refine ⟨?_, fun j hj => ?_⟩
    · rw [resultAt_take_append hlt (Nat.le_refl k)]
      exact hk.fails
    · rw [resultAt_take_append hlt (Nat.le_of_lt hj)]
      exact hk.earlier j hj
  unfold Channel.apply
  rw [applyFrom_of_firstFailure ch type _ 0 s hk' hd',
    applyFrom_of_firstFailure ch type _ 0 s hk hd,
    List.take_append_of_le_length (by omega), List.take_take, Nat.min_self]

/-- What an injection leaves when all injectors of the list succeed. -/
structure RanThrough (ch : Channel) (type : ArtefactType) (ds : List (Descriptor h))
    (s : Scene h) : Prop where
  succeeds : AllSucceed ds s.workpiece
  result : (ch.apply type ds s).2 = .ok ds.length
  workpiece : (ch.apply type ds s).1.workpiece = s.workpiece.after ds
  received : ch.sink.received (ch.apply type ds s).1.world = ch.sink.received s.world
  calls : (ch.apply type ds s).1.world.calls = s.world.calls ++ ds.map (·.name)

/-- What an injection leaves when `d` at position `k` is the first that fails. The last field
says that it is the same whatever stands behind `d`. -/
structure StoppedAt (ch : Channel) (type : ArtefactType) (ds : List (Descriptor h))
    (s : Scene h) (k : Nat) (d : Descriptor h) (cause : Cause) : Prop where
  here : ds[k]? = some d
  first : FirstFailure ds s.workpiece k cause
  result : (ch.apply type ds s).2 =
    .error (.injection (h.className (ch.apply type ds s).1.target) type.name d.name k cause)
  workpiece : (ch.apply type ds s).1.workpiece = s.workpiece.after (ds.take (k + 1))
  received : ch.sink.received (ch.apply type ds s).1.world =
    ch.sink.received s.world ++ [ch.diagnostic type d.name k cause (ch.apply type ds s).1]
  calls : (ch.apply type ds s).1.world.calls =
    s.world.calls ++ (ds.take (k + 1)).map (·.name)
  unread : ∀ rest, ch.apply type (ds.take (k + 1) ++ rest) s = ch.apply type ds s

theorem ranThrough_of_allSucceed (ch : Channel) (type : ArtefactType)
    {ds : List (Descriptor h)} {s : Scene h} (hall : AllSucceed ds s.workpiece) :
    RanThrough ch type ds s := by
  have happly : ch.apply type ds s = (s.callingAll type ds, .ok ds.length) := by
    rw [← Nat.zero_add ds.length]
    exact applyFrom_of_allSucceed ch type ds 0 s hall
  refine ⟨hall, ?_, ?_, ?_, ?_⟩
  · rw [happly]
  · rw [happly]
    exact workpiece_callingAll type s ds
  · rw [happly]
    exact received_callingAll ch.sink type s ds
  · rw [happly]
    exact calls_callingAll type s ds

theorem stoppedAt_of_firstFailure (ch : Channel) (type : ArtefactType)
    {ds : List (Descriptor h)} {s : Scene h} {k : Nat} {cause : Cause} {d : Descriptor h}
    (hk : FirstFailure ds s.workpiece k cause) (hd : ds[k]? = some d) :
    StoppedAt ch type ds s k d cause := by
  have happly := applyFrom_of_firstFailure ch type ds 0 s hk hd
  rw [Nat.zero_add] at happly
  have hpiece := workpiece_callingAll type s (ds.take (k + 1))
  refine ⟨hd, hk, ?_, ?_, ?_, ?_, apply_take_append ch type hk⟩
  · unfold Channel.apply
    rw [happly]
    rfl
  · unfold Channel.apply
    rw [happly, ← hpiece]
    simp only [Scene.workpiece, emit_memory]
  · unfold Channel.apply
    rw [happly, received_emit, received_callingAll]
    simp only [Channel.diagnostic, emit_now]
  · unfold Channel.apply
    rw [happly, calls_emit]
    exact calls_callingAll type s (ds.take (k + 1))

theorem ranThrough_or_stoppedAt (ch : Channel) (type : ArtefactType) (ds : List (Descriptor h))
    (s : Scene h) : RanThrough ch type ds s ∨ ∃ k d cause, StoppedAt ch type ds s k d cause := by
  rcases allSucceed_or_firstFailure ds s.workpiece with hall | ⟨k, cause, hk⟩
  · exact Or.inl (ranThrough_of_allSucceed ch type hall)
  · have hlt := hk.lt_length
    exact Or.inr ⟨k, ds[k], cause,
      stoppedAt_of_firstFailure ch type hk (List.getElem?_eq_getElem hlt)⟩

/-- An injection does one of two things. Either all injectors succeed in their turn: then each
was called once, and the sink is as before. Or there is a least position whose injector fails:
then those up to it were called, what they changed stays, no other is called, and one
diagnostic reaches the sink. -/
theorem an_injection_ends_at_its_first_failure (ch : Channel) (type : ArtefactType)
    (ds : List (Descriptor h)) (s : Scene h) :
    Xor (RanThrough ch type ds s) (∃ k d cause, StoppedAt ch type ds s k d cause) := by
  rcases allSucceed_or_firstFailure ds s.workpiece with hall | ⟨k, cause, hk⟩
  · refine Or.inl ⟨ranThrough_of_allSucceed ch type hall, ?_⟩
    rintro ⟨k, d, cause, hstop⟩
    exact not_allSucceed_of_firstFailure hstop.first hall
  · have hlt := hk.lt_length
    refine Or.inr ⟨⟨k, ds[k], cause, ?_⟩, ?_⟩
    · exact stoppedAt_of_firstFailure ch type hk (List.getElem?_eq_getElem hlt)
    · exact fun hran => not_allSucceed_of_firstFailure hk hran.succeeds

end MarkerInjection
