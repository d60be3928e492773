-- Parts of a struct that are read back from their own tokens wherever they may stand in it, and
-- lists of such parts between angle brackets.
import MarkerInjection.Proofs.ClosedMembers
import MarkerInjection.Proofs.PrintedClasses

namespace MarkerInjection.Source

variable {α β : Type}

/-! ## Lists up to their closing bracket -/

section Lists

theorem pairs_cons (x : α) (xs : List α) (trailing : Bool) :
    (Punctuated.mk (x :: xs) trailing).pairs =
      (x, !xs.isEmpty || trailing) :: (Punctuated.mk xs trailing).pairs := by
  by_cases hxs : xs = []
  · subst hxs
    rfl
  · rw [← List.dropLast_append_getLast hxs, ← List.cons_append, pairs_concat, pairs_concat]
    simp

theorem print_cons (separator : String) (form : α → List Token) (x : α) (xs : List α)
    (trailing : Bool) : (Punctuated.mk (x :: xs) trailing).print separator form =
      form x ++ (if !xs.isEmpty || trailing then sign separator else []) ++
        (Punctuated.mk xs trailing).print separator form := by
  rw [Punctuated.print, pairs_cons]
  rfl

theorem ofPairs_pairs {xs : List α} {trailing : Bool} (h : xs = [] → trailing = false) :
    Punctuated.ofPairs (Punctuated.mk xs trailing).pairs = ⟨xs, trailing⟩ := by
  by_cases hxs : xs = []
  · rw [h hxs, hxs]
    rfl
  · rw [← List.dropLast_append_getLast hxs, pairs_concat]
    simp [Punctuated.ofPairs, Function.comp_def]

/-- One step through a list that a bracket closes. -/
def angledStep (member : Reader β) : Reader (List (β × Bool) × Bool) := do
  if ← next (atSign ">") then return ([], false)
  let x ← member
  if ← next (atSign ">") then return ([(x, false)], false)
  let _ ← takeSign ","
  return ([(x, true)], true)

/-- The member is read from its form before a comma and before a closing bracket, and no such
bracket is its first token. -/
structure ReadAs (member : Reader β) (form : List Token) (y : β) : Prop where
  read : ∀ d, d = ',' ∨ d = '>' → ∀ more, member ⟨form ++ .punct d false :: more, none⟩ =
    .ok (y, ⟨.punct d false :: more, none⟩)
  starts : ∀ more, atSign ">" (form ++ more) = false

variable {member : Reader β} {form : List Token} {y : β}

theorem ReadAs.angledStep_comma (h : ReadAs member form y) (more : List Token) :
    angledStep member ⟨form ++ .punct ',' false :: more, none⟩ =
      .ok (([(y, true)], true), ⟨more, none⟩) := by
  unfold angledStep
  rw [run_bind_of_ok (run_next _ _), h.starts]
  change (member >>= _ : Reader (List (β × Bool) × Bool)) _ = _
  rw [run_bind_of_ok (h.read ',' (Or.inl rfl) more)]
  rfl

theorem ReadAs.angledStep_last (h : ReadAs member form y) (more : List Token) :
    angledStep member ⟨form ++ .punct '>' false :: more, none⟩ =
      .ok (([(y, false)], false), ⟨.punct '>' false :: more, none⟩) := by
  unfold angledStep
  rw [run_bind_of_ok (run_next _ _), h.starts]
  change (member >>= _ : Reader (List (β × Bool) × Bool)) _ = _
  rw [run_bind_of_ok (h.read '>' (Or.inr rfl) more)]
  rfl

/-- The members are read one after the other. There are enough steps, as each but the last one has
a comma behind it. -/
theorem repeatAlong_angled {forms : α → List Token} {out : α → β} {xs : List α}
    (hread : ∀ x ∈ xs, ReadAs member (forms x) (out x)) (trailing : Bool) (rest : List Token)
    {fuel : List Token} (hfuel : xs.length ≤ fuel.length) :
    ∃ found, repeatAlong (angledStep member) fuel
        ⟨(Punctuated.mk xs trailing).print "," forms ++ .punct '>' false :: rest, none⟩ =
        .ok (found, ⟨.punct '>' false :: rest, none⟩) ∧
      found.flatten = (Punctuated.mk (xs.map out) trailing).pairs := by
  induction xs generalizing fuel with
  | nil => exact ⟨[[]], repeatAlong_stop rfl fuel, rfl⟩
  | cons x xs ih =>
    have hx := hread x List.mem_cons_self
    cases fuel with
    | nil => simp at hfuel
    | cons t fuel =>
      rw [List.length_cons, List.length_cons, Nat.add_le_add_iff_right] at hfuel
      rw [print_cons, List.map_cons, pairs_cons, List.isEmpty_map]
      cases hmore : !xs.isEmpty || trailing with
      | true =>
        obtain ⟨found, hothers, hfound⟩ :=
          ih (fun x' hx' => hread x' (List.mem_cons_of_mem x hx')) hfuel
        refine ⟨[(out x, true)] :: found, repeatAlong_again ?_ hothers, by simp [hfound]⟩
        simp only [if_true, List.append_assoc]
        exact hx.angledStep_comma _
      | false =>
        obtain ⟨rfl, rfl⟩ : xs = [] ∧ trailing = false := by simpa using hmore
        refine ⟨[[(out x, false)]], repeatAlong_stop ?_ _, rfl⟩
        have hnone : (Punctuated.mk ([] : List α) false).print "," forms = [] := rfl
        simp only [Bool.false_eq_true, if_false, List.append_nil, hnone]
        exact hx.angledStep_last rest

/-- Every member but the last one has a comma behind it. -/
theorem length_le_print (forms : α → List Token) (xs : List α) (trailing : Bool) :
    xs.length ≤ ((Punctuated.mk xs trailing).print "," forms).length + 1 := by
  induction xs with
  | nil => exact Nat.zero_le _
  | cons x xs ih =>
    rw [print_cons, List.length_append, List.length_append]
    cases xs with
    | nil => simp
    | cons x' xs =>
      have hcomma : (sign ",").length = 1 := rfl
      simp only [List.isEmpty_cons, Bool.not_false, Bool.true_or, if_true, List.length_cons,
        hcomma] at ih ⊢
      omega

theorem size_le_print (separator : String) (forms : α → List Token) {xs : List α} (trailing : Bool)
    {x : α} (hx : x ∈ xs) : sizeOfTokens (forms x) ≤
      sizeOfTokens ((Punctuated.mk xs trailing).print separator forms) := by
  induction xs with
  | nil => cases hx
  | cons y xs ih =>
    rw [print_cons, sizeOfTokens_append, sizeOfTokens_append]
    rcases List.mem_cons.mp hx with rfl | hx
    · omega
    · have hsize := ih hx
      omega

/-- A printed list is read as its members, up to the bracket that closes it. -/
theorem punctuated_angled {forms : α → List Token} {out : α → β} {xs : List α}
    (hread : ∀ x ∈ xs, ReadAs member (forms x) (out x)) {trailing : Bool}
    (htrailing : xs = [] → trailing = false) (rest : List Token) :
    punctuated (atSign ">") "," member
        ⟨(Punctuated.mk xs trailing).print "," forms ++ .punct '>' false :: rest, none⟩ =
      .ok (⟨xs.map out, trailing⟩, ⟨.punct '>' false :: rest, none⟩) := by
  have hfuel : xs.length ≤
      ((Punctuated.mk xs trailing).print "," forms ++ .punct '>' false :: rest).length := by
    have hlength := length_le_print forms xs trailing
    rw [List.length_append, List.length_cons]
    omega
  obtain ⟨found, hall, hfound⟩ := repeatAlong_angled hread trailing rest hfuel
  have hrepeated : repeated (angledStep member)
      ⟨(Punctuated.mk xs trailing).print "," forms ++ .punct '>' false :: rest, none⟩ =
      .ok (found, ⟨.punct '>' false :: rest, none⟩) := hall
  refine (run_bind_of_ok hrepeated).trans ?_
  rw [hfound]
  have hmembers : xs.map out = [] → trailing = false := fun h =>
    htrailing (List.map_eq_nil_iff.mp h)
  exact congrArg (fun list => Except.ok (list, Input.mk (.punct '>' false :: rest) none))
    (ofPairs_pairs hmembers)

end Lists

/-! ## Parts and what stands behind them -/

/-- Before each of the ends the rule reads these tokens as `x`, and leaves the end. -/
def ReadBefore (ends : List Token) (rule : Grammar → Reader α) (ts : List Token) (x : α) : Prop :=
  ∀ e ∈ ends, rule (grammar (depthFor (ts ++ [e]))) ⟨ts ++ [e], none⟩ = .ok (x, ⟨[e], none⟩)

/-- A rule for parts that stand before something else. -/
class PartRule (rule : Grammar → Reader α) : Prop where
  carries : ∀ (g g' : Grammar) [Below g g'] (ts : List Token), CarriesAt [] ts (rule g) (rule g')
  stops : ∀ (g : Grammar) [Stopping g] (c c' : List Token) [LikeEnds c c'] (ts : List Token),
    StopsAt c c' ts (rule g) (rule g)

/-- A part is read so at every depth that is enough, whatever stands behind such an end. -/
theorem ReadBefore.run {rule : Grammar → Reader α} [hrule : PartRule rule] {ends : List Token}
    {ts : List Token} {x : α} (h : ReadBefore ends rule ts x) {e : Token} (he : e ∈ ends)
    {c : List Token} (hends : LikeEnds [e] c) {n : Nat} (hn : depthFor (ts ++ [e]) ≤ n) :
    rule (grammar n) ⟨ts ++ c, none⟩ = .ok (x, ⟨c, none⟩) := by
  -- first at the greater depth before the end alone, then before what follows the end
  have hbelow := below_grammar hn
  have hcarries := hrule.carries (grammar (depthFor (ts ++ [e]))) (grammar n) (ts ++ [e])
  have hstops := hrule.stops (grammar n) [e] c ts
  obtain ⟨us, hus, hrun⟩ :=
    hstops.stops (hcarries.carries_nil (h e he)).1 (List.cons_ne_nil e [])
  obtain rfl : us = [] := by simpa using hus
  exact hrun

def comma : Token := .punct ',' false
def closing : Token := .punct '>' false
def equals : Token := .punct '=' false
def semicolon : Token := .punct ';' false
def body : Token := .group .brace []

instance partRule_typeTokens : PartRule typeTokens where
  carries _ _ _ _ := inferInstance
  stops _ _ _ _ _ _ := inferInstance

instance partRule_constArgument : PartRule constArgument where
  carries _ _ _ _ := inferInstance
  stops _ _ _ _ _ _ := inferInstance

instance partRule_whereClause : PartRule whereClause where
  carries _ _ _ _ := inferInstance
  stops _ _ _ _ _ _ := inferInstance

/-- The colon and the bounds of a lifetime. -/
def lifetimeBounds : Rule :=
  paramBounds (fun ts => ts.isEmpty || atSign "," ts || atSign ">" ts) lifetimeRule

/-- The colon and the bounds of a type parameter. -/
def typeBounds (g : Grammar) : Rule :=
  paramBounds (fun ts => atSign "," ts || atSign ">" ts || atSign "=" ts) (g.bound false true)

set_option synthInstance.maxSize 20000 in
instance partRule_lifetimeBounds : PartRule fun _ => lifetimeBounds where
  carries _ _ _ _ := by
    unfold lifetimeBounds
    infer_instance
  stops _ _ _ _ _ _ := by
    unfold lifetimeBounds
    infer_instance

set_option synthInstance.maxSize 20000 in
instance partRule_typeBounds : PartRule typeBounds where
  carries _ _ _ _ := by
    unfold typeBounds
    infer_instance
  stops _ _ _ _ _ _ := by
    unfold typeBounds
    infer_instance

/-! ## Attributes -/

section Attributes

variable {g : Grammar} {ts x : List Token} {l l' : Option Delimiter}

/-- An attribute is a hash and a group. -/
theorem outerAttribute_append {rest : List Token}
    (h : outerAttribute g ⟨ts, l⟩ = .ok (x, ⟨rest, l'⟩)) :
    (∃ joint inner, ts = .punct '#' joint :: .group .bracket inner :: rest) ∧
      ∀ c, outerAttribute g ⟨ts ++ c, l⟩ = .ok (x, ⟨rest ++ c, l'⟩) := by
  obtain ⟨mark, k, hmark, h⟩ := ok_of_run_bind h
  have hhash := at_of_run_takeSign hmark
  rw [run_takeSign_of_at hhash] at hmark
  cases hmark
  obtain ⟨joint, ts, rfl⟩ := eq_of_startsSign (c := '#') hhash
  obtain ⟨group, k, hgroup, h⟩ := ok_of_run_bind h
  cases h
  obtain ⟨content, k, hcontent, hgroup⟩ := ok_of_run_bind hgroup
  cases hgroup
  obtain ⟨inner, rest', y, after, k', heq, hinner, hmore, hend⟩ := ok_of_insideThen hcontent
  cases hmore
  cases hend
  obtain rfl : ts = .group .bracket inner :: rest' := heq
  refine ⟨⟨joint, inner, rfl⟩, fun c => ?_⟩
  have hpure : (pure content : Rule) ⟨rest' ++ c, after.leftover⟩ =
      .ok (content, ⟨rest' ++ c, after.leftover⟩) := rfl
  have hinside : within .bracket (metaTokens g) ⟨.group .bracket inner :: (rest' ++ c), l⟩ =
      .ok (_, _) := run_bind_of_ok (run_insideThen hinner hpure)
  have hhash : atSign "#" (.punct '#' joint :: .group .bracket inner :: (rest' ++ c)) = true := rfl
  exact (run_bind_of_ok (run_takeSign_of_at hhash l)).trans (run_bind_of_ok hinside)

/-- One more attribute, if a hash is next. -/
def attributeStep (g : Grammar) : Reader (List Token × Bool) := do
  if ← next (atSign "#") then return (← outerAttribute g, true)
  return ([], false)

theorem outerAttributes_eq (g : Grammar) :
    outerAttributes g = (do return (← repeated (attributeStep g)).flatten) := rfl

theorem attributeStep_of_hash (hhash : atSign "#" ts = true) :
    attributeStep g ⟨ts, l⟩ = (do return (← outerAttribute g, true) : Reader _) ⟨ts, l⟩ := by
  unfold attributeStep
  rw [run_bind_of_ok (run_next _ _), hhash]
  rfl

theorem attributeStep_of_none (hhash : atSign "#" ts = false) :
    attributeStep g ⟨ts, l⟩ = .ok (([], false), ⟨ts, l⟩) := by
  unfold attributeStep
  rw [run_bind_of_ok (run_next _ _), hhash]
  rfl

theorem repeatAlong_attributes {c : List Token} (hc : atSign "#" c = false)
    {found : List (List Token)} {fuel fuel' : List Token} (hfuel : ts.length ≤ fuel.length)
    (hmore : fuel.length ≤ fuel'.length)
    (h : repeatAlong (attributeStep g) fuel ⟨ts, l⟩ = .ok (found, ⟨[], l'⟩)) :
    repeatAlong (attributeStep g) fuel' ⟨ts ++ c, l⟩ = .ok (found, ⟨c, l'⟩) := by
  induction fuel generalizing fuel' ts l found with
  | nil =>
    obtain rfl : ts = [] := by simpa using hfuel
    cases h
    exact repeatAlong_stop (attributeStep_of_none hc) fuel'
  | cons t fuel ih =>
    cases hhash : atSign "#" ts with
    | false =>
      rw [repeatAlong_stop (attributeStep_of_none hhash)] at h
      cases h
      exact repeatAlong_stop (attributeStep_of_none hc) fuel'
    | true =>
      obtain ⟨⟨y, again⟩, ⟨rest, l''⟩, hstep, h⟩ := ok_of_run_bind h
      rw [attributeStep_of_hash hhash] at hstep
      obtain ⟨y', k, hread, hstep⟩ := ok_of_run_bind hstep
      cases hstep
      obtain ⟨others, k, hothers, h⟩ := ok_of_run_bind h
      cases h
      obtain ⟨⟨joint, inner, rfl⟩, happend⟩ := outerAttribute_append hread
      cases fuel' with
      | nil => simp at hmore
      | cons t' fuel' =>
        simp only [List.length_cons] at hfuel hmore
        have hshort : rest.length ≤ fuel.length := by omega
        have hlong : fuel.length ≤ fuel'.length := by omega
        have hfirst : attributeStep g
            ⟨.punct '#' joint :: .group .bracket inner :: rest ++ c, l⟩ =
              .ok ((y, true), ⟨rest ++ c, l''⟩) :=
          (attributeStep_of_hash rfl).trans (run_bind_of_ok (happend c))
        exact repeatAlong_again hfirst (ih hshort hlong hothers)

/-- Attributes end where no hash follows. -/
theorem outerAttributes_append {c : List Token} (hc : atSign "#" c = false)
    (h : outerAttributes g ⟨ts, l⟩ = .ok (x, ⟨[], l'⟩)) :
    outerAttributes g ⟨ts ++ c, l⟩ = .ok (x, ⟨c, l'⟩) := by
  rw [outerAttributes_eq] at h ⊢
  obtain ⟨found, k, hfound, h⟩ := ok_of_run_bind h
  cases h
  have hall : repeated (attributeStep g) ⟨ts ++ c, l⟩ = .ok (found, ⟨c, l'⟩) :=
    repeatAlong_attributes hc (Nat.le_refl _) (by simp) hfound
  exact run_bind_of_ok hall

end Attributes

/-! ## Parameters -/

/-- The parts of the parameter behind its attributes are read back from their own tokens. -/
def Param.PartsLegible (p : Param) : Prop :=
  match p.kind with
  | .lifetime =>
    ReadBefore [comma, closing] (fun _ => lifetimeBounds) (Param.printBounds p.bounds) p.bounds
  | .type default =>
    ReadBefore [comma, closing, equals] typeBounds (Param.printBounds p.bounds) p.bounds ∧
      ∀ d, default = some d → ReadBefore [comma, closing] typeTokens d d
  | .const type default =>
    ReadBefore [comma, closing, equals] typeTokens type type ∧
      ∀ d, default = some d → ReadBefore [comma, closing] constArgument d d

/-- Each part of the parameter is read back from its own tokens. -/
structure Param.Legible (p : Param) : Prop where
  attributes : readWith outerAttributes p.attributes = .ok p.attributes
  parts : p.PartsLegible

section Params

variable {p : Param} {n : Nat} {d : Char} {more : List Token}

theorem mem_paramEnds (hd : d = ',' ∨ d = '>') : .punct d false ∈ [comma, closing] := by
  rcases hd with rfl | rfl
  · exact List.mem_cons_self
  · exact List.mem_cons_of_mem _ List.mem_cons_self

theorem likeEnds_param (hd : d = ',' ∨ d = '>') (more : List Token) :
    LikeEnds [.punct d false] (.punct d false :: more) := by
  refine .signs d false more ?_
  rcases hd with rfl | rfl
  · exact Or.inl rfl
  · exact Or.inr (Or.inr ⟨Or.inl rfl, rfl⟩)

/-- The default of a parameter is read up to where the parameter ends. -/
theorem run_paramDefault {rule : Grammar → Rule} [PartRule rule] {default : Option (List Token)}
    (hdefault : ∀ ts, default = some ts → ReadBefore [comma, closing] rule ts ts)
    (hd : d = ',' ∨ d = '>') (more : List Token)
    (hn : depthFor (Param.printDefault default) ≤ n) :
    paramDefault (rule (grammar n)) ⟨Param.printDefault default ++ .punct d false :: more, none⟩ =
      .ok (default, ⟨.punct d false :: more, none⟩) := by
  cases default with
  | none =>
    rcases hd with rfl | rfl
    · rfl
    · rfl
  | some ts =>
    have hsize : depthFor (ts ++ [.punct d false]) ≤ n := by
      refine Nat.le_trans (Nat.le_of_eq ?_) hn
      have hequals : sizeOfTokens (sign "=") = 1 := rfl
      simp only [depthFor, Param.printDefault, sizeOfTokens_append, hequals, sizeOfTokens,
        Token.size]
      omega
    have hread := (hdefault ts rfl).run (mem_paramEnds hd) (likeEnds_param hd more) hsize
    have hequals : takeSign "=" ⟨sign "=" ++ ts ++ .punct d false :: more, none⟩ =
        .ok (sign "=", ⟨ts ++ .punct d false :: more, none⟩) := rfl
    have hnext : next (atSign "=") ⟨sign "=" ++ ts ++ .punct d false :: more, none⟩ =
        .ok (true, ⟨sign "=" ++ ts ++ .punct d false :: more, none⟩) := rfl
    unfold paramDefault
    rw [Param.printDefault, run_bind_of_ok hnext]
    exact (run_bind_of_ok hequals).trans (run_bind_of_ok hread)

/-- A part is read before a default, and before the end of the parameter if there is none. -/
theorem ReadBefore.run_default {rule : Grammar → Reader α} [PartRule rule] {ts : List Token} {x : α}
    (h : ReadBefore [comma, closing, equals] rule ts x) (default : Option (List Token))
    (hd : d = ',' ∨ d = '>') (more : List Token) (hn : depthFor ts + 4 ≤ n) :
    rule (grammar n) ⟨ts ++ (Param.printDefault default ++ .punct d false :: more), none⟩ =
      .ok (x, ⟨Param.printDefault default ++ .punct d false :: more, none⟩) := by
  have hsize (d : Char) : depthFor (ts ++ [.punct d false]) ≤ n := by
    simp only [depthFor, sizeOfTokens_append, sizeOfTokens, Token.size] at hn ⊢
    omega
  cases default with
  | none =>
    refine h.run ?_ (likeEnds_param hd more) (hsize d)
    exact List.mem_append_left [equals] (mem_paramEnds hd)
  | some value =>
    have hends : LikeEnds [equals] (equals :: (value ++ .punct d false :: more)) :=
      .signs '=' false _ (Or.inr (Or.inr ⟨Or.inr rfl, rfl⟩))
    exact h.run (List.mem_append_right [comma, closing] List.mem_cons_self) hends (hsize '=')

theorem atName_cons {w : String} (hw : reservedWords.contains w = false) (r : List Token) :
    atName (.ident w :: r) = true := by
  change (!reservedWords.contains w) = true
  rw [hw]
  rfl

theorem run_takeName {w : String} (hw : reservedWords.contains w = false) (r : List Token)
    (l : Option Delimiter) : takeName ⟨.ident w :: r, l⟩ = .ok (w, ⟨r, l⟩) := by
  change (if reservedWords.contains w then _ else _ : Reader String) _ = _
  rw [hw]
  rfl

/-- No reserved word is a name. -/
theorem atWord_of_name {w v : String} (hw : reservedWords.contains w = false)
    (hv : reservedWords.contains v = true) (r : List Token) : atWord v (.ident w :: r) = false := by
  change (w == v) = false
  rw [beq_eq_false_iff_ne]
  rintro rfl
  rw [hw] at hv
  cases hv

/-- What stands behind the attributes of a parameter. -/
def Param.rest (p : Param) : List Token := { p with attributes := [] : Param }.declaration

theorem declaration_eq (p : Param) : p.declaration = p.attributes ++ p.rest := by
  obtain ⟨attributes, name, bounds, kind⟩ := p
  cases kind with
  | _ => simp [Param.rest, Param.declaration, Param.head, Param.reference, Param.isLifetime]

theorem run_lifetimeParam (attributes : List Token) (hkind : p.kind = .lifetime)
    (hbounds : ReadBefore [comma, closing] (fun _ => lifetimeBounds) (Param.printBounds p.bounds)
      p.bounds)
    (hd : d = ',' ∨ d = '>') (more : List Token) :
    lifetimeParam attributes ⟨p.rest ++ .punct d false :: more, none⟩ =
      .ok (⟨attributes, p.name, p.bounds, .lifetime⟩, ⟨.punct d false :: more, none⟩) := by
  have hrest : p.rest = lifetimeTokens p.name ++ Param.printBounds p.bounds := by
    simp [Param.rest, Param.declaration, Param.head, Param.reference, Param.isLifetime, hkind]
  have hname : takeLifetime ⟨p.rest ++ .punct d false :: more, none⟩ =
      .ok (p.name, ⟨Param.printBounds p.bounds ++ .punct d false :: more, none⟩) := by
    rw [hrest]
    rfl
  have hread := hbounds.run (mem_paramEnds hd) (likeEnds_param hd more) (Nat.le_refl _)
  exact (run_bind_of_ok hname).trans (run_bind_of_ok hread)

theorem run_typeParam (attributes : List Token) {default : Option (List Token)}
    (hkind : p.kind = .type default) (hname : reservedWords.contains p.name = false)
    (hbounds : ReadBefore [comma, closing, equals] typeBounds (Param.printBounds p.bounds) p.bounds)
    (hdefault : ∀ ts, default = some ts → ReadBefore [comma, closing] typeTokens ts ts)
    (hd : d = ',' ∨ d = '>') (more : List Token) (hn : depthFor p.rest ≤ n) :
    typeParam (grammar n) attributes ⟨p.rest ++ .punct d false :: more, none⟩ =
      .ok (⟨attributes, p.name, p.bounds, .type default⟩, ⟨.punct d false :: more, none⟩) := by
  have hrest : p.rest =
      .ident p.name :: (Param.printBounds p.bounds ++ Param.printDefault default) := by
    simp [Param.rest, Param.declaration, Param.head, Param.reference, Param.isLifetime, hkind]
  rw [hrest] at hn ⊢
  simp only [depthFor, sizeOfTokens, Token.size, sizeOfTokens_append] at hn
  rw [List.cons_append, List.append_assoc]
  have hread := hbounds.run_default default hd more (n := n) (by
    simp only [depthFor]
    omega)
  have hvalue := run_paramDefault hdefault hd more (n := n) (by
    simp only [depthFor]
    omega)
  exact (run_bind_of_ok (run_takeName hname _ none)).trans
    ((run_bind_of_ok hread).trans (run_bind_of_ok hvalue))

theorem run_constParam (attributes : List Token) {type : List Token}
    {default : Option (List Token)} (hkind : p.kind = .const type default)
    (hname : reservedWords.contains p.name = false)
    (htype : ReadBefore [comma, closing, equals] typeTokens type type)
    (hdefault : ∀ ts, default = some ts → ReadBefore [comma, closing] constArgument ts ts)
    (hd : d = ',' ∨ d = '>') (more : List Token) (hn : depthFor p.rest ≤ n) :
    constParam (grammar n) attributes ⟨p.rest ++ .punct d false :: more, none⟩ =
      .ok (⟨attributes, p.name, [], .const type default⟩, ⟨.punct d false :: more, none⟩) := by
  have hrest : p.rest = .ident "const" :: .ident p.name :: .punct ':' false ::
      (type ++ Param.printDefault default) := by
    simp [Param.rest, Param.declaration, Param.head, Param.reference, Param.isLifetime, hkind,
      sign, signTokens]
  rw [hrest] at hn ⊢
  simp only [depthFor, sizeOfTokens, Token.size, sizeOfTokens_append] at hn
  simp only [List.cons_append, List.append_assoc]
  have hread := htype.run_default default hd more (n := n) (by
    simp only [depthFor]
    omega)
  have hvalue := run_paramDefault hdefault hd more (n := n) (by
    simp only [depthFor]
    omega)
  have hword (r : List Token) :
      takeWord "const" ⟨.ident "const" :: r, none⟩ = .ok ([.ident "const"], ⟨r, none⟩) := rfl
  have hcolon (r : List Token) :
      takeSign ":" ⟨.punct ':' false :: r, none⟩ = .ok (sign ":", ⟨r, none⟩) := rfl
  exact (run_bind_of_ok (hword _)).trans ((run_bind_of_ok (run_takeName hname _ none)).trans
    ((run_bind_of_ok (hcolon _)).trans ((run_bind_of_ok hread).trans (run_bind_of_ok hvalue))))

/-- A parameter behind its attributes. -/
def paramBehind (g : Grammar) (attributes : List Token) : Reader Param := do
  let ts ← ahead
  if atLifetime ts then lifetimeParam attributes
  else if atName ts then typeParam g attributes
  else if atWord "const" ts then constParam g attributes
  else if atWord "_" ts then
    return ⟨attributes, ← takeAnyWord, [], .type none⟩
  else wanting ["lifetime", "identifier", quoted "const"]

theorem genericParam_eq (g : Grammar) : genericParam g = outerAttributes g >>= paramBehind g := rfl

theorem run_paramBehind (hshape : p.Shaped) (hparts : p.PartsLegible) (hd : d = ',' ∨ d = '>')
    (more : List Token) (hn : depthFor p.rest ≤ n) :
    atSign "#" (p.rest ++ .punct d false :: more) = false ∧
      paramBehind (grammar n) p.attributes ⟨p.rest ++ .punct d false :: more, none⟩ =
        .ok (p, ⟨.punct d false :: more, none⟩) := by
  obtain ⟨attributes, name, bounds, kind⟩ := p
  cases hshape with
  | lifetime hkind =>
    obtain rfl : kind = .lifetime := hkind
    exact ⟨rfl, run_lifetimeParam attributes rfl hparts hd more⟩
  | type default hkind hname =>
    obtain rfl : kind = .type default := hkind
    refine ⟨rfl, ?_⟩
    have hread := run_typeParam attributes rfl hname hparts.1 hparts.2 hd more hn
    change (if atName (.ident name :: _) then _ else _ : Reader Param) _ = _
    rw [atName_cons hname]
    exact hread
  | const type default hkind hname hbounds =>
    obtain rfl : kind = .const type default := hkind
    obtain rfl : bounds = [] := hbounds
    exact ⟨rfl, run_constParam attributes rfl hname hparts.1 hparts.2 hd more hn⟩
  | underscore hkind hname hbounds =>
    obtain rfl : kind = .type none := hkind
    obtain rfl : name = "_" := hname
    obtain rfl : bounds = [] := hbounds
    exact ⟨rfl, rfl⟩

/-- A legible parameter is read back before a comma and before a closing bracket. -/
theorem run_genericParam (hp : p.WellFormed) (hlegible : p.Legible) (hd : d = ',' ∨ d = '>')
    (more : List Token) (hn : depthFor p.declaration ≤ n) :
    genericParam (grammar n) ⟨p.declaration ++ .punct d false :: more, none⟩ =
      .ok (p, ⟨.punct d false :: more, none⟩) := by
  rw [declaration_eq] at hn ⊢
  have hsize : depthFor p.attributes ≤ n ∧ depthFor p.rest ≤ n := by
    simp only [depthFor, sizeOfTokens_append] at hn ⊢
    omega
  have hbelow := below_grammar hsize.1
  have hcarries : CarriesAt [] p.attributes (outerAttributes (grammar (depthFor p.attributes)))
      (outerAttributes (grammar n)) := inferInstance
  have hattributes := (hcarries.carries_nil (run_of_readAll hlegible.attributes)).1
  obtain ⟨hhash, hrest⟩ := run_paramBehind hp.shape hlegible.parts hd more hsize.2
  rw [genericParam_eq, List.append_assoc]
  exact (run_bind_of_ok (outerAttributes_append hhash hattributes)).trans hrest

/-- No parameter begins with a closing bracket. -/
theorem atSign_closing_declaration (hp : p.WellFormed) (more : List Token) :
    atSign ">" (p.declaration ++ more) = false := by
  obtain ⟨attributes, name, bounds, kind⟩ := p
  obtain ⟨rfl | ⟨rest, rfl⟩, -⟩ := hp
  · cases kind with
    | _ => rfl
  · rfl

theorem readAs_genericParam (hp : p.WellFormed) (hlegible : p.Legible)
    (hn : depthFor p.declaration ≤ n) : ReadAs (genericParam (grammar n)) p.declaration p where
  read _ hd more := run_genericParam hp hlegible hd more hn
  starts := atSign_closing_declaration hp

theorem isLifetime_withoutDefault (p : Param) : p.withoutDefault.isLifetime = p.isLifetime := by
  obtain ⟨attributes, name, bounds, kind⟩ := p
  cases kind with
  | _ => rfl

theorem Param.WellFormed.withoutDefault (hp : p.WellFormed) : p.withoutDefault.WellFormed := by
  obtain ⟨hattributes, hshape⟩ := hp
  refine ⟨hattributes, ?_⟩
  cases hshape with
  | lifetime hkind => exact .lifetime (by simp [Param.withoutDefault, hkind])
  | type default hkind hname => exact .type none (by simp [Param.withoutDefault, hkind]) hname
  | const type default hkind hname hbounds =>
    exact .const type none (by simp [Param.withoutDefault, hkind]) hname hbounds
  | underscore hkind hname hbounds =>
    exact .underscore (by simp [Param.withoutDefault, hkind]) hname hbounds

/-- What is legible stays so without its default. -/
theorem Param.Legible.withoutDefault (hp : p.Legible) : p.withoutDefault.Legible := by
  obtain ⟨hattributes, hparts⟩ := hp
  refine ⟨hattributes, ?_⟩
  obtain ⟨attributes, name, bounds, kind⟩ := p
  cases kind with
  | lifetime => exact hparts
  | type default => exact ⟨hparts.1, by simp⟩
  | const type default => exact ⟨hparts.1, by simp⟩

end Params

/-! ## Parameter lists -/

/-- The tokens of an argument that names the parameter, and whether it is a lifetime. -/
def Param.argument (p : Param) : List Token × Bool := (p.reference, p.isLifetime)

namespace Generics

theorem mem_ordered {ps : Punctuated Param} {p : Param} :
    p ∈ (ordered ps).members ↔ p ∈ ps.members := by
  change p ∈ ps.members.filter (·.isLifetime) ++ ps.members.filter (!·.isLifetime) ↔ _
  rw [List.mem_append, List.mem_filter, List.mem_filter, ← and_or_left, Bool.not_eq_true']
  exact and_iff_left (Bool.eq_false_or_eq_true _)

theorem ordered_eq_nil {ps : Punctuated Param} (h : (ordered ps).members = []) :
    ps.members = [] :=
  List.eq_nil_iff_forall_not_mem.mpr fun _ hp => by simpa [h] using mem_ordered.mpr hp

/-- The parameters as they are read from their printed form: in their printed order, each as `out`
tells. -/
def readBack (out : Param → Param) (g : Generics) : Generics :=
  if g.params.members.isEmpty then .none
  else ⟨true, ⟨(ordered g.params).members.map out, (ordered g.params).trailing⟩, Option.none⟩

/-- Where the lifetimes come first already, the order stays. -/
theorem ordered_ordered (out : Param → Param) (hout : ∀ p, (out p).isLifetime = p.isLifetime)
    (ps : Punctuated Param) :
    ordered ⟨(ordered ps).members.map out, (ordered ps).trailing⟩ =
      ⟨(ordered ps).members.map out, (ordered ps).trailing⟩ := by
  unfold ordered
  dsimp only
  generalize (ps.trailing || _) = trailing
  have hlifetimes : ∀ p ∈ ps.members.filter (·.isLifetime), p.isLifetime = true := fun p hp =>
    (List.mem_filter.mp hp).2
  have hothers : ∀ p ∈ ps.members.filter (!·.isLifetime), p.isLifetime = false := fun p hp => by
    simpa using (List.mem_filter.mp hp).2
  generalize ps.members.filter (·.isLifetime) = lifetimes at hlifetimes
  generalize ps.members.filter (!·.isLifetime) = others at hothers
  have hfirst : ((lifetimes ++ others).map out).filter (·.isLifetime) = lifetimes.map out := by
    rw [List.map_append, List.filter_append, List.filter_eq_self.mpr, List.filter_eq_nil_iff.mpr,
      List.append_nil]
    · simpa [hout] using hothers
    · simpa [hout] using hlifetimes
  have hsecond : ((lifetimes ++ others).map out).filter (!·.isLifetime) = others.map out := by
    rw [List.map_append, List.filter_append, List.filter_eq_nil_iff.mpr, List.filter_eq_self.mpr,
      List.nil_append]
    · simpa [hout] using hothers
    · simpa [hout] using hlifetimes
  have hmoved : (((lifetimes ++ others).map out).getLast?.any (·.isLifetime) &&
      !(others.map out).isEmpty) = false := by
    rcases List.eq_nil_or_concat others with rfl | ⟨others, p, rfl⟩
    · simp
    · simp [hout, hothers p]
  rw [hfirst, hsecond, hmoved, Bool.or_false, List.map_append]

theorem print_map {form : Param → List Token} {out : Param → Param} (xs : List Param)
    (trailing : Bool) : (Punctuated.mk (xs.map out) trailing).print "," form =
      (Punctuated.mk xs trailing).print "," fun p => form (out p) := by
  induction xs with
  | nil => rfl
  | cons x xs ih => rw [List.map_cons, print_cons, print_cons, ih, List.isEmpty_map]

/-- What was read back is listed as before. -/
theorem listed_readBack {form : Param → List Token} (out : Param → Param)
    (hout : ∀ p, (out p).isLifetime = p.isLifetime) (g : Generics) :
    (g.readBack out).listed form = g.listed fun p => form (out p) := by
  unfold readBack
  split
  · rename_i hnone
    simp only [listed, hnone]
    rfl
  · rename_i hsome
    have hmembers : ((ordered g.params).members.map out).isEmpty = false := by
      rw [List.isEmpty_map, Bool.eq_false_iff]
      exact fun h => hsome (List.isEmpty_iff.mpr (ordered_eq_nil (List.isEmpty_iff.mp h)))
    unfold listed
    rw [if_neg hsome, ordered_ordered out hout, print_map]
    simp only [hmembers, Bool.false_eq_true, if_false]

theorem size_le_listed (form : Param → List Token) {g : Generics} {p : Param}
    (hp : p ∈ g.params.members) : sizeOfTokens (form p) ≤ sizeOfTokens (g.listed form) := by
  have hsome : g.params.members.isEmpty = false := by
    cases hmembers : g.params.members with
    | nil => simp [hmembers] at hp
    | cons q qs => rfl
  have hsize : sizeOfTokens (form p) ≤ sizeOfTokens ((ordered g.params).print "," form) :=
    size_le_print "," form (ordered g.params).trailing (mem_ordered.mpr hp)
  simp only [listed, hsome, Bool.false_eq_true, if_false, sizeOfTokens_append]
  omega

/-- Arguments are put into the same order as parameters. -/
theorem lifetimesFirst_argument (ps : Punctuated Param) :
    lifetimesFirst ⟨ps.members.map Param.argument, ps.trailing⟩ =
      printOrdered (·.reference) ps := by
  obtain ⟨members, trailing⟩ := ps
  have hpairs : (Punctuated.mk (members.map Param.argument) trailing).pairs =
      (Punctuated.mk members trailing).pairs.map fun pair => (pair.1.argument, pair.2) := by
    induction members with
    | nil => rfl
    | cons p members ih => rw [List.map_cons, pairs_cons, pairs_cons, ih, List.isEmpty_map]; rfl
  unfold lifetimesFirst printOrdered
  rw [hpairs]
  simp only [List.filter_map, Function.comp_def, List.getLast?_map, List.flatMap_map,
    List.isEmpty_map, Param.argument, Punctuated.printPair]
  cases ((Punctuated.mk members trailing).pairs.filter (·.1.isLifetime)).getLast? with
  | _ => rfl

end Generics

section ParamLists

variable {g : Generics} {form : Param → List Token} {out : Param → Param} {n : Nat}

open Generics

theorem run_generics
    (hread : ∀ p ∈ g.params.members, ReadAs (genericParam (grammar n)) (form p) (out p))
    {rest : List Token} (hrest : atSign "<" rest = false) :
    generics (grammar n) ⟨g.listed form ++ rest, none⟩ = .ok (g.readBack out, ⟨rest, none⟩) := by
  unfold listed readBack
  split
  · unfold generics
    rw [List.nil_append, run_bind_of_ok (run_next _ _), hrest]
    rfl
  · rename_i hsome
    have htrailing : (ordered g.params).members = [] → (ordered g.params).trailing = false :=
      fun h => absurd (List.isEmpty_iff.mpr (ordered_eq_nil h)) hsome
    have hlist := punctuated_angled (fun p hp => hread p (mem_ordered.mp hp)) htrailing rest
    rw [List.append_assoc, List.append_assoc]
    exact run_bind_of_ok (f := fun params => do
      let _ ← takeSign ">"
      return (⟨true, params, none⟩ : Generics)) hlist

theorem run_angleArguments (hsome : g.params.members.isEmpty = false)
    (hread : ∀ p ∈ g.params.members, ReadAs (genericArgument (grammar n)) p.reference p.argument)
    (rest : List Token) :
    angleArguments (grammar n) ⟨g.listed (·.reference) ++ rest, none⟩ =
      .ok (g.listed (·.reference), ⟨rest, none⟩) := by
  have htrailing : (ordered g.params).members = [] → (ordered g.params).trailing = false := by
    intro h
    rw [ordered_eq_nil h] at hsome
    cases hsome
  have hlist := punctuated_angled (fun p hp => hread p (mem_ordered.mp hp)) htrailing rest
  have hprint : lifetimesFirst ⟨(ordered g.params).members.map Param.argument,
      (ordered g.params).trailing⟩ = (ordered g.params).print "," (·.reference) := by
    rw [lifetimesFirst_argument, printOrdered_eq]
    have hsame := ordered_ordered id (fun _ => rfl) g.params
    rw [List.map_id] at hsame
    rw [hsame]
  have hlisted : g.listed (·.reference) =
      sign "<" ++ (ordered g.params).print "," (·.reference) ++ sign ">" := by
    rw [listed, hsome]
    rfl
  rw [hlisted, List.append_assoc, List.append_assoc]
  refine (run_bind_of_ok (f := fun args => do
      let closing ← takeSign ">"
      return sign "<" ++ lifetimesFirst args ++ closing) hlist).trans ?_
  rw [← hprint]
  rfl

end ParamLists

end MarkerInjection.Source
