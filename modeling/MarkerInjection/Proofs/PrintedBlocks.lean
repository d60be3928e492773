-- The text of a class is read as the items that were printed: the struct, and for members that
-- were pushed to it, one `impl` block.
import MarkerInjection.Proofs.LegibleStructs

namespace MarkerInjection.Source

/-! ## Names as types -/

section Names

variable {g : Grammar} {w : String} {args c ts : List Token}

/-- No part of a path or of a type follows. -/
structure EndsType (c : List Token) : Prop where
  less : atSign "<" c = false
  colons : atSign "::" c = false
  bang : atSign "!" c = false
  plus : atSign "+" c = false
  hash : atSign "#" c = false

/-- A name is the name of a segment. -/
theorem segment_of_name (hw : reservedWords.contains w = false) :
    segment g false ⟨.ident w :: ts, none⟩ = (do
      let ts ← ahead
      let direct := atSign "<" ts && !atSign "<=" ts && !atSign "<<=" ts
      if direct || (atSign "::" ts && atSign "<" (behind (behind ts))) then
        return ([.ident w], ← optSign "::" ++ angleArguments g)
      return ([.ident w], []) : Reader (List Token × List Token)) ⟨ts, none⟩ := by
  have hroot : (atWord "super" (.ident w :: ts) || atWord "self" (.ident w :: ts) ||
      atWord "crate" (.ident w :: ts) || atWord "try" (.ident w :: ts)) = false := by
    rw [atWord_of_name hw rfl, atWord_of_name hw rfl, atWord_of_name hw rfl,
      atWord_of_name hw rfl]
    rfl
  have hself : atWord "Self" (.ident w :: ts) = false := atWord_of_name hw rfl ts
  have hname : nameRule ⟨.ident w :: ts, none⟩ = .ok ([.ident w], ⟨ts, none⟩) :=
    run_bind_of_ok (run_takeName hw ts none)
  have hahead : ahead ⟨.ident w :: ts, none⟩ = .ok (_, _) := rfl
  unfold segment
  rw [run_bind_of_ok hahead, hroot]
  simp only [hself, Bool.false_eq_true, if_false]
  exact run_bind_of_ok hname

theorem run_segment_bare (hw : reservedWords.contains w = false) (hc : EndsType c) :
    segment g false ⟨.ident w :: c, none⟩ = .ok (([.ident w], []), ⟨c, none⟩) := by
  rw [segment_of_name hw]
  have hbehind : (do
      let ts ← ahead
      let direct := atSign "<" ts && !atSign "<=" ts && !atSign "<<=" ts
      if direct || (atSign "::" ts && atSign "<" (behind (behind ts))) then
        return ([.ident w], ← optSign "::" ++ angleArguments g)
      return ([.ident w], []) : Reader (List Token × List Token)) ⟨c, none⟩ =
      (if (atSign "<" c && !atSign "<=" c && !atSign "<<=" c) ||
          (atSign "::" c && atSign "<" (behind (behind c))) then
        (do return ([.ident w], ← optSign "::" ++ angleArguments g))
      else return ([.ident w], []) : Reader (List Token × List Token)) ⟨c, none⟩ := rfl
  rw [hbehind, hc.less, hc.colons]
  rfl

theorem run_segment_args (hw : reservedWords.contains w = false)
    (hread : angleArguments g ⟨.punct '<' false :: args ++ c, none⟩ =
      .ok (.punct '<' false :: args, ⟨c, none⟩)) :
    segment g false ⟨.ident w :: (.punct '<' false :: args ++ c), none⟩ =
      .ok (([.ident w], .punct '<' false :: args), ⟨c, none⟩) := by
  rw [segment_of_name hw]
  have hcolons : optSign "::" ⟨.punct '<' false :: args ++ c, none⟩ =
      .ok ([], ⟨.punct '<' false :: args ++ c, none⟩) := rfl
  have harguments : (optSign "::" ++ angleArguments g) ⟨.punct '<' false :: args ++ c, none⟩ =
      .ok (.punct '<' false :: args, ⟨c, none⟩) :=
    (run_bind_of_ok hcolons).trans (run_bind_of_ok hread)
  exact run_bind_of_ok (f := fun args => pure ([Token.ident w], args)) harguments

theorem run_path_of_segment (hc : EndsType c)
    (hsegment : segment g false ⟨.ident w :: ts, none⟩ = .ok (([.ident w], args), ⟨c, none⟩)) :
    path g false ⟨.ident w :: ts, none⟩ =
      .ok (⟨[.ident w], args, 1, false, args.isEmpty⟩, ⟨c, none⟩) := by
  have hleading : next (atSign "::") ⟨.ident w :: ts, none⟩ = .ok (false, ⟨.ident w :: ts, none⟩) :=
    rfl
  have hlead : optSign "::" ⟨.ident w :: ts, none⟩ = .ok ([], ⟨.ident w :: ts, none⟩) := rfl
  have hmore : repeated (do
      if ← next fun ts => atSign "::" ts && !atCallBehindColons ts then
        let _ ← takeSign "::"
        return ([← segment g false], true)
      return ([], false)) ⟨c, none⟩ = .ok ([[]], ⟨c, none⟩) := by
    refine repeatAlong_stop ?_ _
    rw [run_bind_of_ok (run_next _ _), hc.colons]
    rfl
  unfold path
  rw [run_bind_of_ok hleading, run_bind_of_ok hlead, run_bind_of_ok hsegment]
  exact run_bind_of_ok hmore

theorem run_pathType_of_segment (hc : EndsType c) (plus : Bool)
    (hsegment : segment g false ⟨.ident w :: ts, none⟩ = .ok (([.ident w], args), ⟨c, none⟩)) :
    pathType g plus [] ⟨.ident w :: ts, none⟩ =
      .ok (⟨.ident w :: args, .path true⟩, ⟨c, none⟩) := by
  have hless : next (atSign "<") ⟨.ident w :: ts, none⟩ = .ok (false, ⟨.ident w :: ts, none⟩) := rfl
  have hqualified : qualifiedPath g false ⟨.ident w :: ts, none⟩ =
      .ok ((⟨[.ident w], args, 1, false, args.isEmpty⟩, false), ⟨c, none⟩) := by
    unfold qualifiedPath
    rw [run_bind_of_ok hless]
    exact run_bind_of_ok (run_path_of_segment hc hsegment)
  have hbang : next atBang ⟨c, none⟩ = .ok (false, ⟨c, none⟩) := by
    rw [run_next, atBang, hc.bang, Bool.false_and]
  have hplus : next (atSign "+") ⟨c, none⟩ = .ok (false, ⟨c, none⟩) := by rw [run_next, hc.plus]
  unfold pathType
  rw [run_bind_of_ok hqualified]
  simp only [Bool.false_eq_true, if_false, List.isEmpty_nil, Bool.not_true, Bool.false_or]
  rw [run_bind_of_ok hbang, Bool.and_false, if_neg Bool.false_ne_true, run_bind_of_ok hplus,
    Bool.and_false, if_neg Bool.false_ne_true]
  rfl

theorem run_typeRule_of_name (hw : reservedWords.contains w = false) (hts : atSign "#" ts = false)
    (plus : Bool) :
    typeRule g plus ⟨.ident w :: ts, none⟩ = pathType g plus [] ⟨.ident w :: ts, none⟩ := by
  have hfor : atWord "for" (.ident w :: ts) = false := atWord_of_name hw rfl ts
  have hfunction : atFunctionType (.ident w :: ts) = false := by
    unfold atFunctionType
    rw [atWord_of_name hw rfl, atWord_of_name hw rfl, atWord_of_name hw rfl]
    rfl
  have hbuiltin : atBuiltin (.ident w :: ts) = false := by
    change (_ && atSign "#" ts) = false
    rw [hts, Bool.and_false]
  change (if atWord "for" (.ident w :: ts) then _ else simpleType g plus : Reader TypeForm) _ = _
  rw [hfor]
  change (if atFunctionType (.ident w :: ts) then _ else if atBuiltin (.ident w :: ts) then _ else
    if atName (.ident w :: ts) || _ || _ || _ then _ else _ : Reader TypeForm) _ = _
  rw [hfunction, hbuiltin, atName_cons hw]
  rfl

end Names

/-! ## The names of parameters as arguments -/

section Arguments

variable {g : Grammar} {p : Param} {d : Char} {n : Nat}

theorem endsType_param (hd : d = ',' ∨ d = '>') (more : List Token) :
    EndsType (.punct d false :: more) := by
  rcases hd with rfl | rfl
  · exact ⟨rfl, rfl, rfl, rfl, rfl⟩
  · exact ⟨rfl, rfl, rfl, rfl, rfl⟩

theorem run_type_of_name {w : String} {c : List Token} (hw : reservedWords.contains w = false)
    (hc : EndsType c) (plus : Bool) : (grammar (n + 1)).type plus ⟨.ident w :: c, none⟩ =
      .ok (⟨[.ident w], .path true⟩, ⟨c, none⟩) :=
  (run_typeRule_of_name hw hc.hash plus).trans
    (run_pathType_of_segment hc plus (run_segment_bare hw hc))

theorem run_genericArgument_of_name {w : String} (hw : reservedWords.contains w = false)
    (hd : d = ',' ∨ d = '>') (more : List Token) :
    genericArgument (grammar (n + 1)) ⟨.ident w :: .punct d false :: more, none⟩ =
      .ok (([.ident w], false), ⟨.punct d false :: more, none⟩) := by
  have hliteral : atConstArgument (.ident w :: .punct d false :: more) = false := by
    have htruth : atLiteral (.ident w :: .punct d false :: more) =
        (atWord "true" (.ident w :: .punct d false :: more) ||
          atWord "false" (.ident w :: .punct d false :: more)) := rfl
    rw [atConstArgument, htruth, atWord_of_name hw rfl, atWord_of_name hw rfl]
    rfl
  have htype := run_type_of_name (n := n) hw (endsType_param hd more) true
  change (if atConstArgument (.ident w :: .punct d false :: more) then _ else _ :
    Reader (List Token × Bool)) _ = _
  rw [hliteral]
  refine (run_bind_of_ok htype).trans ?_
  rcases hd with rfl | rfl
  · rfl
  · rfl

/-- The name of a parameter is an argument. -/
theorem readAs_genericArgument (hp : p.Shaped) :
    ReadAs (genericArgument (grammar (n + 1))) p.reference p.argument := by
  obtain ⟨attributes, name, bounds, kind⟩ := p
  cases hp with
  | lifetime hkind =>
    obtain rfl : kind = .lifetime := hkind
    refine ⟨fun d hd more => ?_, fun more => rfl⟩
    rcases hd with rfl | rfl
    · rfl
    · rfl
  | type default hkind hname =>
    obtain rfl : kind = .type default := hkind
    exact ⟨fun d hd more => run_genericArgument_of_name hname hd more, fun more => rfl⟩
  | const type default hkind hname hbounds =>
    obtain rfl : kind = .const type default := hkind
    exact ⟨fun d hd more => run_genericArgument_of_name hname hd more, fun more => rfl⟩
  | underscore hkind hname hbounds =>
    obtain rfl : kind = .type none := hkind
    obtain rfl : name = "_" := hname
    refine ⟨fun d hd more => ?_, fun more => rfl⟩
    rcases hd with rfl | rfl
    · rfl
    · rfl

/-- The name of a struct with the names of its parameters is a type. -/
theorem run_ownType {g : Generics} {w : String} {c : List Token}
    (hw : reservedWords.contains w = false) (hg : ∀ p ∈ g.params.members, p.Shaped)
    (hc : EndsType c) : (grammar (n + 2)).type true
      ⟨.ident w :: (g.listed (·.reference) ++ c), none⟩ =
        .ok (⟨.ident w :: g.listed (·.reference), .path true⟩, ⟨c, none⟩) := by
  cases hsome : g.params.members.isEmpty with
  | true =>
    have hnone : g.listed (·.reference) = [] := by simp only [Generics.listed, hsome, if_true]
    rw [hnone]
    exact run_type_of_name hw hc true
  | false =>
    have hread := run_angleArguments (n := n + 1) hsome
      (fun p hp => readAs_genericArgument (hg p hp)) c
    obtain ⟨args, hargs⟩ : ∃ args, g.listed (·.reference) = .punct '<' false :: args := by
      rw [Generics.listed, hsome]
      exact ⟨_, rfl⟩
    rw [hargs] at hread ⊢
    exact (run_typeRule_of_name hw rfl true).trans
      (run_pathType_of_segment hc true (run_segment_args hw hread))

end Arguments

/-! ## Pieces up to the end -/

section Pieces

variable {α : Type} {r : Reader α}

/-- One more piece, unless the end is next. -/
def untilStep (r : Reader α) : Reader (List α × Bool) := do
  if ← atEnd then return ([], false)
  return ([← r], true)

theorem untilStep_of_ne_nil {ts : List Token} (hts : ts ≠ []) :
    untilStep r ⟨ts, none⟩ = (do return ([← r], true) : Reader (List α × Bool)) ⟨ts, none⟩ := by
  obtain ⟨t, ts, rfl⟩ := List.exists_cons_of_ne_nil hts
  rfl

theorem repeatAlong_pieces {pieces : List (List Token × α)} (hsome : ∀ p ∈ pieces, p.1 ≠ [])
    (hread : ∀ p ∈ pieces, ∀ more, r ⟨p.1 ++ more, none⟩ = .ok (p.2, ⟨more, none⟩))
    {fuel : List Token} (hfuel : pieces.length ≤ fuel.length) :
    ∃ found, repeatAlong (untilStep r) fuel ⟨(pieces.map Prod.fst).flatten, none⟩ =
      .ok (found, ⟨[], none⟩) ∧ found.flatten = pieces.map Prod.snd := by
  induction pieces generalizing fuel with
  | nil => exact ⟨[[]], repeatAlong_stop rfl fuel, rfl⟩
  | cons p pieces ih =>
    cases fuel with
    | nil => simp at hfuel
    | cons t fuel =>
      rw [List.length_cons, List.length_cons, Nat.add_le_add_iff_right] at hfuel
      obtain ⟨found, hothers, hfound⟩ := ih (fun q hq => hsome q (List.mem_cons_of_mem p hq))
        (fun q hq => hread q (List.mem_cons_of_mem p hq)) hfuel
      obtain ⟨ts, x⟩ := p
      have hts : ts ≠ [] := hsome _ List.mem_cons_self
      have hfirst : untilStep r ⟨ts ++ (pieces.map Prod.fst).flatten, none⟩ =
          .ok (([x], true), ⟨(pieces.map Prod.fst).flatten, none⟩) :=
        (untilStep_of_ne_nil (List.append_ne_nil_of_left_ne_nil hts _)).trans
          (run_bind_of_ok (hread _ List.mem_cons_self _))
      exact ⟨[x] :: found, repeatAlong_again hfirst hothers, by simp [hfound]⟩

/-- What stands one behind the other is read one after the other. -/
theorem untilEnd_of_pieces (pieces : List (List Token × α)) (hsome : ∀ p ∈ pieces, p.1 ≠ [])
    (hread : ∀ p ∈ pieces, ∀ more, r ⟨p.1 ++ more, none⟩ = .ok (p.2, ⟨more, none⟩)) :
    untilEnd r ⟨(pieces.map Prod.fst).flatten, none⟩ =
      .ok (pieces.map Prod.snd, ⟨[], none⟩) := by
  have hfuel : pieces.length ≤ (pieces.map Prod.fst).flatten.length := by
    clear hread
    induction pieces with
    | nil => exact Nat.zero_le _
    | cons p pieces ih =>
      have hp := List.length_pos_of_ne_nil (hsome p List.mem_cons_self)
      have hothers := ih fun q hq => hsome q (List.mem_cons_of_mem p hq)
      simp only [List.map_cons, List.flatten_cons, List.length_append, List.length_cons]
      omega
  obtain ⟨found, hrun, hfound⟩ := repeatAlong_pieces hsome hread hfuel
  have hrepeated : repeated (untilStep r) ⟨(pieces.map Prod.fst).flatten, none⟩ =
      .ok (found, ⟨[], none⟩) := hrun
  rw [← hfound]
  exact run_bind_of_ok hrepeated

theorem untilEnd_of_one {ts : List Token} {x : α} (hts : ts ≠ [])
    (hread : r ⟨ts, none⟩ = .ok (x, ⟨[], none⟩)) :
    untilEnd r ⟨ts, none⟩ = .ok ([x], ⟨[], none⟩) := by
  have hfirst : untilStep r ⟨ts, none⟩ = .ok (([x], true), ⟨[], none⟩) :=
    (untilStep_of_ne_nil hts).trans (run_bind_of_ok hread)
  obtain ⟨t, ts, rfl⟩ := List.exists_cons_of_ne_nil hts
  have hrepeated : repeated (untilStep r) ⟨t :: ts, none⟩ = .ok ([[x], []], ⟨[], none⟩) :=
    repeatAlong_again (t := t) hfirst (repeatAlong_stop rfl ts)
  exact run_bind_of_ok hrepeated

/-- Where the second piece is refused, so is the whole. -/
theorem untilEnd_refuses {ts ts' : List Token} {x : α} (hts : ts ≠ [])
    (hread : r ⟨ts ++ ts', none⟩ = .ok (x, ⟨ts', none⟩)) (hts' : ts' ≠ [])
    (hrefuses : ∀ y j, r ⟨ts', none⟩ ≠ .ok (y, j)) (xs : List α) (j : Input) :
    untilEnd r ⟨ts ++ ts', none⟩ ≠ .ok (xs, j) := by
  intro h
  have hall : ts ++ ts' ≠ [] := List.append_ne_nil_of_left_ne_nil hts ts'
  obtain ⟨found, k, hfound, -⟩ := ok_of_run_bind h
  have hfound : repeatAlong (untilStep r) (ts ++ ts') ⟨ts ++ ts', none⟩ = .ok (found, k) := hfound
  obtain ⟨y, again, i, hfirst, hmore⟩ := ok_of_repeatAlong hfound
  rw [untilStep_of_ne_nil hall, run_bind_of_ok hread] at hfirst
  cases hfirst
  rcases hmore with ⟨hstop | hstop, -⟩ | ⟨t, fuel, ys, -, -, -, hmore⟩
  · exact hall hstop
  · cases hstop
  · obtain ⟨y, again, i, hsecond, -⟩ := ok_of_repeatAlong hmore
    rw [untilStep_of_ne_nil hts'] at hsecond
    obtain ⟨y, i, hy, -⟩ := ok_of_run_bind hsecond
    exact hrefuses y i hy

end Pieces

/-! ## Members -/

section Members

variable {members : List (List Token)} {n : Nat}

/-- What starts with attributes of its own does not start with those of a block. -/
theorem atInnerAttribute_append {g : Grammar} {ts x : List Token} {l : Option Delimiter} {j : Input}
    (h : outerAttributes g ⟨ts, l⟩ = .ok (x, j)) (hts : ts ≠ []) (more : List Token) :
    atInnerAttribute (ts ++ more) = false := by
  obtain ⟨t, ts, rfl⟩ := List.exists_cons_of_ne_nil hts
  cases hhash : atSign "#" (t :: ts) with
  | false =>
    have hsame : atSign "#" (t :: ts ++ more) = atSign "#" (t :: ts) := by
      cases t with
      | _ => rfl
    rw [atInnerAttribute, hsame, hhash, Bool.false_and]
  | true =>
    rw [outerAttributes_eq] at h
    obtain ⟨found, k, hfound, -⟩ := ok_of_run_bind h
    obtain ⟨y, again, k, hstep, -⟩ := ok_of_repeatAlong hfound
    rw [attributeStep_of_hash hhash] at hstep
    obtain ⟨first, k, hfirst, -⟩ := ok_of_run_bind hstep
    obtain ⟨⟨joint, inner, heq⟩, -⟩ := outerAttribute_append hfirst
    rw [heq]
    rfl

/-- Members that are each read back alone are read back in the block. -/
theorem run_members (hmembers : ∀ m ∈ members, readImplMember m = .ok m)
    (hn : depthFor members.flatten ≤ n) (more : List Token) :
    Source.members (grammar n) (implMember (grammar n))
      ⟨.group .brace members.flatten :: more, none⟩ =
        .ok ([.group .brace members.flatten], ⟨more, none⟩) := by
  have halone (m : List Token) (hm : m ∈ members) :
      implMember (grammar n) ⟨m, none⟩ = .ok (m, ⟨[], none⟩) := by
    have hsize : depthFor m ≤ n := by
      obtain ⟨before, behind, rfl⟩ := List.append_of_mem hm
      simp only [depthFor, List.flatten_append, List.flatten_cons, sizeOfTokens_append] at hn ⊢
      omega
    have hbelow := below_grammar hsize
    have hcarries : CarriesAt [] m (implMember (grammar (depthFor m))) (implMember (grammar n)) :=
      inferInstance
    exact (hcarries.carries_nil (run_of_readAll (hmembers m hm))).1
  have hsome (m : List Token) (hm : m ∈ members) : m ≠ [] := by
    rintro rfl
    have hclosed : Closed [] := EndsClosed.ends (halone [] hm) rfl
    exact hclosed.ne_nil rfl
  -- members end themselves, so each is read in front of the next as it is alone
  have hpieces : untilEnd (implMember (grammar n)) ⟨members.flatten, none⟩ =
      .ok (members, ⟨[], none⟩) := by
    have hall := untilEnd_of_pieces (r := implMember (grammar n))
      (members.map fun m => (m, m)) (by simpa using hsome) (by
        simpa using fun m hm more => run_implMember_append (halone m hm) more)
    simpa [Function.comp_def] using hall
  have hinner : innerAttributes (grammar n) ⟨members.flatten, none⟩ =
      .ok ([], ⟨members.flatten, none⟩) := by
    have hfirst : atInnerAttribute members.flatten = false := by
      cases members with
      | nil => rfl
      | cons m members =>
        have hm := halone m List.mem_cons_self
        obtain ⟨start, k, hstart, hm⟩ := ok_of_run_bind hm
        cases hstart
        obtain ⟨printed, k, hm, -⟩ := ok_of_run_bind hm
        obtain ⟨attributes, k, hattributes, -⟩ := ok_of_run_bind hm
        exact atInnerAttribute_append hattributes (hsome m List.mem_cons_self) members.flatten
    have hnone : repeated (do
        if ← next atInnerAttribute then
          return (← takeSign "#" ++ takeSign "!" ++ within .bracket (metaTokens (grammar n)), true)
        return ([], false)) ⟨members.flatten, none⟩ = .ok ([[]], ⟨members.flatten, none⟩) := by
      refine repeatAlong_stop ?_ _
      rw [run_bind_of_ok (run_next _ _), hfirst]
      rfl
    exact run_bind_of_ok hnone
  have hbody : (innerAttributes (grammar n) ++ (do
      return (← untilEnd (implMember (grammar n))).flatten) : Rule) ⟨members.flatten, none⟩ =
        .ok (members.flatten, ⟨[], none⟩) :=
    (run_bind_of_ok hinner).trans (run_bind_of_ok (run_bind_of_ok hpieces))
  have hpure : (pure members.flatten : Rule) ⟨more, none⟩ =
      .ok (members.flatten, ⟨more, none⟩) := rfl
  exact run_bind_of_ok (run_insideThen hbody hpure)

end Members

/-! ## Blocks -/

/-- The printed parameters start with a bare underscore. -/
def StructItem.UnderscoreFirst (s : StructItem) : Prop :=
  ∃ p others, (Generics.ordered s.generics.params).members = p :: others ∧ p.head = [.ident "_"]

section Blocks

variable {s : StructItem} {members : List (List Token)} {n : Nat}

theorem run_choice_bind {α β : Type} {p : List Token → Bool} {r r' : Reader α} {f : α → Reader β}
    {i j : Input} {x : α} (h : (do if ← next p then r else r' : Reader α) i = .ok (x, j)) :
    (do if ← next p then r >>= f else r' >>= f : Reader β) i = f x j := by
  rw [run_bind_of_ok (run_next _ _)] at h ⊢
  split
  next hp => exact run_bind_of_ok (by rwa [if_pos hp] at h)
  next hp => exact run_bind_of_ok (by rwa [if_neg hp] at h)

/-- The reader of a block sees that there are parameters, and how they are read. -/
theorem run_blockParams (hs : s.WellFormed) (hlegible : s.Legible) (hfirst : ¬ s.UnderscoreFirst)
    (hn : depthFor (s.generics.listed (·.withoutDefault.declaration)) ≤ n) (r : List Token) :
    (do if ← next atGenerics then generics (grammar n) else pure Generics.none : Reader Generics)
        ⟨s.generics.listed (·.withoutDefault.declaration) ++ .ident s.name :: r, none⟩ =
      .ok (s.generics.readBack Param.withoutDefault, ⟨.ident s.name :: r, none⟩) := by
  rw [run_bind_of_ok (run_next _ _)]
  cases hps : (Generics.ordered s.generics.params).members with
  | nil =>
    have hnone : s.generics.params.members.isEmpty = true :=
      List.isEmpty_iff.mpr (Generics.ordered_eq_nil hps)
    simp only [Generics.listed, Generics.readBack, hnone]
    rfl
  | cons p others =>
    have hparams : ∀ q ∈ s.generics.params.members,
        ReadAs (genericParam (grammar n)) q.withoutDefault.declaration q.withoutDefault :=
      fun q hq => by
        refine readAs_genericParam (hs.params q hq).withoutDefault
          (hlegible.params q hq).withoutDefault ?_
        have hsize := Generics.size_le_listed (·.withoutDefault.declaration) hq
        simp only [depthFor] at hn ⊢
        omega
    have hp : p.WellFormed := hs.params p (Generics.mem_ordered.mp (by simp [hps]))
    have hhead : p.head ≠ [.ident "_"] := fun h => hfirst ⟨p, others, hps, h⟩
    have hat : atGenerics
        (s.generics.listed (·.withoutDefault.declaration) ++ .ident s.name :: r) = true := by
      obtain ⟨c, more, hc, hlist⟩ := listed_cons hps (·.withoutDefault.declaration)
      rw [hlist, declaration_withoutDefault, List.cons_append, List.append_assoc]
      exact (atGenerics_iff hp (hc.imp_right And.left) _).mpr hhead
    rw [hat]
    exact run_generics hparams rfl

/-- Neither a `where` clause nor a body goes on with the type in front of it. -/
theorem LegibleWhere.endsType {condition : Option (List Token)} (h : LegibleWhere condition)
    (inner more : List Token) :
    EndsType (condition.getD [] ++ .group .brace inner :: more) ∧
      atWord "for" (condition.getD [] ++ .group .brace inner :: more) = false := by
  obtain hnone | ⟨us, hus⟩ := h.first
  · rw [hnone]
    exact ⟨⟨rfl, rfl, rfl, rfl, rfl⟩, rfl⟩
  · rw [hus]
    exact ⟨⟨rfl, rfl, rfl, rfl, rfl⟩, rfl⟩

/-- The subject of the block is the struct itself, with the names of its parameters. -/
theorem run_blockSubject (hs : s.WellFormed) {c : List Token} (hc : EndsType c)
    (hfor : atWord "for" c = false) : implSubject (grammar (n + 2))
      ⟨.ident s.name :: (s.generics.listed (·.reference) ++ c), none⟩ =
        .ok ((.ident s.name :: s.generics.listed (·.reference), false), ⟨c, none⟩) := by
  have hnegative (r : List Token) : whenNext (fun ts => atSign "!" ts &&
      !atGroup .brace (behind ts)) (takeSign "!") ⟨.ident s.name :: r, none⟩ =
        .ok ([], ⟨.ident s.name :: r, none⟩) := rfl
  have htype := run_ownType (n := n) hs.name (fun p hp => (hs.params p hp).shape) hc
  unfold implSubject
  rw [run_bind_of_ok (hnegative _), run_bind_of_ok htype, run_bind_of_ok (run_next _ _), hfor]
  rfl

/-- A block is read back as it was printed. -/
theorem run_implRule (hs : s.WellFormed) (hlegible : s.Legible)
    (hmembers : ∀ m ∈ members, readImplMember m = .ok m) (hfirst : ¬ s.UnderscoreFirst)
    (hn : depthFor (ownBlock s members) ≤ n + 3) (more : List Token) :
    implRule (grammar (n + 2)) ⟨ownBlock s members ++ more, none⟩ =
      .ok ((ownBlock s members, false), ⟨more, none⟩) := by
  have hblock : ownBlock s members ++ more = .ident "impl" ::
      (s.generics.listed (·.withoutDefault.declaration) ++ .ident s.name ::
        (s.generics.listed (·.reference) ++ (s.generics.whereClause.getD [] ++
          .group .brace members.flatten :: more))) := by
    simp [ownBlock, Generics.printWhere]
  simp only [ownBlock, depthFor, sizeOfTokens_append, sizeOfTokens, Token.size,
    Generics.printWhere] at hn
  have hvisibility (r : List Token) :
      visibility ⟨.ident "impl" :: r, none⟩ = .ok ([], ⟨.ident "impl" :: r, none⟩) := rfl
  have hhead (r : List Token) : (optWord "default" ++ optWord "unsafe" ++ takeWord "impl")
      ⟨.ident "impl" :: r, none⟩ = .ok ([.ident "impl"], ⟨r, none⟩) := rfl
  have hparams := run_blockParams hs hlegible hfirst (n := n + 2) (by simp only [depthFor]; omega)
  have hconst (r : List Token) : (atWord "const" (.ident s.name :: r) ||
      (atSign "?" (.ident s.name :: r) && atWord "const" (behind (.ident s.name :: r)))) =
        false := by
    rw [atWord_of_name hs.name rfl]
    rfl
  have hnothing (r : List Token) :
      nothing ⟨.ident s.name :: r, none⟩ = .ok ([], ⟨.ident s.name :: r, none⟩) := rfl
  have hends := hlegible.condition.endsType members.flatten more
  have hbraces : EndsCondition (.group .brace members.flatten :: more) := .braces _ _
  have hwhere := run_optWhereClause hlegible.condition hbraces (n := n + 2) (by
    simp only [depthFor]
    omega)
  have hbody := run_members hmembers (n := n + 2) (by simp only [depthFor]; omega) more
  -- word by word: the head, the parameters, no constness, the type, the condition, the body
  rw [hblock]
  unfold implRule
  rw [run_bind_of_ok (hvisibility _), run_bind_of_ok (hhead _)]
  refine (run_choice_bind (hparams _)).trans ?_
  dsimp only
  rw [run_bind_of_ok (run_next _ _), hconst]
  simp only [Bool.false_eq_true, if_false]
  rw [run_bind_of_ok (hnothing _), run_bind_of_ok (run_blockSubject hs hends.1 hends.2),
    run_bind_of_ok hwhere, run_bind_of_ok hbody]
  rw [declarations_readBack Param.withoutDefault isLifetime_withoutDefault, Generics.printWhere,
    printWhere_filter]
  simp [ownBlock, Generics.printWhere]
  rfl

theorem run_wholeItem_impl {g : Grammar} {r x : List Token} {j : Input}
    (h : implRule g ⟨.ident "impl" :: r, none⟩ = .ok ((x, false), j)) {g' : Grammar}
    (hitem : g'.item = itemRule g) :
    wholeItem g' ⟨.ident "impl" :: r, none⟩ = .ok (.other .other x, j) := by
  have hahead : ahead ⟨.ident "impl" :: r, none⟩ = .ok (_, _) := rfl
  have hnone : outerAttributes g' ⟨[], none⟩ = .ok ([], ⟨[], none⟩) := rfl
  have hattributes : outerAttributes g' ⟨.ident "impl" :: r, none⟩ =
      .ok ([], ⟨.ident "impl" :: r, none⟩) := outerAttributes_append rfl hnone
  have hrule : itemRule g ⟨.ident "impl" :: r, none⟩ =
      otherKept .other (implRule g) ⟨.ident "impl" :: r, none⟩ := rfl
  have hread : g'.item ⟨.ident "impl" :: r, none⟩ = .ok ((.other .other x, false), j) := by
    rw [hitem, hrule]
    exact run_bind_of_ok h
  unfold wholeItem
  rw [run_bind_of_ok hahead, run_bind_of_ok hattributes]
  exact run_bind_of_ok hread

/-- A block is read as an item wherever it stands. -/
theorem run_wholeItem_block (hs : s.WellFormed) (hlegible : s.Legible)
    (hmembers : ∀ m ∈ members, readImplMember m = .ok m) (hfirst : ¬ s.UnderscoreFirst)
    (hn : depthFor (ownBlock s members) ≤ n + 3) (more : List Token) :
    wholeItem (grammar (n + 3)) ⟨ownBlock s members ++ more, none⟩ =
      .ok (.other .other (ownBlock s members), ⟨more, none⟩) :=
  run_wholeItem_impl (run_implRule hs hlegible hmembers hfirst hn more) rfl

/-- Behind `impl`, a bare underscore in front of the parameters makes them a type in angle
brackets, which is not read to its end. -/
theorem refused_of_underscoreFirst (hfirst : s.UnderscoreFirst) (members : List (List Token))
    (more : List Token) (it : Item) (j : Input) :
    wholeItem (grammar (n + 8)) ⟨ownBlock s members ++ more, none⟩ ≠ .ok (it, j) := by
  obtain ⟨p, others, hps, hunderscore⟩ := hfirst
  obtain ⟨c, rest, hc, hlist⟩ := listed_cons hps (·.withoutDefault.declaration)
  rw [declaration_withoutDefault, hunderscore] at hlist
  rw [ownBlock, hlist]
  intro h
  -- the bracket opens a qualified path: a comma cannot follow its type, nor a name its end
  rcases hc with rfl | ⟨rfl, rfl⟩
  · cases h
  · cases h

end Blocks

/-! ## Printed classes -/

/-- The items that the tokens make up, one after the other. -/
def readItems : List Token → Except SyntaxError (List Item) :=
  readWith fun g => untilEnd (wholeItem g)

theorem readAll_of_run {α : Type} {r : Reader α} {ts : List Token} {x : α}
    (h : r ⟨ts, none⟩ = .ok (x, ⟨[], none⟩)) : readAll r ts = .ok x := by
  have hrun : r.run ⟨ts, none⟩ = .ok (x, ⟨[], none⟩) := h
  simp only [readAll, hrun]
  rfl

theorem StructItem.print_ne_nil (s : StructItem) : s.print ≠ [] := by
  simp [StructItem.print]

theorem ownBlock_ne_nil (s : StructItem) (members : List (List Token)) :
    ownBlock s members ≠ [] := by
  simp [ownBlock]

section Classes

variable {s : StructItem} {members : List (List Token)}

/-- The text of an item that is read is that one item. -/
theorem readItems_of_readItem {ts : List Token} {it : Item} (h : readItem ts = .ok it) :
    readItems ts = .ok [it] := by
  have hts : ts ≠ [] := by
    rintro rfl
    cases h
  exact readAll_of_run (untilEnd_of_one hts (run_of_readItem h))

theorem readItem_struct (hs : s.WellFormed) (hlegible : s.Legible) :
    readItem s.print = .ok (.struct s.printed) := by
  have hrun := run_wholeItem_struct hs hlegible (n := 4 * sizeOfTokens s.print + 14)
    (Nat.le_refl _) []
  rw [List.append_nil] at hrun
  exact readItem_of_run hrun

/-- The text of a struct with members is two items. -/
theorem readItems_with_block (hs : s.WellFormed) (hlegible : s.Legible)
    (hmembers : ∀ m ∈ members, readImplMember m = .ok m) (hfirst : ¬ s.UnderscoreFirst) :
    readItems (s.print ++ ownBlock s members) =
      .ok [.struct s.printed, .other .other (ownBlock s members)] := by
  obtain ⟨n, hn⟩ : ∃ n, depthFor (s.print ++ ownBlock s members) = n + 3 :=
    ⟨4 * sizeOfTokens (s.print ++ ownBlock s members) + 13, rfl⟩
  have hsize : depthFor s.print ≤ n + 1 + 2 ∧ depthFor (ownBlock s members) ≤ n + 3 := by
    simp only [depthFor, sizeOfTokens_append] at hn ⊢
    omega
  have hall := untilEnd_of_pieces (r := wholeItem (grammar (n + 3)))
    [(s.print, .struct s.printed), (ownBlock s members, .other .other (ownBlock s members))]
    (by simpa using ⟨s.print_ne_nil, ownBlock_ne_nil s members⟩)
    (by simpa using ⟨run_wholeItem_struct hs hlegible hsize.1,
      run_wholeItem_block hs hlegible hmembers hfirst hsize.2⟩)
  refine readAll_of_run ?_
  rw [hn]
  simpa using hall

/-- Behind a bare underscore the block is no item. -/
theorem readItem_ownBlock_of_underscoreFirst (hfirst : s.UnderscoreFirst)
    (members : List (List Token)) (it : Item) : readItem (ownBlock s members) ≠ .ok it := by
  intro h
  have hrun := run_of_readItem h
  obtain ⟨n, hn⟩ : ∃ n, depthFor (ownBlock s members) = n + 8 :=
    ⟨4 * sizeOfTokens (ownBlock s members) + 8, rfl⟩
  have hno := refused_of_underscoreFirst (n := n) hfirst members [] it ⟨[], none⟩
  rw [List.append_nil] at hno
  rw [hn] at hrun
  exact hno hrun

/-- Behind a bare underscore the text of a struct with members is no items. -/
theorem readItems_of_underscoreFirst (hs : s.WellFormed) (hlegible : s.Legible)
    (hfirst : s.UnderscoreFirst) (items : List Item) :
    readItems (s.print ++ ownBlock s members) ≠ .ok items := by
  intro h
  have hrun := run_of_readAll h
  obtain ⟨n, hn⟩ : ∃ n, depthFor (s.print ++ ownBlock s members) = n + 8 :=
    ⟨4 * sizeOfTokens (s.print ++ ownBlock s members) + 8, rfl⟩
  have hsize : depthFor s.print ≤ n + 6 + 2 := by
    simp only [depthFor, sizeOfTokens_append] at hn ⊢
    omega
  rw [hn] at hrun
  have hblock (it : Item) (j : Input) :
      wholeItem (grammar (n + 8)) ⟨ownBlock s members, none⟩ ≠ .ok (it, j) := by
    have hno := refused_of_underscoreFirst (n := n) hfirst members [] it j
    rwa [List.append_nil] at hno
  exact untilEnd_refuses s.print_ne_nil (run_wholeItem_struct hs hlegible hsize _)
    (ownBlock_ne_nil s members) hblock _ _ hrun

end Classes

/-- A trait is printed by itself, and so is a struct without members. To other structs comes one
`impl` block: in it stand the parameters in their printed order without their defaults, the name
with the names of the parameters in the same order, the same `where` clause, and the members in
the order in which they were pushed. Where the parts of the struct and the members are read back
from their own tokens, so is the whole: as the struct with the same text and, if there are members,
the block as it was printed. Only behind a bare underscore as the first parameter is the block no
item. -/
theorem a_printed_class_is_read_back_but_behind_a_bare_underscore {source : List Token}
    {s : StructItem} (hs : readItem source = .ok (.struct s)) (t : TraitItem)
    (members : List (List Token)) :
    (pushed (.trait t) members).print = t.tokens ∧
      (readItem t.tokens = .ok (.trait t) →
        readItems (pushed (.trait t) members).print = .ok [.trait t]) ∧
      (pushed (.struct s) members).print =
        s.print ++ (if members.isEmpty then [] else ownBlock s members) ∧
      s.generics.declarations = s.generics.listed (·.declaration) ∧
      (s.UnderscoreFirst → ∀ it, readItem (ownBlock s members) ≠ .ok it) ∧
      (s.Legible → (∀ m ∈ members, readImplMember m = .ok m) →
        s.printed.print = s.print ∧
          (members = [] →
            readItems (pushed (.struct s) members).print = .ok [.struct s.printed]) ∧
          (members ≠ [] → ¬ s.UnderscoreFirst →
            readItems (pushed (.struct s) members).print =
              .ok [.struct s.printed, .other .other (ownBlock s members)]) ∧
          (members ≠ [] → s.UnderscoreFirst →
            ∀ items, readItems (pushed (.struct s) members).print ≠ .ok items)) := by
  have hwell := wellFormed_of_readItem hs
  rw [print_pushed_trait, print_pushed_struct]
  refine ⟨rfl, readItems_of_readItem, rfl, Generics.printParams_eq _ s.generics,
    fun hfirst it => readItem_ownBlock_of_underscoreFirst hfirst members it,
    fun hlegible hmembers => ⟨s.print_printed, ?_, ?_, ?_⟩⟩
  · rintro rfl
    rw [List.isEmpty_nil, if_pos rfl, List.append_nil]
    exact readItems_of_readItem (readItem_struct hwell hlegible)
  · intro hsome hfirst
    rw [List.isEmpty_eq_false_iff.mpr hsome, if_neg Bool.false_ne_true]
    exact readItems_with_block hwell hlegible hmembers hfirst
  · intro hsome hfirst
    rw [List.isEmpty_eq_false_iff.mpr hsome, if_neg Bool.false_ne_true]
    exact readItems_of_underscoreFirst hwell hlegible hfirst

/-- A struct with parameters of each kind, an attribute, defaults and a `where` clause. -/
def manyParams : StructItem where
  attributes := []
  visibility := [.ident "pub"]
  name := "S"
  generics := {
    angled := true
    params := ⟨[
      ⟨[], "a", [], .lifetime⟩,
      ⟨[.punct '#' false, .group .bracket [.ident "test"]], "T", [.ident "Clone"],
        .type (some [.ident "u8"])⟩,
      ⟨[], "N", [], .const [.ident "usize"] (some [.literal "3"])⟩], false⟩
    whereClause := some [.ident "where", .ident "T", .punct ':' false, .ident "Copy"] }
  fields := .named ⟨[⟨[], [], some "x", [.ident "T"]⟩], false⟩

/-- A function without arguments that does nothing. -/
def emptyFunction : List Token :=
  [.ident "fn", .ident "f", .group .paren [], .group .brace []]

theorem legible_manyParams : manyParams.Legible where
  attributes := rfl
  visibility := rfl
  params := by
    simp only [manyParams, List.forall_mem_cons]
    refine ⟨⟨rfl, ?_⟩, ⟨rfl, ?_, ?_⟩, ⟨rfl, ?_, ?_⟩, by simp⟩
    · exact List.forall_mem_cons.mpr ⟨rfl, List.forall_mem_singleton.mpr rfl⟩
    · simp only [ReadBefore, List.forall_mem_cons]
      exact ⟨rfl, rfl, rfl, by simp⟩
    · rintro d ⟨⟩
      simp only [ReadBefore, List.forall_mem_cons]
      exact ⟨rfl, rfl, by simp⟩
    · simp only [ReadBefore, List.forall_mem_cons]
      exact ⟨rfl, rfl, rfl, by simp⟩
    · rintro d ⟨⟩
      simp only [ReadBefore, List.forall_mem_cons]
      exact ⟨rfl, rfl, by simp⟩
  condition := by
    rintro ts ⟨⟩ -
    simp only [ReadBefore, List.forall_mem_cons]
    exact ⟨rfl, rfl, by simp⟩
  fields := rfl

theorem a_struct_with_many_params_is_read_back :
    readItem manyParams.print = .ok (.struct manyParams) ∧
      readItems (pushed (.struct manyParams) [emptyFunction]).print =
        .ok [.struct manyParams, .other .other (ownBlock manyParams [emptyFunction])] := by
  have hread : readItem manyParams.print = .ok (.struct manyParams) := rfl
  have hmembers : ∀ m ∈ [emptyFunction], readImplMember m = .ok m := by
    simp only [List.forall_mem_singleton]
    rfl
  have hfirst : ¬ manyParams.UnderscoreFirst := by
    rintro ⟨p, others, hps, hhead⟩
    cases hps
    cases hhead
  have hall := a_printed_class_is_read_back_but_behind_a_bare_underscore hread default
    [emptyFunction]
  exact ⟨hread, (hall.2.2.2.2.2 legible_manyParams hmembers).2.2.1 (List.cons_ne_nil _ _) hfirst⟩

/-- The source of a tuple struct with an underscore in the place of a type parameter, and the
struct itself. -/
def underscoredSource : List Token :=
  [.ident "struct", .ident "S", .punct '<' false, .ident "_", .punct '>' false,
    .group .paren [.ident "u8"], .punct ';' false]

def underscored : StructItem :=
  ⟨[], [], "S", ⟨true, ⟨[⟨[], "_", [], .type none⟩], false⟩, none⟩,
    .tuple ⟨[⟨[], [], none, [.ident "u8"]⟩], false⟩⟩

/-- A printed class with a member is not always two items. -/
theorem a_printed_class_is_not_always_two_items :
    ¬ ∀ (source member printed : List Token) (s : StructItem),
      readItem source = .ok (.struct s) → readImplMember member = .ok printed →
      ∃ items, readItems (pushed (.struct s) [printed]).print = .ok items ∧ items.length = 2 := by
  intro htwo
  obtain ⟨items, hitems, -⟩ :=
    htwo underscoredSource emptyFunction emptyFunction underscored rfl rfl
  cases hitems

end MarkerInjection.Source
