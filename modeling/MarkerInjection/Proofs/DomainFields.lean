-- What a domain injection does to the text of a class. The fields that are added stand behind
-- the old ones with a comma between them, so where the struct could be read from its text
-- before, it can be read from it again, with the fields of a domain class.
import MarkerInjection.Proofs.ArgumentLists
import MarkerInjection.Proofs.PrintedClasses
import MarkerInjection.Proofs.RawNames
import MarkerInjection.Proofs.StoppingExpressions

namespace MarkerInjection.Source

/-! ## Lists up to their end -/

section Lists

variable {α : Type} {member : Reader α} {ts more : List Token} {l l' l'' : Option Delimiter}
  {pairs others : List (α × Bool)}

/-- The tokens are read as these members, each with or without a comma behind it, up to their
end. The groups that were not read to their end are passed on. -/
inductive ReadsList (member : Reader α) :
    List Token → Option Delimiter → List (α × Bool) → Option Delimiter → Prop
  | nothing (l : Option Delimiter) : ReadsList member [] l [] l
  | last {ts : List Token} {l l' : Option Delimiter} {x : α} (hsome : ts ≠ [])
    (hread : member ⟨ts, l⟩ = .ok (x, ⟨[], l'⟩)) : ReadsList member ts l [(x, false)] l'
  | comma {ts rest : List Token} {l l' l'' : Option Delimiter} {x : α} {joint : Bool}
    {pairs : List (α × Bool)} (hsome : ts ≠ [])
    (hread : member ⟨ts, l⟩ = .ok (x, ⟨.punct ',' joint :: rest, l'⟩))
    (hmore : ReadsList member rest l' pairs l'') : ReadsList member ts l ((x, true) :: pairs) l''

theorem ok_of_listStep {found : List (α × Bool)} {again : Bool} {j : Input}
    (h : listStep member ⟨ts, l⟩ = .ok ((found, again), j)) :
    (ts = [] ∧ found = [] ∧ again = false ∧ j = ⟨[], l⟩) ∨
      ts ≠ [] ∧ ∃ x rest l', member ⟨ts, l⟩ = .ok (x, ⟨rest, l'⟩) ∧
        (rest = [] ∧ found = [(x, false)] ∧ again = false ∧ j = ⟨[], l'⟩ ∨
          ∃ joint more, rest = .punct ',' joint :: more ∧ found = [(x, true)] ∧ again = true ∧
            j = ⟨more, l'⟩) := by
  cases ts with
  | nil =>
    cases h
    exact Or.inl ⟨rfl, rfl, rfl, rfl⟩
  | cons t ts =>
    refine Or.inr ⟨List.cons_ne_nil t ts, ?_⟩
    obtain ⟨b, i, hnext, h⟩ := ok_of_run_bind h
    cases hnext
    obtain ⟨x, ⟨rest, l'⟩, hread, h⟩ := ok_of_run_bind h
    obtain ⟨b, i, hnext, h⟩ := ok_of_run_bind h
    cases hnext
    refine ⟨x, rest, l', hread, ?_⟩
    cases rest with
    | nil =>
      cases h
      exact Or.inl ⟨rfl, rfl, rfl, rfl⟩
    | cons u rest =>
      obtain ⟨mark, k, hmark, h⟩ := ok_of_run_bind h
      have hcomma := at_of_run_takeSign hmark
      rw [run_takeSign_of_at hcomma] at hmark
      cases hmark
      cases h
      obtain ⟨joint, more, heq⟩ := eq_of_startsSign (c := ',') hcomma
      exact Or.inr ⟨joint, more, heq, rfl, rfl, by rw [heq]; rfl⟩

section Loops

variable (hshrinks : ∀ ts', CarriesAt [] ts' member member)

include hshrinks in
theorem length_of_comma {x : α} {joint : Bool} {rest : List Token}
    (h : member ⟨ts, l⟩ = .ok (x, ⟨.punct ',' joint :: rest, l'⟩)) : rest.length < ts.length :=
  ((hshrinks ts).carries_nil h).2.length_le

include hshrinks in
/-- A loop that comes to the end of the tokens has read a list. -/
theorem readsList_of_repeatAlong {fuel : List Token} {found : List (List (α × Bool))}
    (hfuel : ts.length ≤ fuel.length)
    (h : repeatAlong (listStep member) fuel ⟨ts, l⟩ = .ok (found, ⟨[], l'⟩)) :
    ReadsList member ts l found.flatten l' := by
  induction fuel generalizing ts l found with
  | nil =>
    obtain rfl : ts = [] := List.length_eq_zero_iff.mp (Nat.le_zero.mp hfuel)
    cases h
    exact .nothing _
  | cons t fuel ih =>
    obtain ⟨step, again, k, hstep, h⟩ := ok_of_repeatAlong h
    rcases ok_of_listStep hstep with ⟨rfl, rfl, rfl, rfl⟩ | ⟨hsome, x, rest, l1, hread, hx⟩
    · obtain ⟨-, rfl, hk⟩ | ⟨_, _, _, _, hagain, _⟩ := h
      · cases hk
        exact .nothing _
      · cases hagain
    · obtain ⟨rfl, rfl, rfl, rfl⟩ | ⟨joint, rest, rfl, rfl, rfl, rfl⟩ := hx
      · obtain ⟨-, rfl, hk⟩ | ⟨_, _, _, _, hagain, _⟩ := h
        · cases hk
          exact .last hsome hread
        · cases hagain
      · obtain ⟨hstop, -, -⟩ | ⟨_, _, ys, hcons, -, rfl, hmore⟩ := h
        · simp at hstop
        · cases hcons
          have hlength := length_of_comma hshrinks hread
          simp only [List.length_cons] at hfuel
          exact .comma hsome hread (ih (by omega) hmore)

include hshrinks in
theorem repeatAlong_of_readsList (h : ReadsList member ts l pairs l') {fuel : List Token}
    (hfuel : ts.length ≤ fuel.length) :
    ∃ found, repeatAlong (listStep member) fuel ⟨ts, l⟩ = .ok (found, ⟨[], l'⟩) ∧
      found.flatten = pairs := by
  induction h generalizing fuel with
  | nothing l => exact ⟨[[]], repeatAlong_stop (listStep_nil l) fuel, rfl⟩
  | last hsome hread => exact ⟨_, repeatAlong_stop (listStep_last hsome hread) fuel, rfl⟩
  | @comma ts rest l l' l'' x joint pairs hsome hread hrest ih =>
    have hlength := length_of_comma hshrinks hread
    cases fuel with
    | nil =>
      simp only [List.length_nil] at hfuel
      omega
    | cons t fuel =>
      simp only [List.length_cons] at hfuel
      have hmore : rest.length ≤ fuel.length := by omega
      obtain ⟨found, hfound, rfl⟩ := ih hmore
      exact ⟨_, repeatAlong_again (listStep_comma hsome hread) hfound, rfl⟩

end Loops

/-- A last member that had no comma gets one, and more members follow it. -/
theorem readsList_append_comma {joint : Bool}
    (hmember : ∀ ts', CarriesAt (.punct ',' joint :: more) ts' member member)
    (h : ReadsList member ts l pairs l') (hsome : pairs ≠ [])
    (hopen : (Punctuated.ofPairs pairs).trailing = false)
    (hmore : ReadsList member more l' others l'') :
    ReadsList member (ts ++ .punct ',' joint :: more) l
      (pairs.map (fun pair => (pair.1, true)) ++ others) l'' := by
  induction h with
  | nothing l => exact absurd rfl hsome
  | last hne hread =>
    exact .comma (by simp) ((hmember _).carries hread).1 hmore
  | @comma ts rest l l' l1 x j pairs hne hread hrest ih =>
    cases pairs with
    | nil => cases hopen
    | cons pair pairs =>
      have hopen' : (Punctuated.ofPairs (pair :: pairs)).trailing = false := by
        simpa [Punctuated.ofPairs] using hopen
      exact .comma (by simp) ((hmember _).carries hread).1 (ih (by simp) hopen' hmore)

/-- Where the last member has a comma, it is the last of the tokens. -/
theorem comma_of_readsList (hshrinks : ∀ ts', CarriesAt [] ts' member member)
    (h : ReadsList member ts l pairs l') (hclosed : (Punctuated.ofPairs pairs).trailing = true) :
    ∃ before joint, ts = before ++ [.punct ',' joint] := by
  induction h with
  | nothing l => cases hclosed
  | last hne hread => cases hclosed
  | @comma ts rest l l' l1 x j pairs hne hread hrest ih =>
    obtain ⟨before, rfl⟩ := ((hshrinks ts).carries_nil hread).2
    cases pairs with
    | nil =>
      cases hrest
      exact ⟨before, j, rfl⟩
    | cons pair pairs =>
      obtain ⟨inner, joint, rfl⟩ := ih (by simpa [Punctuated.ofPairs] using hclosed)
      exact ⟨before ++ .punct ',' j :: inner, joint, by simp⟩

/-- Behind a last comma more members may follow. -/
theorem readsList_append
    (hmember : ∀ joint ts', StopsAt [.punct ',' joint] (.punct ',' joint :: more) ts' member member)
    (hshrinks : ∀ ts', CarriesAt [] ts' member member)
    (h : ReadsList member ts l pairs l') (hclosed : (Punctuated.ofPairs pairs).trailing = true)
    (hmore : ReadsList member more l' others l'') :
    ReadsList member (ts ++ more) l (pairs ++ others) l'' := by
  obtain ⟨before, joint, hts⟩ := comma_of_readsList hshrinks h hclosed
  induction h generalizing before joint with
  | nothing l => cases hclosed
  | last hne hread => cases hclosed
  | @comma ts rest l l' l1 x j pairs hne hread hrest ih =>
    subst hts
    obtain ⟨us, hus, hstop⟩ := (hmember joint before).stops hread (by simp)
    have hread' : member ⟨before ++ [.punct ',' joint] ++ more, l⟩ =
        .ok (x, ⟨.punct ',' j :: (rest ++ more), l'⟩) := by
      have hrest : us ++ .punct ',' joint :: more = .punct ',' j :: (rest ++ more) := by
        rw [← List.cons_append, show Token.punct ',' j :: rest = us ++ [.punct ',' joint] from hus]
        simp
      rw [← hrest]
      simpa using hstop
    refine .comma (by simp) hread' ?_
    cases pairs with
    | nil =>
      cases hrest
      exact hmore
    | cons pair pairs =>
      have hclosed' : (Punctuated.ofPairs (pair :: pairs)).trailing = true := by
        simpa [Punctuated.ofPairs] using hclosed
      obtain ⟨before', joint', hrest'⟩ := comma_of_readsList hshrinks hrest hclosed'
      exact ih hclosed' hmore before' joint' hrest'

theorem readsList_of_punctuated (hshrinks : ∀ ts', CarriesAt [] ts' member member)
    {p : Punctuated α} (h : punctuated List.isEmpty "," member ⟨ts, l⟩ = .ok (p, ⟨[], l'⟩)) :
    ∃ pairs, ReadsList member ts l pairs l' ∧ p = Punctuated.ofPairs pairs := by
  obtain ⟨found, k, hfound, h⟩ := ok_of_run_bind h
  cases h
  exact ⟨found.flatten, readsList_of_repeatAlong hshrinks (Nat.le_refl _) hfound, rfl⟩

theorem punctuated_of_readsList (hshrinks : ∀ ts', CarriesAt [] ts' member member)
    (h : ReadsList member ts l pairs l') :
    punctuated List.isEmpty "," member ⟨ts, l⟩ = .ok (Punctuated.ofPairs pairs, ⟨[], l'⟩) := by
  obtain ⟨found, hfound, rfl⟩ := repeatAlong_of_readsList hshrinks h (Nat.le_refl _)
  have hrepeated : repeated (listStep member) ⟨ts, l⟩ = .ok (found, ⟨[], l'⟩) := hfound
  exact run_bind_of_ok hrepeated

end Lists

/-! ## Fields between their brackets -/

section Fields

variable {g : Grammar} [Below g g] {inner : List Token} {l : Option Delimiter}

theorem readsList_of_namedFields {read : Fields}
    (h : namedFieldsRule g ⟨[.group .brace inner], l⟩ = .ok (read, ⟨[], none⟩)) :
    ∃ pairs, ReadsList (namedField g) inner l pairs none ∧
      read = .named (Punctuated.ofPairs pairs) := by
  obtain ⟨fields, k, hinside, h⟩ := ok_of_run_bind h
  cases h
  obtain ⟨inner', rest, list, after, k, heq, hlist, hmore, hk⟩ := ok_of_insideThen hinside
  cases heq
  cases hmore
  obtain ⟨tokens, leftover⟩ := after
  -- Nothing is left in the brackets.
  cases leftover with
  | some d => cases hk
  | none =>
    cases tokens with
    | cons t ts => cases hk
    | nil =>
      obtain ⟨pairs, hpairs, rfl⟩ := readsList_of_punctuated (fun _ => inferInstance) hlist
      exact ⟨pairs, hpairs, rfl⟩

omit [Below g g] in
theorem length_of_namedFields {ts : List Token} {l' : Option Delimiter} {read : Fields}
    (h : namedFieldsRule g ⟨ts, l⟩ = .ok (read, ⟨[], l'⟩)) : ts.length = 1 := by
  obtain ⟨fields, k, hinside, h⟩ := ok_of_run_bind h
  cases h
  obtain ⟨inner, rest, list, after, k, rfl, hlist, hmore, hk⟩ := ok_of_insideThen hinside
  cases hmore
  have hrest : [] = rest := congrArg Input.tokens hk
  simp [← hrest]

theorem namedFields_of_readsList {pairs : List (Field × Bool)}
    (h : ReadsList (namedField g) inner l pairs none) :
    namedFieldsRule g ⟨[.group .brace inner], l⟩ =
      .ok (.named (Punctuated.ofPairs pairs), ⟨[], none⟩) := by
  have hlist := punctuated_of_readsList (fun _ => inferInstance) h
  have hbehind : (pure (Punctuated.ofPairs pairs) : Reader (Punctuated Field)) ⟨[], none⟩ =
      .ok (Punctuated.ofPairs pairs, ⟨[], none⟩) := rfl
  have hinside : inside .brace (punctuated List.isEmpty "," (namedField g))
      ⟨[.group .brace inner], l⟩ = .ok (Punctuated.ofPairs pairs, ⟨[], none⟩) :=
    run_insideThen hlist hbehind
  exact run_bind_of_ok hinside

end Fields

/-- The fields that are added, as they are printed. -/
def addedFields : Punctuated Field := ⟨[domainField "id", domainField "version"], false⟩

theorem readsList_addedFields (n : Nat) :
    ReadsList (namedField (grammar (n + 8))) (addedFields.print "," Field.print) none
      [(domainField "id", true), (domainField "version", false)] none := by
  have hid : namedField (grammar (n + 8)) ⟨addedFields.print "," Field.print, none⟩ =
      .ok (domainField "id", ⟨.punct ',' false :: (domainField "version").print, none⟩) := rfl
  have hversion : namedField (grammar (n + 8)) ⟨(domainField "version").print, none⟩ =
      .ok (domainField "version", ⟨[], none⟩) := rfl
  exact .comma (List.cons_ne_nil _ _) hid (.last (List.cons_ne_nil _ _) hversion)

theorem withDomainFields_eq (fields : Punctuated Field) :
    withDomainFields fields = ⟨fields.members ++ addedFields.members, false⟩ := by
  simp [withDomainFields, Punctuated.push, addedFields]

/-- A list that is printed without a last comma gets one when more is printed behind it. -/
theorem separated_eq_print_append {xs : List Field} (hxs : xs ≠ []) :
    separated "," Field.print xs = (Punctuated.mk xs false).print "," Field.print ++ sign "," := by
  rw [← List.dropLast_append_getLast hxs, print_concat, separated_append]
  simp [separated, Punctuated.printPair]

/-- The fields with those of a domain class behind them are read as such. A comma parts them,
be it the last one of the fields or a new one. -/
theorem readsList_withDomainFields {n : Nat} {fields : Punctuated Field}
    {pairs : List (Field × Bool)} {l : Option Delimiter}
    (hfields : Punctuated.ofPairs pairs = fields)
    (h : ReadsList (namedField (grammar (n + 8))) (fields.print "," Field.print) l pairs none) :
    ∃ pairs', ReadsList (namedField (grammar (n + 8)))
        ((withDomainFields fields).print "," Field.print) l pairs' none ∧
      Punctuated.ofPairs pairs' = withDomainFields fields := by
  have hadded := readsList_addedFields n
  by_cases hnone : pairs = []
  · subst hnone
    subst hfields
    cases h
    exact ⟨_, hadded, rfl⟩
  · obtain ⟨members, trailing⟩ := fields
    have hmembers : pairs.map (·.1) = members := congrArg Punctuated.members hfields
    have hsome : members ≠ [] := by simpa [← hmembers] using hnone
    have htrailing := congrArg Punctuated.trailing hfields
    have hprint : (withDomainFields ⟨members, trailing⟩).print "," Field.print =
        separated "," Field.print members ++ addedFields.print "," Field.print := by
      rw [withDomainFields_eq]
      exact print_append "," Field.print members (List.cons_ne_nil _ _) false
    rw [hprint, withDomainFields_eq]
    cases trailing with
    | true =>
      refine ⟨pairs ++ [(domainField "id", true), (domainField "version", false)], ?_, ?_⟩
      · rw [print_trailing] at h
        have hends (joint : Bool) (more : List Token) :
            LikeEnds [.punct ',' joint] (.punct ',' joint :: more) :=
              .signs ',' joint more (Or.inl rfl)
        exact readsList_append (fun _ _ => inferInstance) (fun _ => inferInstance) h htrailing
          hadded
      · simp [Punctuated.ofPairs, hmembers, addedFields]
    | false =>
      refine ⟨pairs.map (fun pair => (pair.1, true)) ++
        [(domainField "id", true), (domainField "version", false)], ?_, ?_⟩
      · rw [separated_eq_print_append hsome, List.append_assoc]
        have hends (more : List Token) : EndsMember (.punct ',' false :: more) := .comma false more
        exact readsList_append_comma (fun _ => inferInstance) h hnone htrailing hadded
      · simp [Punctuated.ofPairs, hmembers, addedFields, Function.comp_def]

/-! ## A struct up to its fields -/

/-- What stands before the fields of a struct. Where the fields have names, its `where` clause
does, too. -/
def structHead (g g' : Grammar) : Reader StructItem := do
  let attributes ← outerAttributes g
  let shown ← visibility
  let _ ← takeWord "struct"
  let name ← takeName
  let params ← generics g'
  let condition ← optWhereClause g'
  return { attributes, visibility := shown, name, fields := .unit
           generics := { params with whereClause := condition } }

section Heads

variable {g : Grammar} {i j : Input}

theorem itemRule_of_struct {shown more : List Token} {l : Option Delimiter}
    (hvisibility : visibility i = .ok (shown, ⟨.ident "struct" :: more, l⟩)) :
    itemRule g i = (do return (.struct (← structRule g), false) : Reader (Item × Bool)) i := by
  have hget : (get : Reader Input) i = .ok (i, i) := rfl
  unfold itemRule
  rw [run_bind_of_ok hget, run_bind_of_ok hvisibility]
  rfl

theorem structBody_of_brace {condition : Option (List Token)} {k : Input} {inner more : List Token}
    (hcondition : optWhereClause g i = .ok (condition, k))
    (hk : k.tokens = .group .brace inner :: more) :
    structBody g i =
      (do return (← g.namedFields, condition) : Reader (Fields × Option (List Token))) k := by
  obtain ⟨ts, l⟩ := k
  obtain rfl : ts = .group .brace inner :: more := hk
  unfold structBody
  rw [run_bind_of_ok hcondition]
  cases condition with
  | _ => rfl

/-- Fields with names are read behind the `where` clause. -/
theorem named_of_structBody {fields : Punctuated Field} {condition : Option (List Token)}
    (h : structBody g i = .ok ((.named fields, condition), j)) :
    ∃ k, optWhereClause g i = .ok (condition, k) ∧ g.namedFields k = .ok (.named fields, j) := by
  obtain ⟨early, k, hearly, h⟩ := ok_of_run_bind h
  obtain ⟨ts, k', hahead, h⟩ := ok_of_run_bind h
  cases hahead
  split at h
  · obtain ⟨read, k', hread, h⟩ := ok_of_run_bind h
    obtain ⟨list, k'', -, hlist⟩ := ok_of_run_bind hread
    cases hlist
    obtain ⟨late, k3, -, h⟩ := ok_of_run_bind h
    obtain ⟨b, k4, -, h⟩ := ok_of_run_bind h
    split at h
    · obtain ⟨_, _, hwanting, -⟩ := ok_of_run_bind h
      cases hwanting
    · obtain ⟨_, _, -, h⟩ := ok_of_run_bind h
      cases h
  split at h
  · obtain ⟨read, k', hread, h⟩ := ok_of_run_bind h
    cases h
    exact ⟨k, hearly, hread⟩
  split at h
  · obtain ⟨_, _, -, h⟩ := ok_of_run_bind h
    cases h
  · cases h

/-- A struct with named fields is read up to its brackets first. -/
theorem structHead_of_wholeItem {n : Nat} {s : StructItem} {fields : Punctuated Field}
    (hfields : s.fields = .named fields)
    (h : wholeItem (grammar (n + 2)) i = .ok (.struct s, j)) :
    ∃ head k, structHead (grammar (n + 2)) (grammar (n + 1)) i = .ok (head, k) ∧
      namedFieldsRule (grammar n) k = .ok (.named fields, j) ∧
      s = { head with fields := .named fields } := by
  obtain ⟨attributes, k, s', hattributes, hstruct, rfl⟩ := structRule_of_wholeItem h
  obtain ⟨shown, k1, hvisibility, hstruct⟩ := ok_of_run_bind hstruct
  obtain ⟨_, k2, hword, hstruct⟩ := ok_of_run_bind hstruct
  obtain ⟨name, k3, hname, hstruct⟩ := ok_of_run_bind hstruct
  obtain ⟨params, k4, hparams, hstruct⟩ := ok_of_run_bind hstruct
  obtain ⟨⟨read, condition⟩, k5, hbody, hstruct⟩ := ok_of_run_bind hstruct
  cases hstruct
  obtain rfl : read = .named fields := hfields
  obtain ⟨k6, hcondition, hnamed⟩ := named_of_structBody hbody
  have hhead : structHead (grammar (n + 2)) (grammar (n + 1)) i = .ok (⟨attributes, shown, name,
      { params with whereClause := condition }, .unit⟩, k6) := by
    unfold structHead
    rw [run_bind_of_ok hattributes, run_bind_of_ok hvisibility, run_bind_of_ok hword,
      run_bind_of_ok hname, run_bind_of_ok hparams, run_bind_of_ok hcondition]
    rfl
  exact ⟨_, k6, hhead, hnamed, by simp⟩

theorem word_of_takeWord {w : String} {x : List Token} (h : takeWord w i = .ok (x, j)) :
    ∃ more, i = ⟨.ident w :: more, j.leftover⟩ := by
  obtain ⟨ts, l⟩ := i
  obtain ⟨ts', k, hahead, h⟩ := ok_of_run_bind h
  cases hahead
  dsimp only at h
  split at h
  · rename_i text more _
    split at h
    · rename_i hword
      rw [beq_iff_eq] at hword
      cases h
      exact ⟨more, by rw [hword]⟩
    · cases h
  · cases h

/-- With named fields behind its head the struct is read as a whole. -/
theorem wholeItem_of_structHead {n : Nat} {head : StructItem} {inner : List Token}
    {l : Option Delimiter} {read : Fields}
    (hhead : structHead (grammar (n + 2)) (grammar (n + 1)) i =
      .ok (head, ⟨[.group .brace inner], l⟩))
    (hfields : namedFieldsRule (grammar n) ⟨[.group .brace inner], l⟩ = .ok (read, j)) :
    wholeItem (grammar (n + 2)) i = .ok (.struct { head with fields := read }, j) := by
  obtain ⟨attributes, k, hattributes, h⟩ := ok_of_run_bind hhead
  obtain ⟨shown, k1, hvisibility, h⟩ := ok_of_run_bind h
  obtain ⟨_, k2, hword, h⟩ := ok_of_run_bind h
  obtain ⟨name, k3, hname, h⟩ := ok_of_run_bind h
  obtain ⟨params, k4, hparams, h⟩ := ok_of_run_bind h
  obtain ⟨condition, k5, hcondition, h⟩ := ok_of_run_bind h
  cases h
  have hbody : structBody (grammar (n + 1)) k4 = .ok ((read, condition), j) := by
    rw [structBody_of_brace hcondition rfl]
    exact run_bind_of_ok hfields
  have hstruct : structRule (grammar (n + 1)) k = .ok (⟨[], shown, name,
      { params with whereClause := condition }, read⟩, j) := by
    unfold structRule
    rw [run_bind_of_ok hvisibility, run_bind_of_ok hword, run_bind_of_ok hname,
      run_bind_of_ok hparams, run_bind_of_ok hbody]
    rfl
  obtain ⟨more, hmore⟩ := word_of_takeWord hword
  have hitem : (grammar (n + 2)).item k = .ok ((.struct ⟨[], shown, name,
      { params with whereClause := condition }, read⟩, false), j) :=
    (itemRule_of_struct (hmore ▸ hvisibility)).trans (run_bind_of_ok hstruct)
  have hahead : ahead i = .ok (i.tokens, i) := rfl
  unfold wholeItem
  rw [run_bind_of_ok hahead, run_bind_of_ok hattributes]
  unfold itemBehind
  rw [run_bind_of_ok hitem]
  simp only [Item.withAttributes, List.append_nil]
  rfl

end Heads

set_option synthInstance.maxSize 20000 in
/-- With other brackets behind it the head of a struct is read as before. -/
theorem structHead_of_other_body {n : Nat} {before inner : List Token} {l : Option Delimiter}
    {head : StructItem} {k : Input} (inner' : List Token)
    (h : structHead (grammar (n + 2)) (grammar (n + 1)) ⟨before ++ [.group .brace inner], l⟩ =
      .ok (head, k)) (hk : k.tokens.length = 1) :
    k.tokens = [.group .brace inner] ∧
      structHead (grammar (n + 2)) (grammar (n + 1)) ⟨before ++ [.group .brace inner'], l⟩ =
        .ok (head, ⟨[.group .brace inner'], k.leftover⟩) := by
  have hends : LikeEnds [.group .brace inner] [.group .brace inner'] :=
    .bodies inner inner' []
  have hhead : StopsAt [.group .brace inner] [.group .brace inner'] before
      (structHead (grammar (n + 2)) (grammar (n + 1)))
      (structHead (grammar (n + 2)) (grammar (n + 1))) := by
    unfold structHead
    infer_instance
  obtain ⟨us, hus, hother⟩ := hhead.stops h (by
    intro hnil
    simp [hnil] at hk)
  obtain rfl : us = [] := by simpa [hus] using hk
  exact ⟨hus, hother⟩

theorem print_struct_named {s : StructItem} {fields : Punctuated Field}
    (hnamed : s.fields = .named fields) :
    s.print = (s.attributes ++ s.visibility ++ [.ident "struct", .ident s.name] ++
      s.generics.declarations ++ s.generics.printWhere) ++
        [.group .brace (fields.print "," Field.print)] := by
  simp [StructItem.print, hnamed, Fields.print]

/-- Fields with more behind them have no fewer tokens. -/
theorem size_print_le_withDomainFields (fields : Punctuated Field) :
    sizeOfTokens (fields.print "," Field.print) ≤
      sizeOfTokens ((withDomainFields fields).print "," Field.print) := by
  obtain ⟨members, trailing⟩ := fields
  by_cases hnone : members = []
  · subst hnone
    exact Nat.zero_le _
  · rw [withDomainFields_eq, addedFields,
      print_append "," Field.print members (List.cons_ne_nil _ _), sizeOfTokens_append]
    cases trailing with
    | true =>
      rw [print_trailing]
      exact Nat.le_add_right _ _
    | false =>
      rw [separated_eq_print_append hnone, sizeOfTokens_append]
      omega

theorem readItem_of_run {item : List Token} {it : Item}
    (h : wholeItem (grammar (depthFor item)) ⟨item, none⟩ = .ok (it, ⟨[], none⟩)) :
    readItem item = .ok it := by
  have hrun : (wholeItem (grammar (depthFor item))).run ⟨item, none⟩ = .ok (it, ⟨[], none⟩) := h
  simp only [readItem, readWith, readAll, hrun]
  rfl

/-- Where a struct can be read from its text, so can the struct with the fields of a domain class:
up to the brackets the text is the same, and in the brackets the old fields are read as before. -/
theorem readItem_withDomainFields {s r : StructItem} {fields : Punctuated Field}
    (hnamed : s.fields = .named fields) (hread : readItem s.print = .ok (.struct r))
    (hsame : r.fields = s.fields) :
    readItem { s with fields := .named (withDomainFields fields) }.print =
      .ok (.struct { r with fields := .named (withDomainFields fields) }) := by
  have hafter : ({ s with fields := .named (withDomainFields fields) } : StructItem).fields =
      .named (withDomainFields fields) := rfl
  have hdepth : depthFor s.print ≤
      depthFor ({ s with fields := .named (withDomainFields fields) } : StructItem).print := by
    have hsize := size_print_le_withDomainFields fields
    simp only [depthFor, print_struct_named hnamed, print_struct_named hafter, sizeOfTokens_append,
      sizeOfTokens, Token.size]
    omega
  refine readItem_of_run ?_
  generalize hn : 4 * sizeOfTokens
    ({ s with fields := .named (withDomainFields fields) } : StructItem).print + 6 = n
  have hdeep : depthFor ({ s with fields := .named (withDomainFields fields) } : StructItem).print =
      n + 8 + 2 := by
    rw [depthFor, ← hn]
  rw [hdeep] at hdepth ⊢
  have hbelow := below_grammar hdepth
  have hcarries : CarriesAt [] s.print (wholeItem (grammar (depthFor s.print)))
      (wholeItem (grammar (n + 8 + 2))) := inferInstance
  have hrun := (hcarries.carries_nil (run_of_readItem hread)).1
  obtain ⟨head, ⟨rest, l⟩, hhead, hfields, rfl⟩ :=
    structHead_of_wholeItem (hsame.trans hnamed) hrun
  rw [print_struct_named hnamed] at hhead
  obtain ⟨rfl, hother⟩ := structHead_of_other_body
    ((withDomainFields fields).print "," Field.print) hhead (length_of_namedFields hfields)
  obtain ⟨pairs, hpairs, heq⟩ := readsList_of_namedFields hfields
  obtain ⟨pairs', hpairs', hall⟩ :=
    readsList_withDomainFields (Fields.named.inj heq).symm hpairs
  have hnew := namedFields_of_readsList hpairs'
  rw [hall] at hnew
  have hwhole := wholeItem_of_structHead hother hnew
  rw [print_struct_named hafter]
  exact hwhole

/-! ## Domain injections -/

/-- The class is a struct with these named fields, none of which is spelled `id` or `version`. -/
structure TakesDomainFields (c : Class) (s : StructItem) (fields : Punctuated Field) : Prop where
  isStruct : c.item = .struct s
  named : s.fields = .named fields
  withoutId : ¬ Declares fields "id"
  withoutVersion : ¬ Declares fields "version"

/-- The struct with the fields of a domain class behind its own ones. -/
def StructItem.withBoth (s : StructItem) (fields : Punctuated Field) : StructItem :=
  { s with fields := .named ⟨fields.members ++ [domainField "id", domainField "version"], false⟩ }

/-- Why a class takes no domain fields. The first reason in this order is the one that is told. -/
inductive Refuses (c : Class) : String → Prop
  | notStruct (t : TraitItem) (htrait : c.item = .trait t) :
    Refuses c (t.name ++ " is not a struct")
  | unnamed (s : StructItem) (hstruct : c.item = .struct s)
    (hunnamed : ∀ fields, s.fields ≠ .named fields) :
    Refuses c ("domain class " ++ s.name ++ " must have named fields")
  | idDeclared (s : StructItem) (fields : Punctuated Field) (hstruct : c.item = .struct s)
    (hnamed : s.fields = .named fields) (hid : Declares fields "id") :
    Refuses c (alreadyDeclares s.name "id")
  | versionDeclared (s : StructItem) (fields : Punctuated Field) (hstruct : c.item = .struct s)
    (hnamed : s.fields = .named fields) (hid : ¬ Declares fields "id")
    (hversion : Declares fields "version") : Refuses c (alreadyDeclares s.name "version")

theorem domain_of_takes {c : Class} {s : StructItem} {fields : Punctuated Field}
    (htakes : TakesDomainFields c s fields) :
    domain c = (⟨.struct { s with fields := .named (withDomainFields fields) }, c.generated⟩,
      .ok ()) := by
  obtain ⟨hstruct, hnamed, hid, hversion⟩ := htakes
  obtain ⟨item, generated⟩ := c
  obtain rfl : item = .struct s := hstruct
  have hrest : ¬ Declares (fields.push (domainField "id")) "version" := by
    simp [declares_push, hversion]
  rw [domain_named hnamed, addFields_of_new _ _ hid, addFields_of_new _ _ hrest]
  rfl

theorem domain_of_refuses {c : Class} {message : String} (hrefuses : Refuses c message) :
    (domain c).2 = .error message := by
  obtain ⟨item, generated⟩ := c
  cases hrefuses with
  | notStruct t htrait =>
    obtain rfl : item = .trait t := htrait
    rfl
  | unnamed s hstruct hunnamed =>
    obtain rfl : item = .struct s := hstruct
    rw [domain_unnamed hunnamed]
  | idDeclared s fields hstruct hnamed hid =>
    obtain rfl : item = .struct s := hstruct
    rw [domain_named hnamed, addFields_of_declared _ _ hid]
  | versionDeclared s fields hstruct hnamed hid hversion =>
    rw [domain_of_lacksOnlyId ⟨hstruct, hnamed, hid, hversion⟩]

theorem takes_or_refuses (c : Class) :
    (∃ s fields, TakesDomainFields c s fields) ∨ ∃ message, Refuses c message := by
  have hends := domain_ends c
  generalize (domain c).1 = after, (domain c).2 = result at hends
  cases hends with
  | notStruct t generated => exact Or.inr ⟨_, .notStruct t rfl⟩
  | unnamed s generated hunnamed => exact Or.inr ⟨_, .unnamed s rfl hunnamed⟩
  | idDeclared s generated fields hnamed hid =>
    exact Or.inr ⟨_, .idDeclared s fields rfl hnamed hid⟩
  | versionDeclared c s fields hlacks =>
    exact Or.inr ⟨_, .versionDeclared s fields hlacks.isStruct hlacks.named hlacks.withoutId
      hlacks.withVersion⟩
  | added s generated fields hnamed hid hversion =>
    exact Or.inl ⟨s, fields, rfl, hnamed, hid, hversion⟩

theorem domain_ok_iff {c : Class} :
    (domain c).2 = .ok () ↔ ∃ s fields, TakesDomainFields c s fields := by
  constructor
  · intro hok
    rcases takes_or_refuses c with htakes | ⟨message, hrefuses⟩
    · exact htakes
    · rw [domain_of_refuses hrefuses] at hok
      cases hok
  · rintro ⟨s, fields, htakes⟩
    rw [domain_of_takes htakes]

theorem domain_error_iff {c : Class} {message : String} :
    (domain c).2 = .error message ↔ Refuses c message := by
  constructor
  · intro herror
    rcases takes_or_refuses c with ⟨s, fields, htakes⟩ | ⟨reason, hrefuses⟩
    · rw [domain_of_takes htakes] at herror
      cases herror
    · rw [domain_of_refuses hrefuses] at herror
      cases herror
      exact hrefuses
  · exact domain_of_refuses

/-- The injector of domain classes succeeds exactly with a struct whose fields have names, none of
which is spelled `id` or `version`. Then both come behind the fields that are there, the second
one without a comma, and nothing else changes; and where the struct could be read from its text,
the text is now read as the same struct with all of these fields. Else it fails for the first of
four reasons. -/
theorem a_domain_class_is_read_with_both_fields (unit : String) (c : Class) :
    ((Feature.domain.descriptor.work ⟨(), unit, c⟩).2 = .ok () ↔
      ∃ s fields, TakesDomainFields c s fields) ∧
    (∀ s fields, TakesDomainFields c s fields →
      (Feature.domain.descriptor.work ⟨(), unit, c⟩).1 =
          ⟨(), unit, ⟨.struct (s.withBoth fields), c.generated⟩⟩ ∧
        ∀ r, readItem s.print = .ok (.struct r) → r.fields = s.fields →
          readItem (s.withBoth fields).print = .ok (.struct (r.withBoth fields))) ∧
    ∀ cause, (Feature.domain.descriptor.work ⟨(), unit, c⟩).2 = .error cause ↔
      cause.deeper = [] ∧ Refuses c cause.outermost := by
  rw [work_domain]
  refine ⟨?_, fun s fields htakes => ?_, fun cause => ?_⟩
  · rw [← domain_ok_iff]
    cases (domain c).2 with
    | _ => simp [Except.mapError]
  · have hboth (s : StructItem) :
        { s with fields := .named (withDomainFields fields) } = s.withBoth fields := by
      rw [withDomainFields_eq]
      rfl
    rw [domain_of_takes htakes, hboth]
    refine ⟨rfl, fun r hread hsame => ?_⟩
    rw [← hboth, ← hboth]
    exact readItem_withDomainFields htakes.named hread hsame
  · rw [← domain_error_iff]
    obtain ⟨outermost, deeper⟩ := cause
    cases (domain c).2 with
    | _ => simp [Except.mapError, eq_comm, and_comm]

/-- A struct of one field with a comma behind it. -/
def commaEnded : StructItem :=
  ⟨[], [], "Book", .none, .named ⟨[⟨[], [], some "title", [.ident "String"]⟩], true⟩⟩

/-- Such a struct is read with three fields from its text as a domain class. -/
theorem a_comma_ended_struct_gets_both_fields :
    TakesDomainFields (.new (.struct commaEnded)) commaEnded
        ⟨[⟨[], [], some "title", [.ident "String"]⟩], true⟩ ∧
      readItem commaEnded.print = .ok (.struct commaEnded) ∧
      readItem (commaEnded.withBoth ⟨[⟨[], [], some "title", [.ident "String"]⟩], true⟩).print =
        .ok (.struct (commaEnded.withBoth
          ⟨[⟨[], [], some "title", [.ident "String"]⟩], true⟩)) := by
  have htakes : TakesDomainFields (.new (.struct commaEnded)) commaEnded
      ⟨[⟨[], [], some "title", [.ident "String"]⟩], true⟩ :=
    ⟨rfl, rfl, by simp [Declares], by simp [Declares]⟩
  have hread : readItem commaEnded.print = .ok (.struct commaEnded) := rfl
  have hlaw := (a_domain_class_is_read_with_both_fields "unit" (.new (.struct commaEnded))).2.1 _ _
    htakes
  exact ⟨htakes, hread, hlaw.2 _ hread rfl⟩

end MarkerInjection.Source
