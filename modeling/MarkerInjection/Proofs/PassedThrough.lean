-- Items that are no classes: an expansion prints them, whatever the tag says. What the
-- reader keeps as it came is printed so, and so are imports, external crates and macro
-- calls; other items may lose tokens that say nothing.
import MarkerInjection.Proofs.CarryingItems
import MarkerInjection.Proofs.Expansions

namespace MarkerInjection.Source

/-! ## Readers that copy -/

theorem wordsOfTokens_append (ts ts' : List Token) :
    wordsOfTokens (ts ++ ts') = wordsOfTokens ts ++ wordsOfTokens ts' := by
  induction ts with
  | nil => rfl
  | cons t ts ih => simp [wordsOfTokens, ih]

/-- The reader shows the words of what it takes, behind those of what was taken before. Groups are
read to their end, or else the rest is left over. -/
structure Copies {α : Type} (before : List String) (shown : α → List Token) (r : Reader α) :
    Prop where
  copies : ∀ {ts l x rest}, r ⟨ts, l⟩ = .ok (x, ⟨rest, none⟩) → l = none ∧
    ∃ taken, ts = taken ++ rest ∧ wordsOfTokens (shown x) = before ++ wordsOfTokens taken

section Copying

variable {α β : Type} {before : List String} {shown : α → List Token} {r : Reader α}

theorem copies_bind {shown' : β → List Token} {f : α → Reader β} (hr : Copies [] shown r)
    (hf : ∀ x, Copies (before ++ wordsOfTokens (shown x)) shown' (f x)) :
    Copies before shown' (r >>= f) := by
  constructor
  intro ts l y rest h
  obtain ⟨x, ⟨rest', l'⟩, hx, hy⟩ := ok_of_run_bind h
  obtain ⟨rfl, taken', rfl, hshown'⟩ := (hf x).copies hy
  obtain ⟨rfl, taken, rfl, hshown⟩ := hr.copies hx
  refine ⟨rfl, taken ++ taken', by rw [List.append_assoc], ?_⟩
  rw [hshown', hshown, wordsOfTokens_append, List.nil_append, List.append_assoc]

theorem copies_pure {x : α} (hx : wordsOfTokens (shown x) = before) :
    Copies before shown (pure x) := by
  constructor
  intro ts l y rest h
  cases h
  exact ⟨rfl, [], rfl, by rw [hx, wordsOfTokens, List.append_nil]⟩

theorem copies_wanting (wanted : List String) : Copies before shown (wanting wanted) := by
  constructor
  intro ts l y rest h
  cases h

theorem copies_forbid (text : String) : Copies before shown (forbid text) := by
  constructor
  intro ts l y rest h
  cases h

theorem copies_ite {p : Prop} [Decidable p] {r' : Reader α} (hr : Copies before shown r)
    (hr' : Copies before shown r') : Copies before shown (if p then r else r') := by
  split
  · exact hr
  · exact hr'

theorem copies_ahead {f : List Token → Reader α} (hf : ∀ ts, Copies before shown (f ts)) :
    Copies before shown (ahead >>= f) :=
  ⟨fun h => (hf _).copies h⟩

theorem copies_next {p : List Token → Bool} {f : Bool → Reader α}
    (hf : ∀ b, Copies before shown (f b)) : Copies before shown (next p >>= f) :=
  ⟨fun h => (hf _).copies h⟩

end Copying

/-! ## Rules that copy -/

/-- A rule that prints what it takes. -/
abbrev CopyRule (r : Rule) : Prop := Copies [] id r

section Rules

variable {r s : Rule}

theorem copies_append (hr : CopyRule r) (hs : CopyRule s) : CopyRule (r ++ s) :=
  copies_bind hr fun x => copies_bind hs fun y => copies_pure (wordsOfTokens_append x y)

theorem copies_nothing : CopyRule nothing := copies_pure rfl

theorem copies_whenNext {p : List Token → Bool} (hr : CopyRule r) : CopyRule (whenNext p r) :=
  copies_next fun _ => copies_ite hr copies_nothing

theorem copies_takeWord (w : String) : CopyRule (takeWord w) := by
  constructor
  intro ts l x rest h
  obtain ⟨ts', i, hahead, h⟩ := ok_of_run_bind h
  cases hahead
  dsimp only at h
  split at h
  · split at h
    · cases h
      exact ⟨rfl, [_], rfl, rfl⟩
    · cases h
  · cases h

theorem copies_takeName : Copies [] (fun name => [.ident name]) takeName := by
  constructor
  intro ts l x rest h
  obtain ⟨ts', i, hahead, h⟩ := ok_of_run_bind h
  cases hahead
  dsimp only at h
  split at h
  · split at h
    · cases h
    · cases h
      exact ⟨rfl, [_], rfl, rfl⟩
  · cases h

theorem copies_takeAnyWord : Copies [] (fun word => [.ident word]) takeAnyWord := by
  constructor
  intro ts l x rest h
  obtain ⟨ts', i, hahead, h⟩ := ok_of_run_bind h
  cases hahead
  dsimp only at h
  split at h
  · cases h
    exact ⟨rfl, [_], rfl, rfl⟩
  · cases h

theorem copies_nameRule : CopyRule nameRule := copies_bind copies_takeName fun _ => copies_pure rfl

theorem copies_anyWordRule : CopyRule anyWordRule :=
  copies_bind copies_takeAnyWord fun _ => copies_pure rfl

theorem words_of_startsSign {s : List Char} {ts : List Token} (hs : startsSign s ts = true) :
    wordsOfTokens (signTokens s) = wordsOfTokens (ts.take s.length) := by
  fun_induction startsSign s ts with
  | case1 => cases hs
  | case2 d e joint r =>
    simp only [Bool.and_eq_true, beq_iff_eq] at hs
    rw [hs.1]
    rfl
  | case3 d more e joint r hmore ih =>
    simp only [Bool.and_eq_true, beq_iff_eq] at hs
    obtain ⟨⟨⟨rfl, -⟩, -⟩, hs⟩ := hs
    cases more with
    | nil => exact absurd rfl hmore
    | cons d' more => exact congrArg (d.toString :: ·) (ih hs)
  | case4 => cases hs

/-- A sign is what was to be taken, whatever follows it. -/
theorem copies_sign (s : String) : Copies [] (fun _ => sign s) (takeSign s) := by
  constructor
  intro ts l x rest h
  have hs := at_of_run_takeSign h
  rw [run_takeSign_of_at hs] at h
  cases h
  refine ⟨rfl, ts.take s.length, (List.take_append_drop _ _).symm, ?_⟩
  rw [← String.length_toList]
  exact words_of_startsSign hs

theorem copies_takeSign (s : String) : CopyRule (takeSign s) := by
  constructor
  intro ts l x rest h
  obtain ⟨hl, taken, htaken, hwords⟩ := (copies_sign s).copies h
  have hs := at_of_run_takeSign h
  rw [run_takeSign_of_at hs] at h
  cases h
  exact ⟨hl, taken, htaken, hwords⟩

theorem copies_optSign (s : String) : CopyRule (optSign s) := copies_whenNext (copies_takeSign s)

theorem copies_anyGroup : Copies [] (fun found => [.group found.1 found.2]) anyGroup := by
  constructor
  intro ts l x rest h
  obtain ⟨ts', i, hahead, h⟩ := ok_of_run_bind h
  cases hahead
  dsimp only at h
  split at h
  · cases h
    exact ⟨rfl, [_], rfl, rfl⟩
  · cases h

theorem copies_inside {α : Type} {shown : α → List Token} {d : Delimiter} {r : Reader α}
    (hr : Copies [] shown r) : Copies [] (fun x => [.group d (shown x)]) (inside d r) := by
  constructor
  intro ts l x rest h
  obtain ⟨inner, rest', y, ⟨left, l'⟩, k, rfl, hy, hbehind, hend⟩ := ok_of_insideThen h
  cases hbehind
  cases left with
  | cons t left => cases l' with
    | _ => cases hend
  | nil =>
    cases l' with
    | some d' => cases hend
    | none =>
      cases hend
      obtain ⟨rfl, taken, rfl, hshown⟩ := hr.copies hy
      refine ⟨rfl, [_], rfl, ?_⟩
      simp [wordsOfTokens, Token.words, hshown]

theorem copies_within {d : Delimiter} (hr : CopyRule r) : CopyRule (within d r) :=
  copies_bind (copies_inside hr) fun _ => copies_pure rfl

end Rules

/-! ## Lists that are copied -/

section Lists

variable {α : Type} {separator : String} {shown : α → List Token}

/-- A step through a list gives nothing, a last member, or a member with its separator. -/
inductive IsStep {α : Type} : List (α × Bool) × Bool → Prop
  | nothing : IsStep ([], false)
  | last (x : α) : IsStep ([(x, false)], false)
  | separated (x : α) : IsStep ([(x, true)], true)

/-- What was found step by step: members with their separators, of which the last may do without. -/
inductive IsList {α : Type} : List (α × Bool) → Prop
  | nothing : IsList []
  | upTo (xs : List α) (x : α) (trailing : Bool) : IsList (xs.map (·, true) ++ [(x, trailing)])

theorem pairs_ofPairs {found : List (α × Bool)} (hfound : IsList found) :
    (Punctuated.ofPairs found).pairs = found := by
  cases hfound with
  | nothing => rfl
  | upTo xs x trailing => simp [Punctuated.ofPairs, Punctuated.pairs, Function.comp_def]

theorem print_ofPairs {found : List (α × Bool)} (hfound : IsList found) :
    (Punctuated.ofPairs found).print separator shown =
      found.flatMap (Punctuated.printPair separator shown) := by
  rw [Punctuated.print, pairs_ofPairs hfound]

theorem isList_cons (x : α) {found : List (α × Bool)} (hfound : IsList found) :
    IsList ((x, true) :: found) := by
  cases hfound with
  | nothing => exact .upTo [] x true
  | upTo xs y trailing => exact .upTo (x :: xs) y trailing

variable {step : Reader (List (α × Bool) × Bool)}

theorem isList_of_isStep {found : List (α × Bool)} {again : Bool} (hstep : IsStep (found, again)) :
    IsList found := by
  cases hstep with
  | nothing => exact .nothing
  | last x => exact .upTo [] x false
  | separated x => exact .upTo [] x true

/-- What a step finds is put before what the further steps find. -/
theorem copies_repeatAlong
    (hcopies : Copies [] (fun found => found.1.flatMap (Punctuated.printPair separator shown)) step)
    (hsteps : ∀ {i x j}, step i = .ok (x, j) → IsStep x) {fuel ts rest : List Token}
    {l : Option Delimiter} {found : List (List (α × Bool))}
    (h : repeatAlong step fuel ⟨ts, l⟩ = .ok (found, ⟨rest, none⟩)) :
    IsList found.flatten ∧ l = none ∧ ∃ taken, ts = taken ++ rest ∧
      wordsOfTokens (found.flatten.flatMap (Punctuated.printPair separator shown)) =
        wordsOfTokens taken := by
  induction fuel generalizing ts l found with
  | nil =>
    obtain ⟨x, again, k, hx, ⟨-, rfl, rfl⟩ | ⟨t, more, ys, hcons, -⟩⟩ := ok_of_repeatAlong h
    · rw [List.flatten_singleton]
      exact ⟨isList_of_isStep (hsteps hx), hcopies.copies hx⟩
    · cases hcons
  | cons t fuel ih =>
    obtain ⟨x, again, k, hx, ⟨-, rfl, rfl⟩ | ⟨t, more, ys, hcons, rfl, rfl, hmore⟩⟩ :=
      ok_of_repeatAlong h
    · rw [List.flatten_singleton]
      exact ⟨isList_of_isStep (hsteps hx), hcopies.copies hx⟩
    · cases hcons
      obtain ⟨ts', l'⟩ := k
      obtain ⟨hlist, rfl, taken', rfl, hshown'⟩ := ih hmore
      obtain ⟨rfl, taken, rfl, hshown⟩ := hcopies.copies hx
      refine ⟨?_, rfl, taken ++ taken', by rw [List.append_assoc], ?_⟩
      · cases hsteps hx with
        | separated y => exact isList_cons y hlist
      · rw [List.flatten_cons, List.flatMap_append, wordsOfTokens_append, wordsOfTokens_append,
          hshown', hshown, List.nil_append]

theorem copies_repeated
    (hcopies : Copies [] (fun found => found.1.flatMap (Punctuated.printPair separator shown)) step)
    (hsteps : ∀ {i x j}, step i = .ok (x, j) → IsStep x) :
    Copies [] (fun found => (Punctuated.ofPairs found.flatten).print separator shown)
      (repeated step) := by
  constructor
  intro ts l found rest h
  obtain ⟨hlist, hl, taken, htaken, hshown⟩ := copies_repeatAlong hcopies hsteps h
  rw [print_ofPairs hlist]
  exact ⟨hl, taken, htaken, hshown⟩

theorem copies_punctuated {stop : List Token → Bool} {member : Reader α}
    (hmember : Copies [] shown member) :
    Copies [] (fun p => p.print separator shown) (punctuated stop separator member) := by
  refine copies_bind (copies_repeated ?_ fun h => ?_) fun _ => copies_pure rfl
  · refine copies_next fun _ => copies_ite (copies_pure rfl) (copies_bind hmember fun x =>
      copies_next fun _ => copies_ite (copies_pure ?_) (copies_bind (copies_sign separator) fun _ =>
        copies_pure ?_))
    · simp [Punctuated.printPair]
    · simp [Punctuated.printPair, wordsOfTokens_append]
  · obtain ⟨atStop, i', -, h⟩ := ok_of_run_bind h
    split at h
    · cases h
      exact .nothing
    · obtain ⟨y, k, -, h⟩ := ok_of_run_bind h
      obtain ⟨stops, k', -, h⟩ := ok_of_run_bind h
      split at h
      · cases h
        exact .last y
      · obtain ⟨sign, k'', -, h⟩ := ok_of_run_bind h
        cases h
        exact .separated y

end Lists

/-! ## Paths and visibility -/

/-- A segment of a plain path may start here. -/
def atSegment (ts : List Token) : Bool :=
  atName ts || atWord "super" ts || atWord "self" ts || atWord "Self" ts || atWord "crate" ts

/-- One step along a plain path. -/
def pathStep : Reader (List (List Token × Bool) × Bool) := do
  if ← next atSegment then
    let segment ← anyWordRule
    if ← next (atSign "::") then
      let _ ← takeSign "::"
      return ([(segment, true)], true)
    return ([(segment, false)], false)
  return ([], false)

/-- A step finds nothing only where no segment starts, and then it takes nothing. -/
theorem isStep_pathStep {i j : Input} {x : List (List Token × Bool) × Bool}
    (h : pathStep i = .ok (x, j)) :
    IsStep x ∧ (x.1 = [] → j = i ∧ atSegment i.tokens = false) := by
  obtain ⟨starts, i', hnext, h⟩ := ok_of_run_bind h
  cases hnext
  split at h
  · obtain ⟨segment, k, -, h⟩ := ok_of_run_bind h
    obtain ⟨goesOn, k', -, h⟩ := ok_of_run_bind h
    split at h
    · obtain ⟨sign, k'', -, h⟩ := ok_of_run_bind h
      cases h
      exact ⟨.separated segment, fun hnil => by cases hnil⟩
    · cases h
      exact ⟨.last segment, fun hnil => by cases hnil⟩
  · rename_i hnone
    cases h
    exact ⟨.nothing, fun _ => ⟨rfl, by simpa using hnone⟩⟩

theorem atName_of_takeName {ts : List Token} {l : Option Delimiter} {name : String} {k : Input}
    (h : takeName ⟨ts, l⟩ = .ok (name, k)) : atName ts = true := by
  obtain ⟨ts', i, hahead, h⟩ := ok_of_run_bind h
  cases hahead
  dsimp only at h
  split at h
  · split at h
    · cases h
    · rename_i hword
      simpa [atName] using hword
  · cases h

/-- A path without segments is none: no name can be taken there either. -/
theorem segment_of_takeName {i j k : Input} {found : List (List (List Token × Bool))}
    (hfound : repeated pathStep i = .ok (found, j)) (hnone : found.flatten = []) {name : String} :
    takeName j ≠ .ok (name, k) := by
  intro hname
  obtain ⟨ts, l⟩ := i
  obtain ⟨x, again, k', hx, hrest⟩ := ok_of_repeatAlong hfound
  obtain ⟨hstep, hempty⟩ := isStep_pathStep hx
  have hx' : x = [] := by
    obtain ⟨-, rfl, -⟩ | ⟨t, more, ys, -, -, rfl, -⟩ := hrest
    · simpa using hnone
    · exact (List.append_eq_nil_iff.mp hnone).1
  obtain ⟨rfl, hsegment⟩ := hempty hx'
  subst hx'
  cases hstep
  obtain ⟨-, -, rfl⟩ | ⟨t, more, ys, -, hagain, -⟩ := hrest
  · have hat := atName_of_takeName hname
    dsimp only at hsegment
    unfold atSegment at hsegment
    rw [hat] at hsegment
    cases hsegment
  · cases hagain

theorem copies_plainPath : CopyRule plainPath := by
  have hstep : Copies [] (fun found => found.1.flatMap (Punctuated.printPair "::" id))
      pathStep := by
    refine copies_next fun _ => copies_ite (copies_bind copies_anyWordRule fun segment =>
      copies_next fun _ => copies_ite (copies_bind (copies_sign "::") fun _ => copies_pure ?_)
        (copies_pure ?_)) (copies_pure rfl)
    · simp [Punctuated.printPair, wordsOfTokens_append]
    · simp [Punctuated.printPair]
  have hpath := copies_repeated hstep fun h => (isStep_pathStep h).1
  refine copies_bind (copies_optSign "::") fun lead => ?_
  constructor
  intro ts l x rest h
  obtain ⟨found, k, hfound, h⟩ := ok_of_run_bind h
  dsimp only at h
  split at h
  · rename_i hnone
    obtain ⟨name, k', hname, -⟩ := ok_of_run_bind h
    exact absurd hname (segment_of_takeName hfound (by simpa [Punctuated.ofPairs] using hnone))
  · split at h
    · cases h
    · cases h
      obtain ⟨rfl, taken, rfl, hshown⟩ := hpath.copies hfound
      refine ⟨rfl, taken, rfl, ?_⟩
      change wordsOfTokens (lead ++ _) = _
      rw [wordsOfTokens_append, hshown]
      rfl

theorem copies_restriction : CopyRule restriction := by
  refine copies_ahead fun ts => ?_
  split
  · exact copies_ite (copies_ite (copies_within copies_anyWordRule) copies_nothing)
      (copies_ite (copies_within (copies_append (copies_takeWord "in") copies_plainPath))
        copies_nothing)
  · exact copies_nothing

theorem copies_visibility : CopyRule visibility :=
  copies_whenNext (copies_append (copies_takeWord "pub") copies_restriction)

/-! ## Imports -/

section Trees

variable {g : Grammar} (htree : ∀ allowLeading, Copies [] Prod.fst (g.useTree allowLeading))

include htree

theorem copies_useTrees (allowLeading : Bool) :
    Copies [] Prod.fst (useTrees g allowLeading) := by
  refine copies_bind (copies_punctuated ?_) fun trees => copies_pure rfl
  refine copies_ite (copies_bind (copies_optSign "::") fun lead => ?_)
    (copies_bind copies_nothing fun lead => ?_)
  · exact copies_bind (htree _) fun tree => copies_pure (wordsOfTokens_append _ _)
  · exact copies_bind (htree _) fun tree => copies_pure (wordsOfTokens_append _ _)

theorem copies_useTreeRule (allowLeading : Bool) :
    Copies [] Prod.fst (useTreeRule g allowLeading) := by
  refine copies_ahead fun ts => copies_ite ?_ (copies_ite ?_ (copies_ite ?_ (copies_wanting _)))
  · refine copies_bind copies_anyWordRule fun name => copies_ahead fun rest => copies_ite ?_
      (copies_ite ?_ (copies_pure rfl))
    · refine copies_bind (copies_takeSign "::") fun colons => copies_bind (htree false) fun tree =>
        copies_pure ?_
      simp [wordsOfTokens_append]
    · refine copies_bind (copies_takeWord "as") fun word => copies_next fun _ => copies_ite
        (copies_bind copies_anyWordRule fun renamed => copies_pure ?_) (copies_forbid _)
      simp [wordsOfTokens_append]
  · exact copies_bind (copies_takeSign "*") fun _ => copies_pure rfl
  · exact copies_bind (copies_inside (copies_useTrees htree allowLeading)) fun _ => copies_pure rfl

end Trees

/-- The tree of an import is printed as it came, however deep it is. -/
theorem copies_useTree (n : Nat) (allowLeading : Bool) :
    Copies [] Prod.fst ((grammar n).useTree allowLeading) := by
  induction n generalizing allowLeading with
  | zero => exact copies_forbid _
  | succ n ih => exact copies_useTreeRule ih allowLeading

theorem copies_useItem (n : Nat) : Copies [] Prod.fst (useItem (grammar n)) := by
  refine copies_bind (copies_append copies_visibility (copies_takeWord "use")) fun head =>
    copies_bind (copies_optSign "::") fun lead => copies_bind (copies_useTree n _) fun tree =>
      copies_bind (copies_takeSign ";") fun semicolon => copies_pure ?_
  simp [wordsOfTokens_append]

/-! ## Macro calls and external crates -/

theorem copies_macroBody : Copies [] Prod.fst macroBody :=
  copies_bind copies_anyGroup fun _ => copies_pure rfl

theorem copies_macroItem (allowName : Bool) : CopyRule (macroItem allowName) := by
  refine copies_bind (copies_append copies_plainPath (copies_takeSign "!")) fun head =>
    copies_bind (copies_whenNext copies_anyWordRule) fun name => copies_bind copies_macroBody ?_
  rintro ⟨body, braces⟩
  have hending (ending : List Token) : Copies ([] ++ wordsOfTokens head ++ wordsOfTokens name ++
      wordsOfTokens body ++ wordsOfTokens ending) id (pure (head ++ name ++ body ++ ending)) := by
    refine copies_pure ?_
    simp [wordsOfTokens_append]
  exact copies_ite (copies_bind copies_nothing hending)
    (copies_bind (copies_takeSign ";") hending)

theorem copies_nameOrUnderscore : CopyRule nameOrUnderscore :=
  copies_next fun _ => copies_ite copies_anyWordRule copies_nameRule

theorem copies_externCrate : CopyRule externCrate := by
  have hhead := copies_append (copies_append copies_visibility (copies_takeWord "extern"))
    (copies_takeWord "crate")
  have hrename := copies_whenNext (p := atWord "as")
    (copies_append (copies_takeWord "as") copies_nameOrUnderscore)
  have hbehind (head name : List Token) : Copies ([] ++ wordsOfTokens head ++ wordsOfTokens name) id
      (do
        let rename ← whenNext (atWord "as") (takeWord "as" ++ nameOrUnderscore)
        return head ++ name ++ rename ++ (← takeSign ";")) := by
    refine copies_bind hrename fun rename => copies_bind (copies_takeSign ";") fun semicolon =>
      copies_pure ?_
    simp [wordsOfTokens_append]
  exact copies_bind hhead fun head => copies_next fun _ => copies_ite
    (copies_bind copies_anyWordRule (hbehind head)) (copies_bind copies_nameRule (hbehind head))

/-! ## Items -/

section Items

variable {item : List Token} {kind : DeclarationKind} {printed : List Token}

/-- The reader keeps the item as it came: it is only checked. -/
def KeptAsItCame (item : List Token) : Prop :=
  ∃ attributes i it j,
    outerAttributes (grammar (depthFor item)) ⟨item, none⟩ = .ok (attributes, i) ∧
    (grammar (depthFor item)).item i = .ok ((it, true), j)

theorem run_of_readItem {it : Item} (h : readItem item = .ok it) :
    wholeItem (grammar (depthFor item)) ⟨item, none⟩ = .ok (it, ⟨[], none⟩) := run_of_readAll h

theorem run_wholeItem {g : Grammar} {attributes : List Token} {i : Input}
    (hattributes : outerAttributes g ⟨item, none⟩ = .ok (attributes, i)) :
    wholeItem g ⟨item, none⟩ = itemBehind g item attributes i := by
  have hahead : ahead ⟨item, none⟩ = .ok (item, ⟨item, none⟩) := rfl
  unfold wholeItem
  rw [run_bind_of_ok hahead, run_bind_of_ok hattributes]

/-- What is kept as it came is printed as it came. -/
theorem readItem_of_kept {it : Item} (h : readItem item = .ok it) (hkept : KeptAsItCame item) :
    it = .other .other item := by
  obtain ⟨attributes, i, it', j, hattributes, hitem⟩ := hkept
  have hrun := run_of_readItem h
  rw [run_wholeItem hattributes] at hrun
  unfold itemBehind at hrun
  rw [run_bind_of_ok hitem] at hrun
  cases hrun
  exact congrArg (Item.other .other) (List.take_length)

theorem outerAttributes_of_none {g : Grammar} {i : Input} (hnone : atSign "#" i.tokens = false) :
    outerAttributes g i = .ok ([], i) := by
  have hstep : (next (atSign "#") >>= fun b => if b then do
      return (← outerAttribute g, true) else pure ([], false) : Reader (List Token × Bool))
      i = .ok (([], false), i) := by
    rw [run_bind_of_ok (run_next _ _)]
    rw [hnone]
    rfl
  have hloop := repeatAlong_stop hstep i.tokens
  exact run_bind_of_ok (f := fun found => pure found.flatten) hloop

/-- The rule for an item shows what it takes. -/
def RuleCopies (item : List Token) : Prop :=
  ∀ {n : Nat} {it : Item} {kept : Bool} {rest : List Token},
    itemRule (grammar n) ⟨item, none⟩ = .ok ((it, kept), ⟨rest, none⟩) →
      ∃ taken, item = taken ++ rest ∧ wordsOfTokens it.print = wordsOfTokens taken

/-- An item without attributes is printed as it came if its rule copies it. -/
theorem words_of_readItem (h : readItem item = .ok (.other kind printed))
    (hnone : atSign "#" item = false) (hcopies : RuleCopies item) :
    wordsOfTokens printed = wordsOfTokens item := by
  have hrun := run_of_readItem h
  rw [run_wholeItem (outerAttributes_of_none hnone)] at hrun
  obtain ⟨⟨it, kept⟩, ⟨rest, l⟩, hitem, hrun⟩ := ok_of_run_bind hrun
  dsimp only at hrun
  split at hrun
  · cases hrun
    rw [List.length_nil, Nat.sub_zero, List.take_length]
  · cases it with
    | other kind' tokens =>
      cases hrun
      obtain ⟨taken, htaken, hwords⟩ := hcopies hitem
      rw [htaken, List.append_nil]
      exact hwords
    | struct s => cases hrun
    | trait t => cases hrun

section Dispatch

variable {g : Grammar} {i : Input} {shown more : List Token} {l : Option Delimiter}

theorem itemRule_of_use (hvisibility : visibility i = .ok (shown, ⟨.ident "use" :: more, l⟩)) :
    itemRule g i = otherKept .other (useItem g) i := by
  have hget : (get : Reader Input) i = .ok (i, i) := rfl
  unfold itemRule
  rw [run_bind_of_ok hget, run_bind_of_ok hvisibility]
  rfl

theorem itemRule_of_externCrate
    (hvisibility : visibility i = .ok (shown, ⟨.ident "extern" :: .ident "crate" :: more, l⟩)) :
    itemRule g i = other .other externCrate i := by
  have hget : (get : Reader Input) i = .ok (i, i) := rfl
  unfold itemRule
  rw [run_bind_of_ok hget, run_bind_of_ok hvisibility]
  rfl

theorem itemRule_of_group {d : Delimiter} {inner : List Token}
    (hvisibility : visibility i = .ok (shown, ⟨.group d inner :: more, l⟩)) :
    ∃ e, itemRule g i = .error e := by
  have hget : (get : Reader Input) i = .ok (i, i) := rfl
  unfold itemRule
  rw [run_bind_of_ok hget, run_bind_of_ok hvisibility]
  cases shown with
  | _ => exact ⟨_, rfl⟩

theorem visibility_of_not_pub {ts : List Token} (hpub : atWord "pub" ts = false) :
    visibility ⟨ts, l⟩ = .ok ([], ⟨ts, l⟩) := by
  unfold visibility whenNext
  rw [run_bind_of_ok (run_next _ _)]
  dsimp only
  rw [hpub]
  rfl

/-- A name that is not reserved is none of the words that rules ask for. -/
theorem atWord_of_unreserved {name w : String} (hname : reservedWords.contains name = false)
    (hw : reservedWords.contains w = true) (r : List Token) :
    atWord w (.ident name :: r) = false := by
  change (name == w) = false
  rw [beq_eq_false_iff_ne]
  rintro rfl
  rw [hname] at hw
  cases hw

theorem itemRule_of_call {name : String} (hname : reservedWords.contains name = false)
    (joint : Bool) (more : List Token) :
    itemRule g ⟨.ident name :: .punct '!' joint :: more, l⟩ =
      other .other (macroItem true) ⟨.ident name :: .punct '!' joint :: more, l⟩ := by
  have hat (w : String) (hw : reservedWords.contains w = true) (r : List Token) :
      atWord w (.ident name :: r) = false := atWord_of_unreserved hname hw r
  have hvisibility : visibility ⟨.ident name :: .punct '!' joint :: more, l⟩ =
      .ok ([], ⟨.ident name :: .punct '!' joint :: more, l⟩) :=
    visibility_of_not_pub (hat "pub" (by decide) _)
  have hsignature : atSignature false (.ident name :: .punct '!' joint :: more) = false := by
    simp only [atSignature, hat "const" (by decide), hat "async" (by decide),
      hat "unsafe" (by decide), hat "extern" (by decide), hat "fn" (by decide),
      Bool.false_eq_true, Bool.false_and, if_false]
  have hpath : atMacroPath (.ident name :: .punct '!' joint :: more) = true := by
    change (!reservedWords.contains name || _ || _ || _ || _) = true
    rw [hname]
    rfl
  -- Some words begin an item only before another word.
  have hnoName : atName (behind (.ident name :: .punct '!' joint :: more)) = false := rfl
  have hnoTrait : atWord "trait" (behind (.ident name :: .punct '!' joint :: more)) = false := rfl
  have hbang : atSign "!" (behind (.ident name :: .punct '!' joint :: more)) = true := rfl
  have hget (i : Input) : (get : Reader Input) i = .ok (i, i) := rfl
  have hahead (i : Input) : ahead i = .ok (i.tokens, i) := rfl
  have hset (i k : Input) : (set k : Reader PUnit) i = .ok (⟨⟩, k) := rfl
  unfold itemRule
  rw [run_bind_of_ok (hget _), run_bind_of_ok hvisibility, run_bind_of_ok (hahead _),
    run_bind_of_ok (hget _), run_bind_of_ok (hset _ _)]
  dsimp only
  simp only [hsignature, hat "extern" (by decide), hat "use" (by decide), hat "static" (by decide),
    hat "const" (by decide), hat "unsafe" (by decide), hat "mod" (by decide),
    hat "type" (by decide), hat "struct" (by decide), hat "enum" (by decide),
    hat "trait" (by decide), hat "impl" (by decide), hat "macro" (by decide), hnoName, hnoTrait,
    hbang, hpath, Bool.and_false, Bool.not_true, Bool.or_false, Bool.false_eq_true, if_false]
  rfl

end Dispatch

/-- An item without attributes begins with these tokens behind its visibility. -/
inductive BeginsWith (head : List Token) : List Token → Prop
  | plain (more : List Token) : BeginsWith head (head ++ more)
  | visible (more : List Token) : BeginsWith head (.ident "pub" :: (head ++ more))
  | restricted (inner more : List Token) :
    BeginsWith head (.ident "pub" :: .group .paren inner :: (head ++ more))

theorem tokens_of_within {d e : Delimiter} {r : Rule} {inner more x : List Token}
    {l : Option Delimiter} {k : Input} (h : within d r ⟨.group e inner :: more, l⟩ = .ok (x, k)) :
    k.tokens = more := by
  obtain ⟨y, k', hinside, hend⟩ := ok_of_run_bind h
  cases hend
  obtain ⟨inner', more', z, after, k'', heq, -, hbehind, rfl⟩ := ok_of_insideThen hinside
  cases heq
  cases hbehind
  rfl

/-- Brackets behind `pub` belong to it, or they are left. -/
theorem tokens_of_restriction {inner more x : List Token} {l : Option Delimiter} {k : Input}
    (h : restriction ⟨.group .paren inner :: more, l⟩ = .ok (x, k)) :
    k.tokens = more ∨ k.tokens = .group .paren inner :: more := by
  obtain ⟨ts, i, hahead, h⟩ := ok_of_run_bind h
  cases hahead
  dsimp only at h
  split at h
  · split at h
    · exact Or.inl (tokens_of_within h)
    · cases h
      exact Or.inr rfl
  · split at h
    · exact Or.inl (tokens_of_within h)
    · cases h
      exact Or.inr rfl

theorem tokens_of_visibility {w : String} (hw : w ≠ "pub") {head x : List Token}
    {l : Option Delimiter} {k : Input} (hitem : BeginsWith (.ident w :: head) item)
    (h : visibility ⟨item, l⟩ = .ok (x, k)) :
    (∃ more, k.tokens = .ident w :: (head ++ more)) ∨
      ∃ inner more, k.tokens = .group .paren inner :: more := by
  cases hitem with
  | plain more =>
    have hpub : atWord "pub" (.ident w :: head ++ more) = false := beq_eq_false_iff_ne.mpr hw
    rw [visibility_of_not_pub hpub] at h
    cases h
    exact Or.inl ⟨more, rfl⟩
  | visible more =>
    cases h
    exact Or.inl ⟨more, rfl⟩
  | restricted inner more =>
    have hboth : (takeWord "pub" ++ restriction)
        ⟨.ident "pub" :: .group .paren inner :: (.ident w :: head ++ more), l⟩ = .ok (x, k) := h
    obtain ⟨word, i, hword, hrest⟩ := ok_of_run_bind hboth
    cases hword
    obtain ⟨y, k', hrestriction, hend⟩ := ok_of_run_bind hrest
    cases hend
    exact (tokens_of_restriction hrestriction).imp (fun htokens => ⟨more, htokens⟩)
      fun htokens => ⟨inner, _, htokens⟩

/-- What an item is shows behind its visibility. -/
theorem ruleCopies_of_beginsWith {w : String} (hw : w ≠ "pub") {head : List Token}
    (hitem : BeginsWith (.ident w :: head) item)
    (hcopies : ∀ {n shown more l it kept rest},
      visibility ⟨item, none⟩ = .ok (shown, ⟨.ident w :: (head ++ more), l⟩) →
      itemRule (grammar n) ⟨item, none⟩ = .ok ((it, kept), ⟨rest, none⟩) →
      ∃ taken, item = taken ++ rest ∧ wordsOfTokens it.print = wordsOfTokens taken) :
    RuleCopies item := by
  intro n it kept rest h
  obtain ⟨start, i, hget, hrule⟩ := ok_of_run_bind h
  cases hget
  obtain ⟨shown, ⟨ts, l⟩, hvisibility, -⟩ := ok_of_run_bind hrule
  obtain ⟨more, rfl⟩ | ⟨inner, more, rfl⟩ := tokens_of_visibility hw hitem hvisibility
  · exact hcopies hvisibility h
  · obtain ⟨e, he⟩ := itemRule_of_group (g := grammar n) hvisibility
    rw [he] at h
    cases h

theorem ruleCopies_of_use (hitem : BeginsWith [.ident "use"] item) : RuleCopies item := by
  refine ruleCopies_of_beginsWith (by decide) hitem fun {n _ _ _ _ _ _} hvisibility h => ?_
  rw [itemRule_of_use hvisibility] at h
  obtain ⟨⟨tokens, kept⟩, k, huse, hend⟩ := ok_of_run_bind h
  cases hend
  exact ((copies_useItem n).copies huse).2

theorem ruleCopies_of_externCrate (hitem : BeginsWith [.ident "extern", .ident "crate"] item) :
    RuleCopies item := by
  refine ruleCopies_of_beginsWith (by decide) hitem fun hvisibility h => ?_
  rw [itemRule_of_externCrate hvisibility] at h
  obtain ⟨tokens, k, hcrate, hend⟩ := ok_of_run_bind h
  cases hend
  exact (copies_externCrate.copies hcrate).2

/-- A macro is called by its name. -/
def IsMacroCall (item : List Token) : Prop :=
  ∃ name joint more, item = .ident name :: .punct '!' joint :: more ∧
    reservedWords.contains name = false

theorem ruleCopies_of_call (hitem : IsMacroCall item) : RuleCopies item := by
  intro n it kept rest h
  obtain ⟨name, joint, more, rfl, hname⟩ := hitem
  rw [itemRule_of_call hname] at h
  obtain ⟨tokens, k, hmacro, hend⟩ := ok_of_run_bind h
  cases hend
  exact ((copies_macroItem true).copies hmacro).2

/-- Imports, external crates and macro calls without attributes. -/
inductive IsPlain (item : List Token) : Prop
  | use (hitem : BeginsWith [.ident "use"] item)
  | externCrate (hitem : BeginsWith [.ident "extern", .ident "crate"] item)
  | macroCall (hitem : IsMacroCall item)

theorem words_of_plain (h : readItem item = .ok (.other kind printed)) (hplain : IsPlain item) :
    wordsOfTokens printed = wordsOfTokens item := by
  cases hplain with
  | use hitem =>
    refine words_of_readItem h ?_ (ruleCopies_of_use hitem)
    cases hitem with
    | _ => rfl
  | externCrate hitem =>
    refine words_of_readItem h ?_ (ruleCopies_of_externCrate hitem)
    cases hitem with
    | _ => rfl
  | macroCall hitem =>
    refine words_of_readItem h ?_ (ruleCopies_of_call hitem)
    obtain ⟨name, joint, more, rfl, -⟩ := hitem
    rfl

end Items

/-! ## Expansions of what is no class -/

/-- An item that is no class comes out as it is printed, with no error behind it and whatever the
arguments say. What the reader keeps as it came is the same tokens then; imports, external crates
and macro calls are the same but for how their signs are spaced. -/
theorem what_is_no_class_is_only_printed {arguments item : List Token} {tag : Tag}
    {kind : DeclarationKind} {printed : List Token}
    (htag : Tag.read Config.standard.marker arguments = .ok tag)
    (hitem : readItem item = .ok (.other kind printed)) :
    expand arguments item = printed ∧
      (KeptAsItCame item → expand arguments item = item) ∧
      (IsPlain item → spaced (expand arguments item) = spaced item) := by
  have hexpand : expand arguments item = printed := by
    unfold expand
    rw [htag, hitem]
    exact expandDeclaration_eq tag kind printed
  rw [hexpand]
  refine ⟨rfl, fun hkept => ?_, fun hplain => ?_⟩
  · cases readItem_of_kept hitem hkept
    rfl
  · rw [spaced, words_of_plain hitem hplain, ← spaced]

/-- The argument list `"Service"` and its tag. -/
def serviceArguments : List Token := [.literal "\"Service\""]

def serviceTag : Tag :=
  ⟨Config.standard.marker, [("value", .literal "Service")], serviceArguments⟩

theorem read_serviceArguments :
    Tag.read Config.standard.marker serviceArguments = .ok serviceTag := by rfl

/-- The import `pub use a::{b, c as d};`. -/
def openImport : List Token :=
  [.ident "pub", .ident "use", .ident "a", .punct ':' true, .punct ':' false,
    .group .brace [.ident "b", .punct ',' false, .ident "c", .ident "as", .ident "d"],
    .punct ';' false]

/-- The function `fn f<>();`, which has no body. -/
def bodiless : List Token :=
  [.ident "fn", .ident "f", .punct '<' true, .punct '>' false, .group .paren [], .punct ';' false]

theorem an_import_and_a_bodiless_function_pass_through :
    spaced (expand serviceArguments openImport) = spaced openImport ∧
      expand serviceArguments bodiless = bodiless := by
  have himport : readItem openImport = .ok (.other .other openImport) := by rfl
  have hbodiless : readItem bodiless = .ok (.other .other bodiless) := by rfl
  have hkept : KeptAsItCame bodiless := ⟨[], ⟨bodiless, none⟩, _, _, rfl, rfl⟩
  obtain ⟨-, -, hplain⟩ := what_is_no_class_is_only_printed read_serviceArguments himport
  obtain ⟨-, hsame, -⟩ := what_is_no_class_is_only_printed read_serviceArguments hbodiless
  exact ⟨hplain (.use (.visible _)), hsame hkept⟩

/-- The function `fn f<>() {}`, whose angle brackets are empty. -/
def emptyAngled : List Token :=
  [.ident "fn", .ident "f", .punct '<' true, .punct '>' false, .group .paren [], .group .brace []]

/-- A function loses the angle brackets that hold no parameters. -/
theorem declarations_do_not_stay_untouched :
    ¬ ∀ (arguments item : List Token) (tag : Tag) (kind : DeclarationKind) (printed : List Token),
      Tag.read Config.standard.marker arguments = .ok tag →
      readItem item = .ok (.other kind printed) →
      spaced (expand arguments item) = spaced item := by
  intro hstays
  have hread : readItem emptyAngled =
      .ok (.other .method [.ident "fn", .ident "f", .group .paren [], .group .brace []]) := by rfl
  have hspaced := hstays serviceArguments emptyAngled serviceTag .method _ read_serviceArguments
    hread
  simp only [expand, read_serviceArguments, hread, expandDeclaration_eq] at hspaced
  revert hspaced
  decide

end MarkerInjection.Source
