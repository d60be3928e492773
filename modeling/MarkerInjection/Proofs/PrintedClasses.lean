-- The text of a class with members that were pushed to it: the item, and for a struct one
-- `impl` block, which repeats the parameters in the order in which they are printed. What holds
-- of structs that were read, and when the reader of the block sees that there are parameters.
import MarkerInjection.Proofs.LiteralValues

namespace MarkerInjection.Source

/-! ## Lists with separators -/

section Lists

variable {α : Type} (separator : String) (form : α → List Token)

theorem pairs_concat (xs : List α) (x : α) (trailing : Bool) :
    (Punctuated.mk (xs ++ [x]) trailing).pairs = xs.map (·, true) ++ [(x, trailing)] := by
  simp [Punctuated.pairs]

/-- Members with a separator behind each of them. -/
def separated (xs : List α) : List Token := xs.flatMap fun x => form x ++ sign separator

theorem separated_append (xs ys : List α) :
    separated separator form (xs ++ ys) =
      separated separator form xs ++ separated separator form ys := by
  simp [separated]

theorem flatMap_printPair (xs : List α) :
    (xs.map (·, true)).flatMap (Punctuated.printPair separator form) =
      separated separator form xs := by
  simp [separated, List.flatMap_map, Punctuated.printPair]

theorem print_concat (xs : List α) (x : α) (trailing : Bool) :
    (Punctuated.mk (xs ++ [x]) trailing).print separator form =
      separated separator form xs ++ Punctuated.printPair separator form (x, trailing) := by
  simp [Punctuated.print, pairs_concat, flatMap_printPair]

theorem print_append (xs : List α) {ys : List α} (hys : ys ≠ []) (trailing : Bool) :
    (Punctuated.mk (xs ++ ys) trailing).print separator form =
      separated separator form xs ++ (Punctuated.mk ys trailing).print separator form := by
  rw [← List.dropLast_append_getLast hys, ← List.append_assoc, print_concat, print_concat,
    separated_append, List.append_assoc]

theorem print_trailing (xs : List α) :
    (Punctuated.mk xs true).print separator form = separated separator form xs := by
  by_cases hxs : xs = []
  · subst hxs
    rfl
  · rw [← List.dropLast_append_getLast hxs, print_concat, separated_append]
    simp [separated, Punctuated.printPair]

end Lists

/-! ## The order of parameters -/

namespace Generics

/-- The parameters in the order in which they are printed: lifetimes first. A comma ends the
list if one ended it before, or if the last parameter is a lifetime that another one now
follows. -/
def ordered (ps : Punctuated Param) : Punctuated Param :=
  let lifetimes := ps.members.filter (·.isLifetime)
  let others := ps.members.filter (!·.isLifetime)
  let moved := ps.members.getLast?.any (·.isLifetime) && !others.isEmpty
  ⟨lifetimes ++ others, ps.trailing || moved⟩

variable (form : Param → List Token) (init : List Param) (p : Param) (trailing : Bool)

/-- The last parameter is a lifetime: it gets a comma if another parameter follows it now. -/
theorem printOrdered_lifetime (hp : p.isLifetime = true) :
    printOrdered form ⟨init ++ [p], trailing⟩ =
      (ordered ⟨init ++ [p], trailing⟩).print "," form := by
  simp only [printOrdered, ordered, pairs_concat, List.filter_append, List.filter_map,
    Function.comp_def]
  generalize init.filter (·.isLifetime) = lifetimes
  generalize init.filter (!·.isLifetime) = others
  by_cases hothers : others = []
  · simp [hothers, hp, print_concat, flatMap_printPair]
  · have hsome : others.isEmpty = false := by simpa using hothers
    cases trailing with
    | _ => simp [hsome, hp, print_trailing, separated, Punctuated.printPair, List.flatMap_map]

/-- The last parameter is no lifetime: the lifetimes before it have their commas. -/
theorem printOrdered_other (hp : p.isLifetime = false) :
    printOrdered form ⟨init ++ [p], trailing⟩ =
      (ordered ⟨init ++ [p], trailing⟩).print "," form := by
  simp only [printOrdered, ordered, pairs_concat, List.filter_append, List.filter_map,
    Function.comp_def]
  generalize init.filter (·.isLifetime) = lifetimes
  generalize init.filter (!·.isLifetime) = others
  have hothers : others ++ [p] ≠ [] := by simp
  cases hlast : lifetimes.getLast? with
  | _ => simp [hlast, hp, List.getLast?_map, print_append _ _ _ hothers, print_concat,
      flatMap_printPair]

theorem printOrdered_eq (ps : Punctuated Param) :
    printOrdered form ps = (ordered ps).print "," form := by
  obtain ⟨members, trailing⟩ := ps
  by_cases hmembers : members = []
  · subst hmembers
    rfl
  · rw [← List.dropLast_append_getLast hmembers]
    cases hlast : (members.getLast hmembers).isLifetime with
    | true => exact printOrdered_lifetime form _ _ trailing hlast
    | false => exact printOrdered_other form _ _ trailing hlast

/-- The parameters between angle brackets, one after the other; nothing if there are none. -/
def listed (form : Param → List Token) (g : Generics) : List Token :=
  if g.params.members.isEmpty then []
  else sign "<" ++ (ordered g.params).print "," form ++ sign ">"

theorem printParams_eq (g : Generics) : g.printParams form = g.listed form := by
  rw [printParams, printOrdered_eq, listed]

end Generics

/-! ## The text of a class -/

/-- The parameter without its default. -/
def Param.withoutDefault (p : Param) : Param :=
  { p with kind := match p.kind with
      | .lifetime => .lifetime
      | .type _ => .type none
      | .const type _ => .const type none }

theorem declaration_withoutDefault (p : Param) : p.withoutDefault.declaration = p.head := by
  obtain ⟨attributes, name, bounds, kind⟩ := p
  cases kind with
  | _ => simp [Param.withoutDefault, Param.declaration, Param.head, Param.printDefault,
      Param.reference, Param.isLifetime]

/-- The class of an item to which these members were pushed, one after the other. -/
def pushed (item : ClassItem) (members : List (List Token)) : Class :=
  members.foldl Class.push (Class.new item)

theorem pushed_eq (item : ClassItem) (members : List (List Token)) :
    pushed item members = ⟨item, members⟩ := by
  have hfold (c : Class) : members.foldl Class.push c = ⟨c.item, c.generated ++ members⟩ := by
    induction members generalizing c with
    | nil => simp
    | cons member members ih => simp [ih, Class.push]
  exact hfold _

/-- The `impl` block of a struct: its parameters without their defaults, its name with the names
of the parameters, its `where` clause, and the members. -/
def ownBlock (s : StructItem) (members : List (List Token)) : List Token :=
  [.ident "impl"] ++ s.generics.listed (·.withoutDefault.declaration) ++ [.ident s.name] ++
    s.generics.listed (·.reference) ++ s.generics.printWhere ++ [.group .brace members.flatten]

theorem implBlock_eq (s : StructItem) (members : List (List Token)) :
    Class.implBlock s members = ownBlock s members := by
  simp only [Class.implBlock, ownBlock, Generics.heads, Generics.references,
    Generics.printParams_eq, declaration_withoutDefault]

theorem print_pushed_trait (t : TraitItem) (members : List (List Token)) :
    (pushed (.trait t) members).print = t.tokens := by
  rw [pushed_eq]
  rfl

theorem print_pushed_struct (s : StructItem) (members : List (List Token)) :
    (pushed (.struct s) members).print =
      s.print ++ if members.isEmpty then [] else ownBlock s members := by
  rw [pushed_eq, ← implBlock_eq]
  rfl

/-! ## Parameters that were read -/

/-- What the kinds of parameters ask of the other parts. An underscore may stand for a type. -/
inductive Param.Shaped (p : Param) : Prop
  | lifetime (hkind : p.kind = .lifetime)
  | type (default : Option (List Token)) (hkind : p.kind = .type default)
    (hname : reservedWords.contains p.name = false)
  | const (type : List Token) (default : Option (List Token)) (hkind : p.kind = .const type default)
    (hname : reservedWords.contains p.name = false) (hbounds : p.bounds = [])
  | underscore (hkind : p.kind = .type none) (hname : p.name = "_") (hbounds : p.bounds = [])

/-- Attributes, if there are any, start with a hash. -/
def HashFirst (attributes : List Token) : Prop :=
  attributes = [] ∨ ∃ more, attributes = .punct '#' false :: more

/-- What holds of each parameter that was read. -/
structure Param.WellFormed (p : Param) : Prop where
  attributes : HashFirst p.attributes
  shape : p.Shaped

section Reading

variable (g : Grammar)

theorem gives_outerAttributes : Gives HashFirst (outerAttributes g) := by
  refine gives_then (gives_repeated (P := HashFirst) ?_) ?_
  · refine gives_bind fun b => gives_ite ?_ (gives_pure (Or.inl rfl))
    refine gives_then (Q := HashFirst) ⟨fun {i x j} h => ?_⟩ fun x hx => gives_pure hx
    obtain ⟨mark, k, hmark, h⟩ := ok_of_run_bind h
    rw [run_takeSign_of_at (at_of_run_takeSign hmark)] at hmark
    cases hmark
    obtain ⟨content, k', -, h⟩ := ok_of_run_bind h
    cases h
    exact Or.inr ⟨content, rfl⟩
  · rintro found ⟨-, hfound⟩
    refine gives_pure ?_
    induction found with
    | nil => exact Or.inl rfl
    | cons first found ih =>
      rcases hfound _ List.mem_cons_self with rfl | ⟨more, rfl⟩
      · exact ih fun x hx => hfound x (List.mem_cons_of_mem _ hx)
      · exact Or.inr ⟨more ++ found.flatten, rfl⟩

theorem gives_takeName : Gives (fun name => reservedWords.contains name = false) takeName := by
  refine gives_bind fun ts => ?_
  split
  · split
    · exact gives_throw _
    · rename_i hname
      exact gives_bind fun _ => gives_pure (by simpa using hname)
  · exact gives_wanting _

theorem gives_lifetimeParam {attributes : List Token} (hattributes : HashFirst attributes) :
    Gives Param.WellFormed (lifetimeParam attributes) :=
  gives_bind fun _ => gives_bind fun _ => gives_pure ⟨hattributes, .lifetime rfl⟩

theorem gives_typeParam {attributes : List Token} (hattributes : HashFirst attributes) :
    Gives Param.WellFormed (typeParam g attributes) :=
  gives_then gives_takeName fun _ hname => gives_bind fun _ => gives_bind fun default =>
    gives_pure ⟨hattributes, .type default rfl hname⟩

theorem gives_constParam {attributes : List Token} (hattributes : HashFirst attributes) :
    Gives Param.WellFormed (constParam g attributes) := by
  refine gives_bind fun _ => gives_then gives_takeName fun name hname => gives_bind fun _ => ?_
  refine gives_bind fun type => gives_bind fun default => gives_pure ?_
  exact ⟨hattributes, .const type default rfl hname rfl⟩

theorem gives_underscoreParam {attributes : List Token} (hattributes : HashFirst attributes)
    {i j : Input} {p : Param} (hword : atWord "_" i.tokens = true)
    (h : (do return ⟨attributes, ← takeAnyWord, [], .type none⟩ : Reader Param) i = .ok (p, j)) :
    p.WellFormed := by
  obtain ⟨name, k, hname, h⟩ := ok_of_run_bind h
  cases h
  obtain ⟨ts, l⟩ := i
  obtain ⟨r, rfl⟩ := exists_of_atWord hword
  cases hname
  exact ⟨hattributes, .underscore rfl rfl rfl⟩

theorem gives_genericParam : Gives Param.WellFormed (genericParam g) := by
  refine gives_then (gives_outerAttributes g) fun attributes hattributes => ⟨fun {i p j} h => ?_⟩
  obtain ⟨ts, k, hahead, h⟩ := ok_of_run_bind h
  cases hahead
  split at h
  · exact (gives_lifetimeParam hattributes).gives h
  split at h
  · exact (gives_typeParam g hattributes).gives h
  split at h
  · exact (gives_constParam g hattributes).gives h
  split at h
  · exact gives_underscoreParam hattributes ‹_› h
  · cases h

theorem gives_generics :
    Gives (fun params => ∀ p ∈ params.params.members, p.WellFormed) (generics g) := by
  refine gives_bind fun b => gives_ite ?_ (gives_pure fun p hp => by cases hp)
  refine gives_bind fun _ => ?_
  refine gives_then (gives_punctuated (gives_genericParam g) _ _) fun params hparams => ?_
  exact gives_bind fun _ => gives_pure hparams

/-! ## Structs that were read -/

/-- Whatever the item is, it is no struct. -/
def NoStruct (x : Item × Bool) : Prop := ∀ s, x.1 ≠ .struct s

theorem gives_otherItem (kind : DeclarationKind) (r : Rule) : Gives NoStruct (other kind r) :=
  gives_bind fun _ => gives_pure fun _ h => by cases h

theorem gives_otherKept (kind : DeclarationKind) (r : Reader (List Token × Bool)) :
    Gives NoStruct (otherKept kind r) :=
  gives_bind fun ⟨_, _⟩ => gives_pure fun _ h => by cases h

theorem gives_traitItem (r : Reader TraitItem) : Gives NoStruct (traitItem r) :=
  gives_bind fun _ => gives_pure fun _ h => by cases h

theorem gives_traitOrAlias : Gives NoStruct (traitOrAlias g) := by
  refine gives_bind fun head => gives_bind fun name => gives_bind fun params => ?_
  refine gives_bind fun ts => gives_ite ?_ (gives_ite ?_ (gives_wanting _))
  · exact gives_bind fun _ => gives_pure fun _ h => by cases h
  · refine gives_bind fun eq => gives_bind fun bounds => gives_bind fun condition => ?_
    exact gives_bind fun semicolon => gives_pure fun _ h => by cases h

theorem gives_externItem (more : List Token) : Gives NoStruct (externItem g more) := by
  refine gives_ite (gives_otherItem _ _) (gives_ite (gives_otherItem _ _) (gives_ite ?_ ?_))
  · exact gives_ite (gives_otherItem _ _) (gives_bind fun _ => gives_wanting _)
  · exact gives_bind fun _ => gives_wanting _

theorem gives_unsafeItem (more : List Token) : Gives NoStruct (unsafeItem g more) := by
  refine gives_ite (gives_traitItem _) (gives_ite (gives_otherKept _ _) ?_)
  refine gives_ite (gives_otherItem _ _) (gives_ite (gives_otherItem _ _) ?_)
  exact gives_bind fun _ => gives_bind fun _ => gives_wanting _

theorem else_of_noStruct {p : Prop} [Decidable p] {r r' : Reader (Item × Bool)} {i j : Input}
    {s : StructItem} {kept : Bool} (hr : Gives NoStruct r)
    (h : (if p then r else r') i = .ok ((.struct s, kept), j)) :
    r' i = .ok ((.struct s, kept), j) := by
  split at h
  · exact absurd rfl (hr.gives h s)
  · exact h

/-- Structs are read as such only where the word for them is next. -/
theorem structRule_of_itemRule {i j : Input} {s : StructItem} {kept : Bool}
    (h : itemRule g i = .ok ((.struct s, kept), j)) :
    structRule g i = .ok (s, j) ∧ kept = false := by
  obtain ⟨start, k, hstart, h⟩ := ok_of_run_bind h
  cases hstart
  obtain ⟨shown, k, -, h⟩ := ok_of_run_bind h
  obtain ⟨ts, k', hahead, h⟩ := ok_of_run_bind h
  cases hahead
  obtain ⟨after, k', hafter, h⟩ := ok_of_run_bind h
  cases hafter
  obtain ⟨_, k', hset, h⟩ := ok_of_run_bind h
  cases hset
  replace h := else_of_noStruct (gives_otherKept _ _) h
  replace h := else_of_noStruct (gives_externItem g _) h
  replace h := else_of_noStruct (gives_otherKept _ _) h
  replace h := else_of_noStruct (gives_otherKept _ _) h
  replace h := else_of_noStruct (gives_otherKept _ _) h
  replace h := else_of_noStruct (gives_unsafeItem g _) h
  replace h := else_of_noStruct (gives_otherItem _ _) h
  replace h := else_of_noStruct (gives_otherKept _ _) h
  split at h
  · obtain ⟨s', k, hstruct, h⟩ := ok_of_run_bind h
    cases h
    exact ⟨hstruct, rfl⟩
  replace h := else_of_noStruct (gives_otherItem _ _) h
  replace h := else_of_noStruct (gives_otherItem _ _) h
  replace h := else_of_noStruct (gives_traitOrAlias g) h
  replace h := else_of_noStruct (gives_traitItem _) h
  replace h := else_of_noStruct (gives_otherKept _ _) h
  replace h := else_of_noStruct (gives_otherKept _ _) h
  replace h := else_of_noStruct (gives_otherItem _ _) h
  cases h

/-- What holds of each struct that was read. -/
structure StructItem.WellFormed (s : StructItem) : Prop where
  name : reservedWords.contains s.name = false
  params : ∀ p ∈ s.generics.params.members, p.WellFormed

theorem gives_structRule : Gives StructItem.WellFormed (structRule g) := by
  refine gives_bind fun shown => gives_bind fun _ => gives_then gives_takeName fun name hname => ?_
  refine gives_then (gives_generics g) fun params hparams => ?_
  exact gives_bind fun ⟨fields, condition⟩ => gives_pure ⟨hname, hparams⟩

end Reading

/-- A struct is read behind its attributes. -/
theorem structRule_of_wholeItem {n : Nat} {i j : Input} {s : StructItem}
    (h : wholeItem (grammar (n + 1)) i = .ok (.struct s, j)) :
    ∃ attributes k s', outerAttributes (grammar (n + 1)) i = .ok (attributes, k) ∧
      structRule (grammar n) k = .ok (s', j) ∧
      s = { s' with attributes := attributes ++ s'.attributes } := by
  obtain ⟨start, i', hahead, h⟩ := ok_of_run_bind h
  cases hahead
  obtain ⟨attributes, k, hattributes, h⟩ := ok_of_run_bind h
  obtain ⟨⟨item, kept⟩, k', hitem, h⟩ := ok_of_run_bind h
  cases kept with
  | true => cases h
  | false =>
    cases item with
    | struct s' =>
      cases h
      exact ⟨attributes, k, s', hattributes, (structRule_of_itemRule _ hitem).1, rfl⟩
    | trait t => cases h
    | other kind ts => cases h

theorem wellFormed_of_readItem {item : List Token} {s : StructItem}
    (h : readItem item = .ok (.struct s)) : s.WellFormed := by
  obtain ⟨attributes, k, s', -, hstruct, rfl⟩ := structRule_of_wholeItem (run_of_readItem h)
  obtain ⟨hname, hparams⟩ := (gives_structRule _).gives hstruct
  exact ⟨hname, hparams⟩

/-! ## Underscores -/

/-- Behind the first parameter stands a comma, or the bracket that ends them all. -/
theorem listed_cons {g : Generics} {p : Param} {others : List Param}
    (hps : (Generics.ordered g.params).members = p :: others) (form : Param → List Token) :
    ∃ c more, (c = ',' ∨ c = '>' ∧ more = []) ∧
      g.listed form = .punct '<' false :: (form p ++ .punct c false :: more) := by
  have hsome : g.params.members.isEmpty = false := by
    cases hmembers : g.params.members with
    | nil => simp [Generics.ordered, hmembers] at hps
    | cons q qs => rfl
  rw [Generics.listed, hsome]
  generalize Generics.ordered g.params = list at hps
  obtain ⟨list, trailing⟩ := list
  obtain rfl : list = p :: others := hps
  by_cases hothers : others = []
  · subst hothers
    cases trailing with
    | false => exact ⟨'>', [], Or.inr ⟨rfl, rfl⟩, by simp [Punctuated.print, Punctuated.pairs,
        Punctuated.printPair, sign, signTokens]⟩
    | true => exact ⟨',', sign ">", Or.inl rfl, by simp [Punctuated.print, Punctuated.pairs,
        Punctuated.printPair, sign, signTokens]⟩
  · have hcons := print_append "," form [p] hothers trailing
    rw [List.singleton_append] at hcons
    refine ⟨',', (Punctuated.mk others trailing).print "," form ++ sign ">", Or.inl rfl, ?_⟩
    simp [hcons, separated, sign, signTokens]

/-- What shows behind its name that a parameter is one: its bounds, or that it has ended. -/
theorem at_behind_name (bounds : List Token) {c : Char} (hc : c = ',' ∨ c = '>')
    (more : List Token) :
    let third := Param.printBounds bounds ++ .punct c false :: more
    (atSign ">" third || atSign "," third || (atSign ":" third && !atSign "::" third) ||
      atSign "=" third) = true := by
  cases bounds with
  | nil => rcases hc with rfl | rfl <;> rfl
  | cons t bounds => rfl

theorem atGenerics_of_named {name third : List Token}
    (hname : atLifetime (name ++ third) || atName (name ++ third))
    (hbehind : behind (name ++ third) = third)
    (hthird : (atSign ">" third || atSign "," third || (atSign ":" third && !atSign "::" third) ||
      atSign "=" third) = true) : atGenerics (.punct '<' false :: (name ++ third)) = true := by
  have hless : atSign "<" (.punct '<' false :: (name ++ third)) = true := rfl
  have hsecond : behind (.punct '<' false :: (name ++ third)) = name ++ third := rfl
  simp only [atGenerics, hless, hsecond, hbehind, hthird, hname, Bool.or_true, Bool.true_or,
    Bool.and_self]

/-- The reader of an `impl` block takes these brackets for its parameters, unless the first one is
a bare underscore. -/
theorem atGenerics_iff {p : Param} (hp : p.WellFormed) {c : Char} (hc : c = ',' ∨ c = '>')
    (more : List Token) :
    atGenerics (.punct '<' false :: (p.head ++ .punct c false :: more)) = true ↔
      p.head ≠ [.ident "_"] := by
  obtain ⟨attributes, name, bounds, kind⟩ := p
  obtain ⟨rfl | ⟨first, rfl⟩, hshape⟩ := hp
  · cases hshape with
    | lifetime hkind =>
      obtain rfl : kind = .lifetime := hkind
      have hhead : Param.head ⟨[], name, bounds, .lifetime⟩ =
          lifetimeTokens name ++ Param.printBounds bounds := rfl
      rw [hhead, List.append_assoc]
      refine iff_of_true (atGenerics_of_named rfl rfl (at_behind_name bounds hc more)) ?_
      simp [lifetimeTokens]
    | type default hkind hname =>
      obtain rfl : kind = .type default := hkind
      have hhead : Param.head ⟨[], name, bounds, .type default⟩ =
          [.ident name] ++ Param.printBounds bounds := rfl
      rw [hhead, List.append_assoc]
      refine iff_of_true (atGenerics_of_named ?_ rfl (at_behind_name bounds hc more)) ?_
      · simpa [atLifetime, atName] using hname
      · intro hsame
        obtain rfl : name = "_" := by simpa using congrArg List.head? hsame
        have hreserved : reservedWords.contains "_" = true := by decide
        exact absurd (hreserved.symm.trans hname) (by simp)
    | const type default hkind hname hbounds =>
      obtain rfl : kind = .const type default := hkind
      exact iff_of_true rfl (by simp [Param.head])
    | underscore hkind hname hbounds =>
      obtain rfl : kind = .type none := hkind
      obtain rfl : name = "_" := hname
      obtain rfl : bounds = [] := hbounds
      rcases hc with rfl | rfl
      · exact iff_of_false Bool.false_ne_true (not_not_intro rfl)
      · exact iff_of_false Bool.false_ne_true (not_not_intro rfl)
  · exact iff_of_true rfl (by simp [Param.head])

end MarkerInjection.Source
