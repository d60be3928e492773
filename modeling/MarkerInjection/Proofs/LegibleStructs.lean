-- A struct whose parts are each read back from their own tokens is read back as a whole, with
-- whatever stands behind it.
import MarkerInjection.Proofs.DomainFields
import MarkerInjection.Proofs.LegibleParts

namespace MarkerInjection.Source

/-! ## Parts of a struct -/

/-- What is read inside of a group is read so whatever stands behind the group. -/
theorem run_inside_append {α : Type} {d : Delimiter} {r : Reader α} {ts : List Token} {x : α}
    {l l' : Option Delimiter} (h : inside d r ⟨ts, l⟩ = .ok (x, ⟨[], l'⟩)) (more : List Token) :
    inside d r ⟨ts ++ more, l⟩ = .ok (x, ⟨more, l'⟩) := by
  obtain ⟨inner, rest, y, after, k, rfl, hinner, hrest, hend⟩ := ok_of_insideThen h
  cases hrest
  cases hend
  have hpure : (pure x : Reader α) ⟨more, after.leftover⟩ = .ok (x, ⟨more, after.leftover⟩) := rfl
  exact run_insideThen hinner hpure

theorem run_within_append {d : Delimiter} {r : Rule} {ts x : List Token} {l l' : Option Delimiter}
    (h : within d r ⟨ts, l⟩ = .ok (x, ⟨[], l'⟩)) (more : List Token) :
    within d r ⟨ts ++ more, l⟩ = .ok (x, ⟨more, l'⟩) := by
  obtain ⟨y, k, hy, h⟩ := ok_of_run_bind h
  cases h
  exact run_bind_of_ok (run_inside_append hy more)

/-- Behind `pub`, only round brackets are part of the visibility. -/
theorem run_restriction_append {ts x r : List Token} {l l' : Option Delimiter} {w : String}
    (h : restriction ⟨ts, l⟩ = .ok (x, ⟨[], l'⟩)) :
    restriction ⟨ts ++ .ident w :: r, l⟩ = .ok (x, ⟨.ident w :: r, l'⟩) := by
  rcases ts with _ | ⟨t, ts⟩
  · cases h
    rfl
  have hnothing {y : List Token} (h : nothing ⟨t :: ts, l⟩ = .ok (y, ⟨[], l'⟩)) : False := by
    cases h
  cases t with
  | group d inner =>
    cases d with
    | paren =>
      change (if _ then if inner.length = 1 then _ else _ else if _ then _ else _ : Rule) _ = _ at h
      change (if _ then if inner.length = 1 then _ else _ else if _ then _ else _ : Rule) _ = _
      split at h
      next hword =>
        split at h
        next hone => rw [if_pos hword, if_pos hone]; exact run_within_append h _
        next => exact (hnothing h).elim
      next hword =>
        split at h
        next hin => rw [if_neg hword, if_pos hin]; exact run_within_append h _
        next => exact (hnothing h).elim
    | _ => exact (hnothing h).elim
  | _ => exact (hnothing h).elim

/-- A visibility that was read starts with `pub`. -/
theorem visibility_first {ts x : List Token} {l l' : Option Delimiter}
    (h : visibility ⟨ts, l⟩ = .ok (x, ⟨[], l'⟩)) : ts = [] ∨ ∃ us, ts = .ident "pub" :: us := by
  cases hpub : atWord "pub" ts with
  | false =>
    unfold visibility whenNext at h
    rw [run_bind_of_ok (run_next _ _), hpub] at h
    cases h
    exact Or.inl rfl
  | true => exact Or.inr (exists_of_atWord hpub)

theorem run_visibility_append {ts x r : List Token} {l l' : Option Delimiter}
    (h : visibility ⟨ts, l⟩ = .ok (x, ⟨[], l'⟩)) :
    visibility ⟨ts ++ .ident "struct" :: r, l⟩ = .ok (x, ⟨.ident "struct" :: r, l'⟩) := by
  obtain rfl | ⟨ts, rfl⟩ := visibility_first h
  · cases h
    rfl
  have h : (takeWord "pub" ++ restriction) ⟨.ident "pub" :: ts, l⟩ = .ok (x, ⟨[], l'⟩) := h
  obtain ⟨word, k, hword, h⟩ := ok_of_run_bind h
  cases hword
  obtain ⟨y, k, hy, h⟩ := ok_of_run_bind h
  cases h
  have hword : takeWord "pub" ⟨.ident "pub" :: (ts ++ .ident "struct" :: r), l⟩ =
    .ok ([.ident "pub"], ⟨ts ++ .ident "struct" :: r, l⟩) := rfl
  have hbehind : (takeWord "pub" ++ restriction) ⟨.ident "pub" :: (ts ++ .ident "struct" :: r), l⟩ =
      .ok ([.ident "pub"] ++ y, ⟨.ident "struct" :: r, l'⟩) :=
    (run_bind_of_ok hword).trans (run_bind_of_ok (run_restriction_append hy))
  exact hbehind

/-! ## Where clauses -/

/-- What ends a `where` clause: a body in curly brackets, or a semicolon. -/
inductive EndsCondition : List Token → Prop
  | braces (inner more : List Token) : EndsCondition (.group .brace inner :: more)
  | stop (more : List Token) : EndsCondition (.punct ';' false :: more)

/-- A `where` clause that is not empty is read back from its own tokens before either end. -/
def LegibleWhere (condition : Option (List Token)) : Prop :=
  ∀ ts, condition = some ts → ts ≠ [] → ReadBefore [body, semicolon] whereClause ts ts

theorem LegibleWhere.first {condition : Option (List Token)} (h : LegibleWhere condition) :
    condition.getD [] = [] ∨ ∃ us, condition.getD [] = .ident "where" :: us := by
  obtain _ | ts := condition
  · exact Or.inl rfl
  cases ts with
  | nil => exact Or.inl rfl
  | cons t us =>
    obtain ⟨word, k, hword, -⟩ :=
      ok_of_run_bind (h (t :: us) rfl (List.cons_ne_nil t us) body List.mem_cons_self)
    obtain ⟨more, hmore⟩ := word_of_takeWord hword
    obtain rfl : t = .ident "where" := by simpa using congrArg (·.tokens.head?) hmore
    exact Or.inr ⟨us, rfl⟩

theorem EndsCondition.likeEnds {c : List Token} (hc : EndsCondition c) :
    ∃ e ∈ [body, semicolon], LikeEnds [e] c := by
  cases hc with
  | braces inner more =>
    exact ⟨body, List.mem_cons_self, .bodies [] inner more⟩
  | stop more =>
    exact ⟨semicolon, List.mem_cons_of_mem _ List.mem_cons_self,
      .signs ';' false more (Or.inr (Or.inl rfl))⟩

theorem run_optWhereClause {condition : Option (List Token)} (hcondition : LegibleWhere condition)
    {c : List Token} (hc : EndsCondition c) {n : Nat}
    (hn : depthFor (condition.getD []) + 4 ≤ n) :
    optWhereClause (grammar n) ⟨condition.getD [] ++ c, none⟩ =
      .ok (condition.filter (!·.isEmpty), ⟨c, none⟩) := by
  have hnone : optWhereClause (grammar n) ⟨c, none⟩ = .ok (none, ⟨c, none⟩) := by
    cases hc with
    | _ => rfl
  obtain _ | ts := condition
  · exact hnone
  obtain hts | ⟨us, hts⟩ := hcondition.first
  · obtain rfl : ts = [] := hts
    exact hnone
  obtain rfl : ts = .ident "where" :: us := hts
  obtain ⟨e, he, hends⟩ := hc.likeEnds
  have hread := hcondition _ rfl (List.cons_ne_nil _ us)
  have hsize : e.size = 1 := by
    rcases List.mem_pair.mp he with rfl | rfl
    · rfl
    · rfl
  have hrun := hread.run he hends (n := n) (by
    simp only [depthFor, Option.getD_some, sizeOfTokens_append, sizeOfTokens] at hn ⊢
    omega)
  exact run_bind_of_ok (f := fun ts => pure (some ts)) hrun

/-! ## Structs -/

/-- The fields are read back from their own tokens. -/
def Fields.Legible : Fields → Prop
  | .named fields => readWith namedFieldsRule (Fields.named fields).print = .ok (.named fields)
  | .tuple fields => readWith tupleFields (Fields.tuple fields).print = .ok (.tuple fields)
  | .unit => True

/-- Each part of the struct is read back from its own tokens. -/
structure StructItem.Legible (s : StructItem) : Prop where
  attributes : readWith outerAttributes s.attributes = .ok s.attributes
  visibility : readWith (fun _ => Source.visibility) s.visibility = .ok s.visibility
  params : ∀ p ∈ s.generics.params.members, p.Legible
  condition : LegibleWhere s.generics.whereClause
  fields : s.fields.Legible

/-- The struct as it is read from its printed form: its lifetimes come first, and there is no
`where` clause without predicates. -/
def StructItem.printed (s : StructItem) : StructItem :=
  { s with generics := { s.generics.readBack id with
      whereClause := s.generics.whereClause.filter (!·.isEmpty) } }

theorem printWhere_filter (condition : Option (List Token)) :
    (condition.filter (!·.isEmpty)).getD [] = condition.getD [] := by
  cases condition with
  | none => rfl
  | some ts =>
    cases ts with
    | _ => rfl

theorem declarations_readBack (out : Param → Param)
    (hout : ∀ p, (out p).isLifetime = p.isLifetime) (g : Generics)
    (condition : Option (List Token)) :
    (Generics.mk (g.readBack out).angled (g.readBack out).params condition).declarations =
      g.listed fun p => (out p).declaration := by
  rw [Generics.declarations, Generics.printParams_eq]
  exact Generics.listed_readBack out hout g

/-- It has the same text. -/
theorem StructItem.print_printed (s : StructItem) : s.printed.print = s.print := by
  have hdeclarations : s.printed.generics.declarations = s.generics.declarations := by
    refine (declarations_readBack id (fun _ => rfl) s.generics _).trans ?_
    rw [Generics.declarations, Generics.printParams_eq]
    rfl
  have hwhere : s.printed.generics.printWhere = s.generics.printWhere :=
    printWhere_filter s.generics.whereClause
  simp only [StructItem.print, hdeclarations, hwhere]
  rfl

section Structs

variable {s : StructItem} {n : Nat}

theorem run_namedFields {fields : Punctuated Field}
    (h : readWith namedFieldsRule (Fields.named fields).print = .ok (.named fields))
    (hn : depthFor (Fields.named fields).print ≤ n) (more : List Token) :
    namedFieldsRule (grammar n) ⟨(Fields.named fields).print ++ more, none⟩ =
      .ok (.named fields, ⟨more, none⟩) := by
  have hbelow := below_grammar hn
  have hcarries : CarriesAt [] (Fields.named fields).print
      (namedFieldsRule (grammar (depthFor (Fields.named fields).print)))
      (namedFieldsRule (grammar n)) := inferInstance
  obtain ⟨list, k, hlist, hend⟩ := ok_of_run_bind (hcarries.carries_nil (run_of_readAll h)).1
  cases hend
  exact run_bind_of_ok (run_inside_append hlist more)

theorem run_tupleFields {fields : Punctuated Field}
    (h : readWith tupleFields (Fields.tuple fields).print = .ok (.tuple fields))
    (hn : depthFor (Fields.tuple fields).print ≤ n) (more : List Token) :
    tupleFields (grammar n) ⟨(Fields.tuple fields).print ++ more, none⟩ =
      .ok (.tuple fields, ⟨more, none⟩) := by
  have hbelow := below_grammar hn
  have hcarries : CarriesAt [] (Fields.tuple fields).print
      (tupleFields (grammar (depthFor (Fields.tuple fields).print)))
      (tupleFields (grammar n)) := inferInstance
  obtain ⟨list, k, hlist, hend⟩ := ok_of_run_bind (hcarries.carries_nil (run_of_readAll h)).1
  cases hend
  exact run_bind_of_ok (run_inside_append hlist more)

/-- What stands behind the parameters of the struct. -/
def StructItem.rest (s : StructItem) : List Token :=
  match s.fields with
  | .named _ => s.generics.printWhere ++ s.fields.print
  | .tuple _ => s.fields.print ++ s.generics.printWhere ++ sign ";"
  | .unit => s.generics.printWhere ++ sign ";"

/-- In front of round brackets stands no `where` clause. -/
theorem structBody_of_paren {g : Grammar} (inner more : List Token) :
    structBody g ⟨.group .paren inner :: more, none⟩ = (do
      let fields ← tupleFields g
      let late ← optWhereClause g
      if !(← next (atSign ";")) then
        wanting (if late.isNone then [quoted "where", quoted ";"] else [quoted ";"])
      let _ ← takeSign ";"
      return (fields, late) : Reader (Fields × Option (List Token)))
        ⟨.group .paren inner :: more, none⟩ := rfl

theorem run_structBody (hfields : s.fields.Legible)
    (hcondition : LegibleWhere s.generics.whereClause) (hn : depthFor s.rest + 4 ≤ n)
    (more : List Token) : structBody (grammar (n + 1)) ⟨s.rest ++ more, none⟩ =
      .ok ((s.fields, s.generics.whereClause.filter (!·.isEmpty)), ⟨more, none⟩) := by
  have hwhere : s.generics.printWhere = s.generics.whereClause.getD [] := rfl
  cases hkind : s.fields with
  | named fields =>
    rw [hkind] at hfields
    simp only [StructItem.rest, hkind, hwhere, depthFor, sizeOfTokens_append] at hn
    have hearly := run_optWhereClause hcondition (n := n + 1)
      (.braces (fields.print "," Field.print) more) (by simp only [depthFor]; omega)
    have hnamed := run_namedFields hfields (n := n) (by simp only [depthFor]; omega) more
    rw [StructItem.rest, hkind, List.append_assoc, hwhere]
    refine (structBody_of_brace hearly rfl).trans ?_
    exact run_bind_of_ok hnamed
  | tuple fields =>
    rw [hkind] at hfields
    simp only [StructItem.rest, hkind, hwhere, depthFor, sizeOfTokens_append] at hn
    have hlate := run_optWhereClause hcondition (n := n + 1) (.stop more)
      (by simp only [depthFor]; omega)
    have htuple := run_tupleFields hfields (n := n + 1) (by simp only [depthFor]; omega)
    rw [StructItem.rest, hkind, List.append_assoc, List.append_assoc, hwhere]
    refine (structBody_of_paren _ _).trans ?_
    exact (run_bind_of_ok (htuple _)).trans ((run_bind_of_ok hlate).trans rfl)
  | unit =>
    simp only [StructItem.rest, hkind, hwhere, depthFor, sizeOfTokens_append] at hn
    have hearly := run_optWhereClause hcondition (n := n + 1) (.stop more)
      (by simp only [depthFor]; omega)
    rw [StructItem.rest, hkind, List.append_assoc, hwhere]
    unfold structBody
    rw [show sign ";" ++ more = .punct ';' false :: more from rfl, run_bind_of_ok hearly]
    cases s.generics.whereClause.filter (!·.isEmpty) with
    | _ => rfl

theorem StructItem.print_eq (s : StructItem) : s.print = s.attributes ++ (s.visibility ++
    .ident "struct" :: .ident s.name :: (s.generics.listed (·.declaration) ++ s.rest)) := by
  have hparts : s.print = s.attributes ++ s.visibility ++ [.ident "struct", .ident s.name] ++
      s.generics.listed (·.declaration) ++ s.rest := by
    rw [← Generics.printParams_eq]
    rfl
  rw [hparts]
  simp only [List.append_assoc, List.cons_append, List.nil_append]

theorem StructItem.Legible.atSign_rest (hlegible : s.Legible) (more : List Token) :
    atSign "<" (s.rest ++ more) = false := by
  have hwhere (c : List Token) (hc : atSign "<" c = false) :
      atSign "<" (s.generics.printWhere ++ c) = false := by
    obtain hnone | ⟨us, hus⟩ := hlegible.condition.first
    · rw [Generics.printWhere, hnone]
      exact hc
    · rw [Generics.printWhere, hus]
      rfl
  unfold StructItem.rest
  cases s.fields with
  | named fields =>
    rw [List.append_assoc]
    exact hwhere _ rfl
  | tuple fields => rfl
  | unit =>
    rw [List.append_assoc]
    exact hwhere _ rfl

theorem run_structRule (hs : s.WellFormed) (hlegible : s.Legible)
    (hn : depthFor s.print ≤ n + 2) (more : List Token) :
    structRule (grammar (n + 1)) ⟨s.visibility ++ .ident "struct" :: .ident s.name ::
      (s.generics.listed (·.declaration) ++ (s.rest ++ more)), none⟩ =
        .ok ({ s.printed with attributes := [] }, ⟨more, none⟩) := by
  have hvisibility (r : List Token) : visibility ⟨s.visibility ++ .ident "struct" :: r, none⟩ =
      .ok (s.visibility, ⟨.ident "struct" :: r, none⟩) :=
    run_visibility_append (run_of_readAll hlegible.visibility)
  have hword (r : List Token) :
      takeWord "struct" ⟨.ident "struct" :: r, none⟩ = .ok ([.ident "struct"], ⟨r, none⟩) := rfl
  rw [StructItem.print_eq] at hn
  simp only [depthFor, sizeOfTokens_append, sizeOfTokens, Token.size] at hn
  have hparams : ∀ p ∈ s.generics.params.members,
      ReadAs (genericParam (grammar (n + 1))) p.declaration p := fun p hp => by
    refine readAs_genericParam (hs.params p hp) (hlegible.params p hp) ?_
    have hsize := Generics.size_le_listed (·.declaration) hp
    simp only [depthFor]
    omega
  have hbody := run_structBody hlegible.fields hlegible.condition (n := n) (by
    simp only [depthFor]
    omega) more
  unfold structRule
  rw [run_bind_of_ok (hvisibility _), run_bind_of_ok (hword _),
    run_bind_of_ok (run_takeName hs.name _ none),
    run_bind_of_ok (run_generics hparams (hlegible.atSign_rest more)),
    run_bind_of_ok hbody]
  rfl

/-- A legible struct is read from its text wherever it stands. -/
theorem run_wholeItem_struct (hs : s.WellFormed) (hlegible : s.Legible)
    (hn : depthFor s.print ≤ n + 2) (more : List Token) :
    wholeItem (grammar (n + 2)) ⟨s.print ++ more, none⟩ =
      .ok (.struct s.printed, ⟨more, none⟩) := by
  have hsize : depthFor s.attributes ≤ n + 2 := by
    rw [StructItem.print_eq] at hn
    simp only [depthFor, sizeOfTokens_append] at hn ⊢
    omega
  have hbelow := below_grammar hsize
  have hcarries : CarriesAt [] s.attributes (outerAttributes (grammar (depthFor s.attributes)))
      (outerAttributes (grammar (n + 2))) := inferInstance
  have hattributes := (hcarries.carries_nil (run_of_readAll hlegible.attributes)).1
  have hhash (r : List Token) : atSign "#" (s.visibility ++ .ident "struct" :: r) = false := by
    obtain hnone | ⟨us, hus⟩ := visibility_first (run_of_readAll hlegible.visibility)
    · rw [hnone]
      rfl
    · rw [hus]
      rfl
  have hvisibility (r : List Token) : visibility ⟨s.visibility ++ .ident "struct" :: r, none⟩ =
      .ok (s.visibility, ⟨.ident "struct" :: r, none⟩) :=
    run_visibility_append (run_of_readAll hlegible.visibility)
  have hitem : (grammar (n + 2)).item ⟨s.visibility ++ .ident "struct" :: .ident s.name ::
      (s.generics.listed (·.declaration) ++ (s.rest ++ more)), none⟩ =
        .ok ((.struct { s.printed with attributes := [] }, false), ⟨more, none⟩) :=
    (itemRule_of_struct (hvisibility _)).trans (run_bind_of_ok (run_structRule hs hlegible hn more))
  have hahead (ts : List Token) : ahead ⟨ts, none⟩ = .ok (ts, ⟨ts, none⟩) := rfl
  rw [StructItem.print_eq, List.append_assoc, List.append_assoc, List.cons_append,
    List.cons_append, List.append_assoc]
  unfold wholeItem
  rw [run_bind_of_ok (hahead _), run_bind_of_ok (outerAttributes_append (hhash _) hattributes)]
  unfold itemBehind
  rw [run_bind_of_ok hitem]
  simp only [Item.withAttributes, List.append_nil]
  rfl

end Structs

end MarkerInjection.Source
