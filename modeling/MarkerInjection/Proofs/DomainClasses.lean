-- The ways in which the injector of domain classes ends, whatever class it gets. The
-- names are looked for and added in turns, so a failure at the second one comes
-- after the first one was added.
import MarkerInjection.Proofs.Expansions

namespace MarkerInjection.Source

/-- The fields of a class in order. A trait has none. -/
def Class.fields (c : Class) : List Field :=
  match c.item with
  | .struct s => s.fields.toList
  | .trait _ => []

/-! ## Between the two names -/

/-- The class is a struct with these named fields, of which one is called `version` and none
`id`. -/
structure LacksOnlyId (c : Class) (s : StructItem) (fields : Punctuated Field) : Prop where
  isStruct : c.item = .struct s
  named : s.fields = .named fields
  withoutId : ¬ Declares fields "id"
  withVersion : Declares fields "version"

/-- Then `id` is added before `version` is found. -/
theorem domain_of_lacksOnlyId {c : Class} {s : StructItem} {fields : Punctuated Field}
    (hlacks : LacksOnlyId c s fields) :
    domain c =
      (⟨.struct { s with fields := .named (fields.push (domainField "id")) }, c.generated⟩,
        .error (alreadyDeclares s.name "version")) := by
  obtain ⟨hitem, hfields, hid, hversion⟩ := hlacks
  obtain ⟨item, generated⟩ := c
  subst hitem
  have hrest : Declares (fields.push (domainField "id")) "version" :=
    declares_push.mpr (Or.inl hversion)
  rw [domain_named hfields, addFields_of_new _ _ hid, addFields_of_declared _ _ hrest]

/-! ## Ways to end -/

/-- How a domain injection ends: the class before it, the class after it, and its result. -/
inductive DomainEnds : Class → Class → Except String Unit → Prop
  | notStruct (t : TraitItem) (generated : List (List Token)) :
    DomainEnds ⟨.trait t, generated⟩ ⟨.trait t, generated⟩ (.error (t.name ++ " is not a struct"))
  | unnamed (s : StructItem) (generated : List (List Token))
    (hunnamed : ∀ fields, s.fields ≠ .named fields) :
    DomainEnds ⟨.struct s, generated⟩ ⟨.struct s, generated⟩
      (.error ("domain class " ++ s.name ++ " must have named fields"))
  | idDeclared (s : StructItem) (generated : List (List Token)) (fields : Punctuated Field)
    (hfields : s.fields = .named fields) (hid : Declares fields "id") :
    DomainEnds ⟨.struct s, generated⟩ ⟨.struct s, generated⟩
      (.error (alreadyDeclares s.name "id"))
  | versionDeclared (c : Class) (s : StructItem) (fields : Punctuated Field)
    (hlacks : LacksOnlyId c s fields) :
    DomainEnds c
      ⟨.struct { s with fields := .named (fields.push (domainField "id")) }, c.generated⟩
      (.error (alreadyDeclares s.name "version"))
  | added (s : StructItem) (generated : List (List Token)) (fields : Punctuated Field)
    (hfields : s.fields = .named fields) (hid : ¬ Declares fields "id")
    (hversion : ¬ Declares fields "version") :
    DomainEnds ⟨.struct s, generated⟩
      ⟨.struct { s with
          fields := .named ((fields.push (domainField "id")).push (domainField "version")) },
        generated⟩
      (.ok ())

/-- With named fields it goes by the two names. -/
theorem domain_ends_named {s : StructItem} {fields : Punctuated Field}
    (hfields : s.fields = .named fields) (generated : List (List Token)) :
    DomainEnds ⟨.struct s, generated⟩ (domain ⟨.struct s, generated⟩).1
      (domain ⟨.struct s, generated⟩).2 := by
  by_cases hid : Declares fields "id"
  · have hsame : { s with fields := .named fields } = s := by rw [← hfields]
    simp only [domain_named hfields, addFields_of_declared _ _ hid, hsame]
    exact .idDeclared s generated fields hfields hid
  · by_cases hversion : Declares fields "version"
    · have hlacks : LacksOnlyId ⟨.struct s, generated⟩ s fields := ⟨rfl, hfields, hid, hversion⟩
      rw [domain_of_lacksOnlyId hlacks]
      exact .versionDeclared _ s fields hlacks
    · have hrest : ¬ Declares (fields.push (domainField "id")) "version" := by
        simp [declares_push, hversion]
      simp only [domain_named hfields, addFields_of_new _ _ hid, addFields_of_new _ _ hrest]
      exact .added s generated fields hfields hid hversion

theorem domain_ends (c : Class) : DomainEnds c (domain c).1 (domain c).2 := by
  rcases c with ⟨s | t, generated⟩
  · by_cases hnamed : ∃ fields, s.fields = .named fields
    · obtain ⟨fields, hfields⟩ := hnamed
      exact domain_ends_named hfields generated
    · have hunnamed : ∀ fields, s.fields ≠ .named fields := fun fields hfields =>
        hnamed ⟨fields, hfields⟩
      rw [domain_unnamed hunnamed]
      exact .unnamed s generated hunnamed
  · exact .notStruct t generated

/-! ## What a failure leaves -/

/-- One more member makes another list. -/
theorem push_ne (fields : Punctuated Field) (f : Field) : fields.push f ≠ fields := by
  intro hsame
  have hlength := congrArg (·.members.length) hsame
  simp [Punctuated.push] at hlength

/-- A domain injection that fails leaves the class as it was, unless it finds `version` where it
has not found `id`. Then `id` is added, and nothing else; this is the only way for a failure to
change a class. -/
theorem only_a_declared_version_leaves_a_change (c : Class) :
    (((∃ message, (domain c).2 = .error message) ∧ (domain c).1 ≠ c) ↔
      ∃ s fields, LacksOnlyId c s fields) ∧
    ∀ s fields, LacksOnlyId c s fields →
      domain c =
        (⟨.struct { s with fields := .named (fields.push (domainField "id")) }, c.generated⟩,
          .error (alreadyDeclares s.name "version")) := by
  refine ⟨⟨?_, ?_⟩, fun s fields => domain_of_lacksOnlyId⟩
  · rintro ⟨⟨message, hfails⟩, hchanged⟩
    have hends := domain_ends c
    generalize (domain c).1 = after, (domain c).2 = result at hends hfails hchanged
    cases hends with
    | notStruct => exact absurd rfl hchanged
    | unnamed => exact absurd rfl hchanged
    | idDeclared => exact absurd rfl hchanged
    | versionDeclared _ s fields hlacks => exact ⟨s, fields, hlacks⟩
    | added => cases hfails
  · rintro ⟨s, fields, hlacks⟩
    rw [domain_of_lacksOnlyId hlacks]
    refine ⟨⟨_, rfl⟩, fun hsame => ?_⟩
    have hitem := (congrArg Class.item hsame).trans hlacks.isStruct
    have hpushed := (congrArg StructItem.fields (ClassItem.struct.inj hitem)).trans hlacks.named
    exact push_ne fields _ (Fields.named.inj hpushed)

/-- A struct of one field, which is called `version`. -/
def versioned : Class :=
  .new (.struct ⟨[], [], "Book", .none,
    .named ⟨[⟨[], [], some "version", [.ident "u8"]⟩], false⟩⟩)

/-- The failure at `version` comes too late for the class to be as it was. -/
theorem a_versioned_class_does_not_stay :
    ¬ ∀ (c : Class) (message : String), (domain c).2 = .error message → (domain c).1 = c := by
  intro hstays
  have hsame : (domain versioned).1 = versioned := hstays versioned _ rfl
  have hcount := congrArg (fun c : Class => c.fields.length) hsame
  exact absurd hcount (by decide)

end MarkerInjection.Source
