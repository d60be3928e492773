-- Raw names: the same name can be spelled with the raw mark and without it. Which
-- fields of a domain class come twice once both spellings count as one name.
import MarkerInjection.Proofs.DomainClasses

namespace MarkerInjection.Source

/-! ## Spellings -/

/-- The raw spelling of a name. -/
def raw (name : String) : String := "r#" ++ name

/-- The name that a spelling stands for: the raw mark is no part of it. -/
def unmarked (spelling : String) : String :=
  match spelling.toList with
  | 'r' :: '#' :: name => String.ofList name
  | _ => spelling

theorem toList_raw (name : String) : (raw name).toList = 'r' :: '#' :: name.toList := by
  simp [raw]

theorem unmarked_raw (name : String) : unmarked (raw name) = name := by
  simp [unmarked, toList_raw]

/-- A name is spelled as it is, or raw. -/
theorem eq_or_eq_raw (spelling : String) :
    spelling = unmarked spelling ∨ spelling = raw (unmarked spelling) := by
  unfold unmarked
  split
  · rename_i name hname
    exact Or.inr (String.toList_injective (by simp [toList_raw, hname]))
  · exact Or.inl rfl

theorem unmarked_eq_iff {spelling name : String} (hplain : unmarked name = name) :
    unmarked spelling = name ↔ spelling = name ∨ spelling = raw name := by
  constructor
  · rintro rfl
    exact eq_or_eq_raw spelling
  · rintro (rfl | rfl)
    · exact hplain
    · exact unmarked_raw name

/-! ## Fields -/

/-- The names of the fields, whichever way they are spelled. -/
def fieldNames (fields : Punctuated Field) : List String :=
  fields.members.filterMap fun f => f.name.map unmarked

/-- A field has this name in one of its two spellings. -/
theorem mem_fieldNames (fields : Punctuated Field) {name : String} (hplain : unmarked name = name) :
    name ∈ fieldNames fields ↔ Declares fields name ∨ Declares fields (raw name) := by
  have hspelled (f : Field) : f.name.map unmarked = some name ↔
      f.name = some name ∨ f.name = some (raw name) := by
    cases f.name with
    | none => simp
    | some spelling => simp [unmarked_eq_iff hplain]
  simp only [fieldNames, List.mem_filterMap, hspelled, Declares, and_or_left, exists_or]

theorem fieldNames_push (fields : Punctuated Field) (name : String) :
    fieldNames (fields.push (domainField name)) = fieldNames fields ++ [unmarked name] := by
  simp [fieldNames, Punctuated.push, domainField]

/-- The fields of a domain class once both of its own are added. -/
def withDomainFields (fields : Punctuated Field) : Punctuated Field :=
  (fields.push (domainField "id")).push (domainField "version")

theorem fieldNames_withDomainFields (fields : Punctuated Field) :
    fieldNames (withDomainFields fields) = fieldNames fields ++ ["id", "version"] := by
  rw [withDomainFields, fieldNames_push, fieldNames_push, List.append_assoc]
  rfl

/-- Two more names are new exactly if no field has one of them in either spelling. -/
theorem nodup_withDomainFields {fields : Punctuated Field} (hdistinct : (fieldNames fields).Nodup) :
    (fieldNames (withDomainFields fields)).Nodup ↔
      (¬ Declares fields "id" ∧ ¬ Declares fields (raw "id")) ∧
        ¬ Declares fields "version" ∧ ¬ Declares fields (raw "version") := by
  have hid : "id" ∈ fieldNames fields ↔ _ := mem_fieldNames fields (by decide)
  have hversion : "version" ∈ fieldNames fields ↔ _ := mem_fieldNames fields (by decide)
  rw [fieldNames_withDomainFields, List.nodup_append, ← not_or, ← not_or, ← hid, ← hversion]
  constructor
  · rintro ⟨-, -, hnew⟩
    exact ⟨fun h => hnew _ h "id" (by simp) rfl, fun h => hnew _ h "version" (by simp) rfl⟩
  · rintro ⟨hid, hversion⟩
    refine ⟨hdistinct, by decide, fun name hname added hadded heq => ?_⟩
    subst heq
    rcases List.mem_pair.mp hadded with rfl | rfl
    · exact hid hname
    · exact hversion hname

/-! ## Domain classes -/

/-- A domain injection that succeeds has added both fields, and found neither of them before, as
far as it looks: at plain spellings. -/
theorem domain_of_ok {c : Class} {s : StructItem} {fields : Punctuated Field}
    (hstruct : c.item = .struct s) (hnamed : s.fields = .named fields)
    (hok : (domain c).2 = .ok ()) :
    (domain c).1 = ⟨.struct { s with fields := .named (withDomainFields fields) }, c.generated⟩ ∧
      ¬ Declares fields "id" ∧ ¬ Declares fields "version" := by
  have hends := domain_ends c
  generalize (domain c).1 = after, (domain c).2 = result at hends hok ⊢
  cases hends with
  | notStruct => cases hok
  | unnamed => cases hok
  | idDeclared => cases hok
  | versionDeclared => cases hok
  | added s' generated fields' hfields hid hversion =>
    obtain rfl := ClassItem.struct.inj hstruct
    obtain rfl := Fields.named.inj (hfields.symm.trans hnamed)
    exact ⟨rfl, hid, hversion⟩

/-- Of a struct whose fields have different names, a domain injection that succeeds makes one
whose fields are those and the two of a domain class. Their names are different again exactly if
none of the fields was `r#id` or `r#version`: these are the names of the two that are added, but
the injection does not take them for declared. -/
theorem a_domain_class_repeats_raw_names_only {c : Class} {s : StructItem}
    {fields : Punctuated Field} (hstruct : c.item = .struct s) (hnamed : s.fields = .named fields)
    (hdistinct : (fieldNames fields).Nodup) (hok : (domain c).2 = .ok ()) :
    (domain c).1 = ⟨.struct { s with fields := .named (withDomainFields fields) }, c.generated⟩ ∧
      fieldNames (withDomainFields fields) = fieldNames fields ++ ["id", "version"] ∧
      ((fieldNames (withDomainFields fields)).Nodup ↔
        ¬ Declares fields "r#id" ∧ ¬ Declares fields "r#version") := by
  obtain ⟨hafter, hid, hversion⟩ := domain_of_ok hstruct hnamed hok
  refine ⟨hafter, fieldNames_withDomainFields fields, ?_⟩
  rw [nodup_withDomainFields hdistinct]
  exact ⟨fun h => ⟨h.1.2, h.2.2⟩, fun h => ⟨⟨hid, h.1⟩, hversion, h.2⟩⟩

/-- The fields of a struct of one field, which is called `id` in its raw spelling. -/
def rawId : Punctuated Field := ⟨[⟨[], [], some "r#id", [.ident "u8"]⟩], false⟩

def rawlyNumbered : StructItem := ⟨[], [], "Book", .none, .named rawId⟩

/-- Such a struct becomes a domain class that has its `id` twice. -/
theorem a_raw_id_comes_twice :
    (fieldNames rawId).Nodup ∧ (domain (.new (.struct rawlyNumbered))).2 = .ok () ∧
      Declares rawId "r#id" ∧ ¬ (fieldNames (withDomainFields rawId)).Nodup := by
  have hlaw := @a_domain_class_repeats_raw_names_only (.new (.struct rawlyNumbered)) rawlyNumbered
    rawId rfl rfl (by decide) rfl
  have hraw : Declares rawId "r#id" := ⟨_, List.mem_cons_self, rfl⟩
  exact ⟨by decide, rfl, hraw, fun h => (hlaw.2.2.mp h).1 hraw⟩

/-- Success does not keep the names of the fields different. -/
theorem domain_fields_do_not_stay_distinct :
    ¬ ∀ (c : Class) (s t : StructItem) (fields after : Punctuated Field),
      c.item = .struct s → s.fields = .named fields → (fieldNames fields).Nodup →
      (domain c).2 = .ok () → (domain c).1.item = .struct t → t.fields = .named after →
      (fieldNames after).Nodup := by
  intro hstays
  have hnodup := hstays (.new (.struct rawlyNumbered)) rawlyNumbered _ rawId
    (withDomainFields rawId) rfl rfl (by decide) rfl rfl rfl
  exact absurd hnodup (by decide)

end MarkerInjection.Source
