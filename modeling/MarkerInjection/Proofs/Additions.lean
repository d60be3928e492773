-- The laws of additions. Injections, pushed members and visits only put members and
-- fields behind those that a class has, whether they succeed or not; first for one
-- injector, then for a visit, then for any history of a class.
import MarkerInjection.Proofs.DomainClasses
import MarkerInjection.Source.History

namespace MarkerInjection.Source

/-! ## Growing classes -/

/-- Fields of the same shape, of which there are none. -/
def Fields.shape : Fields → Fields
  | .named _ => .named ⟨[], false⟩
  | .tuple _ => .tuple ⟨[], false⟩
  | .unit => .unit

/-- The item with its fields left out: attributes, visibility, name, parameters with the `where`
clause, and the shape. A trait is kept whole. -/
def ClassItem.frame : ClassItem → ClassItem
  | .struct s => .struct { s with fields := s.fields.shape }
  | .trait t => .trait t

namespace Class

/-- The second class is the first one with members and fields behind those that it has. -/
structure Grows (c d : Class) : Prop where
  generated : c.generated <+: d.generated
  fields : c.fields <+: d.fields
  frame : d.item.frame = c.item.frame

namespace Grows

variable {c d e : Class}

theorem refl (c : Class) : c.Grows c :=
  ⟨List.prefix_refl _, List.prefix_refl _, rfl⟩

theorem trans (hcd : c.Grows d) (hde : d.Grows e) : c.Grows e :=
  ⟨hcd.generated.trans hde.generated, hcd.fields.trans hde.fields, hde.frame.trans hcd.frame⟩

theorem name (hgrows : c.Grows d) : d.name = c.name := by
  have hname : ∀ item : ClassItem, item.name = item.frame.name := by
    rintro (s | t)
    · rfl
    · rfl
  rw [Class.name, Class.name, hname, hname c.item, hgrows.frame]

theorem isTrait (hgrows : c.Grows d) : d.item.isTrait = c.item.isTrait := by
  have htrait : ∀ item : ClassItem, item.isTrait = item.frame.isTrait := by
    rintro (s | t)
    · rfl
    · rfl
  rw [htrait, htrait c.item, hgrows.frame]

/-- Nothing of a trait is left out of its frame. -/
theorem item_of_trait {t : TraitItem} (hgrows : c.Grows d) (htrait : c.item = .trait t) :
    d.item = .trait t := by
  have hframe : d.item.frame = .trait t := by rw [hgrows.frame, htrait, ClassItem.frame]
  rcases hd : d.item with s | u
  · rw [hd] at hframe
    cases hframe
  · rw [hd] at hframe
    exact hframe

end Grows

theorem grows_push (c : Class) (member : List Token) : c.Grows (c.push member) :=
  ⟨List.prefix_append _ _, List.prefix_refl _, rfl⟩

/-- A struct grows by named fields that are put behind the others. -/
theorem grows_fields {s : StructItem} {fields more : Punctuated Field}
    (generated : List (List Token)) (hfields : s.fields = .named fields)
    (hmore : fields.members <+: more.members) :
    Grows ⟨.struct s, generated⟩ ⟨.struct { s with fields := .named more }, generated⟩ := by
  refine ⟨List.prefix_refl _, ?_, ?_⟩
  · simpa only [Class.fields, hfields, Fields.toList] using hmore
  · simp only [ClassItem.frame, hfields, Fields.shape]

end Class

/-! ## One injector -/

theorem grows_domain (c : Class) : c.Grows (domain c).1 := by
  have hends := domain_ends c
  generalize (domain c).1 = after, (domain c).2 = result at hends
  cases hends with
  | notStruct t generated => exact .refl _
  | unnamed s generated => exact .refl _
  | idDeclared s generated => exact .refl _
  | versionDeclared _ s fields hlacks =>
    obtain ⟨item, generated⟩ := c
    obtain rfl : item = .struct s := hlacks.isStruct
    exact Class.grows_fields generated hlacks.named (List.prefix_append _ _)
  | added s generated fields hfields =>
    exact Class.grows_fields generated hfields
      ((List.prefix_append _ _).trans (List.prefix_append _ _))

theorem grows_change (f : Feature) (c : Class) : c.Grows (f.change c).1 := by
  cases f with
  | logging => exact c.grows_push _
  | controller => exact (c.grows_push _).trans (Class.grows_push _ _)
  | service => exact c.grows_push _
  | domain => exact grows_domain c

/-! ## One visit -/

/-- The injectors of the registry are those of the features. -/
theorem feature_of_matching {d : Descriptor host} {type : ArtefactType}
    (hd : d ∈ registry.matching type) : ∃ f : Feature, d = f.descriptor := by
  rw [matching_registry] at hd
  obtain ⟨f, -, rfl⟩ := List.mem_map.mp hd
  exact ⟨f, rfl⟩

theorem grows_after {ds : List (Descriptor host)} (hds : ∀ d ∈ ds, ∃ f : Feature, d = f.descriptor)
    (w : Workpiece host) : w.target.Grows (w.after ds).target := by
  induction ds generalizing w with
  | nil => exact .refl _
  | cons d ds ih =>
    obtain ⟨f, rfl⟩ := hds d (by simp)
    have hone : w.target.Grows (f.descriptor.work w).1.target := grows_change f w.target
    exact hone.trans (ih (fun e he => hds e (by simp [he])) (f.descriptor.work w).1)

/-- However far the injectors of a type get, the class grows. -/
theorem grows_perform {t : Transform host} (ht : t.registry = registry) (type : ArtefactType)
    (s : Scene host) : s.target.Grows (t.perform type s).1.target := by
  have hfeatures : ∀ d ∈ t.registry.matching type, ∃ f : Feature, d = f.descriptor :=
    fun d hd => feature_of_matching (ht ▸ hd)
  rcases ranThrough_or_stoppedAt t.channel type (t.registry.matching type) (s.matched t type) with
    hran | ⟨k, d, cause, hstop⟩
  · have htarget : (t.perform type s).1.target = _ := congrArg Workpiece.target hran.workpiece
    rw [htarget]
    exact grows_after hfeatures (s.matched t type).workpiece
  · have htarget : (t.perform type s).1.target = _ := congrArg Workpiece.target hstop.workpiece
    rw [htarget]
    exact grows_after (fun d hd => hfeatures d (List.mem_of_mem_take hd))
      (s.matched t type).workpiece

/-- The class that a visit leaves. -/
def Class.visited (c : Class) (t : Transform host) (tag : Tag) (unit : String)
    (world : World host) : Class :=
  match (t.visit [.tag tag, .ofClass c] unit world).nodes with
  | [_, .ofClass after] => after
  | _ => c

theorem visited_of_nodes {t : Transform host} {c d : Class} {tag : Tag} {unit : String}
    {world : World host} {first : Node host}
    (hnodes : (t.visit [.tag tag, .ofClass c] unit world).nodes = [first, .ofClass d]) :
    c.visited t tag unit world = d := by
  simp only [Class.visited, hnodes]

/-- A visit is no reason for a struct to change but by growing, and none for a trait to change at
all. -/
theorem grows_visited {t : Transform host} (ht : t.registry = registry) (c : Class) (tag : Tag)
    (unit : String) (world : World host) :
    c.Grows (c.visited t tag unit world) ∧
      (c.item.isTrait = true → c.visited t tag unit world = c) := by
  rcases untouched_or_accepts t [.tag tag, .ofClass c] unit world with
    ⟨result, huntouched⟩ | ⟨tag', c', type, haccepts⟩
  · have hsame : c.visited t tag unit world = c :=
      visited_of_nodes (congrArg Visit.nodes huntouched)
    exact ⟨by rw [hsame]; exact .refl c, fun _ => hsame⟩
  · have hleft : c.visited t tag unit world = (t.perform type ⟨world, unit, c'⟩).1.target :=
      visited_of_nodes (congrArg Visit.nodes (visit_of_accepts haccepts unit world))
    obtain ⟨hnodes, -, hinterface, -⟩ := haccepts
    cases hnodes
    refine ⟨by rw [hleft]; exact grows_perform ht type ⟨world, unit, c⟩, fun htrait => ?_⟩
    have hstruct : c.item.isTrait = false := hinterface
    simp [hstruct] at htrait

/-! ## Histories -/

/-- What can be done to a class. -/
inductive Action
  /-- A step whose members or arguments are given as tokens. They may be unreadable. -/
  | step (unitName : String) (step : ClassStep)
  /-- A member is pushed as it is. -/
  | push (member : List Token)
  /-- A visit with any tag, whatever was read to make it, in any world. -/
  | visit (config : Config) (channel : Channel) (tag : Tag) (unit : String) (world : World host)

/-- The action is a visit. -/
def Action.isVisit : Action → Bool
  | .step _ (.visit _ _ _) => true
  | .visit _ _ _ _ _ => true
  | _ => false

namespace Class

/-- The class after one action. -/
def act (c : Class) : Action → Class
  | .step unitName step => (c.step unitName step).1
  | .push member => c.push member
  | .visit config channel tag unit world => c.visited ⟨registry, config, channel⟩ tag unit world

/-- The class after a history. -/
def acts (c : Class) (history : List Action) : Class := history.foldl act c

end Class

theorem grows_step (c : Class) (unitName : String) (step : ClassStep) :
    c.Grows (c.step unitName step).1 := by
  cases step with
  | inject feature => exact grows_change feature c
  | push member =>
    simp only [Class.step]
    split
    · exact c.grows_push _
    · exact .refl c
  | visit config tagName arguments =>
    simp only [Class.step]
    split
    · rename_i tag _
      exact (grows_visited (t := transform config) rfl c tag unitName _).1
    · exact .refl c

theorem grows_act (c : Class) (action : Action) : c.Grows (c.act action) := by
  cases action with
  | step unitName step => exact grows_step c unitName step
  | push member => exact c.grows_push member
  | visit config channel tag unit world => exact (grows_visited rfl c tag unit world).1

theorem grows_acts (c : Class) (history : List Action) : c.Grows (c.acts history) := by
  induction history generalizing c with
  | nil => exact .refl c
  | cons action history ih => exact (grows_act c action).trans (ih (c.act action))

/-- Visits turn traits away. -/
theorem act_of_visit {c : Class} {action : Action} (hvisit : action.isVisit = true)
    (htrait : c.item.isTrait = true) : c.act action = c := by
  cases action with
  | push member => cases hvisit
  | visit config channel tag unit world => exact (grows_visited rfl c tag unit world).2 htrait
  | step unitName step =>
    cases step with
    | inject feature => cases hvisit
    | push member => cases hvisit
    | visit config tagName arguments =>
      simp only [Class.act, Class.step]
      split
      · rename_i tag _
        exact (grows_visited (t := transform config) rfl c tag unitName _).2 htrait
      · rfl

theorem acts_take_succ (c : Class) {history : List Action} {n : Nat} {action : Action}
    (hn : history[n]? = some action) :
    c.acts (history.take (n + 1)) = (c.acts (history.take n)).act action := by
  rw [Class.acts, List.take_add_one, hn]
  simp [Class.acts]

/-- A class only grows, whatever is done to it: from each action to the next, and over the whole
history. Its members and fields stay in front of those that are added, and the rest of it stays as
it is: the name, the attributes, the visibility, the parameters with the `where` clause, the kind
and the shape. A trait stays whole, and no visit gives it a member. -/
theorem a_class_only_grows (c : Class) (history : List Action) :
    c.Grows (c.acts history) ∧
    (∀ n, (c.acts (history.take n)).Grows (c.acts (history.take (n + 1)))) ∧
    (c.acts history).name = c.name ∧
    (c.acts history).item.isTrait = c.item.isTrait ∧
    (∀ t, c.item = .trait t → (c.acts history).item = .trait t) ∧
    ∀ n action, history[n]? = some action → action.isVisit = true → c.item.isTrait = true →
      c.acts (history.take (n + 1)) = c.acts (history.take n) := by
  have hgrows := grows_acts c history
  refine ⟨hgrows, ?_, hgrows.name, hgrows.isTrait, fun t => hgrows.item_of_trait, ?_⟩
  · intro n
    rcases hn : history[n]? with _ | action
    · rw [List.take_add_one, hn]
      simpa using Class.Grows.refl _
    · rw [acts_take_succ c hn]
      exact grows_act _ action
  · intro n action hn hvisit htrait
    rw [acts_take_succ c hn]
    refine act_of_visit hvisit ?_
    rw [(grows_acts c (history.take n)).isTrait, htrait]

end MarkerInjection.Source
