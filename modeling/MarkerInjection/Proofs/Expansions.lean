-- The laws of expansion. Which way an expansion goes is decided by the arguments,
-- then by the item, then by the type that the tag names. Each way leaves one form
-- of the item, with one error behind it or none.
import MarkerInjection.Proofs.Turns
import MarkerInjection.Source.Expansion

namespace MarkerInjection.Source

/-! ## The features that apply -/

/-- No two features share a name, so they make up a registry. -/
theorem build_features : Registry.build (Feature.all.map Feature.descriptor) = .ok registry := by
  have hdistinct :
      firstRepeated? [] ((Feature.all.map Feature.descriptor).map (·.name)) = none := by
    decide
  unfold Registry.build
  split
  · rename_i hrepeated
    rw [hdistinct] at hrepeated
    simp at hrepeated
  · rfl

/-- The feature is for artefacts of the type of this name. -/
def Feature.isFor (type : String) : Feature → Bool
  | .logging => true
  | .controller => type = "Controller"
  | .service => type = "Service"
  | .domain => type = "Domain"

theorem supports_descriptor (f : Feature) (type : ArtefactType) :
    f.descriptor.supports type = f.isFor type.name := by
  have honly (name : String) :
      (Capability.only (NameSet.ofList [name])).supports type = decide (type.name = name) := by
    simp [Capability.supports, NameSet.contains, NameSet.ofList, NameSet.insert,
      NameSet.insertName, NameSet.empty]
  cases f with
  | logging => rfl
  | controller => exact honly "Controller"
  | service => exact honly "Service"
  | domain => exact honly "Domain"

theorem matching_registry (type : ArtefactType) :
    registry.matching type =
      (Feature.all.filter (·.isFor type.name)).map Feature.descriptor := by
  have hfor : (fun d : Descriptor host => d.supports type) ∘ Feature.descriptor =
      fun f => f.isFor type.name := funext fun f => supports_descriptor f type
  rw [Registry.matching, registry, List.filter_map, hfor]

/-! ## The functions of a class -/

/-- The functions that a feature gives to a class of this name. -/
def Feature.functions (name : String) : Feature → List (List Token)
  | .logging => [logTarget name]
  | .controller =>
    let logical := propertyName (logicalName name "Controller")
    [textFunction "controller_name" [textToken logical],
      textFunction "base_path" [textToken ("/" ++ logical)]]
  | .service => [textFunction "service_name" [textToken (propertyName name)]]
  | .domain => []

/-- The functions that a struct of this name gets for a type, in their order. -/
def functionsFor (type name : String) : List (List Token) :=
  Feature.logging.functions name ++
    (if type = "Controller" then Feature.controller.functions name else []) ++
    (if type = "Service" then Feature.service.functions name else [])

theorem flatMap_functions (type name : String) :
    (Feature.all.filter (·.isFor type)).flatMap (·.functions name) = functionsFor type name := by
  by_cases hcontroller : type = "Controller"
  · subst hcontroller
    rfl
  · by_cases hservice : type = "Service"
    · subst hservice
      rfl
    · by_cases hdomain : type = "Domain"
      · subst hdomain
        rfl
      · simp [Feature.all, Feature.isFor, hcontroller, hservice, hdomain, functionsFor]

/-- A feature other than that of domain classes gives its functions and nothing else. -/
theorem work_feature {f : Feature} (hf : f ≠ .domain) (unit : String) (c : Class) :
    f.descriptor.work ⟨(), unit, c⟩ =
      (⟨(), unit, ⟨c.item, c.generated ++ f.functions c.name⟩⟩, .ok ()) := by
  cases f with
  | logging => rfl
  | controller =>
    simp [Descriptor.work, Feature.descriptor, Feature.change, controller, Class.push,
      Feature.functions, Except.mapError]
  | service => rfl
  | domain => exact absurd rfl hf

theorem after_features {fs : List Feature} (hfs : .domain ∉ fs) (unit : String) (c : Class) :
    AllSucceed (fs.map Feature.descriptor) ⟨(), unit, c⟩ ∧
      Workpiece.after ⟨(), unit, c⟩ (fs.map Feature.descriptor) =
        ⟨(), unit, ⟨c.item, c.generated ++ fs.flatMap (·.functions c.name)⟩⟩ := by
  induction fs generalizing c with
  | nil => exact ⟨allSucceed_nil _, by simp [Workpiece.after]⟩
  | cons f fs ih =>
    obtain ⟨hf, hrest⟩ := not_or.mp (List.mem_cons.not.mp hfs)
    have hone := work_feature (Ne.symm hf) unit c
    obtain ⟨hall, hafter⟩ := ih hrest ⟨c.item, c.generated ++ f.functions c.name⟩
    refine ⟨allSucceed_cons.mpr ⟨by rw [hone], by rw [hone]; exact hall⟩, ?_⟩
    rw [List.map_cons, Workpiece.after, List.foldl_cons, hone, ← Workpiece.after, hafter]
    simp [Class.name]

/-! ## Domain classes -/

/-- The fields have one of this name. -/
def Declares (fields : Punctuated Field) (name : String) : Prop :=
  ∃ f ∈ fields.members, f.name = some name

theorem any_name_iff {fields : Punctuated Field} {name : String} :
    fields.members.any (·.name == some name) = true ↔ Declares fields name := by
  simp [Declares]

theorem declares_push {fields : Punctuated Field} {added name : String} :
    Declares (fields.push (domainField added)) name ↔ Declares fields name ∨ added = name := by
  simp [Declares, Punctuated.push, domainField, or_and_right, exists_or]

/-- Names that no field has yet are all added, in their order. -/
theorem addFields_of_new (className : String) {fields : Punctuated Field} {name : String}
    (names : List String) (hnew : ¬ Declares fields name) :
    addFields className fields (name :: names) =
      addFields className (fields.push (domainField name)) names := by
  rw [addFields, if_neg (mt any_name_iff.mp hnew)]

/-- The message that a field is there already. -/
def alreadyDeclares (className name : String) : String :=
  "domain class " ++ className ++ " already declares a \x60" ++ name ++ "\x60 field"

theorem addFields_of_declared (className : String) {fields : Punctuated Field} {name : String}
    (names : List String) (hdeclared : Declares fields name) :
    addFields className fields (name :: names) =
      (fields, .error (alreadyDeclares className name)) := by
  rw [addFields, if_pos (any_name_iff.mpr hdeclared)]
  rfl

/-! ## Visits to classes -/

/-- The tag of an expansion carries the name of the marker. -/
theorem name_of_read {name : String} {tokens : List Token} {tag : Tag}
    (hread : Tag.read name tokens = .ok tag) : tag.name = name := by
  unfold Tag.read at hread
  rcases hargs : readArguments tokens with e | args
  · simp [hargs, bind, Except.bind] at hread
  · rcases hmembers : Tag.addMembers [] args with e | members
    · simp [hargs, hmembers, bind, Except.bind] at hread
    · simp [hargs, hmembers, bind, Except.bind, pure, Except.pure] at hread
      rw [← hread]

theorem print_new (item : ClassItem) : (Class.new item).print = item.print := by
  cases item with
  | struct s => exact List.append_nil _
  | trait t => rfl

/-- The visit that an expansion makes to a class. -/
def visitNew (tag : Tag) (item : ClassItem) : Visit host :=
  (transform Config.standard).visit [.tag tag, .ofClass (Class.new item)] (expansionUnit item)
    (World.initial (h := host) () Instant.epoch)

/-- What an expansion hands to the injectors of a struct. -/
def workpieceOf (s : StructItem) : Workpiece host :=
  ⟨(), expansionUnit (.struct s), Class.new (.struct s)⟩

/-- The scene of the injectors of a type in the expansion of a struct. -/
def sceneOf (s : StructItem) (type : ArtefactType) : Scene host :=
  Scene.matched ⟨World.initial (h := host) () Instant.epoch, expansionUnit (.struct s),
    Class.new (.struct s)⟩ (transform Config.standard) type

/-- The message that tells of an injector that failed. -/
def injectionMessage (injector : String) (index : Nat) (type : String) (cause : Cause) : String :=
  "Error occurred calling AST injector: " ++ cause.outermost ++ " (injector \x60" ++ injector ++
    "\x60 #" ++ toString index ++ " for " ++ type ++ ", caused by: " ++ cause.full ++ ")"

/-- The message for a class that is turned away, by its reason. -/
def refusalText (name : String) : Refusal → String
  | .interface =>
    "Error processing interface '" ++ name ++ "'. @" ++ Config.standard.marker ++
      " not allowed for interfaces."
  | .missingType =>
    "Class [" ++ name ++ "] contains an invalid @" ++ Config.standard.marker ++
      " annotation. No artefact found for value specified."

theorem refusalMessage_standard (name : String) (reason : Refusal) :
    (transform Config.standard).refusalMessage name reason = refusalText name reason := by
  cases reason with
  | interface => rfl
  | missingType => rfl

section Visits

variable {tag : Tag} (hmark : tag.name = Config.standard.marker)

include hmark

/-- A class that is turned away is left as it is, with the message behind it. -/
theorem expandClass_of_refused {item : ClassItem} {reason : Refusal}
    (hjudge : judge (h := host) Config.standard.valueMember tag (Class.new item) =
      .refused item.name reason) :
    expandClass tag item = withError item.print (refusalText item.name reason) := by
  have hmarked := @validate_of_marked host Config.standard.marker Config.standard.valueMember tag
    (Class.new item) hmark
  have hv := hmarked.trans (congrArg Except.ok hjudge)
  have hvisit : visitNew tag item = _ := untouched_of_refused (t := transform Config.standard) hv
  unfold visitNew at hvisit
  simp only [expandClass, visitClass, hvisit, print_new, ← refusalMessage_standard]
  rfl

/-- A struct that was just read is accepted as soon as the marker and the type are there. -/
theorem visitClass_of_typed {s : StructItem} {type : ArtefactType}
    (htype : tag.member Config.standard.valueMember = some (.literal type.name)) :
    let performed := (transform Config.standard).channel.apply type (registry.matching type)
      (sceneOf s type)
    visitClass Config.standard (expansionUnit (.struct s)) tag (Class.new (.struct s)) =
      (performed.1.target, performed.1.world.records, performed.2.map .completed) := by
  have haccepts : (transform Config.standard).Accepts
      [.tag tag, .ofClass (Class.new (.struct s))] tag (Class.new (.struct s)) type :=
    ⟨rfl, hmark, rfl, htype⟩
  have hvisit := visit_of_accepts haccepts (expansionUnit (.struct s))
    (World.initial (h := host) () Instant.epoch)
  rw [perform_eq_apply] at hvisit
  simp only [visitClass, hvisit]
  rfl

/-- A struct whose tag names a type goes through the injectors of that type. -/
theorem expandClass_of_accepts {s : StructItem} {type : ArtefactType}
    (htype : tag.member Config.standard.valueMember = some (.literal type.name)) :
    let performed := (transform Config.standard).channel.apply type (registry.matching type)
      (sceneOf s type)
    expandClass tag (.struct s) =
      match performed.2 with
      | .ok _ => performed.1.target.print
      | .error failure =>
        withError performed.1.target.print (failureMessage failure performed.1.world.records) := by
  unfold expandClass
  rw [visitClass_of_typed hmark htype]
  dsimp only
  generalize (transform Config.standard).channel.apply type _ _ = performed
  obtain ⟨after, failure | n⟩ := performed
  · rfl
  · rfl

theorem expandClass_of_allSucceed {s : StructItem} {type : ArtefactType}
    (htype : tag.member Config.standard.valueMember = some (.literal type.name))
    (hall : AllSucceed (registry.matching type) (workpieceOf s)) :
    expandClass tag (.struct s) =
      ((workpieceOf s).after (registry.matching type)).target.print := by
  have hran := ranThrough_of_allSucceed (s := sceneOf s type) (transform Config.standard).channel
    type hall
  have htarget := congrArg Workpiece.target hran.workpiece
  have hexpand := expandClass_of_accepts hmark (s := s) htype
  simp only [hran.result] at hexpand
  exact hexpand.trans (congrArg Class.print htarget)

/-- The failure of an injector is told behind what the injectors up to it made of the struct. -/
theorem expandClass_of_firstFailure {s : StructItem} {type : ArtefactType}
    (htype : tag.member Config.standard.valueMember = some (.literal type.name)) {k : Nat}
    {cause : Cause} {d : Descriptor host}
    (hk : FirstFailure (registry.matching type) (workpieceOf s) k cause)
    (hd : (registry.matching type)[k]? = some d) :
    expandClass tag (.struct s) =
      withError ((workpieceOf s).after ((registry.matching type).take (k + 1))).target.print
        (injectionMessage d.name k type.name cause) := by
  have hstop := stoppedAt_of_firstFailure (s := sceneOf s type)
    (transform Config.standard).channel type hk hd
  have htarget := congrArg Workpiece.target hstop.workpiece
  have hrecords : ((transform Config.standard).channel.apply type (registry.matching type)
      (sceneOf s type)).1.world.records = [_] := hstop.received
  have hexpand := expandClass_of_accepts hmark (s := s) htype
  simp only [hstop.result, hrecords] at hexpand
  refine hexpand.trans ?_
  exact congrArg₂ withError (congrArg Class.print htarget) rfl

end Visits

/-! ## Structs -/

/-- A printed struct and the block of its functions. -/
def printedWith (s : StructItem) (functions : List (List Token)) : List Token :=
  s.print ++ Class.implBlock s functions

section Structs

variable {tag : Tag} (hmark : tag.name = Config.standard.marker) {s : StructItem}
  {type : ArtefactType}
  (htype : tag.member Config.standard.valueMember = some (.literal type.name))

include hmark htype

theorem expandClass_of_plain (hdomain : type.name ≠ "Domain") :
    expandClass tag (.struct s) = printedWith s (functionsFor type.name s.name) := by
  have hnone : .domain ∉ Feature.all.filter (·.isFor type.name) := by
    simp [Feature.isFor, hdomain]
  obtain ⟨hall, hafter⟩ := after_features hnone (expansionUnit (.struct s)) (Class.new (.struct s))
  rw [← matching_registry] at hall hafter
  rw [expandClass_of_allSucceed hmark htype hall, workpieceOf, hafter, flatMap_functions]
  rfl

end Structs

/-- A struct of a domain class with its log target, before it gets its fields. -/
def logged (s : StructItem) : Class := ⟨.struct s, functionsFor "Domain" s.name⟩

def domainType : ArtefactType := ⟨"Domain", by decide⟩

theorem matching_domain :
    registry.matching domainType = [Feature.logging.descriptor, Feature.domain.descriptor] := by
  rw [matching_registry]
  rfl

theorem work_logging (s : StructItem) :
    Feature.logging.descriptor.work (workpieceOf s) =
      (⟨(), expansionUnit (.struct s), logged s⟩, .ok ()) := rfl

theorem work_domain (unit : String) (c : Class) :
    Feature.domain.descriptor.work ⟨(), unit, c⟩ =
      (⟨(), unit, (domain c).1⟩, (domain c).2.mapError fun message => ⟨message, []⟩) := rfl

section Domains

variable {tag : Tag} (hmark : tag.name = Config.standard.marker) {s : StructItem}
  (htype : tag.member Config.standard.valueMember = some (.literal "Domain"))

include hmark htype

theorem expandClass_of_domain_ok (hok : (domain (logged s)).2 = .ok ()) :
    expandClass tag (.struct s) = (domain (logged s)).1.print := by
  have hdomain : tag.member Config.standard.valueMember = some (.literal domainType.name) := htype
  have hall : AllSucceed (registry.matching domainType) (workpieceOf s) := by
    rw [matching_domain]
    refine allSucceed_cons.mpr ⟨rfl, allSucceed_cons.mpr ⟨?_, allSucceed_nil _⟩⟩
    rw [work_logging, work_domain, hok]
    rfl
  rw [expandClass_of_allSucceed hmark hdomain hall, matching_domain]
  rfl

theorem expandClass_of_domain_error {message : String}
    (herror : (domain (logged s)).2 = .error message) :
    expandClass tag (.struct s) = withError (domain (logged s)).1.print
      (injectionMessage "domain" 1 "Domain" ⟨message, []⟩) := by
  have hdomain : tag.member Config.standard.valueMember = some (.literal domainType.name) := htype
  have hhere : (registry.matching domainType)[1]? = some Feature.domain.descriptor := by
    rw [matching_domain]
    rfl
  have hfirst : FirstFailure (registry.matching domainType) (workpieceOf s) 1 ⟨message, []⟩ := by
    rw [matching_domain]
    refine firstFailure_cons rfl (firstFailure_head ?_ [])
    rw [work_logging, work_domain, herror]
    rfl
  rw [expandClass_of_firstFailure hmark hdomain hfirst hhere, matching_domain]
  rfl

end Domains

/-- The text of an expansion as a domain class. Where the fields are named and neither `id` nor
`version` is one of them, both are added behind the others. Else the struct stays as far as it
has come, with its log target, and the failure is told behind it. -/
structure ExpandsAsDomain (s : StructItem) (ts : List Token) : Prop where
  added : ∀ fields, s.fields = .named fields → ¬ Declares fields "id" →
    ¬ Declares fields "version" →
    ts = printedWith
      { s with fields := .named ((fields.push (domainField "id")).push (domainField "version")) }
      (functionsFor "Domain" s.name)
  idDeclared : ∀ fields, s.fields = .named fields → Declares fields "id" →
    ts = withError (printedWith s (functionsFor "Domain" s.name))
      (injectionMessage "domain" 1 "Domain" ⟨alreadyDeclares s.name "id", []⟩)
  versionDeclared : ∀ fields, s.fields = .named fields → ¬ Declares fields "id" →
    Declares fields "version" →
    ts = withError
      (printedWith { s with fields := .named (fields.push (domainField "id")) }
        (functionsFor "Domain" s.name))
      (injectionMessage "domain" 1 "Domain" ⟨alreadyDeclares s.name "version", []⟩)
  unnamed : (∀ fields, s.fields ≠ .named fields) →
    ts = withError (printedWith s (functionsFor "Domain" s.name))
      (injectionMessage "domain" 1 "Domain"
        ⟨"domain class " ++ s.name ++ " must have named fields", []⟩)

section Fields

variable {s : StructItem}

/-- What the domain injector makes of named fields, whatever was generated before. -/
theorem domain_named {fields : Punctuated Field} (hfields : s.fields = .named fields)
    (generated : List (List Token)) :
    domain ⟨.struct s, generated⟩ =
      let added := addFields s.name fields ["id", "version"]
      (⟨.struct { s with fields := .named added.1 }, generated⟩, added.2) := by
  simp only [domain, hfields]

theorem domain_unnamed (hfields : ∀ fields, s.fields ≠ .named fields)
    (generated : List (List Token)) :
    domain ⟨.struct s, generated⟩ =
      (⟨.struct s, generated⟩, .error ("domain class " ++ s.name ++ " must have named fields")) := by
  cases hs : s.fields with
  | named fields => exact absurd hs (hfields fields)
  | tuple fields => simp only [domain, hs]
  | unit => simp only [domain, hs]

theorem expandsAsDomain {tag : Tag} (hmark : tag.name = Config.standard.marker)
    (htype : tag.member Config.standard.valueMember = some (.literal "Domain")) :
    ExpandsAsDomain s (expandClass tag (.struct s)) := by
  refine ⟨?_, ?_, ?_, ?_⟩
  · intro fields hfields hid hversion
    have hrest : ¬ Declares (fields.push (domainField "id")) "version" := by
      simp [declares_push, hversion]
    have hdomain : domain (logged s) = _ := domain_named hfields _
    rw [addFields_of_new _ _ hid, addFields_of_new _ _ hrest] at hdomain
    rw [expandClass_of_domain_ok hmark htype (congrArg (·.2) hdomain), hdomain]
    rfl
  · intro fields hfields hid
    have hsame : { s with fields := .named fields } = s := by rw [← hfields]
    have hdomain : domain (logged s) = _ := domain_named hfields _
    rw [addFields_of_declared _ _ hid] at hdomain
    simp only [hsame] at hdomain
    rw [expandClass_of_domain_error hmark htype (congrArg (·.2) hdomain), hdomain]
    rfl
  · intro fields hfields hid hversion
    -- `id` is already there when `version` is looked for, and it stays.
    have hrest : Declares (fields.push (domainField "id")) "version" :=
      declares_push.mpr (Or.inl hversion)
    have hdomain : domain (logged s) = _ := domain_named hfields _
    rw [addFields_of_new _ _ hid, addFields_of_declared _ _ hrest] at hdomain
    rw [expandClass_of_domain_error hmark htype (congrArg (·.2) hdomain), hdomain]
    rfl
  · intro hfields
    have hdomain : domain (logged s) = _ := domain_unnamed hfields _
    rw [expandClass_of_domain_error hmark htype (congrArg (·.2) hdomain), hdomain]
    rfl

end Fields

/-! ## Ways of an expansion -/

/-- Only classes are artefacts: the visit to any other declaration ignores it. -/
theorem expandDeclaration_eq (tag : Tag) (kind : DeclarationKind) (printed : List Token) :
    expandDeclaration tag kind printed = printed := rfl

/-- The text of an expansion of a struct, by the value that its tag has. -/
structure ExpandsAsStruct (tag : Tag) (s : StructItem) (ts : List Token) : Prop where
  missing : NamesNoType (h := host) tag "value" →
    ts = withError s.print (refusalText s.name .missingType)
  plain : ∀ type, tag.member "value" = some (.literal type) → type ≠ "" → type ≠ "Domain" →
    ts = printedWith s (functionsFor type s.name)
  domain : tag.member "value" = some (.literal "Domain") → ExpandsAsDomain s ts

theorem expandsAsStruct {tag : Tag} (hmark : tag.name = Config.standard.marker) (s : StructItem) :
    ExpandsAsStruct tag s (expandClass tag (.struct s)) := by
  refine ⟨?_, ?_, ?_⟩
  · intro hnone
    have hjudge : judge (h := host) Config.standard.valueMember tag (Class.new (.struct s)) =
        .refused s.name .missingType := by
      have hdeclared := declaredType?_of_namesNoType hnone
      change declaredType? (h := host) tag Config.standard.valueMember = none at hdeclared
      simp only [judge, hdeclared]
      rfl
    exact expandClass_of_refused hmark hjudge
  · intro type htype hnonempty hdomain
    have hnamed : tag.member Config.standard.valueMember =
        some (.literal (ArtefactType.mk type hnonempty).name) := htype
    have hplain := expandClass_of_plain hmark hnamed (s := s) hdomain
    exact hplain
  · exact expandsAsDomain hmark

/-- An expansion goes one of these ways, whatever the tokens are. Arguments that cannot be read
leave the item as it came, before anyone looks at it, and so does an item that cannot be read. An
item that is no class is printed, and nothing else. A trait gets an error, whatever its tag says.
A struct whose tag names no type gets an error, too; with a type it gets its functions, and as a
domain class its fields. -/
theorem an_expansion_goes_one_of_these_ways (arguments item : List Token) :
    (∀ e, Tag.read Config.standard.marker arguments = .error e →
      expand arguments item = withError item e.message) ∧
    ∀ tag, Tag.read Config.standard.marker arguments = .ok tag →
      (∀ e, readItem item = .error e → expand arguments item = withError item e.message) ∧
      (∀ kind printed, readItem item = .ok (.other kind printed) →
        expand arguments item = printed) ∧
      (∀ t, readItem item = .ok (.trait t) →
        expand arguments item = withError t.tokens (refusalText t.name .interface)) ∧
      (∀ s, readItem item = .ok (.struct s) → ExpandsAsStruct tag s (expand arguments item)) := by
  refine ⟨?_, fun tag hread => ⟨?_, ?_, ?_, ?_⟩⟩
  · intro e hread
    simp only [expand, hread]
  · intro e hitem
    simp only [expand, hread, hitem]
  · intro kind printed hitem
    simp only [expand, hread, hitem, expandDeclaration_eq]
  · intro t hitem
    have hjudge : judge (h := host) Config.standard.valueMember tag (Class.new (.trait t)) =
        .refused t.name .interface := rfl
    simp only [expand, hread, hitem]
    exact expandClass_of_refused (name_of_read hread) hjudge
  · intro s hitem
    simp only [expand, hread, hitem]
    exact expandsAsStruct (name_of_read hread) s

end MarkerInjection.Source
