-- The texts that the generated functions of a struct give: its log target, the
-- name and the path of a controller, the name of a service. All of them follow from
-- the name as it is spelled, so a raw spelling leaves its mark in them.
import MarkerInjection.Proofs.Additions
import MarkerInjection.Proofs.RawNames
import MarkerInjection.Proofs.StringLiterals
import Mathlib.Data.List.TakeWhile

namespace MarkerInjection.Source

open MarkerInjection.Text

/-! ## The class of an expansion -/

/-- The class that an expansion makes of a struct. -/
def expandedClass (tag : Tag) (s : StructItem) : Class :=
  (visitClass Config.standard (expansionUnit (.struct s)) tag (Class.new (.struct s))).1

/-- The tokens print the class, perhaps with an error behind it. -/
def Prints (ts : List Token) (c : Class) : Prop :=
  ts = c.print ∨ ∃ message, ts = withError c.print message

theorem prints_expandClass (tag : Tag) (s : StructItem) :
    Prints (expandClass tag (.struct s)) (expandedClass tag s) := by
  unfold expandClass expandedClass
  rcases visitClass Config.standard (expansionUnit (.struct s)) tag (Class.new (.struct s)) with
    ⟨c, records, failure | outcome⟩
  · exact Or.inr ⟨_, rfl⟩
  · exact Or.inl rfl

theorem prints_expand {arguments item : List Token} {tag : Tag} {s : StructItem}
    (htag : Tag.read Config.standard.marker arguments = .ok tag)
    (hitem : readItem item = .ok (.struct s)) :
    Prints (expand arguments item) (expandedClass tag s) := by
  have hexpand : expand arguments item = expandClass tag (.struct s) := by
    simp only [expand, htag, hitem]
  rw [hexpand]
  exact prints_expandClass tag s

/-- Every feature puts its functions behind the others, even one that fails. -/
theorem generated_change (f : Feature) (c : Class) :
    (f.change c).1.generated = c.generated ++ f.functions c.name := by
  cases f with
  | logging => rfl
  | controller => exact List.append_assoc _ _ _
  | service => rfl
  | domain =>
    have hends := domain_ends c
    have hchange : (Feature.domain.change c).1 = (domain c).1 := rfl
    rw [hchange]
    generalize (domain c).1 = after, (domain c).2 = result at hends
    cases hends with
    | _ => exact (List.append_nil _).symm

theorem generated_after (fs : List Feature) (w : Workpiece host) :
    (w.after (fs.map Feature.descriptor)).target.generated =
      w.target.generated ++ fs.flatMap (·.functions w.target.name) := by
  induction fs generalizing w with
  | nil => exact (List.append_nil _).symm
  | cons f fs ih =>
    have hgenerated : (f.descriptor.work w).1.target.generated = _ := generated_change f w.target
    have hname : (f.descriptor.work w).1.target.name = w.target.name :=
      (grows_change f w.target).name
    have hafter : w.after ((f :: fs).map Feature.descriptor) =
        (f.descriptor.work w).1.after (fs.map Feature.descriptor) := rfl
    rw [hafter, ih, hgenerated, hname, List.flatMap_cons, List.append_assoc]

/-- Only the last injector of a type can fail, so all of them are called. -/
theorem length_of_firstFailure {type : ArtefactType} {s : StructItem} {k : Nat} {cause : Cause}
    (hk : FirstFailure (registry.matching type) (workpieceOf s) k cause) :
    (registry.matching type).length ≤ k + 1 := by
  by_cases hdomain : type.name = "Domain"
  · have htype : type = domainType := by
      obtain ⟨name, hname⟩ := type
      cases hdomain
      rfl
    rw [htype, matching_domain] at hk ⊢
    cases k with
    | zero => exact absurd hk.fails (by simp [resultAt, Workpiece.after, work_logging])
    | succ k => simp
  · have hnone : .domain ∉ Feature.all.filter (·.isFor type.name) := by
      simp [Feature.isFor, hdomain]
    have hall := (after_features hnone (expansionUnit (.struct s)) (Class.new (.struct s))).1
    rw [← matching_registry] at hall
    exact absurd hall (not_allSucceed_of_firstFailure hk)

/-- The struct gets the functions of its type, whether all injectors succeed or not. -/
theorem generated_expandedClass {tag : Tag} (hmark : tag.name = Config.standard.marker)
    {s : StructItem} {type : ArtefactType}
    (htype : tag.member Config.standard.valueMember = some (.literal type.name)) :
    (expandedClass tag s).generated = functionsFor type.name s.name := by
  have hclass : expandedClass tag s = ((transform Config.standard).channel.apply type
      (registry.matching type) (sceneOf s type)).1.target :=
    congrArg Prod.fst (visitClass_of_typed hmark htype)
  have hwhole : ((transform Config.standard).channel.apply type (registry.matching type)
      (sceneOf s type)).1.workpiece = (workpieceOf s).after (registry.matching type) := by
    rcases ranThrough_or_stoppedAt (transform Config.standard).channel type
      (registry.matching type) (sceneOf s type) with hran | ⟨k, d, cause, hstop⟩
    · exact hran.workpiece
    · have hworkpiece := hstop.workpiece
      rwa [List.take_of_length_le (length_of_firstFailure hstop.first)] at hworkpiece
  have htarget := congrArg Workpiece.target hwhole
  rw [hclass]
  refine (congrArg Class.generated htarget).trans ?_
  rw [matching_registry, generated_after, flatMap_functions]
  rfl

/-! ## Texts -/

mutual
/-- The texts of the string literals in a token, at every depth. -/
def Token.texts : Token → List String
  | .literal lit => (stringValue? lit).toList
  | .group _ inner => textsOfTokens inner
  | .ident _ => []
  | .punct _ _ => []

def textsOfTokens : List Token → List String
  | [] => []
  | t :: ts => t.texts ++ textsOfTokens ts
end

/-- The name of a generated function and the texts in it. -/
def toldBy : List Token → Option (String × List String)
  | .ident "pub" :: .ident "fn" :: .ident name :: more => some (name, textsOfTokens more)
  | _ => none

/-- What the generated functions of a struct tell, with its names derived from this one. -/
def toldOf (type name controllerName serviceName : String) : List (String × List String) :=
  ("log_target", ["::", name]) ::
    (if type = "Controller" then
      [("controller_name", [controllerName]), ("base_path", ["/" ++ controllerName])] else []) ++
    (if type = "Service" then [("service_name", [serviceName])] else [])

theorem texts_textToken (s : String) : (textToken s).texts = [s] := by
  simp [textToken, Token.texts, stringValue?_literal]

theorem toldBy_textFunction (name text : String) :
    toldBy (textFunction name [textToken text]) = some (name, [text]) := by
  simp [textFunction, toldBy, sign, signTokens, lifetimeTokens, textsOfTokens, Token.texts,
    texts_textToken]

theorem toldBy_logTarget (name : String) :
    toldBy (logTarget name) = some ("log_target", ["::", name]) := by
  simp [logTarget, textFunction, toldBy, sign, signTokens, lifetimeTokens, textsOfTokens,
    Token.texts, texts_textToken]

theorem toldBy_functionsFor (type name : String) :
    (functionsFor type name).map toldBy =
      (toldOf type name (propertyName (logicalName name "Controller"))
        (propertyName name)).map some := by
  unfold functionsFor toldOf
  split
  · split
    · simp [Feature.functions, toldBy_logTarget, toldBy_textFunction]
    · simp [Feature.functions, toldBy_logTarget, toldBy_textFunction]
  · split
    · simp [Feature.functions, toldBy_logTarget, toldBy_textFunction]
    · simp [Feature.functions, toldBy_logTarget]

/-! ## Names without a mark -/

/-- A hash sign is no letter, so it does not come out of the lowercase of one. -/
theorem mark_not_mem_lowercase {c : Char} (hc : c ≠ '#') : '#' ∉ lowercase c := by
  have hshifts : ∀ s ∈ lowercaseShifts, (0x23 : Int) < s.span.first + s.distance := by
    decide +kernel
  unfold lowercase
  split
  · decide
  · split
    · rename_i shift hfound
      have hholds := List.find?_some hfound
      have hfar := hshifts shift (List.mem_of_find?_eq_some hfound)
      simp only [Span.holds, Bool.and_eq_true, decide_eq_true_eq] at hholds
      rw [List.mem_singleton]
      intro heq
      have hcode : 0x23 = (Char.ofNat (c.toNat + shift.distance).toNat).toNat :=
        congrArg Char.toNat heq
      -- a number that belongs to no character gives the zero character, which is no mark either
      by_cases hvalid : (c.toNat + shift.distance).toNat.isValidChar
      · rw [Char.ofNat, dif_pos hvalid] at hcode
        have hback : (Char.ofNatAux (c.toNat + shift.distance).toNat hvalid).toNat =
            (c.toNat + shift.distance).toNat := rfl
        omega
      · rw [Char.ofNat, dif_neg hvalid] at hcode
        cases hcode
    · simpa using Ne.symm hc

theorem mark_not_mem_propertyName {name : String} (hname : '#' ∉ name.toList) :
    '#' ∉ (propertyName name).toList := by
  unfold propertyName
  split
  · simp
  · rename_i first rest hchars
    have hsmall : '#' ∉ (String.ofList (lowercase first ++ rest)).toList := by
      rw [hchars, List.mem_cons, not_or] at hname
      rw [String.toList_ofList, List.mem_append, not_or]
      exact ⟨mark_not_mem_lowercase (Ne.symm hname.1), hname.2⟩
    cases rest with
    | nil => exact hsmall
    | cons second tail =>
      dsimp only
      split
      · exact hname
      · exact hsmall

theorem mark_not_mem_logicalName {name : String} (hname : '#' ∉ name.toList) (ending : String) :
    '#' ∉ (logicalName name ending).toList := by
  unfold logicalName
  dsimp only
  split
  · rw [String.toList_ofList]
    exact fun hmem => hname (List.mem_of_mem_take hmem)
  · exact hname

/-! ## Raw names -/

theorem mark_mem_raw (name : String) : '#' ∈ (raw name).toList := by simp [toList_raw]

/-- The hash sign keeps the first letter of a raw name as it is, and that is the `r`. -/
theorem propertyName_raw (name : String) : propertyName (raw name) = raw name := by
  have hkept : isUppercase '#' = false := by decide
  have hletter : lowercase 'r' = ['r'] := by decide
  have hchars := toList_raw name
  unfold propertyName
  split
  · rename_i hnil
    rw [hnil] at hchars
    cases hchars
  · rename_i first rest hcons
    rw [hcons] at hchars
    obtain ⟨rfl, rfl⟩ := List.cons.inj hchars
    simp only [hkept, hletter, Bool.false_eq_true, if_false]
    rw [← String.ofList_toList (s := raw name), hcons]
    rfl

/-- The name without an ending, even if nothing is left. -/
def stem (name ending : String) : String :=
  if ending.toList <:+ name.toList then
    String.ofList (name.toList.take (name.toList.length - ending.toList.length))
  else name

/-- An ending without a mark ends a raw name if it ends the name behind the mark. -/
theorem suffix_raw_iff {name ending : String} (hending : '#' ∉ ending.toList) :
    ending.toList <:+ (raw name).toList ↔ ending.toList <:+ name.toList := by
  rw [toList_raw]
  constructor
  · intro hsuffix
    rcases List.suffix_cons_iff.mp hsuffix with heq | hsuffix
    · exact absurd (heq ▸ by simp) hending
    · rcases List.suffix_cons_iff.mp hsuffix with heq | hsuffix
      · exact absurd (heq ▸ by simp) hending
      · exact hsuffix
  · exact fun hsuffix => hsuffix.trans ⟨['r', '#'], rfl⟩

/-- The mark is left where the name is nothing but the ending, so the ending always goes. -/
theorem logicalName_raw (name : String) {ending : String} (hending : '#' ∉ ending.toList) :
    logicalName (raw name) ending = raw (stem name ending) := by
  have hsuffix : ending.toList <:+ (raw name).toList ↔ ending.toList <:+ name.toList :=
    suffix_raw_iff hending
  unfold logicalName stem
  by_cases hends : ending.toList <:+ name.toList
  · have hlength := hends.length_le
    have hrest : (raw name).toList.length - ending.toList.length =
        (name.toList.length - ending.toList.length) + 2 := by
      rw [toList_raw, List.length_cons, List.length_cons]
      omega
    simp only [List.isSuffixOf_iff_suffix, hsuffix, hends, hrest, if_true, Bool.and_eq_true,
      decide_eq_true_eq, true_and, Nat.zero_lt_succ, gt_iff_lt]
    apply String.toList_injective
    rw [String.toList_ofList, toList_raw, toList_raw, String.toList_ofList]
    rfl
  · simp only [List.isSuffixOf_iff_suffix, hsuffix, hends, Bool.and_eq_true, false_and, if_false]

theorem ne_of_mark {name name' : String} (hmark : '#' ∈ name.toList) (hnone : '#' ∉ name'.toList) :
    name ≠ name' := by
  rintro rfl
  exact hnone hmark

/-- The word can be spelled as a name and as a raw name: the lexer takes either whole, and the
plain word is not reserved. -/
structure SpelledBothWays (word : String) : Prop where
  plain : name? word.toList = some (word.toList, [])
  marked : name? (raw word).toList = some ((raw word).toList, [])
  free : word ∉ reservedWords

theorem mark_not_mem_of_spelledBothWays {word : String} (hword : SpelledBothWays word) :
    '#' ∉ word.toList := by
  have hcontinue : isNameContinue '#' = false := by decide +kernel
  have hstart : isNameStart '#' = false := by decide +kernel
  have hmarked := hword.marked
  have hleads : startsWith "r#" (raw word).toList = true := by
    rw [toList_raw]
    rfl
  have hbody : (raw word).toList.drop 2 = word.toList := by
    rw [toList_raw]
    rfl
  unfold name? at hmarked
  dsimp only at hmarked
  split at hmarked
  · cases hmarked
  · unfold anyName? at hmarked
    simp only [hleads, hbody, if_true] at hmarked
    split at hmarked
    · rename_i c r hchars
      split at hmarked
      · rename_i hfirst
        split at hmarked
        · cases hmarked
        · -- Nothing is left behind the name, so all of it goes on.
          have hrest := congrArg Prod.snd (Option.some.inj hmarked)
          have hall := List.dropWhile_eq_nil_iff.mp hrest
          rw [hchars, List.mem_cons, not_or]
          exact ⟨fun h => by simp [← h, hstart] at hfirst,
            fun h => by simpa [hcontinue] using hall '#' h⟩
      · cases hmarked
    · rename_i hchars
      simp [hchars]

/-! ## One struct under both spellings -/

/-- The struct under another name. -/
def StructItem.called (s : StructItem) (name : String) : StructItem := { s with name }

theorem told_expandedClass {tag : Tag} (hmark : tag.name = Config.standard.marker)
    {type : ArtefactType}
    (htype : tag.member Config.standard.valueMember = some (.literal type.name))
    (s : StructItem) (name : String) :
    (expandedClass tag (s.called name)).generated.map toldBy =
      (toldOf type.name name (propertyName (logicalName name "Controller"))
        (propertyName name)).map some := by
  rw [generated_expandedClass hmark htype]
  exact toldBy_functionsFor type.name name

/-- Names that differ in every place make up the same functions, each with other texts. -/
theorem forall₂_toldOf (type : String) {name name' controllerName controllerName' serviceName
    serviceName' : String} (hname : name ≠ name') (hcontroller : controllerName ≠ controllerName')
    (hservice : serviceName ≠ serviceName') :
    List.Forall₂ (fun a b => a.1 = b.1 ∧ a.2 ≠ b.2)
      (toldOf type name controllerName serviceName)
      (toldOf type name' controllerName' serviceName') := by
  unfold toldOf
  by_cases hisController : type = "Controller"
  · simp [hisController, hname, hcontroller]
  · by_cases hisService : type = "Service"
    · simp [hisService, hname, hservice]
    · simp [hisController, hisService, hname]

/-- A struct under a raw name gets the functions that it gets under the plain name, but each of
them tells another text: the mark is taken for a part of the name. It stays in the log target
and in the names of controllers and services, and it keeps the first letter as it is. -/
theorem a_raw_name_changes_every_text {arguments item rawItem : List Token} {tag : Tag}
    {type : ArtefactType} {s : StructItem} {word : String}
    (htag : Tag.read Config.standard.marker arguments = .ok tag)
    (htype : tag.member Config.standard.valueMember = some (.literal type.name))
    (hword : SpelledBothWays word) (hitem : readItem item = .ok (.struct (s.called word)))
    (hraw : readItem rawItem = .ok (.struct (s.called (raw word)))) :
    let plainTold := toldOf type.name word (propertyName (logicalName word "Controller"))
      (propertyName word)
    let rawTold := toldOf type.name (raw word) (raw (stem word "Controller")) (raw word)
    Prints (expand arguments item) (expandedClass tag (s.called word)) ∧
      (expandedClass tag (s.called word)).generated.map toldBy = plainTold.map some ∧
      Prints (expand arguments rawItem) (expandedClass tag (s.called (raw word))) ∧
      (expandedClass tag (s.called (raw word))).generated.map toldBy = rawTold.map some ∧
      List.Forall₂ (fun a b => a.1 = b.1 ∧ a.2 ≠ b.2) rawTold plainTold := by
  intro plainTold rawTold
  have hmark := name_of_read htag
  have hrawTold := told_expandedClass hmark htype s (raw word)
  rw [logicalName_raw word (by decide), propertyName_raw, propertyName_raw] at hrawTold
  refine ⟨prints_expand htag hitem, told_expandedClass hmark htype s word,
    prints_expand htag hraw, hrawTold, ?_⟩
  -- The mark is in every raw text and in no plain one.
  have hplain := mark_not_mem_of_spelledBothWays hword
  exact forall₂_toldOf type.name (ne_of_mark (mark_mem_raw _) hplain)
    (ne_of_mark (mark_mem_raw _) (mark_not_mem_propertyName (mark_not_mem_logicalName hplain _)))
    (ne_of_mark (mark_mem_raw _) (mark_not_mem_propertyName hplain))

/-- A controller and the tag that it is marked with. -/
def bookController : StructItem := ⟨[], [], "BookController", .none, .unit⟩

def controllerArguments : List Token := [.literal "\"Controller\""]

def controllerTag : Tag :=
  ⟨Config.standard.marker, [("value", .literal "Controller")], controllerArguments⟩

theorem controller_nonempty : "Controller" ≠ "" := by decide

def controllerType : ArtefactType := ⟨"Controller", controller_nonempty⟩

theorem spelledBothWays_bookController : SpelledBothWays "BookController" where
  plain := by decide +kernel
  marked := by decide +kernel
  free := by decide

theorem member_controllerTag :
    controllerTag.member Config.standard.valueMember = some (.literal controllerType.name) := rfl

set_option maxRecDepth 2000 in
theorem read_controllerArguments :
    Tag.read Config.standard.marker controllerArguments = .ok controllerTag := by
  rfl

set_option maxRecDepth 2000 in
theorem read_bookController :
    readItem (bookController.called "BookController").print =
      .ok (.struct (bookController.called "BookController")) := by
  rfl

set_option maxRecDepth 2000 in
theorem read_rawBookController :
    readItem (bookController.called "r#BookController").print =
      .ok (.struct (bookController.called "r#BookController")) := by
  rfl

/-- The base path of a controller under its raw name begins with the mark. -/
theorem a_raw_controller_has_a_raw_path :
    Tag.read Config.standard.marker controllerArguments = .ok controllerTag ∧
      SpelledBothWays "BookController" ∧
      readItem (bookController.called "BookController").print =
        .ok (.struct (bookController.called "BookController")) ∧
      readItem (bookController.called "r#BookController").print =
        .ok (.struct (bookController.called "r#BookController")) ∧
      (expandedClass controllerTag (bookController.called "BookController")).generated.map toldBy =
        [some ("log_target", ["::", "BookController"]), some ("controller_name", ["book"]),
          some ("base_path", ["/book"])] ∧
      (expandedClass controllerTag (bookController.called "r#BookController")).generated.map
        toldBy =
        [some ("log_target", ["::", "r#BookController"]), some ("controller_name", ["r#Book"]),
          some ("base_path", ["/r#Book"])] := by
  have hlaw := a_raw_name_changes_every_text read_controllerArguments member_controllerTag
    spelledBothWays_bookController read_bookController read_rawBookController
  obtain ⟨-, hplain, -, hraw, -⟩ := hlaw
  exact ⟨read_controllerArguments, spelledBothWays_bookController, read_bookController,
    read_rawBookController, hplain, hraw⟩

/-- Both spellings of a name do not make up the same texts. -/
theorem raw_names_do_not_keep_the_texts :
    ¬ ∀ (arguments item rawItem : List Token) (tag : Tag) (type : ArtefactType) (s : StructItem)
      (word : String), Tag.read Config.standard.marker arguments = .ok tag →
      tag.member Config.standard.valueMember = some (.literal type.name) → SpelledBothWays word →
      readItem item = .ok (.struct (s.called word)) →
      readItem rawItem = .ok (.struct (s.called (raw word))) →
      textsOfTokens (expand arguments rawItem) = textsOfTokens (expand arguments item) := by
  intro hsame
  have htexts := hsame controllerArguments (bookController.called "BookController").print
    (bookController.called "r#BookController").print controllerTag controllerType bookController
    "BookController" read_controllerArguments member_controllerTag spelledBothWays_bookController
    read_bookController read_rawBookController
  have hexpand {name : String} (hread : readItem (bookController.called name).print =
      .ok (.struct (bookController.called name))) :
      expand controllerArguments (bookController.called name).print =
        printedWith (bookController.called name) (functionsFor "Controller" name) := by
    simp only [expand, read_controllerArguments, hread]
    exact @expandClass_of_plain controllerTag rfl _ controllerType member_controllerTag (by decide)
  rw [hexpand read_bookController, hexpand read_rawBookController] at htexts
  simp [printedWith, Class.implBlock, functionsFor, Feature.functions, logTarget, textFunction,
    StructItem.called, bookController, StructItem.print, Generics.declarations, Generics.heads,
    Generics.references, Generics.printWhere, Generics.printParams, Generics.none, sign, signTokens,
    lifetimeTokens, textsOfTokens, Token.texts, texts_textToken] at htexts

end MarkerInjection.Source
