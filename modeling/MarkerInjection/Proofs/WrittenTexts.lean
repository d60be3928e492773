-- The literals that an expansion writes: those in the generated functions and the one in an
-- error. Each is a whole string literal again, of the very text that it was written for.
import MarkerInjection.Proofs.GeneratedTexts

namespace MarkerInjection.Source

open MarkerInjection.Text

/-! ## Literals that were written -/

/-- The literal is a string literal of this text, and nothing stands behind its closing quote. -/
def ReadsBack (literal text : String) : Prop := readString literal.toList = some (text.toList, [])

theorem readsBack_literal (text : String) : ReadsBack (literal text) text := by
  have hread := readString_spelling (.written text)
  have htext : (Spelling.written text).text = text := by
    simp [Spelling.written, Spelling.text, meaningOf_writtenParts]
  rw [htext] at hread
  rw [ReadsBack, ← chars_spelling_written, String.toList_ofList]
  exact hread

mutual
/-- The literals in a token, at every depth. -/
def Token.literals : Token → List String
  | .literal text => [text]
  | .group _ inner => literalsOfTokens inner
  | .ident _ => []
  | .punct _ _ => []

def literalsOfTokens : List Token → List String
  | [] => []
  | t :: ts => t.literals ++ literalsOfTokens ts
end

/-! ## Literals of the generated functions -/

/-- The function has this name, and its literals are string literals of these texts. -/
def Tells (function : List Token) (told : String × List String) : Prop :=
  ∃ more, function = .ident "pub" :: .ident "fn" :: .ident told.1 :: more ∧
    List.Forall₂ ReadsBack (literalsOfTokens more) told.2

theorem tells_textFunction (name text : String) :
    Tells (textFunction name [textToken text]) (name, [text]) := by
  refine ⟨_, rfl, ?_⟩
  simp [sign, signTokens, lifetimeTokens, textToken, literalsOfTokens, Token.literals,
    readsBack_literal]

theorem tells_logTarget (name : String) :
    Tells (logTarget name) ("log_target", ["::", name]) := by
  refine ⟨_, rfl, ?_⟩
  simp [sign, signTokens, lifetimeTokens, textToken, literalsOfTokens, Token.literals,
    readsBack_literal]

theorem tells_functionsFor (type name : String) :
    List.Forall₂ Tells (functionsFor type name)
      (toldOf type name (propertyName (logicalName name "Controller")) (propertyName name)) := by
  have hlog := tells_logTarget name
  have htext := tells_textFunction
  unfold functionsFor toldOf
  by_cases hcontroller : type = "Controller"
  · simp [hcontroller, Feature.functions, hlog, htext]
  · by_cases hservice : type = "Service"
    · simp [hservice, Feature.functions, hlog, htext]
    · simp [hcontroller, hservice, Feature.functions, hlog]

/-! ## The literal of an error -/

/-- An error in source text, of which the literal tells. -/
def errorShowing (literal : String) : List Token :=
  sign "::" ++ [.ident "core"] ++ sign "::" ++ [.ident "compile_error"] ++ sign "!" ++
    [.group .brace [.literal literal]]

/-- How an expansion ends: what it leaves of the item, and the text of the error behind it if there
is one. -/
inductive Ends (arguments item : List Token) : List Token → Option String → Prop
  | badArguments {e : SyntaxError}
    (htag : Tag.read Config.standard.marker arguments = .error e) :
    Ends arguments item item (some e.message)
  | badItem {tag : Tag} {e : SyntaxError}
    (htag : Tag.read Config.standard.marker arguments = .ok tag)
    (hitem : readItem item = .error e) :
    Ends arguments item item (some e.message)
  | noClass {tag : Tag} {kind : DeclarationKind} {printed : List Token}
    (htag : Tag.read Config.standard.marker arguments = .ok tag)
    (hitem : readItem item = .ok (.other kind printed)) :
    Ends arguments item printed none
  | interface {tag : Tag} {t : TraitItem}
    (htag : Tag.read Config.standard.marker arguments = .ok tag)
    (hitem : readItem item = .ok (.trait t)) :
    Ends arguments item t.tokens (some (refusalText t.name .interface))
  | missingType {tag : Tag} {s : StructItem}
    (htag : Tag.read Config.standard.marker arguments = .ok tag)
    (hitem : readItem item = .ok (.struct s)) (hnone : NamesNoType (h := host) tag "value") :
    Ends arguments item s.print (some (refusalText s.name .missingType))
  | plain {tag : Tag} {s : StructItem} {type : ArtefactType}
    (htag : Tag.read Config.standard.marker arguments = .ok tag)
    (hitem : readItem item = .ok (.struct s))
    (htype : tag.member "value" = some (.literal type.name)) (hdomain : type.name ≠ "Domain") :
    Ends arguments item (printedWith s (functionsFor type.name s.name)) none
  | domain {tag : Tag} {s : StructItem}
    (htag : Tag.read Config.standard.marker arguments = .ok tag)
    (hitem : readItem item = .ok (.struct s))
    (htype : tag.member "value" = some (.literal "Domain"))
    (hfine : (domain (logged s)).2 = .ok ()) :
    Ends arguments item (domain (logged s)).1.print none
  | refusedDomain {tag : Tag} {s : StructItem} {message : String}
    (htag : Tag.read Config.standard.marker arguments = .ok tag)
    (hitem : readItem item = .ok (.struct s))
    (htype : tag.member "value" = some (.literal "Domain"))
    (hfails : (domain (logged s)).2 = .error message) :
    Ends arguments item (domain (logged s)).1.print
      (some (injectionMessage "domain" 1 "Domain" ⟨message, []⟩))

section Ends

variable {arguments item : List Token}

/-- Every expansion ends in one of these ways. -/
theorem exists_ends (arguments item : List Token) :
    ∃ kept problem, Ends arguments item kept problem := by
  rcases htag : Tag.read Config.standard.marker arguments with e | tag
  · exact ⟨_, _, .badArguments htag⟩
  rcases hitem : readItem item with e | it
  · exact ⟨_, _, .badItem htag hitem⟩
  cases it with
  | other kind printed => exact ⟨_, _, .noClass htag hitem⟩
  | trait t => exact ⟨_, _, .interface htag hitem⟩
  | struct s =>
    rcases namesNoType_or_literal (h := host) tag "value" with hnone | ⟨type, htype⟩
    · exact ⟨_, _, .missingType htag hitem hnone⟩
    by_cases hdomain : type.name = "Domain"
    · have hliteral : tag.member "value" = some (.literal "Domain") := hdomain ▸ htype
      rcases hresult : (domain (logged s)).2 with message | u
      · exact ⟨_, _, .refusedDomain htag hitem hliteral hresult⟩
      · exact ⟨_, _, .domain htag hitem hliteral hresult⟩
    · exact ⟨_, _, .plain htag hitem htype hdomain⟩

theorem expand_of_class {tag : Tag} {s : StructItem}
    (htag : Tag.read Config.standard.marker arguments = .ok tag)
    (hitem : readItem item = .ok (.struct s)) :
    expand arguments item = expandClass tag (.struct s) := by
  simp only [expand, htag, hitem]

/-- The expansion is what is left of the item, with the error behind it. -/
theorem expand_of_ends {kept : List Token} {problem : Option String}
    (hends : Ends arguments item kept problem) :
    expand arguments item = problem.elim kept (withError kept) := by
  cases hends with
  | badArguments htag =>
    simp only [expand, htag]
    rfl
  | badItem htag hitem =>
    simp only [expand, htag, hitem]
    rfl
  | noClass htag hitem =>
    simp only [expand, htag, hitem]
    rfl
  | interface htag hitem =>
    simp only [expand, htag, hitem]
    exact expandClass_of_refused (name_of_read htag) rfl
  | missingType htag hitem hnone =>
    rw [expand_of_class htag hitem]
    exact (expandsAsStruct (name_of_read htag) _).missing hnone
  | plain htag hitem htype hdomain =>
    rw [expand_of_class htag hitem]
    exact expandClass_of_plain (name_of_read htag) htype hdomain
  | domain htag hitem htype hfine =>
    rw [expand_of_class htag hitem]
    exact expandClass_of_domain_ok (name_of_read htag) htype hfine
  | refusedDomain htag hitem htype hfails =>
    rw [expand_of_class htag hitem]
    exact expandClass_of_domain_error (name_of_read htag) htype hfails

end Ends

/-- Every literal that an expansion writes is a string literal of the text that is meant, whatever
characters the name of the struct or the message has. A struct with a type gets functions whose
literals tell its name and what is derived from it. An expansion that fails shows the message of
its failure behind what it leaves of the item; any other one has no error. -/
theorem every_written_literal_reads_back (arguments item : List Token) :
    (∀ tag s type, Tag.read Config.standard.marker arguments = .ok tag →
      readItem item = .ok (.struct s) →
      tag.member "value" = some (.literal type) → type ≠ "" →
      Prints (expand arguments item) (expandedClass tag s) ∧
      List.Forall₂ Tells (expandedClass tag s).generated
        (toldOf type s.name (propertyName (logicalName s.name "Controller"))
          (propertyName s.name))) ∧
    ∃ kept problem, Ends arguments item kept problem ∧
      (problem = none → expand arguments item = kept) ∧
      ∀ text, problem = some text →
        ∃ literal, expand arguments item = kept ++ errorShowing literal ∧
          ReadsBack literal text := by
  refine ⟨fun tag s type htag hitem htype hnonempty => ?_, ?_⟩
  · refine ⟨prints_expand htag hitem, ?_⟩
    have hfunctions : (expandedClass tag s).generated = functionsFor type s.name :=
      @generated_expandedClass tag (name_of_read htag) s ⟨type, hnonempty⟩ htype
    rw [hfunctions]
    exact tells_functionsFor type s.name
  · obtain ⟨kept, problem, hends⟩ := exists_ends arguments item
    have hexpand := expand_of_ends hends
    refine ⟨kept, problem, hends, ?_, ?_⟩
    · rintro rfl
      exact hexpand
    · rintro text rfl
      exact ⟨literal text, hexpand, readsBack_literal text⟩

/-- The name `r#CaféController`, whose accent is a mark of its own. -/
def accentedName : String := "r#Cafe\u0301Controller"

set_option maxRecDepth 2000 in
theorem read_accentedController :
    readItem (bookController.called accentedName).print =
      .ok (.struct (bookController.called accentedName)) := by
  rfl

theorem controllerName_accented :
    propertyName (logicalName accentedName "Controller") = "r#Cafe\u0301" := by
  decide +kernel

theorem an_accented_controller_tells_its_name :
    List.Forall₂ Tells
      (expandedClass controllerTag (bookController.called accentedName)).generated
      [("log_target", ["::", accentedName]), ("controller_name", ["r#Cafe\u0301"]),
        ("base_path", ["/" ++ "r#Cafe\u0301"])] := by
  have htold := ((every_written_literal_reads_back controllerArguments
    (bookController.called accentedName).print).1 controllerTag _ "Controller"
    read_controllerArguments read_accentedController member_controllerTag (by decide)).2
  change List.Forall₂ _ _ (toldOf "Controller" accentedName
    (propertyName (logicalName accentedName "Controller")) (propertyName accentedName)) at htold
  rw [controllerName_accented] at htold
  exact htold

end MarkerInjection.Source
