-- One value, many spellings: a tag may give it with a name or without, in any string
-- literal, among further members. What the expansion makes of an item is the same.
import MarkerInjection.Proofs.ArgumentLists
import MarkerInjection.Proofs.CarryingItems
import MarkerInjection.Proofs.StringLiterals
import Mathlib.Data.List.Forall2
import Mathlib.Data.List.Nodup

namespace MarkerInjection.Source

set_option synthInstance.maxSize 20000

/-! ## Values with a comma behind them -/

section Values

variable {c ts : List Token} {l : Option Delimiter} {x : List Token} {k : Input}

/-- The tokens are a literal, which is printed so. -/
inductive IsLiteral : List Token → List Token → Prop
  | text (text : String) : IsLiteral [.literal text] [.literal text]
  | truth (word : String) (hword : word = "true" ∨ word = "false") :
    IsLiteral [.ident word] [.ident word]
  | negative (joint : Bool) (text : String) :
    IsLiteral [.punct '-' joint, .literal text] [.punct '-' false, .literal text]

theorem ok_of_literalRule (h : literalRule ⟨ts, l⟩ = .ok (x, k)) :
    ∃ taken, IsLiteral taken x ∧ ts = taken ++ k.tokens ∧ k.leftover = l := by
  obtain ⟨ts', i, hahead, h⟩ := ok_of_run_bind h
  cases hahead
  dsimp only at h
  split at h
  · cases h
    exact ⟨_, .text _, rfl, rfl⟩
  · split at h
    · rename_i hword
      cases h
      exact ⟨_, .truth _ (by simpa using hword), rfl, rfl⟩
    · cases h
  · split at h
    · cases h
      exact ⟨_, .negative _ _, rfl, rfl⟩
    · cases h
  · cases h

theorem comma_not_mem {taken : List Token} (hliteral : IsLiteral taken x) (joint : Bool) :
    Token.punct ',' joint ∉ taken := by
  cases hliteral with
  | _ => simp

/-- What a value is that is only a literal. -/
def literalValue : List Token → Phrase
  | [.literal text] => ⟨[.literal text], .literal text, false⟩
  | ts => ⟨ts, .other, false⟩

/-- A literal is read as an expression too, and that is the same. -/
theorem expression_of_isLiteral (n : Nat) {taken : List Token} (hliteral : IsLiteral taken x)
    [hc : EndsMember c] :
    (grammar (n + 4)).expression true ⟨taken ++ c, l⟩ = .ok (literalValue x, ⟨c, l⟩) := by
  cases hliteral with
  | text text =>
    cases hc with
    | _ => rfl
  | truth word hword =>
    obtain rfl | rfl := hword
    · cases hc with
      | _ => rfl
    · cases hc with
      | _ => rfl
  | negative joint text =>
    cases hc with
    | _ => rfl

/-- A literal with nothing behind it. -/
def loneLiteral : Rule := do
  let ts ← literalRule
  if ← atEnd then return ts else forbid "more than a literal"

theorem ok_of_loneLiteral (h : loneLiteral ⟨ts, l⟩ = .ok (x, k)) :
    IsLiteral ts x ∧ k = ⟨[], l⟩ := by
  obtain ⟨y, ⟨rest, l'⟩, hy, hend⟩ := ok_of_run_bind h
  obtain ⟨taken, hliteral, htaken, rfl⟩ := ok_of_literalRule hy
  cases rest with
  | nil =>
    cases hend
    rw [htaken, List.append_nil]
    exact ⟨hliteral, rfl⟩
  | cons t rest => cases hend

theorem loneLiteral_comma (ts : List Token) (joint : Bool) (more : List Token) :
    ∃ e, loneLiteral ⟨ts ++ .punct ',' joint :: more, l⟩ = .error e := by
  cases hread : loneLiteral ⟨ts ++ .punct ',' joint :: more, l⟩ with
  | error e => exact ⟨e, rfl⟩
  | ok read => exact absurd (by simp) (comma_not_mem (ok_of_loneLiteral hread).1 joint)

/-- A value that is no literal alone is an expression, but no attribute. -/
def expressionValue (g : Grammar) : Reader Phrase := do
  if ← next fun ts => atSign "#" ts && atGroup .bracket (behind ts) then
    forbid "unexpected attribute inside of attribute"
  g.expression true

theorem metaValue_eq (g : Grammar) : metaValue g = (attempt loneLiteral >>= fun lone =>
    match lone with
    | some ts => pure (literalValue ts)
    | none => expressionValue g) := by
  unfold metaValue
  refine congrArg (attempt loneLiteral >>= ·) (funext fun lone => ?_)
  split
  · rfl
  · rename_i ts hts
    have hvalue : literalValue ts = ⟨ts, .other, false⟩ := by
      unfold literalValue
      split
      · exact absurd rfl (hts _)
      · rfl
    exact congrArg pure hvalue.symm
  · rfl

instance carriesAt_expressionValue {g g' : Grammar} [Below g g'] [EndsMember c] :
    CarriesAt c ts (expressionValue g) (expressionValue g') := by
  unfold expressionValue
  infer_instance

theorem expressionValue_of_isLiteral (n : Nat) {taken : List Token}
    (hliteral : IsLiteral taken x) [EndsMember c] :
    expressionValue (grammar (n + 4)) ⟨taken ++ c, l⟩ = .ok (literalValue x, ⟨c, l⟩) := by
  have hhash : (atSign "#" (taken ++ c) && atGroup .bracket (behind (taken ++ c))) = false := by
    cases hliteral with
    | _ => rfl
  unfold expressionValue
  rw [run_bind_of_ok (run_next _ _)]
  dsimp only
  rw [hhash]
  exact expression_of_isLiteral n hliteral

/-- Alone a literal is taken for itself and before a comma as an expression. -/
instance carriesAt_metaValue {g : Grammar} {n : Nat} [Below g (grammar (n + 4))]
    [hc : EndsMember c] : CarriesAt c ts (metaValue g) (metaValue (grammar (n + 4))) := by
  cases hc with
  | nothing => infer_instance
  | comma joint more =>
    have hcomma := EndsMember.comma joint more
    constructor
    intro l x j h
    obtain ⟨e, he⟩ := loneLiteral_comma (l := l) ts joint more
    rw [metaValue_eq, run_bind_of_ok (run_attempt_of_error he)]
    rw [metaValue_eq] at h
    cases hlone : loneLiteral ⟨ts, l⟩ with
    | error e' =>
      rw [run_bind_of_ok (run_attempt_of_error hlone)] at h
      exact (carriesAt_expressionValue (c := .punct ',' joint :: more)).carries h
    | ok read =>
      obtain ⟨y, k⟩ := read
      rw [run_bind_of_ok (run_attempt_of_ok hlone)] at h
      obtain ⟨hliteral, rfl⟩ := ok_of_loneLiteral hlone
      cases h
      exact ⟨expressionValue_of_isLiteral n hliteral, List.nil_suffix⟩

/-! ## Arguments with a comma behind them -/

/-- A path with bracketed tokens. -/
def metaList (path ts : List Token) : Reader Meta := do
  let (_, inner) ← anyGroup
  let d := match ts with | .group d _ :: _ => d | _ => .paren
  return .list (path ++ [.group d inner])

instance carriesAt_metaList (path : List Token) :
    CarriesAt c ts (metaList path ts) (metaList path (ts ++ c)) := by
  cases ts with
  | nil =>
    constructor
    intro l x j h
    cases h
  | cons t r =>
    unfold metaList
    cases t with
    | _ =>
      dsimp only [List.cons_append]
      infer_instance

instance carriesAt_metaRule {g : Grammar} {n : Nat} [Below g (grammar (n + 4))] [EndsMember c] :
    CarriesAt c ts (metaRule g) (metaRule (grammar (n + 4))) := by
  unfold metaRule
  refine @carriesAt_bind _ _ _ _ _ _ _ _ inferInstance fun path ts' => carriesAt_ahead (h := ?_)
  exact @carriesAt_choice _ _ _ _ _ _ _ inferInstance _ _ (carriesAt_metaList path) inferInstance

instance failsAtEnd_atTruthValue : FailsAtEnd atTruthValue := ⟨rfl⟩

instance carriesAt_argumentRule {g : Grammar} {n : Nat} [Below g (grammar (n + 4))]
    [EndsMember c] : CarriesAt c ts (argumentRule g) (argumentRule (grammar (n + 4))) := by
  unfold argumentRule
  infer_instance

end Values

/-! ## Further members -/

/-- What is a valid argument by itself is the same argument in a list that it stands in. -/
theorem readsAs_of_readWith {ts : List Token} {a : Argument}
    (hread : readWith argumentRule ts = .ok a) {n : Nat} (hn : depthFor ts ≤ n) :
    ReadsAs (grammar n) ts a := by
  intro c hc
  obtain ⟨n, rfl⟩ : ∃ m, n = m + 4 := by
    unfold depthFor at hn
    exact ⟨n - 4, by omega⟩
  have hbelow := below_grammar hn
  exact ((carriesAt_argumentRule (c := c)).carries (run_of_readAll hread)).1

theorem sizeOfTokens_le_apart {ms : List (List Token × Bool)} {m : List Token × Bool}
    (hm : m ∈ ms) (trailing : Bool) :
    sizeOfTokens m.1 ≤ sizeOfTokens (apart ms trailing) := by
  induction ms with
  | nil => cases hm
  | cons m' ms ih =>
    obtain ⟨ts, joint⟩ := m'
    cases ms with
    | nil =>
      obtain rfl := List.mem_singleton.mp hm
      rw [apart, sizeOfTokens_append]
      exact Nat.le_add_right _ _
    | cons m'' ms =>
      rw [apart, sizeOfTokens_append, sizeOfTokens]
      rcases List.mem_cons.mp hm with rfl | hmore
      · exact Nat.le_add_right _ _
      · have hlater := ih hmore
        omega

/-- Valid arguments apart by commas are the arguments of a tag. -/
theorem readArguments_of_valid {ms : List (List Token × Bool)} {args : List Argument}
    (hvalid : List.Forall₂ (fun m a => readWith argumentRule m.1 = .ok a) ms args)
    (trailing : Bool) : readArguments (apart ms trailing) = .ok args := by
  have hfit : ∀ m ∈ ms, depthFor m.1 ≤ depthFor (apart ms trailing) := fun m hm =>
    Nat.add_le_add_right (Nat.mul_le_mul_left 4 (sizeOfTokens_le_apart hm trailing)) 16
  refine readArguments_apart ?_
  exact ((List.forall₂_and_left _ _).mpr ⟨hfit, hvalid⟩).imp fun m a ⟨hdepth, hread⟩ =>
    readsAs_of_readWith hread hdepth

/-! ## Tags that name the same type -/

/-- Arguments whose names are distinct give a member each. -/
theorem addMembers_of_distinct {members : List (String × MemberValue)} {args : List Argument}
    (hdistinct : (members.map (·.1) ++ args.map fun a => (Tag.memberOf a).1).Nodup) :
    Tag.addMembers members args = .ok (members ++ args.map Tag.memberOf) := by
  induction args generalizing members with
  | nil => simp [Tag.addMembers]
  | cons a args ih =>
    rcases hmember : Tag.memberOf a with ⟨name, value⟩
    rw [List.map_cons, hmember] at hdistinct
    have hnew : members.any (·.1 == name) = false := by
      rw [List.any_eq_false]
      intro m hm heq
      have hdisjoint := (List.nodup_append.mp hdistinct).2.2
      exact hdisjoint m.1 (List.mem_map_of_mem hm) name List.mem_cons_self (eq_of_beq heq)
    have hmore := @ih (members ++ [(name, value)]) (by simpa using hdistinct)
    simp only [Tag.addMembers, hmember, hnew]
    rw [List.map_cons, hmember]
    simpa using hmore

/-- A member that is given by name. Its tokens are a valid argument. -/
structure Setting where
  tokens : List Token
  name : List Token
  value : Phrase
  valid : readWith argumentRule tokens = .ok (.setting (.assigned name value))

/-- The argument that it is. -/
def Setting.argument (m : Setting) : Argument := .setting (.assigned m.name m.value)

/-- The text of the name. -/
def Setting.key (m : Setting) : String := compact m.name

/-- An argument list whose value is the text: a string literal that stands for it, with its name
or without, and further members before it and behind it. The flags tell of the signs that are
joined to what follows. -/
structure Marking (text : String) where
  before : List (Setting × Bool)
  literal : Spelling
  /-- The equals sign behind the name, if it has one. -/
  named : Option Bool
  joint : Bool
  behind : List (Setting × Bool)
  /-- A comma ends the list. -/
  trailing : Bool
  spells : literal.text = text
  distinct : ((before ++ behind).map fun m => m.1.key).Nodup
  further : Tag.positional ∉ (before ++ behind).map fun m => m.1.key

namespace Marking

variable {text : String}

/-- The tokens of the value. -/
def valueTokens (m : Marking text) : List Token :=
  match m.named with
  | none => [m.literal.token]
  | some joint => [.ident "value", .punct '=' joint, m.literal.token]

/-- The argument that gives the value. -/
def value (m : Marking text) : Argument :=
  match m.named with
  | none => .literal [m.literal.token]
  | some _ =>
    .setting (.assigned [.ident "value"]
      ⟨[m.literal.token], .literal (String.ofList m.literal.chars), false⟩)

/-- The argument list. -/
def tokens (m : Marking text) : List Token :=
  apart (m.before.map (fun s => (s.1.tokens, s.2)) ++ (m.valueTokens, m.joint) ::
    m.behind.map fun s => (s.1.tokens, s.2)) m.trailing

def arguments (m : Marking text) : List Argument :=
  m.before.map (·.1.argument) ++ m.value :: m.behind.map (·.1.argument)

theorem readWith_valueTokens (m : Marking text) :
    readWith argumentRule m.valueTokens = .ok m.value := by
  unfold valueTokens value
  cases m.named with
  | none => rfl
  | some joint => cases joint with
    | _ => rfl

theorem memberOf_value (m : Marking text) :
    Tag.memberOf m.value = (Tag.positional, .literal text) := by
  have hvalue : Tag.valueOf (some (String.ofList m.literal.chars)) [m.literal.token] =
      .literal text := by
    unfold Tag.valueOf
    rw [Option.bind_some, stringValue?_spelling, m.spells]
  unfold value
  cases m.named with
  | none => exact congrArg (Prod.mk Tag.positional) hvalue
  | some _ => exact congrArg (Prod.mk Tag.positional) hvalue

theorem forall₂_valid (settings : List (Setting × Bool)) :
    List.Forall₂ (fun m a => readWith argumentRule m.1 = .ok a)
      (settings.map fun s => (s.1.tokens, s.2))
      (settings.map (·.1.argument)) := by
  rw [List.forall₂_map_left_iff, List.forall₂_map_right_iff]
  exact List.forall₂_same.mpr fun s _ => s.1.valid

theorem readArguments_tokens (m : Marking text) : readArguments m.tokens = .ok m.arguments := by
  refine readArguments_of_valid ?_ m.trailing
  exact List.rel_append (forall₂_valid m.before)
    (.cons m.readWith_valueTokens (forall₂_valid m.behind))

theorem map_keys (settings : List (Setting × Bool)) :
    (settings.map (·.1.argument)).map (fun a => (Tag.memberOf a).1) =
      settings.map fun m => m.1.key := by
  rw [List.map_map]
  rfl

theorem addMembers_arguments (m : Marking text) :
    Tag.addMembers [] m.arguments = .ok (m.arguments.map Tag.memberOf) := by
  have hvalue : (Tag.memberOf m.value).1 = Tag.positional := by rw [m.memberOf_value]
  refine addMembers_of_distinct ?_
  rw [List.map_nil, List.nil_append, arguments, List.map_append, List.map_cons, map_keys, map_keys,
    hvalue, List.nodup_middle, List.nodup_cons, ← List.map_append]
  exact ⟨m.further, m.distinct⟩

/-- The tag that the argument list makes. -/
def tag (m : Marking text) (name : String) : Tag :=
  { name, members := m.arguments.map Tag.memberOf, tokens := m.tokens }

theorem read_tokens (m : Marking text) (name : String) :
    Tag.read name m.tokens = .ok (m.tag name) := by
  unfold Tag.read
  rw [m.readArguments_tokens]
  change (Tag.addMembers [] m.arguments >>= _) = _
  rw [m.addMembers_arguments]
  rfl

theorem member_tag (m : Marking text) (name : String) :
    (m.tag name).member Tag.positional = some (.literal text) := by
  have hmembers : (m.tag name).members = (m.before.map (·.1.argument)).map Tag.memberOf ++
      (Tag.positional, .literal text) :: (m.behind.map (·.1.argument)).map Tag.memberOf := by
    rw [← m.memberOf_value, ← List.map_cons, ← List.map_append]
    rfl
  refine List.lookup_eq_some_iff.mpr ⟨_, _, hmembers, fun member hmember => ?_⟩
  have hkey : member.1 ∈ m.before.map fun s => s.1.key := by
    obtain ⟨a, ha, rfl⟩ := List.mem_map.mp hmember
    rw [← map_keys]
    exact List.mem_map_of_mem ha
  refine bne_iff_ne.mpr fun heq => m.further ?_
  rw [List.map_append, heq]
  exact List.mem_append_left _ hkey

end Marking

/-- The expansion of a class shows nothing of its tag but the name and the type. -/
theorem expandClass_congr {t t' : Tag} (hmark : t.name = Config.standard.marker)
    (hmark' : t'.name = Config.standard.marker) {text : String}
    (htext : t.member Config.standard.valueMember = some (.literal text))
    (htext' : t'.member Config.standard.valueMember = some (.literal text)) (item : ClassItem) :
    expandClass t item = expandClass t' item := by
  cases item with
  | trait i =>
    exact (expandClass_of_refused hmark rfl).trans (expandClass_of_refused hmark' rfl).symm
  | struct s =>
    by_cases hempty : text = ""
    · subst hempty
      have hnone (t : Tag) (ht : t.member Config.standard.valueMember = some (.literal "")) :
          judge (h := host) Config.standard.valueMember t (Class.new (.struct s)) =
            .refused (ClassItem.struct s).name .missingType := by
        have hnames : NamesNoType (h := host) t Config.standard.valueMember := Or.inr (Or.inr ht)
        simp only [judge, declaredType?_of_namesNoType hnames]
        rfl
      exact (expandClass_of_refused hmark (hnone t htext)).trans
        (expandClass_of_refused hmark' (hnone t' htext')).symm
    · have hexpand := @expandClass_of_accepts t hmark s ⟨text, hempty⟩ htext
      have hexpand' := @expandClass_of_accepts t' hmark' s ⟨text, hempty⟩ htext'
      exact hexpand.trans hexpand'.symm

/-- However an argument list spells its value, and whatever further members it has: an item is
expanded to the same tokens. -/
theorem an_expansion_shows_no_spelling {text : String} (m m' : Marking text) (item : List Token) :
    expand m.tokens item = expand m'.tokens item := by
  have hsame := @expandClass_congr (m.tag Config.standard.marker) (m'.tag Config.standard.marker)
    rfl rfl text (m.member_tag _) (m'.member_tag _)
  unfold expand
  rw [m.read_tokens, m'.read_tokens]
  dsimp only
  cases readItem item with
  | error e => rfl
  | ok read =>
    cases read with
    | struct s => exact hsame (.struct s)
    | trait t => exact hsame (.trait t)
    | other kind printed =>
      exact (expandDeclaration_eq _ kind printed).trans (expandDeclaration_eq _ kind printed).symm

/-! ## Two spellings of one type -/

/-- The argument list `"Service"`. -/
def plainService : Marking "Service" where
  before := []
  literal := .written "Service"
  named := none
  joint := false
  behind := []
  trailing := false
  spells := by simp [Spelling.written, Spelling.text, meaningOf_writtenParts]
  distinct := by decide
  further := by decide

/-- The argument list `level = -3, value = r#"Service"#,`. -/
def levelledService : Marking "Service" where
  before := [({
    tokens := [.ident "level", .punct '=' false, .punct '-' false, .literal "3"]
    name := [.ident "level"]
    value := ⟨[.punct '-' false, .literal "3"], .other, false⟩
    valid := rfl }, false)]
  literal := .raw {
    hashes := 1
    content := "Service".toList
    few := by decide
    noBareReturn := by decide
    open_ before after hcontent := by
      have hquote : '"' ∉ "Service".toList := by decide
      rw [hcontent] at hquote
      simp at hquote }
  named := some false
  joint := false
  behind := []
  trailing := true
  spells := rfl
  distinct := by decide
  further := by decide

set_option maxRecDepth 4000 in
theorem tokens_plainService : plainService.tokens = [.literal "\"Service\""] := by
  have hliteral : MarkerInjection.Text.literal "Service" = "\"Service\"" := by rfl
  have htoken : (Spelling.written "Service").token = .literal "\"Service\"" := by
    rw [Spelling.token, chars_spelling_written, hliteral]
  exact congrArg (fun t => [t]) htoken

theorem a_levelled_service_expands_like_a_plain_one :
    expand [.literal "\"Service\""] [.ident "struct", .ident "Book", .punct ';' false] =
      expand [.ident "level", .punct '=' false, .punct '-' false, .literal "3", .punct ',' false,
        .ident "value", .punct '=' false, .literal "r#\"Service\"#", .punct ',' false]
        [.ident "struct", .ident "Book", .punct ';' false] := by
  rw [← tokens_plainService]
  exact an_expansion_shows_no_spelling plainService levelledService _

end MarkerInjection.Source
