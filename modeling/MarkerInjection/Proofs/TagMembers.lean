-- The members of a tag: which argument lists make one, what its members are called and
-- what they are worth. Only a string literal that stands alone gives its text.
import MarkerInjection.Proofs.LiteralValues
import Mathlib.Data.List.Induction

namespace MarkerInjection.Source

/-! ## Arguments -/

/-- The name that an argument goes by: its own, or the one that needs none. -/
def Argument.name : Argument → String
  | .setting (.assigned name _) => compact name
  | _ => Tag.positional

/-- What an argument says: the value behind its name, or all of it. -/
def Argument.content : Argument → List Token
  | .literal tokens => tokens
  | .setting (.assigned _ value) => value.tokens
  | .setting m => m.print

/-- The argument is a string literal of this text, or has one for its value. -/
inductive Argument.Spells : Argument → String → Prop
  | alone {literal text : String} (htext : stringValue? literal = some text) :
    Spells (.literal [.literal literal]) text
  | assigned {name : List Token} {value : Phrase} {literal text : String}
    (htokens : value.tokens = [.literal literal]) (htext : stringValue? literal = some text) :
    Spells (.setting (.assigned name value)) text

/-- A value that is read as a literal is one. -/
def Argument.WellRead : Argument → Prop
  | .setting (.assigned _ value) => LiteralOrCompound value
  | _ => True

theorem wellRead_metaRule (n : Nat) :
    Gives (fun m => (Argument.setting m).WellRead) (metaRule (grammar n)) := by
  refine gives_bind fun path => gives_bind fun ts => gives_ite ?_ (gives_ite ?_ ?_)
  · exact gives_bind fun ⟨d, inner⟩ => gives_pure trivial
  · refine gives_bind fun eq => gives_then (gives_metaValue n) fun value hvalue => ?_
    exact gives_pure hvalue
  · exact gives_pure trivial

theorem wellRead_argumentRule (n : Nat) : Gives Argument.WellRead (argumentRule (grammar n)) := by
  refine gives_bind fun ts => gives_ite ?_ (gives_ite ?_ (gives_forbid _))
  · exact gives_bind fun tokens => gives_pure trivial
  · exact gives_then (wellRead_metaRule n) fun m hm => gives_pure hm

theorem wellRead_of_readArguments {tokens : List Token} {args : List Argument}
    (h : readArguments tokens = .ok args) : ∀ a ∈ args, a.WellRead := by
  unfold readArguments at h
  cases hlist : readWith (fun g => punctuated List.isEmpty "," (argumentRule g)) tokens with
  | error e =>
    rw [hlist] at h
    cases h
  | ok list =>
    rw [hlist] at h
    cases h
    exact (gives_punctuated (wellRead_argumentRule _) _ _).gives (run_of_readAll hlist)

theorem memberOf_name (a : Argument) : (Tag.memberOf a).1 = a.name := by
  rcases a with tokens | (tokens | tokens | ⟨name, value⟩)
  all_goals rfl

theorem valueOf_literal {literal text : String} (htext : stringValue? literal = some text)
    (tokens : List Token) : Tag.valueOf (some literal) tokens = .literal text := by
  simp [Tag.valueOf, htext]

/-- A string literal gives its text. -/
theorem memberOf_spells {a : Argument} (hread : a.WellRead) {text : String}
    (h : a.Spells text) : (Tag.memberOf a).2 = .literal text := by
  cases h with
  | alone htext => exact valueOf_literal htext _
  | assigned htokens htext =>
    rename_i name value literal
    rcases hread with ⟨literal', hshape, htokens'⟩ | hcompound
    · rw [htokens] at htokens'
      cases htokens'
      simp only [Tag.memberOf, hshape]
      exact valueOf_literal htext _
    · exact absurd htokens (hcompound.tokens _)

theorem valueOf_of_no_string {literal : Option String}
    (hnone : ∀ text, literal = some text → stringValue? text = none) (tokens : List Token) :
    Tag.valueOf literal tokens = .expression (compact tokens) := by
  cases literal with
  | none => rfl
  | some text => simp [Tag.valueOf, hnone text rfl]

/-- Any other argument stays an expression. -/
theorem memberOf_of_not_spells {a : Argument} (hread : a.WellRead)
    (h : ∀ text, ¬a.Spells text) : (Tag.memberOf a).2 = .expression (compact a.content) := by
  rcases a with tokens | (tokens | tokens | ⟨name, value⟩)
  · refine valueOf_of_no_string (fun literal hliteral => ?_) tokens
    obtain rfl : tokens = [.literal literal] := by
      unfold Tag.literalText at hliteral
      split at hliteral
      · cases hliteral
        rfl
      · cases hliteral
    exact Option.eq_none_iff_forall_ne_some.mpr fun text htext => h text (.alone htext)
  · rfl
  · rfl
  · refine valueOf_of_no_string (fun literal hliteral => ?_) value.tokens
    rcases hread with ⟨literal', hshape, htokens⟩ | hcompound
    · rw [hshape] at hliteral
      cases hliteral
      exact Option.eq_none_iff_forall_ne_some.mpr fun text htext => h text (.assigned htokens htext)
    · split at hliteral
      · exact absurd ‹_› (hcompound.shape _)
      · cases hliteral

/-! ## Repeated names -/

/-- The argument is the first in the list whose name was given before. -/
def FirstRepetition (args : List Argument) (a : Argument) : Prop :=
  ∃ earlier later, args = earlier ++ a :: later ∧ (earlier.map Argument.name).Nodup ∧
    a.name ∈ earlier.map Argument.name

theorem nodup_or_repeats (args : List Argument) :
    (args.map Argument.name).Nodup ∨ ∃ a, FirstRepetition args a := by
  induction args using List.reverseRecOn with
  | nil => exact Or.inl List.nodup_nil
  | append_singleton earlier a ih =>
    rcases ih with hnodup | ⟨b, before, later, rfl, hnodup, hb⟩
    · by_cases ha : a.name ∈ earlier.map Argument.name
      · exact Or.inr ⟨a, earlier, [], rfl, hnodup, ha⟩
      · left
        rw [List.map_append, List.map_singleton, List.nodup_append_comm]
        exact List.nodup_cons.mpr ⟨ha, hnodup⟩
    · exact Or.inr ⟨b, before, later ++ [a], by simp, hnodup, hb⟩

theorem addMembers_append (members : List (String × MemberValue)) (earlier later : List Argument) :
    Tag.addMembers members (earlier ++ later) =
      Tag.addMembers members earlier >>= fun found => Tag.addMembers found later := by
  induction earlier generalizing members with
  | nil => rfl
  | cons a earlier ih =>
    simp only [List.cons_append, Tag.addMembers]
    split
    · rfl
    · exact ih _

theorem addMembers_of_repetition {args : List Argument} {a : Argument}
    (h : FirstRepetition args a) :
    Tag.addMembers [] args = .error (.duplicateMember a.name) := by
  obtain ⟨earlier, later, rfl, hnodup, ha⟩ := h
  have hnames : earlier.map (fun a => (Tag.memberOf a).1) = earlier.map Argument.name :=
    List.map_congr_left fun a _ => memberOf_name a
  have hearlier : Tag.addMembers [] earlier = .ok (earlier.map Tag.memberOf) :=
    addMembers_of_distinct (by simpa [hnames] using hnodup)
  have hgiven : (earlier.map Tag.memberOf).any (·.1 == a.name) = true := by
    obtain ⟨b, hb, hname⟩ := List.mem_map.mp ha
    refine List.any_eq_true.mpr ⟨Tag.memberOf b, List.mem_map_of_mem hb, ?_⟩
    rw [memberOf_name, hname, beq_self_eq_true]
  rw [addMembers_append, hearlier]
  change Tag.addMembers (earlier.map Tag.memberOf) (a :: later) = _
  simp only [Tag.addMembers, memberOf_name, hgiven, if_true]

/-! ## What a tag keeps -/

/-- The tag has a member for each of the arguments and no other: the text of a string literal, and
else what the argument says as it is. -/
structure Tag.Keeps (tag : Tag) (args : List Argument) : Prop where
  missing : ∀ s, tag.member s = none ↔ ∀ a ∈ args, a.name ≠ s
  text : ∀ a ∈ args, ∀ text, tag.member a.name = some (.literal text) ↔ a.Spells text
  expression : ∀ a ∈ args, (∀ text, ¬a.Spells text) →
    tag.member a.name = some (.expression (compact a.content))

theorem lookup_of_mem {members : List (String × MemberValue)} {m : String × MemberValue}
    (hnodup : (members.map (·.1)).Nodup) (hm : m ∈ members) : members.lookup m.1 = some m.2 := by
  obtain ⟨before, behind, rfl⟩ := List.append_of_mem hm
  refine List.lookup_eq_some_iff.mpr ⟨before, behind, rfl, fun m' hm' => ?_⟩
  rw [List.map_append, List.nodup_append] at hnodup
  simpa using (hnodup.2.2 m'.1 (List.mem_map_of_mem hm') m.1 (by simp)).symm

theorem keeps_of_nodup {tag : Tag} {args : List Argument}
    (hmembers : tag.members = args.map Tag.memberOf)
    (hnodup : (args.map Argument.name).Nodup) (hread : ∀ a ∈ args, a.WellRead) :
    tag.Keeps args := by
  have hmember : ∀ a ∈ args, tag.member a.name = some (Tag.memberOf a).2 := by
    intro a ha
    unfold Tag.member
    rw [hmembers, ← memberOf_name]
    refine lookup_of_mem ?_ (List.mem_map_of_mem ha)
    rw [List.map_map]
    exact (List.map_congr_left fun a _ => memberOf_name a) ▸ hnodup
  refine ⟨fun s => ?_, fun a ha text => ?_, fun a ha hother => ?_⟩
  · unfold Tag.member
    rw [hmembers, List.lookup_eq_none_iff, List.forall_mem_map]
    refine forall₂_congr fun a _ => ?_
    rw [memberOf_name, bne_iff_ne, ne_comm]
  · rw [hmember a ha]
    constructor
    · intro htext
      by_cases hsome : ∃ text', a.Spells text'
      · obtain ⟨text', htext'⟩ := hsome
        rw [memberOf_spells (hread a ha) htext'] at htext
        cases htext
        exact htext'
      · rw [memberOf_of_not_spells (hread a ha) (not_exists.mp hsome)] at htext
        cases htext
    · intro h
      rw [memberOf_spells (hread a ha) h]
  · rw [hmember a ha, memberOf_of_not_spells (hread a ha) hother]

/-- A tag is made of every argument list without a repeated name, and keeps all that is in it. Else
the first repetition is refused, but only where all of the arguments can be read. -/
theorem a_tag_keeps_every_member (name : String) (tokens : List Token) :
    (∀ e, readArguments tokens = .error e → Tag.read name tokens = .error e) ∧
    ∀ args, readArguments tokens = .ok args →
      ((∃ tag, Tag.read name tokens = .ok tag) ↔ (args.map Argument.name).Nodup) ∧
      (∀ tag, Tag.read name tokens = .ok tag → tag.Keeps args) ∧
      (¬(args.map Argument.name).Nodup → ∃ a e, FirstRepetition args a ∧
        Tag.read name tokens = .error e ∧
        e.message = "duplicate " ++ quoted a.name ++ " member") := by
  refine ⟨fun e he => ?_, fun args hargs => ?_⟩
  · rw [Tag.read, he]
    rfl
  have hnames : args.map (fun a => (Tag.memberOf a).1) = args.map Argument.name :=
    List.map_congr_left fun a _ => memberOf_name a
  have hread : Tag.read name tokens =
      (Tag.addMembers [] args >>= fun members => .ok ⟨name, members, tokens⟩) := by
    rw [Tag.read, hargs]
    rfl
  rcases nodup_or_repeats args with hnodup | ⟨a, ha⟩
  · have hmembers : Tag.addMembers [] args = .ok (args.map Tag.memberOf) :=
      addMembers_of_distinct (by simpa [hnames] using hnodup)
    rw [hmembers] at hread
    refine ⟨⟨fun _ => hnodup, fun _ => ⟨_, hread⟩⟩, ?_, fun hrepeats => absurd hnodup hrepeats⟩
    intro tag htag
    rw [hread] at htag
    cases htag
    exact keeps_of_nodup rfl hnodup (wellRead_of_readArguments hargs)
  · have hrefused : Tag.read name tokens = .error (.duplicateMember a.name) := by
      rw [hread, addMembers_of_repetition ha]
      rfl
    have hrepeats : ¬(args.map Argument.name).Nodup := by
      obtain ⟨earlier, later, rfl, -, hgiven⟩ := ha
      rw [List.map_append, List.map_cons, List.nodup_append]
      exact fun h => h.2.2 a.name hgiven a.name List.mem_cons_self rfl
    refine ⟨⟨?_, fun hnodup => absurd hnodup hrepeats⟩, ?_, fun _ => ⟨a, _, ha, hrefused, rfl⟩⟩
    · rintro ⟨tag, htag⟩
      rw [hrefused] at htag
      cases htag
    · intro tag htag
      rw [hrefused] at htag
      cases htag

/-- The arguments `"Service", level = -3, kind = "plain"`. -/
def levelledArguments : List Token :=
  [.literal "\"Service\"", .punct ',' false, .ident "level", .punct '=' false, .punct '-' false,
    .literal "3", .punct ',' false, .ident "kind", .punct '=' false, .literal "\"plain\""]

def levelledList : List Argument :=
  [.literal [.literal "\"Service\""],
    .setting (.assigned [.ident "level"] ⟨[.punct '-' false, .literal "3"], .other, false⟩),
    .setting (.assigned [.ident "kind"]
      ⟨[.literal "\"plain\""], .literal "\"plain\"", false⟩)]

theorem read_levelledArguments : readArguments levelledArguments = .ok levelledList := by rfl

theorem names_levelledList : levelledList.map Argument.name = ["value", "level", "kind"] := by rfl

theorem a_level_is_no_text : ∃ tag, Tag.read "inject" levelledArguments = .ok tag ∧
    tag.member "value" = some (.literal "Service") ∧
    tag.member "level" = some (.expression "- 3") ∧
    tag.member "kind" = some (.literal "plain") ∧ tag.member "name" = none := by
  obtain ⟨haccepted, hkeeps, -⟩ :=
    (a_tag_keeps_every_member "inject" levelledArguments).2 _ read_levelledArguments
  obtain ⟨tag, htag⟩ := haccepted.mpr (by rw [names_levelledList]; decide)
  obtain ⟨hmissing, htext, hexpression⟩ := hkeeps tag htag
  have hvalue := htext _ (.head _) "Service"
  have hlevel := hexpression _ (.tail _ (.head _)) fun text h => by
    cases h with
    | assigned htokens => cases htokens
  have hkind := htext _ (.tail _ (.tail _ (.head _))) "plain"
  refine ⟨tag, htag, hvalue.mpr (.alone rfl), hlevel, hkind.mpr (.assigned rfl rfl), ?_⟩
  refine (hmissing "name").mpr fun a ha hname => ?_
  have hgiven : "name" ∈ levelledList.map Argument.name := List.mem_map.mpr ⟨a, ha, hname⟩
  rw [names_levelledList] at hgiven
  exact absurd hgiven (by decide)

end MarkerInjection.Source
