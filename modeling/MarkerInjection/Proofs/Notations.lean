-- Three notations of a configuration: keys in a store, members of a JSON object and
-- elements of a JSON list. What they give alike comes to one configuration, or to
-- one failure.
import Mathlib.Data.List.Forall2
import MarkerInjection.Proofs.Documents
import MarkerInjection.Proofs.JsonWriting
import MarkerInjection.Proofs.StoredSettings

namespace MarkerInjection

open Json

/-! ## Notations -/

namespace Given

/-- The value says what is given for the setting. -/
def SaidBy (g : Given) (s : Setting) (v : Written) : Prop :=
  ∃ x, g.get? s = some x ∧ v.as? s = some x

/-- The members say what is given, each setting by its name, in any order. -/
def Members (g : Given) (ms : List (Member Written)) : Prop :=
  ∃ order : List Setting, order.Perm g.settings ∧
    List.Forall₂ (fun s m => m.key.value.text? = some s.name ∧ g.SaidBy s m.value.value) order ms

/-- The elements say what is given, in the order of the settings. -/
def Elements (g : Given) (es : List (Spaced Written)) : Prop :=
  List.Forall₂ (fun s e => g.SaidBy s e.value) g.settings es

end Given

/-! ## Members and elements -/

theorem setting?_eq_some {m : Member Written} {s : Setting} :
    m.setting? = some s ↔ m.key.value.text? = some s.name := by
  simp [Member.setting?, Option.bind_eq_some_iff, Setting.ofName?_eq_some]

section Said

variable {g h : Given} {order : List Setting}

theorem givenByName_cons {m : Member Written} {ms : List (Member Written)} {k : Given} :
    givenByName (m :: ms) h = some k ↔ ∃ s, m.key.value.text? = some s.name ∧ h.has s = false ∧
      ∃ x, m.value.value.as? s = some x ∧ givenByName ms (h.put s x) = some k := by
  simp only [givenByName, Option.bind_eq_some_iff, setting?_eq_some]
  refine exists_congr fun s => and_congr_right fun _ => ?_
  cases h.has s with
  | true => simp
  | false => simp [Option.bind_eq_some_iff]

theorem givenByName_of_said {ms : List (Member Written)}
    (hsaid : List.Forall₂ (fun s m => m.key.value.text? = some s.name ∧ g.SaidBy s m.value.value)
      order ms)
    (hnodup : order.Nodup) (hnew : ∀ s ∈ order, h.has s = false) :
    ∃ k, givenByName ms h = some k ∧ g.Filled h order k := by
  induction hsaid generalizing h with
  | nil => exact ⟨h, rfl, Given.filled_nil g h⟩
  | @cons s m order ms hm _ ih =>
    obtain ⟨hname, x, hgiven, hsays⟩ := hm
    obtain ⟨hs, hnodup⟩ := List.nodup_cons.mp hnodup
    have hput : ∀ s' ∈ order, (h.put s x).has s' = false := by
      intro s' hs'
      have hne : s' ≠ s := fun heq => hs (heq ▸ hs')
      rw [Given.has_eq, Given.get?_put_of_ne h x hne, ← Given.has_eq]
      exact hnew s' (List.mem_cons_of_mem s hs')
    obtain ⟨k, hk, hfilled⟩ := ih hnodup hput
    refine ⟨k, ?_, Given.filled_cons hs hgiven hfilled⟩
    exact givenByName_cons.mpr ⟨s, hname, hnew s (by simp), x, hsays, hk⟩

theorem givenInOrder_of_said {ss : List Setting} {es : List (Spaced Written)}
    (hsaid : List.Forall₂ (fun s e => g.SaidBy s e.value) order es)
    (hnodup : order.Nodup) (hfirst : order <+: ss) :
    ∃ k, givenInOrder es ss h = some k ∧ g.Filled h order k := by
  induction hsaid generalizing h ss with
  | nil => exact ⟨h, by simp [givenInOrder], Given.filled_nil g h⟩
  | @cons s e order es he _ ih =>
    obtain ⟨x, hgiven, hsays⟩ := he
    obtain ⟨hs, hnodup⟩ := List.nodup_cons.mp hnodup
    obtain ⟨more, rfl⟩ := hfirst
    obtain ⟨k, hk, hfilled⟩ := ih hnodup (List.prefix_append order more)
    refine ⟨k, ?_, Given.filled_cons hs hgiven hfilled⟩
    simp [givenInOrder, hsays, hk]

end Said

/-! ## Refused members and elements -/

/-- Members that give something are each for a setting that was not given before. -/
theorem settings_of_givenByName {ms : List (Member Written)} {g k : Given}
    (hk : givenByName ms g = some k) :
    (∀ m ∈ ms, ∃ s : Setting, m.key.value.text? = some s.name ∧ g.has s = false) ∧
      (ms.map fun m => m.key.value.text?).Nodup := by
  induction ms generalizing g with
  | nil => exact ⟨by simp, List.nodup_nil⟩
  | cons m ms ih =>
    obtain ⟨s, hname, hnew, x, hx, hk⟩ := givenByName_cons.mp hk
    obtain ⟨hmore, hnodup⟩ := ih hk
    have hother : ∀ m' ∈ ms, ∃ s' : Setting, m'.key.value.text? = some s'.name ∧ s' ≠ s ∧
        g.has s' = false := by
      intro m' hm'
      obtain ⟨s', hname', hnew'⟩ := hmore m' hm'
      rw [Given.has_eq] at hnew'
      have hne : s' ≠ s := by
        rintro rfl
        rw [Given.get?_put_self] at hnew'
        contradiction
      rw [Given.get?_put_of_ne g x hne, ← Given.has_eq] at hnew'
      exact ⟨s', hname', hne, hnew'⟩
    constructor
    · intro m' hm'
      rcases List.mem_cons.mp hm' with rfl | hm'
      · exact ⟨s, hname, hnew⟩
      · obtain ⟨s', hname', -, hnew'⟩ := hother m' hm'
        exact ⟨s', hname', hnew'⟩
    · refine List.nodup_cons.mpr ⟨fun hmem => ?_, hnodup⟩
      obtain ⟨m', hm', hsame⟩ := List.mem_map.mp hmem
      obtain ⟨s', hname', hne, -⟩ := hother m' hm'
      have hnames : s'.name = s.name := Option.some.inj (hname'.symm.trans (hsame.trans hname))
      have hs : Setting.ofName? s'.name = some s := by rw [hnames, Setting.ofName?_name]
      exact hne (Option.some.inj ((Setting.ofName?_name s').symm.trans hs))

theorem givenInOrder_of_longer {es : List (Spaced Written)} {ss : List Setting} (g : Given)
    (hlong : ss.length < es.length) : givenInOrder es ss g = none := by
  induction es generalizing ss g with
  | nil => exact absurd hlong (Nat.not_lt_zero _)
  | cons e es ih =>
    cases ss with
    | nil => rfl
    | cons s ss =>
      have hrest (g' : Given) : givenInOrder es ss g' = none :=
        ih g' (Nat.lt_of_succ_lt_succ hlong)
      simp [givenInOrder, hrest]

/-! ## Documents -/

section Said

variable {g : Given} {doc : Spaced Written}

theorem ofJson_of_members {inner : List Blank} {ms : List (Member Written)}
    (hdoc : doc.value = .object inner ms) (hms : g.Members ms) :
    Config.ofJson doc.text = g.config.checked := by
  obtain ⟨order, horder, hsaid⟩ := hms
  have hnodup : order.Nodup := horder.nodup_iff.mpr g.nodup_settings
  have hnew : ∀ s ∈ order, ({} : Given).has s = false := fun s _ => by cases s <;> rfl
  obtain ⟨k, hk, hfilled⟩ := givenByName_of_said hsaid hnodup hnew
  obtain rfl := Given.eq_of_filled horder hfilled
  exact ofJson_of_given (by rw [hdoc]; exact hk)

theorem ofJson_of_elements {inner : List Blank} {es : List (Spaced Written)}
    (hdoc : doc.value = .list inner es) (hfirst : g.settings <+: Setting.all)
    (hes : g.Elements es) : Config.ofJson doc.text = g.config.checked := by
  obtain ⟨k, hk, hfilled⟩ := givenInOrder_of_said hes g.nodup_settings hfirst
  obtain rfl := Given.eq_of_filled (List.Perm.refl _) hfilled
  exact ofJson_of_given (by rw [hdoc]; exact hk)

/-- A key that is no setting's, or one that two members have. -/
theorem given?_of_wrong_key {inner : List Blank} {ms : List (Member Written)}
    (hms : (∃ m ∈ ms, ∀ s : Setting, m.key.value.text? ≠ some s.name) ∨
      ∃ s : Setting, 2 ≤ (ms.map fun m => m.key.value.text?).count (some s.name)) :
    (Written.object inner ms).given? = none := by
  cases hk : (Written.object inner ms).given? with
  | none => rfl
  | some k =>
    obtain ⟨hknown, hnodup⟩ := settings_of_givenByName hk
    rcases hms with ⟨m, hm, hforeign⟩ | ⟨s, htwice⟩
    · obtain ⟨s, hs, -⟩ := hknown m hm
      exact absurd hs (hforeign s)
    · have honce := List.nodup_iff_count.mp hnodup (some s.name)
      omega

end Said

/-! ## Writing what is given -/

section Writing

variable {g : Given}

theorem exists_saidBy (hthreads : ∀ n, g.threads = some n → n < threadLimit) {s : Setting}
    (hs : s ∈ g.settings) : ∃ v, g.SaidBy s v := by
  have hhas : g.has s = true := (List.mem_filter.mp hs).2
  rw [Given.has_eq] at hhas
  obtain ⟨x, hx⟩ := Option.isSome_iff_exists.mp hhas
  cases s with
  | marker => exact ⟨.string (.of x), x, hx, text?_of x⟩
  | valueMember => exact ⟨.string (.of x), x, hx, text?_of x⟩
  | failureScope =>
    have hname : FailureScope.named? (FailureScope.text x) = some x := by
      cases (x : FailureScope) <;> rfl
    refine ⟨.string (.of (FailureScope.text x)), x, hx, ?_⟩
    change (Pieces.of _).text?.bind _ = _
    rw [text?_of, Option.bind_some, hname]
  | threads => exact ⟨.number (.of x), x, hx, natural?_of (hthreads x hx)⟩

theorem exists_forall₂ {α β : Type} {P : α → β → Prop} {l : List α}
    (hl : ∀ a ∈ l, ∃ b, P a b) : ∃ bs, List.Forall₂ P l bs := by
  induction l with
  | nil => exact ⟨[], .nil⟩
  | cons a l ih =>
    obtain ⟨b, hb⟩ := hl a (by simp)
    obtain ⟨bs, hbs⟩ := ih fun a' ha' => hl a' (List.mem_cons_of_mem a ha')
    exact ⟨b :: bs, .cons hb hbs⟩

theorem exists_members (hthreads : ∀ n, g.threads = some n → n < threadLimit) :
    ∃ ms, g.Members ms := by
  have hmember : ∀ s ∈ g.settings, ∃ m : Member Written,
      m.key.value.text? = some s.name ∧ g.SaidBy s m.value.value := by
    intro s hs
    obtain ⟨v, hv⟩ := exists_saidBy hthreads hs
    exact ⟨⟨⟨[], .of s.name, []⟩, ⟨[], v, []⟩⟩, text?_of s.name, hv⟩
  obtain ⟨ms, hms⟩ := exists_forall₂ hmember
  exact ⟨ms, g.settings, List.Perm.refl _, hms⟩

theorem exists_elements (hthreads : ∀ n, g.threads = some n → n < threadLimit) :
    ∃ es, g.Elements es :=
  exists_forall₂ fun s hs => by
    obtain ⟨v, hv⟩ := exists_saidBy hthreads hs
    exact ⟨⟨[], v, []⟩, hv⟩

end Writing

/-! ## The law -/

/-- Whatever is given, it can be written in each notation, and however it is written, the same
configuration or the same failure comes of it. No configuration that comes of a notation lacks a
name or a thread. A document with a key twice, with a foreign key or with a fifth element is
refused. -/
theorem the_notations_agree :
    (∀ g : Given, (∀ n, g.threads = some n → n < threadLimit) →
      ((∃ store : ConfigStore, store.Holds g) ∧
        ∀ store : ConfigStore, store.Holds g → Config.ofStore store = g.config.checked) ∧
      ((∃ ms, g.Members ms) ∧
        ∀ (doc : Spaced Written) inner ms, doc.value = .object inner ms → g.Members ms →
          Config.ofJson doc.text = g.config.checked) ∧
      (g.settings <+: Setting.all → (∃ es, g.Elements es) ∧
        ∀ (doc : Spaced Written) inner es, doc.value = .list inner es → g.Elements es →
          Config.ofJson doc.text = g.config.checked)) ∧
    (∀ c : Config, (∃ store, Config.ofStore store = .ok c) ∨ (∃ text, Config.ofJson text = .ok c) →
      c.Fit) ∧
    (∀ (doc : Spaced Written) inner ms, doc.value = .object inner ms →
      ((∃ m ∈ ms, ∀ s : Setting, m.key.value.text? ≠ some s.name) ∨
        ∃ s : Setting, 2 ≤ (ms.map fun m => m.key.value.text?).count (some s.name)) →
      ∃ text, Config.ofJson doc.text = .error (.configuration text)) ∧
    ∀ (doc : Spaced Written) inner es, doc.value = .list inner es → 4 < es.length →
      ∃ text, Config.ofJson doc.text = .error (.configuration text) := by
  refine ⟨fun g hthreads => ⟨⟨exists_holds g, ?_⟩, ⟨exists_members hthreads, ?_⟩, ?_⟩, ?_, ?_, ?_⟩
  · intro store hstore
    exact ofStore_of_holds hthreads hstore
  · intro doc inner ms hdoc hms
    exact ofJson_of_members hdoc hms
  · intro hfirst
    refine ⟨exists_elements hthreads, fun doc inner es hdoc hes => ?_⟩
    exact ofJson_of_elements hdoc hfirst hes
  · rintro c (⟨store, hc⟩ | ⟨text, hc⟩)
    · exact fit_of_ofStore hc
    · exact fit_of_ofJson hc
  · intro doc inner ms hdoc hms
    exact ofJson_of_none (by rw [hdoc]; exact given?_of_wrong_key hms)
  · intro doc inner es hdoc hlong
    exact ofJson_of_none (by rw [hdoc]; exact givenInOrder_of_longer {} hlong)

namespace WholeBuild

/-- A configuration with everything given. -/
def given : Given := ⟨some "R😀", some "kind", some .wholeBuild, some 2⟩

def store : ConfigStore := .ofPairs [("ARTEFACTOR_MARKER", "Role"), ("ARTEFACTOR_THREADS", "2"),
  ("ARTEFACTOR_FAILURE_SCOPE", "build"), ("ARTEFACTOR_VALUE_MEMBER", "kind"),
  ("ARTEFACTOR_MARKER", "R😀")]

def hex (n : Nat) (capital : Bool) (hn : n < 16 := by decide) : HexDigit := ⟨⟨n, hn⟩, capital⟩

/-- A character beyond 16 bits as two halves. -/
def smile : Pieces :=
  [.code ⟨hex 0xD false, hex 8 false, hex 3 false, hex 0xD true⟩,
    .code ⟨hex 0xD true, hex 0xE true, hex 0 false, hex 0 false⟩]

def member (key : Pieces) (value : Written) : Member Written :=
  ⟨⟨[], key, []⟩, ⟨[.space], value, []⟩⟩

theorem first_ne_zero_of_single (d : Fin 10) (hmore : (⟨d, []⟩ : Digits).more ≠ []) :
    (⟨d, []⟩ : Digits).first ≠ 0 :=
  absurd rfl hmore

/-- A number of one digit. -/
def digit (d : Fin 10) : Written :=
  .number ⟨false, ⟨d, []⟩, first_ne_zero_of_single d, none, none⟩

def two : Written := digit ⟨2, by decide⟩

/-- The members, in another order than that of the settings. -/
def members : List (Member Written) :=
  [member (.of "threads") two,
    member (.of "failure_scope") (.object [] [member (.of "build") .null]),
    member (Pieces.of "value" ++ .code (.ofByte 0x5F) :: Pieces.of "member") (.string (.of "kind")),
    member (.of "marker") (.string (Pieces.of "R" ++ smile))]

def elements : List (Spaced Written) :=
  [⟨[], .string (.of "R😀"), []⟩, ⟨[.newline], .string (.of "kind"), [.tab]⟩,
    ⟨[], .string (.of "build"), []⟩, ⟨[], two, []⟩]

/-- An object with these members. -/
def object (ms : List (Member Written)) : Spaced Written := ⟨[], .object [] ms, []⟩

/-- A list with these elements. -/
def list (es : List (Spaced Written)) : Spaced Written := ⟨[.space], .list [] es, []⟩

theorem holds_store : store.Holds given := by
  intro s
  cases s <;> decide

theorem members_given : given.Members members := by
  refine ⟨[.threads, .failureScope, .valueMember, .marker], by decide, ?_⟩
  exact .cons ⟨by decide, (2 : Nat), rfl, by decide⟩ (.cons ⟨by decide, .wholeBuild, rfl, by decide⟩
    (.cons ⟨by decide, "kind", rfl, by decide⟩ (.cons ⟨by decide, "R😀", rfl, by decide⟩ .nil)))

theorem elements_given : given.Elements elements :=
  .cons ⟨"R😀", rfl, by decide⟩ (.cons ⟨"kind", rfl, by decide⟩
    (.cons ⟨.wholeBuild, rfl, by decide⟩ (.cons ⟨(2 : Nat), rfl, by decide⟩ .nil)))

end WholeBuild

/-- Three notations of one configuration. A second marker, a foreign key and a fifth element are
refused. -/
theorem a_whole_build_in_three_notations :
    let c : Config := ⟨"R😀", "kind", .wholeBuild, .exactly 2⟩
    let foreign : Member Written := WholeBuild.member (.of "scope") .null
    (Config.ofStore WholeBuild.store = .ok c ∧
      Config.ofJson (WholeBuild.object WholeBuild.members).text = .ok c ∧
      Config.ofJson (WholeBuild.list WholeBuild.elements).text = .ok c ∧ c.Fit) ∧
    ∀ doc ∈ [WholeBuild.object (WholeBuild.members ++ WholeBuild.members),
        WholeBuild.object [foreign], WholeBuild.list (WholeBuild.elements ++ WholeBuild.elements)],
      ∃ text, Config.ofJson doc.text = .error (.configuration text) := by
  intro c foreign
  have hthreads : ∀ n, WholeBuild.given.threads = some n → n < threadLimit := by
    intro n hn
    obtain rfl : 2 = n := Option.some.inj hn
    decide
  obtain ⟨hagree, hfit, hobject, hlist⟩ := the_notations_agree
  obtain ⟨⟨-, hstore⟩, ⟨-, hmembers⟩, helements⟩ := hagree WholeBuild.given hthreads
  have hok : WholeBuild.given.config.checked = .ok c := rfl
  have hstored := hstore WholeBuild.store WholeBuild.holds_store
  refine ⟨⟨hstored.trans hok, ?_, ?_, hfit c (.inl ⟨WholeBuild.store, hstored.trans hok⟩)⟩, ?_⟩
  · exact (hmembers _ [] WholeBuild.members rfl WholeBuild.members_given).trans hok
  · have hfirst : WholeBuild.given.settings <+: Setting.all := List.prefix_refl _
    exact ((helements hfirst).2 _ [] WholeBuild.elements rfl WholeBuild.elements_given).trans hok
  · simp only [List.mem_cons, List.not_mem_nil, or_false]
    rintro doc (rfl | rfl | rfl)
    · exact hobject _ [] _ rfl (.inr ⟨.marker, by decide⟩)
    · refine hobject _ [] _ rfl (.inl ⟨foreign, by simp, fun s => ?_⟩)
      cases s <;> decide
    · exact hlist _ [] _ rfl (by decide)

example : (WholeBuild.object WholeBuild.members).text =
    "\x7b\"threads\": 2,\"failure_scope\": \x7b\"build\": null\x7d," ++
      "\"value\\u005fmember\": \"kind\",\"marker\": \"R\\ud83D\\uDE00\"\x7d" := by decide

example : (WholeBuild.list WholeBuild.elements).text =
    " [\"R😀\",\n\"kind\"\t,\"build\",2]" := by decide

end MarkerInjection
