-- What the keys of a store have to say for a configuration, what it is then, and
-- what is told of the first that is wrong. The texts under the keys are looked at
-- by themselves first: names of scopes in any case, and counts in decimal.
import MarkerInjection.Proofs.StoredSettings
import Mathlib.Data.List.Forall2
import Mathlib.Data.List.TakeWhile

namespace MarkerInjection

/-! ## Names of scopes -/

/-- The text is the name of the scope, letter by letter; each may be the capital one of ASCII. -/
def FailureScope.Names (f : FailureScope) (text : String) : Prop :=
  List.Forall₂ (fun c d => c = d ∨ c.toNat + 32 = d.toNat) text.toList f.text.toList

theorem small_eq_iff {c d : Char} (hd : 97 ≤ d.toNat ∧ d.toNat ≤ 122) :
    FailureScope.small c = d ↔ c = d ∨ c.toNat + 32 = d.toNat := by
  have hcapital : ('A' ≤ c ∧ c ≤ 'Z') ↔ 65 ≤ c.toNat ∧ c.toNat ≤ 90 := Iff.rfl
  unfold FailureScope.small
  split
  · rename_i hc
    rw [hcapital] at hc
    have hvalid : (c.toNat + 32).isValidChar := Or.inl (by omega)
    have htoNat : (Char.ofNat (c.toNat + 32)).toNat = c.toNat + 32 := by
      unfold Char.ofNat
      rw [dif_pos hvalid]
      rfl
    constructor
    · rintro rfl
      exact Or.inr htoNat.symm
    · rintro (rfl | heq)
      · omega
      · exact Char.toNat_inj.mp (htoNat.trans heq)
  · rename_i hc
    rw [hcapital] at hc
    refine ⟨Or.inl, ?_⟩
    rintro (heq | heq)
    · exact heq
    · omega

theorem map_small_eq_iff {cs ds : List Char} (hds : ∀ d ∈ ds, 97 ≤ d.toNat ∧ d.toNat ≤ 122) :
    cs.map FailureScope.small = ds ↔
      List.Forall₂ (fun c d => c = d ∨ c.toNat + 32 = d.toNat) cs ds := by
  induction ds generalizing cs with
  | nil => simp
  | cons d ds ih =>
    cases cs with
    | nil => simp
    | cons c cs =>
      have hd := small_eq_iff (c := c) (hds d (by simp))
      have hrest := @ih cs fun e he => hds e (by simp [he])
      rw [List.map_cons, List.cons.injEq, hd, hrest, List.forall₂_cons]

/-- A text is read as a scope exactly if it names it. -/
theorem ofText?_eq_some_iff {text : String} {f : FailureScope} :
    FailureScope.ofText? text = some f ↔ f.Names text := by
  have hclass : text.toList.map FailureScope.small = "class".toList ↔
      FailureScope.perClass.Names text := map_small_eq_iff (by simp)
  have hbuild : text.toList.map FailureScope.small = "build".toList ↔
      FailureScope.wholeBuild.Names text := map_small_eq_iff (by simp)
  unfold FailureScope.ofText?
  dsimp only
  cases f with
  | perClass =>
    rw [← hclass]
    split
    · rename_i hname
      simp [hname]
    · rename_i hname
      refine iff_of_false ?_ hname
      split
      · simp
      · simp
  | wholeBuild =>
    rw [← hbuild]
    split
    · rename_i hname
      simp [hname]
    · split
      · rename_i hname
        exact iff_of_true rfl hname
      · rename_i hname
        exact iff_of_false (by simp) hname

/-! ## Counts -/

/-- The text is this number: decimal digits of ASCII, perhaps behind one plus sign. -/
def Counts (text : String) (n : Nat) : Prop :=
  ∃ sign digits, text.toList = sign ++ digits ∧ (sign = [] ∨ sign = ['+']) ∧ digits ≠ [] ∧
    (∀ c ∈ digits, c.isDigit = true) ∧ Nat.ofDigitChars 10 digits 0 = n

/-- The characters behind one plus sign, or all of them if there is none in front. -/
def unsigned : List Char → List Char
  | '+' :: cs => cs
  | cs => cs

/-- What is wrong with the text as a count. -/
inductive NumberFault.Of (text : String) : NumberFault → Prop
  | empty (htext : text = "") : Of text .empty
  | sign (htext : text = "+") : Of text .invalidDigit
  /-- A character that is no digit comes before the number is too large. -/
  | character {digits rest : List Char} {c : Char}
      (htext : unsigned text.toList = digits ++ c :: rest)
      (hdigits : ∀ d ∈ digits, d.isDigit = true) (hc : c.isDigit = false)
      (hlimit : Nat.ofDigitChars 10 digits 0 < threadLimit) : Of text .invalidDigit
  /-- The digits in front are too large a number, whatever is behind them. -/
  | tooLarge {digits rest : List Char} (htext : unsigned text.toList = digits ++ rest)
      (hdigits : ∀ d ∈ digits, d.isDigit = true)
      (hlimit : threadLimit ≤ Nat.ofDigitChars 10 digits 0) : Of text .tooLarge

theorem numberFrom_of_noDigit {c : Char} (hc : c.isDigit = false) (value : Nat)
    (rest : List Char) : numberFrom value (c :: rest) = .error .invalidDigit := by
  have hdigit : ¬ ('0' ≤ c ∧ c ≤ '9') := by
    intro hbounds
    have hyes : c.isDigit = true := by simpa [Char.isDigit, Char.le_def] using hbounds
    rw [hc] at hyes
    contradiction
  rw [numberFrom, if_neg hdigit]

/-- Digits that make too large a number are refused at the first that does. -/
theorem numberFrom_of_limit_le {cs : List Char} (hcs : ∀ c ∈ cs, c.isDigit = true)
    (rest : List Char) {value : Nat} (hvalue : value < threadLimit)
    (hlimit : threadLimit ≤ Nat.ofDigitChars 10 cs value) :
    numberFrom value (cs ++ rest) = .error .tooLarge := by
  induction cs generalizing value with
  | nil => exact absurd hvalue (Nat.not_lt.mpr hlimit)
  | cons c cs ih =>
    have hdigit : '0' ≤ c ∧ c ≤ '9' := by
      simpa [Char.isDigit, Char.le_def] using hcs c (by simp)
    rw [Nat.ofDigitChars_cons, Nat.mul_comm 10 value] at hlimit
    rw [List.cons_append, numberFrom, if_pos hdigit]
    dsimp only
    split
    · rename_i hfits
      exact ih (fun d hd => hcs d (List.mem_cons_of_mem c hd)) hfits hlimit
    · rfl

/-- One plus sign at most stands in front. -/
theorem sign_append_unsigned (cs : List Char) :
    ∃ sign, cs = sign ++ unsigned cs ∧ (sign = [] ∨ sign = ['+']) := by
  unfold unsigned
  split
  · exact ⟨['+'], rfl, Or.inr rfl⟩
  · exact ⟨[], rfl, Or.inl rfl⟩

theorem unsigned_of_noSign {cs : List Char} (hcs : cs.head? ≠ some '+') : unsigned cs = cs := by
  unfold unsigned
  split
  · simp at hcs
  · rfl

theorem readThreads_eq {text : String} (hempty : text ≠ "") (hsign : text ≠ "+") :
    readThreads text = numberFrom 0 (unsigned text.toList) := by
  have hchars : text.toList ≠ [] := by simpa using hempty
  have hplus : text.toList ≠ ['+'] := fun heq => hsign (String.toList_inj.mp heq)
  unfold readThreads
  split
  · contradiction
  · contradiction
  · rename_i hchars
    rw [hchars, unsigned]
  · rename_i hnosign
    rw [unsigned_of_noSign]
    intro hhead
    obtain ⟨cs, hcs⟩ := List.head?_eq_some_iff.mp hhead
    exact hnosign cs hcs

/-- Behind the sign of a count stand its digits. -/
theorem unsigned_of_counts {sign digits : List Char} (hsign : sign = [] ∨ sign = ['+'])
    (hdigits : ∀ c ∈ digits, c.isDigit = true) : unsigned (sign ++ digits) = digits := by
  rcases hsign with rfl | rfl
  · refine unsigned_of_noSign fun hhead => ?_
    have hplus := hdigits '+' (List.mem_of_head? hhead)
    contradiction
  · rfl

theorem readThreads_of_counts {text : String} {n : Nat} (htext : Counts text n)
    (hn : n < threadLimit) : readThreads text = .ok n := by
  obtain ⟨sign, digits, hchars, hsign, hsome, hdigits, rfl⟩ := htext
  have hunsigned := unsigned_of_counts hsign hdigits
  have hempty : text ≠ "" := by
    rintro rfl
    simp at hchars
    exact hsome hchars.2
  have hplus : text ≠ "+" := by
    rintro rfl
    rw [← hchars] at hunsigned
    exact hsome hunsigned.symm
  rw [readThreads_eq hempty hplus, hchars, hunsigned]
  exact numberFrom_digits hdigits 0 hn

theorem readThreads_of_fault {text : String} {fault : NumberFault} (hfault : fault.Of text) :
    readThreads text = .error fault := by
  cases hfault with
  | empty htext =>
    subst htext
    rfl
  | sign htext =>
    subst htext
    rfl
  | @character digits rest c htext hdigits hc hlimit =>
    by_cases hplus : text = "+"
    · subst hplus
      rfl
    · have hempty : text ≠ "" := by
        rintro rfl
        simp [unsigned] at htext
      rw [readThreads_eq hempty hplus, htext, numberFrom_append hdigits _ 0 hlimit,
        numberFrom_of_noDigit hc]
  | @tooLarge digits rest htext hdigits hlimit =>
    have hsome : digits ≠ [] := by
      rintro rfl
      exact absurd hlimit (by decide)
    have hempty : text ≠ "" := by
      rintro rfl
      simp [unsigned, hsome] at htext
    have hplus : text ≠ "+" := by
      rintro rfl
      simp [unsigned, hsome] at htext
    rw [readThreads_eq hempty hplus, htext]
    exact numberFrom_of_limit_le hdigits rest (by decide) hlimit

/-- A text is a count below the limit, or something is wrong with it. -/
theorem counts_or_fault (text : String) :
    (∃ n, Counts text n ∧ n < threadLimit) ∨ ∃ fault : NumberFault, fault.Of text := by
  by_cases hempty : text = ""
  · exact Or.inr ⟨_, .empty hempty⟩
  by_cases hsign : text = "+"
  · exact Or.inr ⟨_, .sign hsign⟩
  -- The digits in front decide by their number, and else what stands behind them.
  have hparts := List.takeWhile_append_dropWhile (p := Char.isDigit) (l := unsigned text.toList)
  have hdigits : ∀ c ∈ (unsigned text.toList).takeWhile Char.isDigit, c.isDigit = true :=
    fun c hc => List.mem_takeWhile_imp hc
  have hbehind := List.head?_dropWhile_not Char.isDigit (unsigned text.toList)
  generalize (unsigned text.toList).takeWhile Char.isDigit = digits at hparts hdigits
  generalize (unsigned text.toList).dropWhile Char.isDigit = rest at hparts hbehind
  rcases Nat.lt_or_ge (Nat.ofDigitChars 10 digits 0) threadLimit with hlimit | hlimit
  · cases rest with
    | nil =>
      obtain ⟨sign, htext, hplus⟩ := sign_append_unsigned text.toList
      rw [List.append_nil] at hparts
      rw [← hparts] at htext
      refine Or.inl ⟨_, ⟨sign, digits, htext, hplus, ?_, hdigits, rfl⟩, hlimit⟩
      rintro rfl
      rw [List.append_nil] at htext
      rcases hplus with rfl | rfl
      · exact hempty (by simpa using htext)
      · exact hsign (String.toList_inj.mp htext)
    | cons c rest => exact Or.inr ⟨_, .character hparts.symm hdigits hbehind hlimit⟩
  · exact Or.inr ⟨_, .tooLarge hparts.symm hdigits hlimit⟩

theorem readThreads_eq_ok_iff {text : String} {n : Nat} :
    readThreads text = .ok n ↔ Counts text n ∧ n < threadLimit := by
  refine ⟨fun hread => ?_, fun ⟨htext, hn⟩ => readThreads_of_counts htext hn⟩
  rcases counts_or_fault text with ⟨m, htext, hm⟩ | ⟨fault, hfault⟩
  · rw [readThreads_of_counts htext hm] at hread
    exact Except.ok.inj hread ▸ ⟨htext, hm⟩
  · rw [readThreads_of_fault hfault] at hread
    contradiction

theorem readThreads_eq_error_iff {text : String} {fault : NumberFault} :
    readThreads text = .error fault ↔ fault.Of text := by
  refine ⟨fun hread => ?_, readThreads_of_fault⟩
  rcases counts_or_fault text with ⟨n, htext, hn⟩ | ⟨other, hother⟩
  · rw [readThreads_of_counts htext hn] at hread
    contradiction
  · rw [readThreads_of_fault hother] at hread
    exact Except.error.inj hread ▸ hother

/-! ## What is wrong with a store -/

/-- What can be wrong with the texts under the keys. -/
inductive StoreFault
  | unknownScope (text : String)
  | badCount (fault : NumberFault)
  | emptyMarker
  | emptyValueMember
  | noThreads
  deriving Repr, DecidableEq

namespace StoreFault

/-- This is wrong with the store. -/
def Present (s : ConfigStore) : StoreFault → Prop
  | unknownScope text =>
    s.get? ConfigKey.failureScope = some text ∧ ∀ f : FailureScope, ¬ f.Names text
  | badCount fault => ∃ text, s.get? ConfigKey.threads = some text ∧ fault.Of text
  | emptyMarker => s.get? ConfigKey.marker = some ""
  | emptyValueMember => s.get? ConfigKey.valueMember = some ""
  | noThreads => ∃ text, s.get? ConfigKey.threads = some text ∧ Counts text 0

/-- Where a fault stands in the order in which they are looked for. -/
def rank : StoreFault → Nat
  | unknownScope _ => 0
  | badCount _ => 1
  | emptyMarker => 2
  | emptyValueMember => 3
  | noThreads => 4

/-- What is told of a fault. -/
def text : StoreFault → String
  | unknownScope text => ConfigKey.failureScope ++ ": unknown failure scope '" ++ text ++ "'"
  | badCount fault => ConfigKey.threads ++ ": " ++ fault.text
  | emptyMarker => "marker must not be empty"
  | emptyValueMember => "value member must not be empty"
  | noThreads => "threads must be at least 1"

/-- Nothing is wrong with the store that is looked for before this rank. -/
def NoneBefore (s : ConfigStore) (n : Nat) : Prop :=
  ∀ fault : StoreFault, fault.Present s → n ≤ fault.rank

/-- Of all that is wrong with the store, this is looked for first. -/
structure First (s : ConfigStore) (fault : StoreFault) : Prop where
  present : fault.Present s
  noneBefore : NoneBefore s fault.rank

section Faults

variable {s : ConfigStore}

theorem noneBefore_succ {n : Nat} (hbefore : NoneBefore s n)
    (hnone : ∀ fault : StoreFault, fault.rank = n → ¬ fault.Present s) : NoneBefore s (n + 1) :=
  fun fault hfault =>
    Nat.lt_of_le_of_ne (hbefore fault hfault) fun hrank => hnone fault hrank.symm hfault

/-- The faults without a text of their own are told apart by their ranks. -/
theorem eq_of_rank_of_two_le {fault other : StoreFault} (hfault : 2 ≤ fault.rank)
    (hrank : fault.rank = other.rank) : fault = other := by
  cases fault <;> cases other <;> simp [rank] at hfault hrank ⊢

theorem noneBefore_succ_of_two_le (fault : StoreFault) (hfault : 2 ≤ fault.rank)
    (hbefore : NoneBefore s fault.rank) (habsent : ¬ fault.Present s) :
    NoneBefore s (fault.rank + 1) := by
  refine noneBefore_succ hbefore fun other hrank => ?_
  rw [← eq_of_rank_of_two_le hfault hrank.symm]
  exact habsent

/-- One fault of each rank is present at most. -/
theorem eq_of_rank {fault other : StoreFault} (hfault : fault.Present s)
    (hother : other.Present s) (hrank : fault.rank = other.rank) : fault = other := by
  cases fault with
  | unknownScope text =>
    cases other with
    | unknownScope text' =>
      have htexts := hfault.1.symm.trans hother.1
      rw [Option.some.inj htexts]
    | _ => simp [rank] at hrank
  | badCount fault =>
    cases other with
    | badCount fault' =>
      obtain ⟨text, htext, hread⟩ := hfault
      obtain ⟨text', htext', hread'⟩ := hother
      obtain rfl := Option.some.inj (htext.symm.trans htext')
      have hfaults := (readThreads_of_fault hread).symm.trans (readThreads_of_fault hread')
      rw [Except.error.inj hfaults]
    | _ => simp [rank] at hrank
  | _ => exact eq_of_rank_of_two_le (by simp [rank]) hrank

theorem first_unique {fault other : StoreFault} (hfault : fault.First s) (hother : other.First s) :
    fault = other :=
  eq_of_rank hfault.present hother.present (Nat.le_antisymm
    (hfault.noneBefore other hother.present) (hother.noneBefore fault hfault.present))

end Faults

end StoreFault

/-! ## What a store gives -/

/-- The texts under the four keys are fit for a configuration. A key need not be there. -/
structure ConfigStore.Readable (s : ConfigStore) : Prop where
  marker : ∀ text, s.get? ConfigKey.marker = some text → text ≠ ""
  valueMember : ∀ text, s.get? ConfigKey.valueMember = some text → text ≠ ""
  failureScope : ∀ text, s.get? ConfigKey.failureScope = some text →
    ∃ f : FailureScope, f.Names text
  threads : ∀ text, s.get? ConfigKey.threads = some text →
    ∃ n, Counts text n ∧ 1 ≤ n ∧ n < threadLimit

/-- Each key that is there gives its setting, and the others have their defaults. -/
structure Config.ReadFrom (c : Config) (s : ConfigStore) : Prop where
  marker : c.marker = (s.get? ConfigKey.marker).getD standard.marker
  valueMember : c.valueMember = (s.get? ConfigKey.valueMember).getD standard.valueMember
  failureScope :
    (s.get? ConfigKey.failureScope = none ∧ c.failureScope = standard.failureScope) ∨
      ∃ text, s.get? ConfigKey.failureScope = some text ∧ c.failureScope.Names text
  threads : (s.get? ConfigKey.threads = none ∧ c.threads = standard.threads) ∨
    ∃ text n, s.get? ConfigKey.threads = some text ∧ Counts text n ∧ c.threads = .exactly n

section Stores

variable {s : ConfigStore}

theorem storedScope_or_fault (s : ConfigStore) :
    (∃ text, (StoreFault.unknownScope text).Present s ∧
      Config.storedScope s = .error (.configuration (StoreFault.unknownScope text).text)) ∨
    ∃ f, Config.storedScope s = .ok f ∧ (∀ text, ¬ (StoreFault.unknownScope text).Present s) ∧
      ((s.get? ConfigKey.failureScope = none ∧ f = Config.standard.failureScope) ∨
        ∃ text, s.get? ConfigKey.failureScope = some text ∧ f.Names text) := by
  unfold Config.storedScope StoreFault.Present
  rcases hkey : s.get? ConfigKey.failureScope with _ | text
  · exact Or.inr ⟨_, rfl, by simp, Or.inl ⟨rfl, rfl⟩⟩
  · rcases hname : FailureScope.ofText? text with _ | f
    · refine Or.inl ⟨text, ⟨rfl, fun f hf => ?_⟩, by simp only [hname]; rfl⟩
      rw [ofText?_eq_some_iff.mpr hf] at hname
      contradiction
    · have hnames := ofText?_eq_some_iff.mp hname
      refine Or.inr ⟨f, by simp only [hname], ?_, Or.inr ⟨text, rfl, hnames⟩⟩
      rintro _ ⟨⟨⟩, hnone⟩
      exact hnone f hnames

theorem storedThreads_or_fault (s : ConfigStore) :
    (∃ fault, (StoreFault.badCount fault).Present s ∧
      Config.storedThreads s = .error (.configuration (StoreFault.badCount fault).text)) ∨
    ∃ threads, Config.storedThreads s = .ok threads ∧
      (∀ fault, ¬ (StoreFault.badCount fault).Present s) ∧
      ((s.get? ConfigKey.threads = none ∧ threads = Config.standard.threads) ∨
        ∃ text n, s.get? ConfigKey.threads = some text ∧ Counts text n ∧ threads = .exactly n) ∧
      (threads = .exactly 0 ↔ StoreFault.noThreads.Present s) := by
  unfold Config.storedThreads StoreFault.Present
  rcases hkey : s.get? ConfigKey.threads with _ | text
  · exact Or.inr ⟨_, rfl, by simp, Or.inl ⟨rfl, rfl⟩, by simp [Config.standard]⟩
  · rcases hread : readThreads text with fault | n
    · exact Or.inl ⟨fault, ⟨text, rfl, readThreads_eq_error_iff.mp hread⟩,
        by simp only [hread]; rfl⟩
    · obtain ⟨hcounts, hn⟩ := readThreads_eq_ok_iff.mp hread
      refine Or.inr ⟨_, by simp only [hread], ?_, Or.inr ⟨text, n, rfl, hcounts, rfl⟩, ?_, ?_⟩
      · rintro fault ⟨_, ⟨⟩, hfault⟩
        rw [readThreads_of_fault hfault] at hread
        contradiction
      · rintro ⟨⟩
        exact ⟨text, rfl, hcounts⟩
      · rintro ⟨_, ⟨⟩, hzero⟩
        rw [readThreads_of_counts hzero (by decide)] at hread
        rw [Except.ok.inj hread]

/-- Nothing is wrong with a store exactly if it is readable. -/
theorem readable_iff : s.Readable ↔ ∀ fault : StoreFault, ¬ fault.Present s := by
  constructor
  · intro hs fault hfault
    cases fault with
    | unknownScope text =>
      obtain ⟨f, hf⟩ := hs.failureScope text hfault.1
      exact hfault.2 f hf
    | badCount fault =>
      obtain ⟨text, htext, hof⟩ := hfault
      obtain ⟨n, hn, -, hmost⟩ := hs.threads text htext
      have hread := readThreads_of_counts hn (by omega)
      rw [readThreads_of_fault hof] at hread
      contradiction
    | emptyMarker => exact hs.marker "" hfault rfl
    | emptyValueMember => exact hs.valueMember "" hfault rfl
    | noThreads =>
      obtain ⟨text, htext, hzero⟩ := hfault
      obtain ⟨n, hn, hleast, hmost⟩ := hs.threads text htext
      have hread := readThreads_of_counts hn (by omega)
      rw [readThreads_of_counts hzero (by omega)] at hread
      have := Except.ok.inj hread
      omega
  · intro hnone
    refine ⟨?_, ?_, ?_, ?_⟩
    · rintro text htext rfl
      exact hnone .emptyMarker htext
    · rintro text htext rfl
      exact hnone .emptyValueMember htext
    · intro text htext
      by_contra hname
      exact hnone (.unknownScope text) ⟨htext, fun f hf => hname ⟨f, hf⟩⟩
    · intro text htext
      rcases counts_or_fault text with ⟨n, hn, hmost⟩ | ⟨fault, hfault⟩
      · refine ⟨n, hn, Nat.one_le_iff_ne_zero.mpr ?_, by omega⟩
        rintro rfl
        exact hnone .noThreads ⟨text, htext, hn⟩
      · exact absurd ⟨text, htext, hfault⟩ (hnone (.badCount fault))

theorem getD_eq_empty_iff {found : Option String} {standard : String} (hstandard : standard ≠ "") :
    found.getD standard = "" ↔ found = some "" := by
  cases found with
  | none => simp [hstandard]
  | some text => simp

/-- Either nothing is wrong and the store gives what its keys say, or it fails with the first
fault. -/
theorem ofStore_or_fault (s : ConfigStore) :
    (∃ c, Config.ofStore s = .ok c ∧ c.ReadFrom s ∧ s.Readable) ∨
      ∃ fault : StoreFault, fault.First s ∧
        Config.ofStore s = .error (.configuration fault.text) := by
  have hfrom : StoreFault.NoneBefore s 0 := fun fault _ => Nat.zero_le fault.rank
  unfold Config.ofStore
  rcases storedScope_or_fault s with ⟨text, hpresent, hscope⟩ | ⟨scope, hscope, hnone, hgiven⟩
  · exact Or.inr ⟨_, ⟨hpresent, hfrom⟩, by rw [hscope]; rfl⟩
  replace hfrom : StoreFault.NoneBefore s 1 := by
    refine StoreFault.noneBefore_succ hfrom fun fault hrank => ?_
    cases fault with
    | unknownScope text => exact hnone text
    | _ => simp [StoreFault.rank] at hrank
  rcases storedThreads_or_fault s with
    ⟨fault, hpresent, hthreads⟩ | ⟨threads, hthreads, hnone, hcount, hzero⟩
  · exact Or.inr ⟨_, ⟨hpresent, hfrom⟩, by rw [hscope, hthreads]; rfl⟩
  replace hfrom : StoreFault.NoneBefore s 2 := by
    refine StoreFault.noneBefore_succ hfrom fun fault hrank => ?_
    cases fault with
    | badCount fault => exact hnone fault
    | _ => simp [StoreFault.rank] at hrank
  rw [hscope, hthreads]
  simp only [bind, Except.bind, Config.checked,
    getD_eq_empty_iff (show Config.standard.marker ≠ "" by decide),
    getD_eq_empty_iff (show Config.standard.valueMember ≠ "" by decide)]
  by_cases hmarker : s.get? ConfigKey.marker = some ""
  · exact Or.inr ⟨.emptyMarker, ⟨hmarker, hfrom⟩, if_pos hmarker⟩
  replace hfrom : StoreFault.NoneBefore s 3 :=
    StoreFault.noneBefore_succ_of_two_le .emptyMarker (by decide) hfrom hmarker
  rw [if_neg hmarker]
  by_cases hmember : s.get? ConfigKey.valueMember = some ""
  · exact Or.inr ⟨.emptyValueMember, ⟨hmember, hfrom⟩, if_pos hmember⟩
  replace hfrom : StoreFault.NoneBefore s 4 :=
    StoreFault.noneBefore_succ_of_two_le .emptyValueMember (by decide) hfrom hmember
  rw [if_neg hmember]
  by_cases hthread : StoreFault.noThreads.Present s
  · exact Or.inr ⟨.noThreads, ⟨hthread, hfrom⟩, if_pos (hzero.mpr hthread)⟩
  refine Or.inl ⟨_, if_neg (hzero.not.mpr hthread), ⟨rfl, rfl, hgiven, hcount⟩, readable_iff.mpr ?_⟩
  intro fault hfault
  cases fault with
  | noThreads => exact hthread hfault
  | _ => exact absurd (hfrom _ hfault) (by simp [StoreFault.rank])

end Stores

/-! ## The law -/

/-- What a store gives depends on four of its keys only. It is a configuration exactly if the
texts that are there are fit: names that are not empty, a scope in any case of ASCII, and a count
of one at least that is below the limit. Then each key that is there gives its own setting, and
the others have their defaults. Otherwise it fails with the first that is wrong: the scope, the
count as it is written, an empty marker, an empty value member, and a count of zero, in this
order. -/
theorem a_store_is_read_by_four_keys (s : ConfigStore) :
    (∀ s' : ConfigStore, (∀ setting : Setting, s'.get? setting.key = s.get? setting.key) →
      Config.ofStore s' = Config.ofStore s) ∧
    ((∃ c, Config.ofStore s = .ok c) ↔ s.Readable) ∧
    (∀ c, Config.ofStore s = .ok c → c.ReadFrom s) ∧
    (∀ failure, Config.ofStore s = .error failure ↔
      ∃ fault : StoreFault, fault.First s ∧ failure = .configuration fault.text) := by
  refine ⟨?_, ?_⟩
  · intro s' hkeys
    have hmarker : s'.get? ConfigKey.marker = s.get? ConfigKey.marker := hkeys .marker
    have hmember : s'.get? ConfigKey.valueMember = s.get? ConfigKey.valueMember :=
      hkeys .valueMember
    have hscope : s'.get? ConfigKey.failureScope = s.get? ConfigKey.failureScope :=
      hkeys .failureScope
    have hthreads : s'.get? ConfigKey.threads = s.get? ConfigKey.threads := hkeys .threads
    unfold Config.ofStore Config.storedScope Config.storedThreads
    rw [hmarker, hmember, hscope, hthreads]
  · rcases ofStore_or_fault s with ⟨c, hc, hfrom, hreadable⟩ | ⟨fault, hfirst, hfails⟩
    · refine ⟨iff_of_true ⟨c, hc⟩ hreadable, ?_, ?_⟩
      · intro c' hc'
        rw [hc] at hc'
        exact Except.ok.inj hc' ▸ hfrom
      · intro failure
        refine iff_of_false (by simp [hc]) ?_
        rintro ⟨fault, hfirst, -⟩
        exact readable_iff.mp hreadable fault hfirst.present
    · refine ⟨iff_of_false (by simp [hfails]) ?_, by simp [hfails], ?_⟩
      · exact fun hreadable => readable_iff.mp hreadable fault hfirst.present
      · intro failure
        rw [hfails]
        constructor
        · rintro ⟨⟩
          exact ⟨fault, hfirst, rfl⟩
        · rintro ⟨other, hother, rfl⟩
          rw [StoreFault.first_unique hfirst hother]

end MarkerInjection
