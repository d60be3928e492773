-- The names that are derived from the name of a class: with a small first letter,
-- and without an ending. Lowercase letters have no other lowercase, so a derived
-- name stays as it is. Names with one derived name in common differ in the case of
-- their first letter, or in the ending that was taken off.
import MarkerInjection.Source.Injectors

namespace MarkerInjection

namespace Text

/-! ## Sets of numbers -/

/-- The number whose binary digits at these places are ones. -/
def mask (ns : List Nat) : Nat := ns.foldr (fun n m => 1 <<< n ||| m) 0

theorem testBit_mask {ns : List Nat} {n : Nat} : (mask ns).testBit n = true ↔ n ∈ ns := by
  induction ns with
  | nil => simp [mask]
  | cons m ns ih =>
    have hmask : mask (m :: ns) = 1 <<< m ||| mask ns := rfl
    rw [hmask, Nat.testBit_or, Bool.or_eq_true, ih, Nat.one_shiftLeft, Nat.testBit_two_pow,
      List.mem_cons, decide_eq_true_iff, eq_comm]

theorem not_mem_of_masks {ns ms : List Nat} (happart : mask ns &&& mask ms = 0) {n : Nat}
    (hn : n ∈ ns) : n ∉ ms := by
  intro hm
  have hboth : (mask ns &&& mask ms).testBit n = true := by
    rw [Nat.testBit_and, testBit_mask.mpr hn, testBit_mask.mpr hm]
    rfl
  rw [happart, Nat.zero_testBit] at hboth
  contradiction

/-! ## Letters that have a lowercase -/

/-- The code points of a run, one after the other. -/
def Span.points (s : Span) : List Nat :=
  (List.range ((s.last - s.first) / s.step + 1)).map (s.first + s.step * ·)

theorem Span.mem_points {s : Span} {n : Nat} (hn : s.holds n = true) : n ∈ s.points := by
  simp only [Span.holds, Bool.and_eq_true, decide_eq_true_eq, beq_iff_eq] at hn
  obtain ⟨⟨hfirst, hlast⟩, hstep⟩ := hn
  refine List.mem_map.mpr ⟨(n - s.first) / s.step, ?_, ?_⟩
  · have hle : (n - s.first) / s.step ≤ (s.last - s.first) / s.step :=
      Nat.div_le_div_right (Nat.sub_le_sub_right hlast _)
    exact List.mem_range.mpr (Nat.lt_succ_of_le hle)
  · have hwhole := Nat.div_add_mod (n - s.first) s.step
    rw [hstep, Nat.add_zero] at hwhole
    rw [hwhole]
    omega

/-- The code points of the letters that have another lowercase. -/
def capitals : List Nat := 0x130 :: lowercaseShifts.flatMap (·.span.points)

/-- The code points of the lowercase letters that the shifts lead to. -/
def smallLetters : List Nat :=
  lowercaseShifts.flatMap fun s =>
    s.span.points.map fun (n : Nat) => (Char.ofNat (n + s.distance).toNat).toNat

-- Each of the lists has well over a thousand code points. As masks they are compared in one step
-- of arithmetic, and not every code point of one with every one of the other.
/-- No lowercase letter has another lowercase. -/
theorem smallLetters_apart : mask smallLetters &&& mask capitals = 0 := by decide +kernel

theorem lowercase_of_not_capital {c : Char} (hc : c.toNat ∉ capitals) : lowercase c = [c] := by
  rw [capitals, List.mem_cons, not_or] at hc
  unfold lowercase
  split
  · rename_i hdotted
    exact absurd hdotted hc.1
  · split
    · rename_i s hfound
      have hholds := List.find?_some hfound
      have hpoint : c.toNat ∈ lowercaseShifts.flatMap (·.span.points) :=
        List.mem_flatMap.mpr ⟨s, List.mem_of_find?_eq_some hfound, Span.mem_points hholds⟩
      exact absurd hpoint hc.2
    · rfl

/-- The lowercase of a character begins with a letter that has no other lowercase, and goes on
with nothing that is uppercase. -/
theorem lowercase_begins (c : Char) : ∃ d more, lowercase c = d :: more ∧ lowercase d = [d] ∧
    ∀ e ∈ more, isUppercase e = false := by
  by_cases hdotted : c.toNat = 0x130
  · have hsmall : lowercase 'i' = ['i'] := by decide +kernel
    have hmark : isUppercase (Char.ofNat 0x307) = false := by decide +kernel
    refine ⟨'i', [Char.ofNat 0x307], ?_, hsmall, by simpa using hmark⟩
    rw [lowercase, if_pos hdotted]
  · cases hfound : lowercaseShifts.find? fun s => s.span.holds c.toNat with
    | none =>
      have hself : lowercase c = [c] := by simp only [lowercase, if_neg hdotted, hfound]
      exact ⟨c, [], hself, hself, by simp⟩
    | some s =>
      let d := Char.ofNat (c.toNat + s.distance).toNat
      have hholds := List.find?_some hfound
      have hsmall : d.toNat ∈ smallLetters :=
        List.mem_flatMap.mpr ⟨s, List.mem_of_find?_eq_some hfound,
          List.mem_map.mpr ⟨c.toNat, Span.mem_points hholds, rfl⟩⟩
      have hself : lowercase d = [d] :=
        lowercase_of_not_capital (not_mem_of_masks smallLetters_apart hsmall)
      refine ⟨d, [], ?_, hself, by simp⟩
      simp only [lowercase, if_neg hdotted, hfound, d]

end Text

namespace Source

open Text

/-! ## The first letter -/

/-- The name with its first character in lowercase, whatever the second one is. -/
def smallFirst (name : String) : String :=
  match name.toList with
  | [] => ""
  | first :: rest => String.ofList (lowercase first ++ rest)

/-- The second character is uppercase, and so the first one is kept. -/
def KeepsFirst (name : String) : Prop :=
  ∃ second ∈ name.toList[1]?, isUppercase second = true

theorem propertyName_of_keepsFirst {name : String} (hkeeps : KeepsFirst name) :
    propertyName name = name := by
  obtain ⟨second, hsecond, hupper⟩ := hkeeps
  rcases hchars : name.toList with _ | ⟨first, _ | ⟨c, tail⟩⟩
  · simp [hchars] at hsecond
  · simp [hchars] at hsecond
  · obtain rfl : c = second := by simpa [hchars] using hsecond
    simp only [propertyName, hchars, hupper, if_true]

theorem propertyName_of_not_keepsFirst {name : String} (hkeeps : ¬ KeepsFirst name) :
    propertyName name = smallFirst name := by
  rcases hchars : name.toList with _ | ⟨first, _ | ⟨second, tail⟩⟩
  · simp only [propertyName, smallFirst, hchars]
  · simp only [propertyName, smallFirst, hchars, Bool.false_eq_true, if_false]
  · have hlower : isUppercase second = false := by
      rw [← Bool.not_eq_true]
      exact fun hupper => hkeeps ⟨second, by simp [hchars], hupper⟩
    simp only [propertyName, smallFirst, hchars, hlower, Bool.false_eq_true, if_false]

/-- A name without characters has none with a small first letter, and any other begins with a
letter that stays as it is. -/
theorem smallFirst_begins (name : String) : name = "" ∧ smallFirst name = "" ∨
    ∃ first rest d more, name.toList = first :: rest ∧
      (smallFirst name).toList = d :: (more ++ rest) ∧ lowercase d = [d] ∧
      ∀ e ∈ more, isUppercase e = false := by
  rcases hchars : name.toList with _ | ⟨first, rest⟩
  · left
    exact ⟨String.toList_eq_nil_iff.mp hchars, by simp only [smallFirst, hchars]⟩
  · right
    obtain ⟨d, more, hbegins, hself, hmore⟩ := lowercase_begins first
    refine ⟨first, rest, d, more, rfl, ?_, hself, hmore⟩
    simp only [smallFirst, hchars, hbegins, String.toList_ofList, List.cons_append]

theorem smallFirst_smallFirst (name : String) : smallFirst (smallFirst name) = smallFirst name := by
  rcases smallFirst_begins name with ⟨-, hempty⟩ | ⟨first, rest, d, more, -, hchars, hself, -⟩
  · rw [hempty]
    rfl
  · rw [smallFirst, hchars]
    simp only [hself]
    rw [List.singleton_append, ← hchars, String.ofList_toList]

/-- No uppercase letter comes to the second place. -/
theorem keepsFirst_of_smallFirst {name : String} (hkeeps : KeepsFirst (smallFirst name)) :
    KeepsFirst name := by
  obtain ⟨second, hsecond, hupper⟩ := hkeeps
  rcases smallFirst_begins name with ⟨-, hempty⟩ | ⟨first, rest, d, more, hname, hchars, -, hmore⟩
  · simp [hempty] at hsecond
  · rw [hchars, List.getElem?_cons_succ] at hsecond
    cases more with
    | nil => exact ⟨second, by simpa [hname] using hsecond, hupper⟩
    | cons e more =>
      obtain rfl : e = second := by simpa using hsecond
      rw [hmore e (by simp)] at hupper
      contradiction

/-! ## Names with a small first letter -/

theorem keepsFirst_propertyName_iff (name : String) :
    KeepsFirst (propertyName name) ↔ KeepsFirst name := by
  by_cases hkeeps : KeepsFirst name
  · rw [propertyName_of_keepsFirst hkeeps]
  · rw [propertyName_of_not_keepsFirst hkeeps]
    exact ⟨keepsFirst_of_smallFirst, fun hname => absurd hname hkeeps⟩

theorem propertyName_propertyName (name : String) :
    propertyName (propertyName name) = propertyName name := by
  by_cases hkeeps : KeepsFirst name
  · rw [propertyName_of_keepsFirst hkeeps, propertyName_of_keepsFirst hkeeps]
  · have hderived : ¬ KeepsFirst (propertyName name) := by rwa [keepsFirst_propertyName_iff]
    rw [propertyName_of_not_keepsFirst hderived, propertyName_of_not_keepsFirst hkeeps,
      smallFirst_smallFirst]

/-- Names have one derived name exactly if they are the same, or if they differ in the case of
the first letter and neither of them keeps it. -/
theorem propertyName_eq_iff (s t : String) :
    propertyName s = propertyName t ↔
      s = t ∨ ¬ KeepsFirst s ∧ ¬ KeepsFirst t ∧ smallFirst s = smallFirst t := by
  constructor
  · intro hsame
    have hkeeps : KeepsFirst s ↔ KeepsFirst t := by
      rw [← keepsFirst_propertyName_iff s, hsame, keepsFirst_propertyName_iff]
    by_cases hs : KeepsFirst s
    · left
      rwa [propertyName_of_keepsFirst hs, propertyName_of_keepsFirst (hkeeps.mp hs)] at hsame
    · right
      have ht : ¬ KeepsFirst t := by rwa [← hkeeps]
      rw [propertyName_of_not_keepsFirst hs, propertyName_of_not_keepsFirst ht] at hsame
      exact ⟨hs, ht, hsame⟩
  · rintro (rfl | ⟨hs, ht, hsame⟩)
    · rfl
    · rw [propertyName_of_not_keepsFirst hs, propertyName_of_not_keepsFirst ht, hsame]

theorem smallFirst_eq_of_propertyName_eq {s t : String} (hsame : propertyName s = propertyName t) :
    smallFirst s = smallFirst t := by
  rcases (propertyName_eq_iff s t).mp hsame with rfl | ⟨-, -, hsmall⟩
  · rfl
  · exact hsmall

theorem propertyName_eq_empty_iff (name : String) : propertyName name = "" ↔ name = "" := by
  by_cases hkeeps : KeepsFirst name
  · rw [propertyName_of_keepsFirst hkeeps]
  · rw [propertyName_of_not_keepsFirst hkeeps]
    rcases smallFirst_begins name with ⟨hname, hempty⟩ | ⟨first, rest, d, more, hname, hchars, -, -⟩
    · exact ⟨fun _ => hname, fun _ => hempty⟩
    · rw [← String.toList_eq_nil_iff, ← String.toList_eq_nil_iff, hname, hchars]
      simp

/-! ## Names without an ending -/

/-- The second name is what the first has before the ending, if that is anything, and otherwise
the whole name. -/
inductive Shortens (ending : String) : String → String → Prop
  | shorter {rest : String} (hrest : rest ≠ "") : Shortens ending (rest ++ ending) rest
  | whole {name : String} (hname : ∀ rest ≠ "", name ≠ rest ++ ending) :
      Shortens ending name name

theorem logicalName_append {rest : String} (hrest : rest ≠ "") (ending : String) :
    logicalName (rest ++ ending) ending = rest := by
  have hlength : 0 < rest.toList.length := by
    rw [List.length_pos_iff, ne_eq, String.toList_eq_nil_iff]
    exact hrest
  have hends : ending.toList <:+ rest.toList ++ ending.toList := List.suffix_append _ _
  simp only [logicalName, String.toList_append, List.length_append, Nat.add_sub_cancel,
    List.isSuffixOf_iff_suffix.mpr hends, hlength, decide_true, Bool.and_self, if_true,
    List.take_left, String.ofList_toList]

theorem logicalName_of_no_rest {name ending : String}
    (hname : ∀ rest ≠ "", name ≠ rest ++ ending) : logicalName name ending = name := by
  unfold logicalName
  dsimp only
  split
  · rename_i hends
    rw [Bool.and_eq_true, List.isSuffixOf_iff_suffix, decide_eq_true_iff] at hends
    obtain ⟨⟨rest, hrest⟩, hlength⟩ := hends
    have hsplit : name = String.ofList rest ++ ending :=
      String.toList_injective (by simp [hrest])
    refine absurd hsplit (hname _ fun hempty => ?_)
    have hnil : rest = [] := by simpa using hempty
    rw [← hrest, hnil, List.nil_append, Nat.sub_self] at hlength
    exact absurd hlength (Nat.lt_irrefl 0)
  · rfl

theorem shortens_logicalName (name ending : String) :
    Shortens ending name (logicalName name ending) := by
  by_cases hrest : ∃ rest, rest ≠ "" ∧ name = rest ++ ending
  · obtain ⟨rest, hnonempty, rfl⟩ := hrest
    rw [logicalName_append hnonempty]
    exact .shorter hnonempty
  · have hname : ∀ rest ≠ "", name ≠ rest ++ ending :=
      fun rest hnonempty hsplit => hrest ⟨rest, hnonempty, hsplit⟩
    rw [logicalName_of_no_rest hname]
    exact .whole hname

theorem Shortens.eq_empty_iff {ending name rest : String} (hshort : Shortens ending name rest) :
    rest = "" ↔ name = "" := by
  cases hshort with
  | shorter hrest => simp [hrest]
  | whole _ => exact Iff.rfl

/-! ## The law -/

/-- A derived name stays as it is. Names with the same derived name are the same once the first
character of each is in lowercase, and controllers with the same derived name are so without
their endings, where something is before these. Only the empty name has an empty one. -/
theorem derived_names_meet_by_case_or_ending (s t : String) :
    propertyName (propertyName s) = propertyName s ∧
    (propertyName s = propertyName t → smallFirst s = smallFirst t) ∧
    (propertyName (logicalName s "Controller") = propertyName (logicalName t "Controller") →
      ∃ s' t', Shortens "Controller" s s' ∧ Shortens "Controller" t t' ∧
        smallFirst s' = smallFirst t') ∧
    (propertyName s = "" ↔ s = "") ∧ (logicalName s "Controller" = "" ↔ s = "") ∧
    (propertyName (logicalName s "Controller") = "" ↔ s = "") := by
  have hs := shortens_logicalName s "Controller"
  have ht := shortens_logicalName t "Controller"
  refine ⟨propertyName_propertyName s, smallFirst_eq_of_propertyName_eq, ?_,
    propertyName_eq_empty_iff s, hs.eq_empty_iff, ?_⟩
  · exact fun hsame => ⟨_, _, hs, ht, smallFirst_eq_of_propertyName_eq hsame⟩
  · rw [propertyName_eq_empty_iff, hs.eq_empty_iff]

/-- The dotted capital has a lowercase of two characters. A name that is spelled with these is
already small and without an ending, and meets the controller. -/
theorem a_dotted_controller_meets_a_small_name :
    propertyName (logicalName "\u0130dController" "Controller") =
      propertyName (logicalName "i\u0307d" "Controller") ∧
    ∃ s' t', Shortens "Controller" "\u0130dController" s' ∧ Shortens "Controller" "i\u0307d" t' ∧
      smallFirst s' = smallFirst t' := by
  have hsame : propertyName (logicalName "\u0130dController" "Controller") =
      propertyName (logicalName "i\u0307d" "Controller") := by decide +kernel
  exact ⟨hsame, (derived_names_meet_by_case_or_ending _ _).2.2.1 hsame⟩

end Source

end MarkerInjection
