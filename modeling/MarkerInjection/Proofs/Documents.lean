-- Configuration documents as they are read: the settings that a document gives are
-- those that its members or elements give one after another, and a document that
-- gives none is refused.
import MarkerInjection.Proofs.JsonValues
import MarkerInjection.Proofs.Settings

namespace MarkerInjection

open Json

/-! ## What values give -/

/-- The scope of this name, spelled exactly. -/
def FailureScope.named? (name : String) : Option FailureScope :=
  if name = FailureScope.perClass.text then some .perClass
  else if name = FailureScope.wholeBuild.text then some .wholeBuild
  else none

namespace Json

namespace Written

/-- A scope: its name, or an object with the name over `null`. -/
def scope? : Written → Option FailureScope
  | .string ps => ps.text?.bind FailureScope.named?
  | .object _ [m] =>
    (m.key.value.text?.bind FailureScope.named?).bind fun found =>
      m.value.value.null?.bind fun _ => some found
  | _ => none

/-- What the value gives for a setting. -/
def as? (v : Written) : (s : Setting) → Option s.Value
  | .marker => v.string?
  | .valueMember => v.string?
  | .failureScope => v.scope?
  | .threads => v.natural?

end Written

/-- The settings after the elements of a list, which are for these settings in order. -/
def givenInOrder : List (Spaced Written) → List Setting → Given → Option Given
  | [], _, g => some g
  | _ :: _, [], _ => none
  | e :: es, s :: ss, g => (e.value.as? s).bind fun x => givenInOrder es ss (g.put s x)

/-- The setting that a member is for. -/
def Member.setting? (m : Member Written) : Option Setting := m.key.value.text?.bind Setting.ofName?

/-- The settings after the members of an object, each of which is for a new setting. -/
def givenByName : List (Member Written) → Given → Option Given
  | [], g => some g
  | m :: ms, g =>
    m.setting?.bind fun s =>
      if g.has s then none
      else (m.value.value.as? s).bind fun x => givenByName ms (g.put s x)

/-- The settings that a document gives. -/
def Written.given? : Written → Option Given
  | .list _ es => givenInOrder es Setting.all {}
  | .object _ ms => givenByName ms {}
  | _ => none

/-! ## What follows a value -/

theorem closes_blanks (bs : List Blank) {rest : List Char} (hrest : Closes rest) :
    Closes (bs.map Blank.char ++ rest) := by
  cases bs with
  | nil => exact hrest
  | cons b bs =>
    intro c hc
    obtain rfl : b.char = c := by simpa using hc
    cases b <;> decide

/-- Elements of a list and its end. -/
def listRest (isFirst : Bool) (es : List (Spaced Written)) (rest : List Char) : List Char :=
  elementsChars isFirst es ++ ']' :: rest

theorem chars_list (inner : List Blank) (es : List (Spaced Written)) (rest : List Char) :
    (Written.list inner es).chars ++ rest =
      '[' :: (inner.map Blank.char ++ listRest true es rest) := by
  simp [Written.chars, listRest]

/-- What follows the start of an element. -/
def elementRest (e : Spaced Written) (es : List (Spaced Written)) (rest : List Char) : List Char :=
  e.value.chars ++ (e.after.map Blank.char ++ listRest false es rest)

theorem listRest_first (inner : List Blank) (e : Spaced Written) (es : List (Spaced Written))
    (rest : List Char) :
    inner.map Blank.char ++ listRest true (e :: es) rest =
      (inner ++ e.before).map Blank.char ++ elementRest e es rest := by
  simp [listRest, elementRest, elementsChars]

theorem listRest_next (e : Spaced Written) (es : List (Spaced Written)) (rest : List Char) :
    listRest false (e :: es) rest = ',' :: (e.before.map Blank.char ++ elementRest e es rest) := by
  simp [listRest, elementRest, elementsChars]

theorem closes_listRest (es : List (Spaced Written)) (rest : List Char) :
    Closes (listRest false es rest) := by
  intro c hc
  cases es with
  | nil =>
    obtain rfl : ']' = c := by simpa [listRest, elementsChars] using hc
    decide
  | cons e es =>
    obtain rfl : ',' = c := by simpa [listRest_next] using hc
    decide

/-- Members of an object and its end. -/
def objectRest (isFirst : Bool) (ms : List (Member Written)) (rest : List Char) : List Char :=
  membersChars isFirst ms ++ '\x7d' :: rest

theorem chars_object (inner : List Blank) (ms : List (Member Written)) (rest : List Char) :
    (Written.object inner ms).chars ++ rest =
      '\x7b' :: (inner.map Blank.char ++ objectRest true ms rest) := by
  simp [Written.chars, objectRest]

/-- What follows the key of a member. -/
def keyRest (m : Member Written) (ms : List (Member Written)) (rest : List Char) : List Char :=
  m.key.after.map Blank.char ++ ':' :: (m.value.before.map Blank.char ++ (m.value.value.chars ++
    (m.value.after.map Blank.char ++ objectRest false ms rest)))

theorem objectRest_first (inner : List Blank) (m : Member Written) (ms : List (Member Written))
    (rest : List Char) :
    inner.map Blank.char ++ objectRest true (m :: ms) rest =
      (inner ++ m.key.before).map Blank.char ++ ((Written.string m.key.value).chars ++
        keyRest m ms rest) := by
  simp [objectRest, keyRest, membersChars, Spaced.chars, Written.chars]

theorem objectRest_next (m : Member Written) (ms : List (Member Written)) (rest : List Char) :
    objectRest false (m :: ms) rest =
      ',' :: (m.key.before.map Blank.char ++ ((Written.string m.key.value).chars ++
        keyRest m ms rest)) := by
  simp [objectRest, keyRest, membersChars, Spaced.chars, Written.chars]

theorem closes_objectRest (ms : List (Member Written)) (rest : List Char) :
    Closes (objectRest false ms rest) := by
  intro c hc
  cases ms with
  | nil =>
    obtain rfl : '\x7d' = c := by simpa [objectRest, membersChars] using hc
    decide
  | cons m ms =>
    obtain rfl : ',' = c := by simpa [objectRest_next] using hc
    decide

end Json

namespace Document

/-! ## Scopes -/

section Values

variable (bs : List Blank) (v : Written) {rest : List Char}

/-- A mark of one byte, which is no blank. -/
theorem startsWith_mark {c : Char} (hc : c ∈ [',', ':', ']', '\x7d']) (rest : List Char) :
    StartsWith c (c :: rest) := by
  have hall : ∀ c ∈ [',', ':', ']', '\x7d'], IsAscii c ∧ isBlank (code c) = false :=
    forall_mem_of_all (by decide)
  exact ⟨rfl, (hall c hc).1, (hall c hc).2⟩

theorem yields_scopeName :
    Yields scopeName (bs.map Blank.char ++ (v.chars ++ rest))
      (v.string?.bind FailureScope.named?) rest := by
  refine (yields_string "variant identifier" bs v).bind fun name => ?_
  rw [FailureScope.named?]
  split
  · exact yields_pure _ _
  · split
    · exact yields_pure _ _
    · exact (alwaysFails_failHere _).yields

theorem yields_colon (rest : List Char) :
    Yields colon (bs.map Blank.char ++ ':' :: rest) (some ()) rest :=
  (yields_peekSolid bs (startsWith_mark (by decide) rest)).then (yields_skip (by decide) rest)

/-- Behind the name of a scope in an object, there is `null` and no other member. -/
theorem yields_scopeRest (found : FailureScope) (m : Member Written) (ms : List (Member Written)) :
    Yields (do
      colon
      null "unit"
      match ← peekSolid with
      | none => failHere .endOfObject
      | some b =>
        if b == code '\x7d' then
          skip
          return found
        else failHere .valueDue)
      (keyRest m ms rest) (m.value.value.null?.bind fun _ => if ms = [] then some found else none)
      rest := by
  refine (yields_colon m.key.after _).then ?_
  refine (yields_null "unit" m.value.before m.value.value).bind fun _ => ?_
  cases ms with
  | nil =>
    have hend : StartsWith '\x7d' (objectRest false [] rest) := startsWith_mark (by decide) rest
    exact (yields_peekSolid m.value.after hend).then
      ((yields_skip (by decide) rest).then (yields_pure _ _))
  | cons m' ms =>
    have hcomma : StartsWith ',' (objectRest false (m' :: ms) rest) := by
      rw [objectRest_next]
      exact startsWith_mark (by decide) _
    exact (yields_peekSolid m.value.after hcomma).then (alwaysFails_failHere _).yields

theorem yields_scope_object (inner : List Blank) (ms : List (Member Written)) :
    Yields scope (bs.map Blank.char ++ ((Written.object inner ms).chars ++ rest))
      (Written.object inner ms).scope? rest := by
  refine (yields_peekValue bs (startsWith_written _ rest)).then ?_
  rw [chars_object]
  refine (yields_skip (by decide) _).then ?_
  cases ms with
  | nil =>
    have hend : StartsWith '\x7d' (objectRest true [] rest) := startsWith_mark (by decide) rest
    have hnone : Yields scopeName (inner.map Blank.char ++ objectRest true [] rest) none rest :=
      (yields_string_none _ inner hend (by decide)).stop
    exact hnone.stop
  | cons m ms =>
    have hvalue : (Written.object inner (m :: ms)).scope? =
        ((Written.string m.key.value).string?.bind FailureScope.named?).bind fun found =>
          m.value.value.null?.bind fun _ => if ms = [] then some found else none := by
      cases ms with
      | nil => simp [Written.scope?, Written.string?]
      | cons m' ms => simp [Written.scope?]
    rw [objectRest_first, hvalue]
    exact (yields_scopeName _ _).bind fun found => yields_scopeRest found m ms

/-- A scope is read as its name tells, which may stand in an object. -/
theorem yields_scope :
    Yields scope (bs.map Blank.char ++ (v.chars ++ rest)) v.scope? rest := by
  have hpeek := yields_peekValue bs (startsWith_written v rest)
  by_cases hquote : code v.first = code '"'
  · obtain ⟨ps, rfl⟩ := string_of_first hquote
    exact hpeek.then (yields_scopeName [] (.string ps))
  by_cases hbrace : code v.first = code '\x7b'
  · obtain ⟨inner, ms, rfl⟩ := object_of_first hbrace
    exact yields_scope_object bs inner ms
  have hnone : v.scope? = none := by
    cases v with
    | string ps => exact absurd rfl hquote
    | object inner ms => exact absurd rfl hbrace
    | _ => rfl
  rw [hnone]
  refine hpeek.then ?_
  rw [if_neg (by simpa using hquote), if_neg (by simpa using hbrace)]
  exact (alwaysFails_failAhead _).yields

/-- The value of a setting is read as what it gives for that setting. -/
theorem yields_value (g : Given) (s : Setting) (hrest : Closes rest) :
    Yields (value g s) (bs.map Blank.char ++ (v.chars ++ rest)) ((v.as? s).map (g.put s)) rest := by
  cases s with
  | marker => exact (yields_string _ bs v).map _
  | valueMember => exact (yields_string _ bs v).map _
  | failureScope => exact (yields_scope bs v).map _
  | threads => exact (yields_natural_written _ bs v hrest).map _

end Values

/-! ## Lists -/

section Lists

variable {rest : List Char}

theorem closes_after (e : Spaced Written) (es : List (Spaced Written)) (rest : List Char) :
    Closes (e.after.map Blank.char ++ listRest false es rest) :=
  closes_blanks e.after (closes_listRest es rest)

theorem startsWith_element (e : Spaced Written) (es : List (Spaced Written)) (rest : List Char) :
    StartsWith e.value.first (elementRest e es rest) :=
  startsWith_written e.value _

theorem startsWith_listEnd (isFirst : Bool) (rest : List Char) :
    StartsWith ']' (listRest isFirst [] rest) := startsWith_mark (by decide) rest

theorem yields_atElement_end (isFirst : Bool) (bs : List Blank) :
    Yields (atElement isFirst) (bs.map Blank.char ++ listRest isFirst [] rest) (some false)
      (listRest isFirst [] rest) :=
  (yields_peekSolid bs (startsWith_listEnd isFirst rest)).then (yields_pure _ _)

theorem yields_atElement (isFirst : Bool) (bs : List Blank) (e : Spaced Written)
    (es : List (Spaced Written)) :
    Yields (atElement isFirst) (bs.map Blank.char ++ listRest isFirst (e :: es) rest) (some true)
      (elementRest e es rest) := by
  have hstart := startsWith_element e es rest
  have hend : ¬ (code e.value.first == code ']') = true := by
    simpa using code_first_ne e.value (by decide)
  cases isFirst with
  | true =>
    rw [listRest_first]
    refine (yields_peekSolid _ hstart).then ?_
    dsimp only
    rw [if_neg hend, if_pos rfl]
    exact yields_pure _ _
  | false =>
    rw [listRest_next]
    refine (yields_peekSolid bs (startsWith_mark (by decide) _)).then ?_
    refine (yields_skip (by decide) _).then ((yields_peekSolid e.before hstart).then ?_)
    dsimp only
    rw [if_neg hend]
    exact yields_pure _ _

theorem yields_listEnd (isFirst : Bool) (bs : List Blank) :
    Yields listEnd (bs.map Blank.char ++ listRest isFirst [] rest) (some ()) rest :=
  (yields_peekSolid bs (startsWith_listEnd isFirst rest)).then (yields_skip (by decide) rest)

theorem yields_listEnd_none (bs : List Blank) {c : Char} {input : List Char}
    (hstart : StartsWith c input) (hc : code c ≠ code ']') :
    Yields listEnd (bs.map Blank.char ++ input) none rest := by
  refine (yields_peekSolid bs hstart).then ?_
  dsimp only
  rw [if_neg (by simpa using hc)]
  refine AlwaysFails.yields ?_
  split
  · refine alwaysFails_bind _ fun _ => alwaysFails_bind _ fun next => ?_
    split
    · exact alwaysFails_failAhead _
    · exact alwaysFails_failAhead _
  · exact alwaysFails_failAhead _

/-- No element may be left at the end of a list. -/
theorem yields_listEnd_left (isFirst : Bool) (bs : List Blank) (e : Spaced Written)
    (es : List (Spaced Written)) :
    Yields listEnd (bs.map Blank.char ++ listRest isFirst (e :: es) rest) none rest := by
  cases isFirst with
  | true =>
    rw [listRest_first]
    exact yields_listEnd_none _ (startsWith_element e es rest) (code_first_ne e.value (by decide))
  | false =>
    rw [listRest_next]
    exact yields_listEnd_none bs (startsWith_mark (by decide) _) (by decide)

/-- The elements of a list are read for the settings in order, and then the list ends. -/
theorem yields_elements (isFirst : Bool) (g : Given) (ss : List Setting) (bs : List Blank)
    (es : List (Spaced Written)) :
    Yields (do
      let g ← elements isFirst g ss
      listEnd
      return g)
      (bs.map Blank.char ++ listRest isFirst es rest) (givenInOrder es ss g) rest := by
  -- Either of settings and elements may run out first. Elements that are left over are refused
  -- where the list should end.
  induction ss generalizing isFirst g bs es with
  | nil =>
    refine (yields_pure g _).then ?_
    cases es with
    | nil => exact (yields_listEnd isFirst bs).then (yields_pure _ _)
    | cons e es => exact (yields_listEnd_left isFirst bs e es).stop
  | cons s ss ih =>
    rw [elements, bind_assoc]
    cases es with
    | nil =>
      refine (yields_atElement_end isFirst bs).then ((yields_pure g _).then ?_)
      exact (yields_listEnd isFirst []).then (yields_pure _ _)
    | cons e es =>
      refine (yields_atElement isFirst bs e es).then ?_
      have hvalue : givenInOrder (e :: es) (s :: ss) g =
          ((e.value.as? s).map (g.put s)).bind (givenInOrder es ss) := by
        rw [Option.bind_map]
        rfl
      rw [if_pos rfl, bind_assoc, hvalue]
      exact (yields_value [] e.value g s (closes_after e es rest)).bind
        fun g' => ih false g' e.after es

end Lists

/-! ## Objects -/

theorem alwaysFails_refuseKey {α : Type} (reason : Reason) :
    AlwaysFails (refuseKey reason : Reader α) := by
  refine alwaysFails_bind _ fun next => ?_
  dsimp only
  split
  · exact alwaysFails_bind _ fun _ => alwaysFails_failHere reason
  · exact alwaysFails_failHere reason

section Objects

variable {rest : List Char}

theorem startsWith_objectEnd (isFirst : Bool) (rest : List Char) :
    StartsWith '\x7d' (objectRest isFirst [] rest) := startsWith_mark (by decide) rest

theorem startsWith_key (m : Member Written) (ms : List (Member Written)) (rest : List Char) :
    StartsWith '"' ((Written.string m.key.value).chars ++ keyRest m ms rest) :=
  startsWith_written (.string m.key.value) _

theorem yields_atKey_end (isFirst : Bool) (bs : List Blank) :
    Yields (atKey isFirst) (bs.map Blank.char ++ objectRest isFirst [] rest) (some false)
      (objectRest isFirst [] rest) :=
  (yields_peekSolid bs (startsWith_objectEnd isFirst rest)).then (yields_pure _ _)

theorem yields_atKey (isFirst : Bool) (bs : List Blank) (m : Member Written)
    (ms : List (Member Written)) :
    Yields (atKey isFirst) (bs.map Blank.char ++ objectRest isFirst (m :: ms) rest) (some true)
      ((Written.string m.key.value).chars ++ keyRest m ms rest) := by
  have hstart := startsWith_key m ms rest
  cases isFirst with
  | true =>
    rw [objectRest_first]
    exact (yields_peekSolid _ hstart).then (yields_pure _ _)
  | false =>
    rw [objectRest_next]
    refine (yields_peekSolid bs (startsWith_mark (by decide) _)).then ?_
    refine (yields_skip (by decide) _).then ((yields_peekSolid m.key.before hstart).then ?_)
    exact yields_pure _ _

theorem length_le_objectRest (isFirst : Bool) (bs : List Blank) (ms : List (Member Written))
    (rest : List Char) :
    ms.length ≤ (utf8 (bs.map Blank.char ++ objectRest isFirst ms rest)).length := by
  have hmembers (isFirst : Bool) : ms.length ≤ (membersChars isFirst ms).length := by
    induction ms generalizing isFirst with
    | nil => exact Nat.zero_le _
    | cons m ms ih =>
      have hmore := ih false
      simp only [membersChars, List.length_append, List.length_cons]
      omega
  have hchars := length_le_length_utf8 (bs.map Blank.char ++ objectRest isFirst ms rest)
  have hall := hmembers isFirst
  simp only [objectRest, List.length_append, List.length_cons] at hchars ⊢
  omega

/-- The members of an object are read one after another. The end of the object is left. -/
theorem yields_members (n : Nat) (isFirst : Bool) (g : Given) (bs : List Blank)
    (ms : List (Member Written)) (hn : ms.length < n) :
    Yields (members n isFirst g) (bs.map Blank.char ++ objectRest isFirst ms rest)
      (givenByName ms g) ('\x7d' :: rest) := by
  -- The bound is the number of members at least, since each of them takes one of it.
  induction ms generalizing n isFirst g bs with
  | nil =>
    obtain ⟨n, rfl⟩ := Nat.exists_eq_add_of_lt hn
    exact (yields_atKey_end isFirst bs).then (yields_pure _ _)
  | cons m ms ih =>
    obtain _ | n := n
    · exact absurd hn (Nat.not_lt_zero _)
    have hvalue : givenByName (m :: ms) g = m.key.value.text?.bind fun name =>
        (Setting.ofName? name).bind fun s =>
          if g.has s then none
          else ((m.value.value.as? s).map (g.put s)).bind (givenByName ms) := by
      simp only [givenByName, Member.setting?, Option.bind_map, Option.bind_assoc]
      rfl
    refine (yields_atKey isFirst bs m ms).then ?_
    rw [chars_string, hvalue]
    refine (yields_skip (by decide) _).then ((yields_stringRest m.key.value _).bind fun name => ?_)
    cases Setting.ofName? name with
    | none => exact (alwaysFails_refuseKey _).yields
    | some s =>
      dsimp only [Option.bind_some]
      split
      · exact (alwaysFails_refuseKey _).bind.yields
      · refine (yields_colon m.key.after _).then ?_
        refine (yields_value m.value.before m.value.value g s (closes_blanks m.value.after
          (closes_objectRest ms rest))).bind fun g' => ?_
        exact ih n false g' m.value.after (Nat.lt_of_succ_lt_succ hn)

end Objects

/-! ## Documents -/

section Whole

variable {rest : List Char}

theorem yields_settings (bs : List Blank) (v : Written) :
    Yields settings (bs.map Blank.char ++ (v.chars ++ rest)) v.given? rest := by
  have hpeek := yields_peekValue bs (startsWith_written v rest)
  refine hpeek.then ?_
  by_cases hbracket : code v.first = code '['
  · obtain ⟨inner, es, rfl⟩ := list_of_first hbracket
    rw [chars_list]
    exact (yields_skip (by decide) _).then (yields_elements true {} Setting.all inner es)
  by_cases hbrace : code v.first = code '\x7b'
  · obtain ⟨inner, ms, rfl⟩ := object_of_first hbrace
    rw [chars_object]
    have hvalue : (Written.object inner ms).given? = (givenByName ms {}).bind some :=
      (Option.bind_fun_some _).symm
    have hread : Yields (do
        let g ← members
          ((utf8 (inner.map Blank.char ++ objectRest true ms rest)).length + 1) true {}
        skip
        return g) (inner.map Blank.char ++ objectRest true ms rest)
        (Written.object inner ms).given? rest := by
      rw [hvalue]
      have hlength := length_le_objectRest true inner ms rest
      refine (yields_members _ true {} inner ms (Nat.lt_succ_of_le hlength)).bind fun g => ?_
      exact (yields_skip (by decide) rest).then (yields_pure g rest)
    exact (yields_skip (by decide) _).then fun read => hread read
  have hnone : v.given? = none := by
    cases v with
    | list inner es => exact absurd rfl hbracket
    | object inner ms => exact absurd rfl hbrace
    | _ => rfl
  rw [hnone, if_neg (by simpa using hbracket), if_neg (by simpa using hbrace)]
  exact (alwaysFails_refuseValue _).yields

theorem yields_document (doc : Spaced Written) :
    Yields document (doc.chars Written.chars) doc.value.given? [] := by
  have hchars : doc.chars Written.chars =
      doc.before.map Blank.char ++ (doc.value.chars ++ doc.after.map Blank.char) :=
    List.append_assoc _ _ _
  rw [hchars, ← Option.bind_fun_some doc.value.given?]
  refine (yields_settings doc.before doc.value).bind fun g => ?_
  exact (yields_peekSolid_end doc.after).then (yields_pure g [])

end Whole

/-- A document is read as the settings that it gives; one that gives none is refused. -/
theorem read_text (doc : Spaced Written) : (read doc.text).toOption = doc.value.given? :=
  toOption_run (yields_document doc)

end Document

/-! ## Configurations -/

theorem ofJson_of_given {doc : Spaced Written} {g : Given} (hg : doc.value.given? = some g) :
    Config.ofJson doc.text = g.config.checked := by
  have hread := Document.read_text doc
  rw [hg] at hread
  unfold Config.ofJson
  cases hresult : Document.read doc.text with
  | ok g' =>
    rw [hresult] at hread
    obtain rfl : g' = g := Option.some.inj hread
    rfl
  | error fault =>
    rw [hresult] at hread
    contradiction

theorem ofJson_of_none {doc : Spaced Written} (hg : doc.value.given? = none) :
    ∃ text, Config.ofJson doc.text = .error (.configuration text) := by
  have hread := Document.read_text doc
  rw [hg] at hread
  unfold Config.ofJson
  cases hresult : Document.read doc.text with
  | ok g' =>
    rw [hresult] at hread
    contradiction
  | error fault => exact ⟨fault.text, rfl⟩

theorem fit_of_ofJson {text : String} {c : Config} (hc : Config.ofJson text = .ok c) : c.Fit := by
  unfold Config.ofJson at hc
  split at hc
  · contradiction
  · exact fit_of_checked hc

end MarkerInjection
