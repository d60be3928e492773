-- What a store with several handles answers after any history: the value that was
-- written last under the key, through whichever handle, or else the last that it
-- was filled with. Pairs of bytes that are no texts leave no trace in it.
import MarkerInjection.Config.Shared
import MarkerInjection.Proofs.JsonStrings

namespace MarkerInjection

/-! ## Bytes of texts -/

/-- The bytes of a text in UTF-8. -/
def bytesOf (text : String) : List UInt8 := text.toUTF8.toList

theorem bytesOf_eq (text : String) : bytesOf text = Json.utf8 text.toList := by
  rw [bytesOf, ← Json.toUTF8_ofList, String.ofList_toList]

/-- Bytes are decoded exactly if they are those of a text, and then to this text. -/
theorem decode?_eq_some_iff {bytes : List UInt8} {text : String} :
    ConfigStore.decode? bytes = some text ↔ bytes = bytesOf text := by
  constructor
  · intro hdecoded
    unfold ConfigStore.decode? String.fromUTF8? at hdecoded
    split at hdecoded
    · have hbytes : text.toByteArray = ⟨bytes.toArray⟩ := by
        rw [← Option.some.inj hdecoded]
        rfl
      rw [bytesOf, String.toUTF8_eq_toByteArray, hbytes, ByteArray.toList, Json.toList_loop]
      simp
    · contradiction
  · rintro rfl
    rw [ConfigStore.decode?, bytesOf_eq, Json.fromUTF8?_utf8, String.ofList_toList]

theorem decodePair?_eq_some_iff {pair : List UInt8 × List UInt8} {key value : String} :
    ConfigStore.decodePair? pair = some (key, value) ↔ pair = (bytesOf key, bytesOf value) := by
  obtain ⟨first, second⟩ := pair
  rw [Prod.mk.injEq, ← decode?_eq_some_iff, ← decode?_eq_some_iff]
  unfold ConfigStore.decodePair?
  cases ConfigStore.decode? first with
  | none => simp
  | some k =>
    cases ConfigStore.decode? second with
    | none => simp
    | some v => simp

/-! ## The last of several -/

/-- The last that is found in a list. -/
def lastOf {α β : Type} (find : α → Option β) (xs : List α) : Option β :=
  (xs.filterMap find).getLast?

section LastOf

variable {α β : Type} {find : α → Option β}

theorem lastOf_cons (x : α) (xs : List α) :
    lastOf find (x :: xs) = (lastOf find xs).or (find x) := by
  unfold lastOf
  rw [List.filterMap_cons]
  cases hx : find x with
  | none => simp
  | some b =>
    rw [List.getLast?_cons]
    cases (xs.filterMap find).getLast? with
    | none => rfl
    | some c => rfl

theorem lastOf_eq_none_iff {xs : List α} : lastOf find xs = none ↔ ∀ x ∈ xs, find x = none := by
  rw [lastOf, List.getLast?_eq_none_iff, List.filterMap_eq_nil_iff]

/-- Behind the last that is found no more is found. -/
theorem lastOf_eq_some_iff {xs : List α} {b : β} :
    lastOf find xs = some b ↔
      ∃ before x after, xs = before ++ x :: after ∧ find x = some b ∧
        ∀ y ∈ after, find y = none := by
  constructor
  · intro hb
    induction xs with
    | nil => simp [lastOf] at hb
    | cons x xs ih =>
      rw [lastOf_cons] at hb
      rcases hlater : lastOf find xs with _ | c
      · rw [hlater, Option.none_or] at hb
        exact ⟨[], x, xs, rfl, hb, lastOf_eq_none_iff.mp hlater⟩
      · rw [hlater, Option.some_or] at hb
        obtain ⟨before, y, after, rfl, hy, hafter⟩ := ih (hlater.trans hb)
        exact ⟨x :: before, y, after, rfl, hy, hafter⟩
  · rintro ⟨before, x, after, rfl, hx, hafter⟩
    have hnone : after.filterMap find = [] := List.filterMap_eq_nil_iff.mpr hafter
    simp [lastOf, hx, hnone]

end LastOf

/-! ## Stores that are filled -/

/-- The value of a pair, if it is under this key. -/
def valueUnder (key : String) (pair : String × String) : Option String :=
  if pair.1 = key then some pair.2 else none

namespace ConfigStore

theorem get?_empty (key : String) : empty.get? key = none := rfl

theorem get?_set (s : ConfigStore) (key name value : String) :
    (s.set name value).get? key = (valueUnder key (name, value)).or (s.get? key) := by
  unfold set get? valueUnder
  by_cases hname : name = key
  · simp [hname]
  · have hkey : (key == name) = false := by simpa using fun heq : key = name => hname heq.symm
    simp [List.lookup_cons, hkey, hname]

/-- A store holds the last of the values that it was filled with under a key. -/
theorem get?_ofPairs (pairs : List (String × String)) (key : String) :
    (ofPairs pairs).get? key = lastOf (valueUnder key) pairs := by
  have hfold (s : ConfigStore) :
      (pairs.foldl (fun s pair => s.set pair.1 pair.2) s).get? key =
        (lastOf (valueUnder key) pairs).or (s.get? key) := by
    induction pairs generalizing s with
    | nil => rfl
    | cons pair pairs ih =>
      rw [List.foldl_cons, ih, get?_set, lastOf_cons, Option.or_assoc]
  have hstore := hfold empty
  rwa [get?_empty, Option.or_none] at hstore

/-- The value of a pair of bytes, if it is a pair of texts and under this key. -/
def valueOfBytes (key : String) (pair : List UInt8 × List UInt8) : Option String :=
  (decodePair? pair).bind (valueUnder key)

theorem get?_ofBytePairs (pairs : List (List UInt8 × List UInt8)) (key : String) :
    (ofBytePairs pairs).get? key = lastOf (valueOfBytes key) pairs := by
  rw [ofBytePairs, get?_ofPairs, lastOf, List.filterMap_filterMap]
  rfl

theorem valueOfBytes_eq_some_iff {key value : String} {pair : List UInt8 × List UInt8} :
    valueOfBytes key pair = some value ↔ pair = (bytesOf key, bytesOf value) := by
  rw [← decodePair?_eq_some_iff, valueOfBytes, Option.bind_eq_some_iff]
  constructor
  · rintro ⟨⟨name, found⟩, hpair, hfound⟩
    unfold valueUnder at hfound
    split at hfound
    · rename_i hname
      obtain rfl : name = key := hname
      rw [hpair, ← Option.some.inj hfound]
    · contradiction
  · exact fun hpair => ⟨(key, value), hpair, by simp [valueUnder]⟩

/-- A pair that is no pair of texts adds nothing. -/
theorem ofBytePairs_of_noText {before after : List (List UInt8 × List UInt8)}
    {bad : List UInt8 × List UInt8}
    (hbad : (∀ key, bad.1 ≠ bytesOf key) ∨ ∀ value, bad.2 ≠ bytesOf value) :
    ofBytePairs (before ++ bad :: after) = ofBytePairs (before ++ after) := by
  have hnone : decodePair? bad = none := by
    rcases hfound : decodePair? bad with _ | ⟨key, value⟩
    · rfl
    · obtain rfl := decodePair?_eq_some_iff.mp hfound
      rcases hbad with hkey | hvalue
      · exact absurd rfl (hkey key)
      · exact absurd rfl (hvalue value)
  simp [ofBytePairs, hnone]

/-- Where all pairs are texts, their bytes fill a store as they do. -/
theorem ofBytePairs_of_texts (texts : List (String × String)) :
    ofBytePairs (texts.map fun (key, value) => (bytesOf key, bytesOf value)) = ofPairs texts := by
  rw [ofBytePairs, List.filterMap_map]
  have hall : decodePair? ∘ (fun (key, value) => (bytesOf key, bytesOf value)) = some :=
    funext fun (key, value) => decodePair?_eq_some_iff.mpr rfl
  rw [hall, List.filterMap_some]

end ConfigStore

/-! ## Histories -/

/-- The value that a step writes under the key, through whichever handle. -/
def writtenUnder (key : String) (x : Nat × StoreStep) : Option String :=
  match x.2 with
  | .set name value => valueUnder key (name, value)
  | _ => none

theorem writtenUnder_eq_some_iff {key value : String} {x : Nat × StoreStep} :
    writtenUnder key x = some value ↔ x.2 = .set key value := by
  obtain ⟨handle, step⟩ := x
  cases step with
  | set name value' => simp [writtenUnder, valueUnder]
  | get _ => simp [writtenUnder]
  | clone => simp [writtenUnder]
  | config => simp [writtenUnder]

/-- How many handles the steps make. -/
def clones (steps : List (Nat × StoreStep)) : Nat := steps.countP (·.2 == .clone)

/-- Each step goes through a handle that is there by then. -/
def Handled (handles : Nat) (steps : List (Nat × StoreStep)) : Prop :=
  ∀ k x, steps[k]? = some x → x.1 < handles + clones (steps.take k)

namespace SharedStore

/-- Takes steps one after the other, each through the handle of this number. -/
def run : SharedStore → List (Nat × StoreStep) → Option (SharedStore × List StoreAnswer)
  | s, [] => some (s, [])
  | s, (handle, step) :: steps => do
    let (s, answer) ← s.step handle step
    let (s, answers) ← s.run steps
    return (s, answer :: answers)

/-- All handles lead to this one store. -/
structure LeadsTo (s : SharedStore) (store : ConfigStore) : Prop where
  stores : s.stores = [store]
  handles : ∀ address ∈ s.handles, address = 0

theorem leadsTo_ofStore (store : ConfigStore) : (ofStore store).LeadsTo store :=
  ⟨rfl, fun _ => List.mem_singleton.mp⟩

section Steps

variable {s : SharedStore} {store : ConfigStore} (hleads : s.LeadsTo store)

include hleads

/-- A step through a handle is taken. All handles lead to one store after it too; it has what the
step writes, and only a clone adds a handle. -/
theorem step_of_lt {handle : Nat} (hhandle : handle < s.handles.length) (step : StoreStep) :
    ∃ next answer store', s.step handle step = some (next, answer) ∧ next.LeadsTo store' ∧
      next.handles.length = s.handles.length + clones [(handle, step)] ∧
      ∀ key, store'.get? key = (writtenUnder key (handle, step)).or (store.get? key) ∧
        (step = .get key → next = s ∧ answer = .value (store.get? key)) := by
  have hfirst : s.handles[handle]? = some 0 := by
    rw [List.getElem?_eq_getElem hhandle, hleads.handles _ (List.getElem_mem hhandle)]
  have hstore : s.stores[0]? = some store := by rw [hleads.stores]; rfl
  unfold SharedStore.step
  rw [hfirst, Option.bind_eq_bind, Option.bind_some, hstore, Option.bind_eq_bind,
    Option.bind_some]
  cases step with
  | get name =>
    refine ⟨_, _, store, rfl, hleads, rfl, fun key => ⟨rfl, ?_⟩⟩
    rintro ⟨⟩
    exact ⟨rfl, rfl⟩
  | set name value =>
    refine ⟨_, _, store.set name value, rfl, ⟨?_, hleads.handles⟩, rfl, fun key => ⟨?_, ?_⟩⟩
    · rw [hleads.stores, List.set_cons_zero]
    · exact ConfigStore.get?_set store key name value
    · intro hget
      contradiction
  | clone =>
    refine ⟨_, _, store, rfl, ⟨hleads.stores, ?_⟩, List.length_append, fun key => ⟨rfl, ?_⟩⟩
    · intro address haddress
      rcases List.mem_append.mp haddress with hold | hnew
      · exact hleads.handles address hold
      · exact List.mem_singleton.mp hnew
    · intro hget
      contradiction
  | config =>
    refine ⟨_, _, store, rfl, hleads, rfl, fun key => ⟨rfl, ?_⟩⟩
    intro hget
    contradiction

/-- Steps through handles are all taken. The store then has the last value written under the key,
and so it has each time that it is asked. -/
theorem run_of_handled {steps : List (Nat × StoreStep)}
    (hsteps : Handled s.handles.length steps) :
    ∃ after answers store', s.run steps = some (after, answers) ∧ after.LeadsTo store' ∧
      answers.length = steps.length ∧ after.handles.length = s.handles.length + clones steps ∧
      ∀ key, store'.get? key = (lastOf (writtenUnder key) steps).or (store.get? key) ∧
        ∀ k handle : Nat, steps[k]? = some (handle, .get key) → answers[k]? = some (.value
          ((lastOf (writtenUnder key) (steps.take k)).or (store.get? key))) := by
  induction steps generalizing s store with
  | nil => exact ⟨s, [], store, rfl, hleads, rfl, rfl, fun key => ⟨rfl, by simp⟩⟩
  | cons x steps ih =>
    obtain ⟨handle, step⟩ := x
    have hhandle : handle < s.handles.length := hsteps 0 (handle, step) rfl
    obtain ⟨next, answer, _, hstep, hnext, hmade, hwrites⟩ := step_of_lt hleads hhandle step
    have hclones (more : List (Nat × StoreStep)) :
        s.handles.length + clones ((handle, step) :: more) = next.handles.length + clones more := by
      rw [hmade, clones, clones, clones, List.countP_cons, List.countP_singleton]
      omega
    have hrest : Handled next.handles.length steps := by
      intro k y hy
      rw [← hclones]
      exact hsteps (k + 1) y hy
    obtain ⟨after, answers, final, hrun, hafter, hlength, hhandles, hkeys⟩ := ih hnext hrest
    refine ⟨after, answer :: answers, final, ?_, hafter, by simp [hlength], ?_,
      fun key => ⟨?_, ?_⟩⟩
    · simp [run, hstep, hrun]
    · rw [hclones, hhandles]
    · rw [(hkeys key).1, (hwrites key).1, lastOf_cons, Option.or_assoc]
    · intro k through hget
      cases k with
      | zero =>
        obtain ⟨-, rfl⟩ : handle = through ∧ step = .get key := by simpa using hget
        rw [((hwrites key).2 rfl).2]
        rfl
      | succ k =>
        have hanswer := (hkeys key).2 k through hget
        rw [List.getElem?_cons_succ, hanswer, (hwrites key).1, List.take_succ_cons, lastOf_cons,
          Option.or_assoc]

end Steps

end SharedStore

/-! ## What is due -/

/-- What is read under a key, when a store was filled with these pairs and these steps were taken
on it. -/
inductive DueValue (pairs : List (List UInt8 × List UInt8)) (past : List (Nat × StoreStep))
    (key : String) : Option String → Prop
  /-- The last write under the key, through whichever handle. -/
  | written {before after : List (Nat × StoreStep)} {handle : Nat} {value : String}
      (hpast : past = before ++ (handle, .set key value) :: after)
      (hlast : ∀ x ∈ after, ∀ other, x.2 ≠ .set key other) : DueValue pairs past key (some value)
  /-- The last pair of texts with the key, if nothing was written under it. -/
  | filled {before after : List (List UInt8 × List UInt8)} {value : String}
      (hpast : ∀ x ∈ past, ∀ other, x.2 ≠ .set key other)
      (hpairs : pairs = before ++ (bytesOf key, bytesOf value) :: after)
      (hlast : ∀ pair ∈ after, ∀ other, pair ≠ (bytesOf key, bytesOf other)) :
      DueValue pairs past key (some value)
  /-- Nothing was written under the key, and no pair of texts has it. -/
  | absent (hpast : ∀ x ∈ past, ∀ other, x.2 ≠ .set key other)
      (hpairs : ∀ pair ∈ pairs, ∀ other, pair ≠ (bytesOf key, bytesOf other)) :
      DueValue pairs past key none

section Due

variable {pairs : List (List UInt8 × List UInt8)} {past : List (Nat × StoreStep)} {key : String}

theorem writtenUnder_eq_none_iff {x : Nat × StoreStep} :
    writtenUnder key x = none ↔ ∀ other, x.2 ≠ .set key other := by
  simp only [Option.eq_none_iff_forall_ne_some, ne_eq, writtenUnder_eq_some_iff]

theorem valueOfBytes_eq_none_iff {pair : List UInt8 × List UInt8} :
    ConfigStore.valueOfBytes key pair = none ↔ ∀ other, pair ≠ (bytesOf key, bytesOf other) := by
  simp only [Option.eq_none_iff_forall_ne_some, ne_eq, ConfigStore.valueOfBytes_eq_some_iff]

theorem unwritten_iff : lastOf (writtenUnder key) past = none ↔
    ∀ x ∈ past, ∀ other, x.2 ≠ .set key other := by
  simp only [lastOf_eq_none_iff, writtenUnder_eq_none_iff]

theorem unfilled_iff : lastOf (ConfigStore.valueOfBytes key) pairs = none ↔
    ∀ pair ∈ pairs, ∀ other, pair ≠ (bytesOf key, bytesOf other) := by
  simp only [lastOf_eq_none_iff, valueOfBytes_eq_none_iff]

/-- What is due is the last write, or else what the store was filled with, and nothing else. -/
theorem dueValue_iff {found : Option String} :
    DueValue pairs past key found ↔
      found = (lastOf (writtenUnder key) past).or ((ConfigStore.ofBytePairs pairs).get? key) := by
  rw [ConfigStore.get?_ofBytePairs]
  constructor
  · intro hdue
    cases hdue with
    | @written before after handle value hpast hlast =>
      have hwritten : lastOf (writtenUnder key) past = some value :=
        lastOf_eq_some_iff.mpr ⟨before, _, after, hpast, writtenUnder_eq_some_iff.mpr rfl,
          fun x hx => writtenUnder_eq_none_iff.mpr (hlast x hx)⟩
      rw [hwritten, Option.some_or]
    | @filled before after value hpast hpairs hlast =>
      have hfilled : lastOf (ConfigStore.valueOfBytes key) pairs = some value :=
        lastOf_eq_some_iff.mpr ⟨before, _, after, hpairs,
          ConfigStore.valueOfBytes_eq_some_iff.mpr rfl,
          fun pair hpair => valueOfBytes_eq_none_iff.mpr (hlast pair hpair)⟩
      rw [unwritten_iff.mpr hpast, hfilled, Option.none_or]
    | absent hpast hpairs => rw [unwritten_iff.mpr hpast, unfilled_iff.mpr hpairs, Option.none_or]
  · rintro rfl
    rcases hwritten : lastOf (writtenUnder key) past with _ | value
    · have hpast := unwritten_iff.mp hwritten
      rcases hfilled : lastOf (ConfigStore.valueOfBytes key) pairs with _ | value
      · exact .absent hpast (unfilled_iff.mp hfilled)
      · obtain ⟨before, pair, after, hpairs, hpair, hlast⟩ := lastOf_eq_some_iff.mp hfilled
        obtain rfl := ConfigStore.valueOfBytes_eq_some_iff.mp hpair
        exact .filled hpast hpairs fun pair hpair => valueOfBytes_eq_none_iff.mp (hlast pair hpair)
    · obtain ⟨before, ⟨handle, step⟩, after, hpast, hstep, hlast⟩ := lastOf_eq_some_iff.mp hwritten
      obtain rfl : step = .set key value := writtenUnder_eq_some_iff.mp hstep
      exact .written hpast fun x hx => writtenUnder_eq_none_iff.mp (hlast x hx)

end Due

/-! ## The law -/

/-- A store is filled with pairs of bytes, and any steps follow, each through a handle that is
there by then. All are taken, and whatever handle is asked, it gives what is due by the pairs and
the steps so far, and nothing else is due. A pair whose key or value is no text changes nothing,
and pairs of texts fill the store as their bytes do. -/
theorem a_store_keeps_the_last_of_each_key (pairs : List (List UInt8 × List UInt8))
    (steps : List (Nat × StoreStep)) (hsteps : Handled 1 steps) :
    (∃ s answers, (SharedStore.ofStore (.ofBytePairs pairs)).run steps = some (s, answers) ∧
      answers.length = steps.length ∧ s.handles.length = 1 + clones steps ∧
      (∀ (k handle : Nat) (key : String), steps[k]? = some (handle, .get key) → ∃ found,
        answers[k]? = some (.value found) ∧
          ∀ due, DueValue pairs (steps.take k) key due ↔ due = found) ∧
      ∀ handle key, handle < s.handles.length → ∃ found,
        s.step handle (.get key) = some (s, .value found) ∧
          ∀ due, DueValue pairs steps key due ↔ due = found) ∧
    (∀ before bad after, pairs = before ++ bad :: after →
      (∀ key, bad.1 ≠ bytesOf key) ∨ (∀ value, bad.2 ≠ bytesOf value) →
      (SharedStore.ofStore (.ofBytePairs pairs)).run steps =
        (SharedStore.ofStore (.ofBytePairs (before ++ after))).run steps) ∧
    (∀ texts, pairs = texts.map (fun (key, value) => (bytesOf key, bytesOf value)) →
      (SharedStore.ofStore (.ofBytePairs pairs)).run steps =
        (SharedStore.ofStore (.ofPairs texts)).run steps) := by
  refine ⟨?_, ?_, ?_⟩
  · have hfilled := SharedStore.leadsTo_ofStore (.ofBytePairs pairs)
    obtain ⟨s, answers, store, hrun, hleads, hlength, hhandles, hkeys⟩ :=
      SharedStore.run_of_handled hfilled hsteps
    refine ⟨s, answers, hrun, hlength, hhandles, ?_, ?_⟩
    · intro k handle key hget
      exact ⟨_, (hkeys key).2 k handle hget, fun due => dueValue_iff⟩
    · intro handle key hhandle
      obtain ⟨_, _, _, hstep, -, -, hanswers⟩ :=
        SharedStore.step_of_lt hleads hhandle (.get key)
      obtain ⟨rfl, rfl⟩ := (hanswers key).2 rfl
      refine ⟨store.get? key, hstep, fun due => ?_⟩
      rw [(hkeys key).1]
      exact dueValue_iff
  · rintro before bad after rfl hbad
    rw [ConfigStore.ofBytePairs_of_noText hbad]
  · rintro texts rfl
    rw [ConfigStore.ofBytePairs_of_texts]

/-- A clone writes, and the first handle reads it. Before that, the handle reads the last pair of
texts: bytes that are cut off or stand for a surrogate are passed over. -/
theorem a_clone_writes_for_all_handles :
    let key := bytesOf "K"
    let pairs := [(key, bytesOf "old"), ([0xC3], bytesOf "x"), (key, bytesOf "new"),
      (key, [0xED, 0xA0, 0x80])]
    let steps := [(0, StoreStep.get "K"), (0, .clone), (1, .set "K" "written"), (0, .get "K")]
    Handled 1 steps ∧
      ∃ s answers, (SharedStore.ofStore (.ofBytePairs pairs)).run steps = some (s, answers) ∧
        answers[0]? = some (.value (some "new")) ∧
        answers[3]? = some (.value (some "written")) := by
  intro key pairs steps
  have hsteps : Handled 1 steps := by
    rintro (_ | _ | _ | _ | k) x hx
    · cases hx
      decide
    · cases hx
      decide
    · cases hx
      decide
    · cases hx
      decide
    · simp [steps] at hx
  obtain ⟨⟨s, answers, hrun, -, -, hgets, -⟩, -⟩ :=
    a_store_keeps_the_last_of_each_key pairs steps hsteps
  obtain ⟨first, hfirst, hdueFirst⟩ := hgets 0 0 "K" rfl
  obtain ⟨second, hsecond, hdueSecond⟩ := hgets 3 0 "K" rfl
  have hsurrogate : ConfigStore.decode? [0xED, 0xA0, 0x80] = none := by decide +kernel
  have hnew : DueValue pairs (steps.take 0) "K" (some "new") := by
    have hpairs : pairs = pairs.take 2 ++ (bytesOf "K", bytesOf "new") :: pairs.drop 3 := rfl
    refine .filled (by simp) hpairs fun pair hpair other htexts => ?_
    obtain rfl : pair = (key, [0xED, 0xA0, 0x80]) := by simpa [pairs] using hpair
    rw [decode?_eq_some_iff.mpr (congrArg Prod.snd htexts)] at hsurrogate
    contradiction
  have hwritten : DueValue pairs (steps.take 3) "K" (some "written") := by
    have hpast : steps.take 3 = steps.take 2 ++ (1, .set "K" "written") :: [] := rfl
    exact .written hpast (by simp)
  refine ⟨hsteps, s, answers, hrun, ?_, ?_⟩
  · rw [hfirst, (hdueFirst _).mp hnew]
  · rw [hsecond, (hdueSecond _).mp hwritten]

end MarkerInjection
