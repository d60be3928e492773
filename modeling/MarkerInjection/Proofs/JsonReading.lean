-- What a reader makes of a text: either a value and what is left of the text, or
-- a fault. Readers one after another, blanks, and values of the wrong kind.
import MarkerInjection.Proofs.JsonTexts

namespace MarkerInjection.Json

/-! ## Bytes -/

/-- The bytes of the characters. -/
def utf8 (cs : List Char) : List UInt8 := cs.flatMap String.utf8EncodeChar

@[simp]
theorem utf8_nil : utf8 [] = [] := rfl

theorem utf8_cons (c : Char) (cs : List Char) :
    utf8 (c :: cs) = String.utf8EncodeChar c ++ utf8 cs := rfl

theorem utf8_append (cs ds : List Char) : utf8 (cs ++ ds) = utf8 cs ++ utf8 ds :=
  List.flatMap_append

theorem length_le_length_utf8 (cs : List Char) : cs.length ≤ (utf8 cs).length := by
  induction cs with
  | nil => exact Nat.le_refl _
  | cons c cs ih =>
    have hpos := c.utf8Size_pos
    rw [utf8_cons, List.length_append, String.length_utf8EncodeChar, List.length_cons]
    omega

/-- A character that takes one byte. -/
def IsAscii (c : Char) : Prop := c.toNat < 128

instance (c : Char) : Decidable (IsAscii c) := inferInstanceAs (Decidable (_ < _))

/-- What a test shows of some characters, one by one. -/
theorem forall_mem_of_all {l : List Char} {P : Char → Prop} [DecidablePred P]
    (hall : (l.all fun c => decide (P c)) = true) : ∀ c ∈ l, P c :=
  fun c hc => of_decide_eq_true (List.all_eq_true.mp hall c hc)

theorem utf8_cons_of_ascii {c : Char} (hc : IsAscii c) (cs : List Char) :
    utf8 (c :: cs) = code c :: utf8 cs := by
  rw [utf8_cons, String.utf8EncodeChar_eq_singleton]
  · rfl
  · rw [Char.utf8Size_eq_one_iff]
    exact UInt32.le_iff_toNat_le.mpr (Nat.le_of_lt_succ hc)

/-! ## Readers -/

variable {α β : Type}

/-- The result is the value, with this text left, or a fault where there is no value. -/
def IsResult (result : Except Fault (α × Cursor)) (value : Option α) (rest : List Char) : Prop :=
  match value with
  | some a => ∃ read, result = .ok (a, ⟨read, utf8 rest⟩)
  | none => ∃ fault, result = .error fault

/-- On this text the reader comes to this value and leaves this rest, whatever was read before. -/
def Yields (r : Reader α) (input : List Char) (value : Option α) (rest : List Char) : Prop :=
  ∀ read, IsResult (r ⟨read, utf8 input⟩) value rest

/-- The reader comes to a fault wherever it is. -/
def AlwaysFails (r : Reader α) : Prop := ∀ c : Cursor, ∃ fault, r c = .error fault

section Sequences

variable {r : Reader α} {f : α → Reader β} {input middle rest : List Char}

theorem bind_of_ok {a : α} {c c' : Cursor} (hr : r c = .ok (a, c')) : (r >>= f) c = f a c' := by
  change Except.bind (r c) _ = _
  rw [hr]
  rfl

theorem bind_of_error {fault : Fault} {c : Cursor} (hr : r c = .error fault) :
    (r >>= f) c = .error fault := by
  change Except.bind (r c) _ = _
  rw [hr]
  rfl

theorem yields_pure (a : α) (input : List Char) : Yields (pure a) input (some a) input :=
  fun read => ⟨read, rfl⟩

theorem Yields.then {a : α} {value : Option β} (hr : Yields r input (some a) middle)
    (hf : Yields (f a) middle value rest) : Yields (r >>= f) input value rest := by
  intro read
  obtain ⟨read', hread'⟩ := hr read
  rw [bind_of_ok hread']
  exact hf read'

/-- Of a fault, nothing is left. -/
theorem Yields.leaving {left : List Char} (hr : Yields r input none left) (rest : List Char) :
    Yields r input none rest := hr

theorem Yields.stop (hr : Yields r input none middle) : Yields (r >>= f) input none rest := by
  intro read
  obtain ⟨fault, hfault⟩ := hr read
  exact ⟨fault, bind_of_error hfault⟩

/-- Two readers one after another come to a value if both of them do. -/
theorem Yields.bind {value : Option α} {g : α → Option β} (hr : Yields r input value middle)
    (hf : ∀ a, Yields (f a) middle (g a) rest) : Yields (r >>= f) input (value.bind g) rest := by
  cases value with
  | some a => exact hr.then (hf a)
  | none => exact hr.stop

theorem Yields.map {value : Option α} (hr : Yields r input value rest) (g : α → β) :
    Yields (r >>= fun a => pure (g a)) input (value.map g) rest := by
  rw [Option.map_eq_bind]
  exact hr.bind fun a => yields_pure _ _

theorem AlwaysFails.yields (hr : AlwaysFails r) : Yields r input none rest := fun _ => hr _

theorem alwaysFails_failHere (reason : Reason) : AlwaysFails (failHere reason : Reader α) :=
  fun _ => ⟨_, rfl⟩

theorem alwaysFails_failAhead (reason : Reason) : AlwaysFails (failAhead reason : Reader α) :=
  fun _ => ⟨_, rfl⟩

theorem AlwaysFails.bind (hr : AlwaysFails r) : AlwaysFails (r >>= f) := by
  intro c
  obtain ⟨fault, hfault⟩ := hr c
  exact ⟨fault, bind_of_error hfault⟩

/-- Whatever comes before it, a fault that comes in any case is one. -/
theorem alwaysFails_bind (r : Reader α) (hf : ∀ a, AlwaysFails (f a)) : AlwaysFails (r >>= f) := by
  intro c
  cases hrc : r c with
  | error fault => exact ⟨fault, bind_of_error hrc⟩
  | ok result =>
    rw [bind_of_ok hrc]
    exact hf result.1 result.2

end Sequences

/-! ## Single bytes -/

section Bytes

variable {c : Char} (hc : IsAscii c) (rest : List Char)
include hc

theorem yields_skip : Yields skip (c :: rest) (some ()) rest := by
  intro read
  rw [utf8_cons_of_ascii hc]
  exact ⟨_, rfl⟩

theorem yields_peek : Yields peek (c :: rest) (some (some (code c))) (c :: rest) := by
  intro read
  refine ⟨read, ?_⟩
  rw [utf8_cons_of_ascii hc]
  rfl

theorem yields_take : Yields take (c :: rest) (some (some (code c))) rest :=
  (yields_peek hc rest).then ((yields_skip hc rest).then (yields_pure _ _))

end Bytes

theorem yields_takeWord {word : List Char} (hword : ∀ c ∈ word, IsAscii c) (rest : List Char) :
    Yields (takeWord word) (word ++ rest) (some ()) rest := by
  induction word with
  | nil => exact yields_pure _ _
  | cons c word ih =>
    refine (yields_take (hword c (by simp)) (word ++ rest)).then ?_
    dsimp only
    rw [beq_self_eq_true, if_pos rfl]
    exact ih fun d hd => hword d (List.mem_cons_of_mem c hd)

theorem yields_peek_end : Yields peek [] (some none) [] := fun _ => ⟨_, rfl⟩

/-! ## Blanks -/

theorem isAscii_blank (b : Blank) : IsAscii b.char := by cases b <;> decide

theorem isBlank_blank (b : Blank) : isBlank (code b.char) = true := by cases b <;> rfl

/-- The text starts with this character of one byte, which is no blank. -/
structure StartsWith (c : Char) (input : List Char) : Prop where
  head : input.head? = some c
  ascii : IsAscii c
  solid : isBlank (code c) = false

theorem skipWhile_blanks (bs : List Blank) {input : List Char}
    (hstop : ∀ b ∈ (utf8 input).head?, isBlank b = false) :
    Yields (skipWhile isBlank) (bs.map Blank.char ++ input) (some ()) input := by
  intro read
  refine ⟨((bs.map fun b => code b.char).reverse ++ read), ?_⟩
  have hskip (read : List UInt8) : Cursor.skipWhile isBlank read
      (utf8 (bs.map Blank.char ++ input)) =
        ⟨(bs.map fun b => code b.char).reverse ++ read, utf8 input⟩ := by
    induction bs generalizing read with
    | nil =>
      cases hbytes : utf8 input with
      | nil => simp [hbytes, Cursor.skipWhile]
      | cons b bytes =>
        have hb : isBlank b = false := hstop b (by simp [hbytes])
        simp [hbytes, Cursor.skipWhile, hb]
    | cons b bs ih =>
      rw [List.map_cons, List.cons_append, utf8_cons_of_ascii (isAscii_blank b),
        Cursor.skipWhile, isBlank_blank, if_pos rfl, ih]
      simp
  change Except.ok ((), Cursor.skipWhile isBlank read (utf8 (bs.map Blank.char ++ input))) = _
  rw [hskip]

section Solid

variable {c : Char} {input : List Char}

theorem yields_peekSolid (bs : List Blank) (hc : StartsWith c input) :
    Yields peekSolid (bs.map Blank.char ++ input) (some (some (code c))) input := by
  obtain ⟨tail, rfl⟩ := List.head?_eq_some_iff.mp hc.head
  refine (skipWhile_blanks bs ?_).then (yields_peek hc.ascii tail)
  rw [utf8_cons_of_ascii hc.ascii]
  simpa using hc.solid

theorem yields_peekSolid_end (bs : List Blank) :
    Yields peekSolid (bs.map Blank.char) (some none) [] := by
  have hblanks : Yields (skipWhile isBlank) (bs.map Blank.char ++ []) (some ()) [] :=
    skipWhile_blanks bs (by simp)
  rw [List.append_nil] at hblanks
  exact hblanks.then yields_peek_end

theorem yields_peekValue (bs : List Blank) (hc : StartsWith c input) :
    Yields peekValue (bs.map Blank.char ++ input) (some (code c)) input :=
  (yields_peekSolid bs hc).then (yields_pure _ _)

end Solid

/-! ## Values of the wrong kind -/

theorem alwaysFails_refuseValue (wanted : String) :
    AlwaysFails (refuseValue wanted : Reader α) := by
  have hhere (reason : Reason) := alwaysFails_failHere (α := α) reason
  have hahead (reason : Reason) := alwaysFails_failAhead (α := α) reason
  refine alwaysFails_bind _ fun b => ?_
  cases b with
  | none => exact hahead _
  | some b =>
    dsimp only
    repeat' split
    all_goals
      first
      | exact hhere _
      | exact hahead _
      | exact alwaysFails_bind _ fun _ => hhere _
      | exact alwaysFails_bind _ fun _ => alwaysFails_bind _ fun _ => hhere _

end MarkerInjection.Json
