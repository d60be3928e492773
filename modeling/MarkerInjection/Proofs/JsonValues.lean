-- Scalars among all values: each reader takes values of its kind and refuses those
-- of every other kind.
import MarkerInjection.Proofs.JsonStrings
import MarkerInjection.Proofs.JsonNumbers

namespace MarkerInjection.Json

/-! ## First characters -/

namespace Written

/-- The character that a value starts with. It tells the kind of the value. -/
def first : Written → Char
  | .null => 'n'
  | .boolean b => if b then 't' else 'f'
  | .number n => if n.minus then '-' else digitChar n.whole.first
  | .string _ => '"'
  | .list _ _ => '['
  | .object _ _ => '\x7b'

end Written

/-- What a number starts with. -/
def numberFirsts : List Char := ['-', '0', '1', '2', '3', '4', '5', '6', '7', '8', '9']

/-- What a value starts with. -/
def firsts : List Char := ['n', 't', 'f', '"', '[', '\x7b'] ++ numberFirsts

theorem first_number_mem (n : Numeral) : (Written.number n).first ∈ numberFirsts := by
  have hdigit (d : Fin 10) : digitChar d ∈ numberFirsts := by
    revert d
    decide
  rw [Written.first]
  split
  · decide
  · exact hdigit _

theorem first_mem (v : Written) : v.first ∈ firsts := by
  cases v with
  | number n => exact List.mem_append_right _ (first_number_mem n)
  | boolean b => cases b <;> simp [Written.first, firsts]
  | _ => simp [Written.first, firsts]

theorem head_written (v : Written) (rest : List Char) :
    (v.chars ++ rest).head? = some v.first := by
  cases v with
  | number n =>
    rw [Written.chars, Numeral.chars_append, Written.first]
    cases n.minus <;> rfl
  | boolean b => cases b <;> rfl
  | _ => rfl

theorem startsWith_written (v : Written) (rest : List Char) :
    StartsWith v.first (v.chars ++ rest) := by
  have hall : ∀ c ∈ firsts, IsAscii c ∧ isBlank (code c) = false :=
    forall_mem_of_all (by decide)
  obtain ⟨hascii, hsolid⟩ := hall v.first (first_mem v)
  exact ⟨head_written v rest, hascii, hsolid⟩

/-- What may follow a value does not start one. -/
theorem code_first_ne (v : Written) {c : Char} (hc : c ∈ delimiters) : code v.first ≠ code c := by
  have hall : ∀ f ∈ firsts, (delimiters.all fun c => decide (code f ≠ code c)) = true :=
    forall_mem_of_all (by decide)
  exact forall_mem_of_all (hall v.first (first_mem v)) c hc

/-- What a number starts with starts no other value. -/
theorem code_numberFirst_ne {c : Char} (hc : c ∈ numberFirsts) :
    ∀ d ∈ ['"', '[', '\x7b', 'n', 't', 'f'], code c ≠ code d := by
  have hall : ∀ c ∈ numberFirsts,
      (['"', '[', '\x7b', 'n', 't', 'f'].all fun d => decide (code c ≠ code d)) = true :=
    forall_mem_of_all (by decide)
  exact forall_mem_of_all (hall c hc)

theorem string_of_first {v : Written} (hv : code v.first = code '"') : ∃ ps, v = .string ps := by
  cases v with
  | string ps => exact ⟨ps, rfl⟩
  | number n => exact absurd hv (code_numberFirst_ne (first_number_mem n) _ (by simp))
  | boolean b => cases b <;> exact absurd hv (by decide)
  | _ => exact absurd hv (by simp only [Written.first]; decide)

theorem object_of_first {v : Written} (hv : code v.first = code '\x7b') :
    ∃ inner ms, v = .object inner ms := by
  cases v with
  | object inner ms => exact ⟨inner, ms, rfl⟩
  | number n => exact absurd hv (code_numberFirst_ne (first_number_mem n) _ (by simp))
  | boolean b => cases b <;> exact absurd hv (by decide)
  | _ => exact absurd hv (by simp only [Written.first]; decide)

theorem list_of_first {v : Written} (hv : code v.first = code '[') :
    ∃ inner es, v = .list inner es := by
  cases v with
  | list inner es => exact ⟨inner, es, rfl⟩
  | number n => exact absurd hv (code_numberFirst_ne (first_number_mem n) _ (by simp))
  | boolean b => cases b <;> exact absurd hv (by decide)
  | _ => exact absurd hv (by simp only [Written.first]; decide)

theorem null_of_first {v : Written} (hv : code v.first = code 'n') : v = .null := by
  cases v with
  | null => rfl
  | number n => exact absurd hv (code_numberFirst_ne (first_number_mem n) _ (by simp))
  | boolean b => cases b <;> exact absurd hv (by decide)
  | _ => exact absurd hv (by simp only [Written.first]; decide)

theorem number_of_first {v : Written}
    (hv : (code v.first == code '-' || isDigit (code v.first)) = true) : ∃ n, v = .number n := by
  cases v with
  | number n => exact ⟨n, rfl⟩
  | boolean b => cases b <;> exact absurd hv (by decide)
  | _ => exact absurd hv (by simp only [Written.first]; decide)

/-! ## Scalars -/

section Scalars

variable (wanted : String) (bs : List Blank) (v : Written) {rest : List Char}

theorem yields_string_none {c : Char} {input : List Char} (hstart : StartsWith c input)
    (hc : code c ≠ code '"') : Yields (string wanted) (bs.map Blank.char ++ input) none input := by
  refine (yields_peekValue bs hstart).then ?_
  rw [if_neg (by simpa using hc)]
  exact (alwaysFails_refuseValue wanted).yields

theorem chars_string (ps : Pieces) (rest : List Char) :
    (Written.string ps).chars ++ rest = '"' :: (ps.flatMap Piece.chars ++ '"' :: rest) := by
  simp [Written.chars, Pieces.chars]

/-- A string is read as the text it stands for. -/
theorem yields_string :
    Yields (string wanted) (bs.map Blank.char ++ (v.chars ++ rest)) v.string? rest := by
  have hstart := startsWith_written v rest
  by_cases hv : code v.first = code '"'
  · obtain ⟨ps, rfl⟩ := string_of_first hv
    refine (yields_peekValue bs hstart).then ?_
    rw [chars_string]
    exact (yields_skip (by decide) _).then (yields_stringRest ps rest)
  · have hnone : v.string? = none := by
      cases v with
      | string ps => exact absurd rfl hv
      | _ => rfl
    rw [hnone]
    exact (yields_string_none wanted bs hstart hv).leaving rest

/-- A number is read as the natural number it is. -/
theorem yields_natural_written (hrest : Closes rest) :
    Yields (natural wanted) (bs.map Blank.char ++ (v.chars ++ rest)) v.natural? rest := by
  by_cases hv : (code v.first == code '-' || isDigit (code v.first)) = true
  · obtain ⟨n, rfl⟩ := number_of_first hv
    exact yields_natural hrest wanted bs n
  · have hnone : v.natural? = none := by
      cases v with
      | number n =>
        have hall : ∀ c ∈ numberFirsts, (code c == code '-' || isDigit (code c)) = true :=
          forall_mem_of_all (by decide)
        exact absurd (hall _ (first_number_mem n)) hv
      | _ => rfl
    rw [hnone]
    refine (yields_peekValue bs (startsWith_written v rest)).then ?_
    dsimp only
    rw [if_neg hv]
    exact (alwaysFails_refuseValue wanted).yields

theorem yields_null :
    Yields (null wanted) (bs.map Blank.char ++ (v.chars ++ rest)) v.null? rest := by
  have hstart := startsWith_written v rest
  refine (yields_peekValue bs hstart).then ?_
  by_cases hv : code v.first = code 'n'
  · obtain rfl := null_of_first hv
    exact (yields_skip (by decide) _).then (yields_takeWord (forall_mem_of_all (by decide)) rest)
  · have hnone : v.null? = none := by
      cases v with
      | null => exact absurd rfl hv
      | _ => rfl
    rw [hnone, if_neg (by simpa using hv)]
    exact (alwaysFails_refuseValue wanted).yields

end Scalars

end MarkerInjection.Json
