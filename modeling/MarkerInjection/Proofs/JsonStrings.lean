-- Strings as a reader takes them: characters for themselves, of up to four bytes
-- each, escapes by a letter, and escapes by numbers, two of which may make one
-- character.
import MarkerInjection.Proofs.JsonReading

namespace MarkerInjection.Json

/-! ## Bytes of texts -/

theorem toList_loop (bytes : ByteArray) (i : Nat) (r : List UInt8) :
    ByteArray.toList.loop bytes i r = r.reverse ++ bytes.data.toList.drop i := by
  fun_induction ByteArray.toList.loop bytes i r with
  | case1 i r hi ih =>
    have hlen : i < bytes.data.toList.length := by simpa using hi
    rw [ih, List.drop_eq_getElem_cons hlen]
    simp [ByteArray.get!, hi]
  | case2 i r hi =>
    rw [List.drop_eq_nil_of_le (by simpa using Nat.le_of_not_lt hi)]
    simp

theorem toUTF8_ofList (cs : List Char) : (String.ofList cs).toUTF8.toList = utf8 cs := by
  rw [String.toUTF8_eq_toByteArray, String.toByteArray_ofList, ByteArray.toList, toList_loop]
  simp [List.utf8Encode, List.data_toByteArray, utf8]

/-- A reader that runs over a whole text comes to its value. -/
theorem toOption_run {α : Type} {r : Reader α} {input rest : List Char} {value : Option α}
    (hr : Yields r input value rest) :
    (r.run' ⟨[], (String.ofList input).toUTF8.toList⟩).toOption = value := by
  have hread := hr []
  have hrun : r.run' ⟨[], (String.ofList input).toUTF8.toList⟩ =
      (r ⟨[], utf8 input⟩).map (·.1) := by
    rw [toUTF8_ofList]
    rfl
  rw [hrun]
  cases value with
  | some a =>
    obtain ⟨read', hok⟩ := hread
    rw [hok]
    rfl
  | none =>
    obtain ⟨fault, herror⟩ := hread
    rw [herror]
    rfl

theorem fromUTF8?_utf8 (cs : List Char) :
    String.fromUTF8? ⟨(utf8 cs).toArray⟩ = some (String.ofList cs) := by
  have hbytes : (⟨(utf8 cs).toArray⟩ : ByteArray) = cs.utf8Encode :=
    ByteArray.ext List.data_toByteArray.symm
  have hvalid : ByteArray.IsValidUTF8 ⟨(utf8 cs).toArray⟩ := .intro cs hbytes
  rw [String.fromUTF8?, dif_pos hvalid]
  congr 1
  rw [← String.toByteArray_inj, String.toByteArray_ofList, ← hbytes]
  rfl

/-! ## Characters for themselves -/

theorem toNat_code {c : Char} (hc : IsAscii c) : (code c).toNat = c.toNat := by
  have hlt : c.toNat < 128 := hc
  simp [code, Nat.mod_eq_of_lt (show c.toNat < 256 by omega)]

/-- The only byte of an ASCII character is its code, and every byte of any other is 128 or more. -/
theorem toNat_of_mem_encode {c : Char} {b : UInt8} (hb : b ∈ String.utf8EncodeChar c) :
    b.toNat = c.toNat ∨ 128 ≤ b.toNat := by
  have hval : c.val.toNat = c.toNat := rfl
  simp only [String.utf8EncodeChar, hval] at hb
  split at hb
  · left
    obtain rfl := List.mem_singleton.mp hb
    simp
    omega
  · right
    split at hb
    all_goals try split at hb
    all_goals
      simp only [List.mem_cons, List.not_mem_nil, or_false] at hb
      rcases hb with rfl | rfl | rfl | rfl
    all_goals simp; omega

/-- A byte that a string may hold for itself. -/
structure Ordinary (b : UInt8) : Prop where
  not_quote : b ≠ code '"'
  not_backslash : b ≠ code '\\'
  not_control : ¬ b < 32

theorem ordinary_of_plain (c : Plain) {b : UInt8} (hb : b ∈ String.utf8EncodeChar c.val) :
    Ordinary b := by
  obtain ⟨c, hquote, hbackslash, hcontrol⟩ := c
  have hother {d : Char} (hd : IsAscii d) (hne : c ≠ d) : b ≠ code d := by
    rintro rfl
    have hlt : d.toNat < 128 := hd
    rcases toNat_of_mem_encode hb with heq | hle
    · rw [toNat_code hd] at heq
      exact hne (Char.toNat_inj.mp heq.symm)
    · rw [toNat_code hd] at hle
      omega
  refine ⟨hother (by decide) hquote, hother (by decide) hbackslash, fun hlt => ?_⟩
  have hnat : b.toNat < 32 := UInt8.lt_iff_toNat_lt.mp hlt
  change b ∈ String.utf8EncodeChar c at hb
  rcases toNat_of_mem_encode hb with heq | hle
  · omega
  · omega

/-- Bytes for themselves are taken one by one. Those of one character are no text until the last of
them is there, so that this is about bytes. -/
theorem stringBytes_ordinary {bs : List UInt8} (hbs : ∀ b ∈ bs, Ordinary b) (n : Nat)
    (read tail : List UInt8) :
    stringBytes (bs.length + n) ⟨read, bs ++ tail⟩ =
      (stringBytes n ⟨bs.reverse ++ read, tail⟩).map fun (x, c) => (bs ++ x, c) := by
  induction bs generalizing read with
  | nil =>
    simp only [List.length_nil, Nat.zero_add, List.nil_append, List.reverse_nil]
    cases stringBytes n ⟨read, tail⟩ <;> rfl
  | cons b bs ih =>
    obtain ⟨hquote, hbackslash, hcontrol⟩ := hbs b (by simp)
    have hstep : stringBytes (bs.length + n + 1) ⟨read, b :: (bs ++ tail)⟩ =
        Except.map (fun (x, c) => (b :: x, c))
          (stringBytes (bs.length + n) ⟨b :: read, bs ++ tail⟩) := by
      have htake : take ⟨read, b :: (bs ++ tail)⟩ = .ok (some b, ⟨b :: read, bs ++ tail⟩) := rfl
      rw [stringBytes, bind_of_ok htake]
      simp only [beq_iff_eq, hquote, hbackslash, hcontrol, if_false]
      cases hrest : stringBytes (bs.length + n) ⟨b :: read, bs ++ tail⟩ with
      | ok result =>
        rw [bind_of_ok hrest]
        rfl
      | error fault =>
        rw [bind_of_error hrest]
        rfl
    rw [List.length_cons, Nat.add_right_comm, List.cons_append, hstep,
      ih (fun b' hb' => hbs b' (List.mem_cons_of_mem b hb'))]
    cases h : stringBytes n ⟨(b :: bs).reverse ++ read, tail⟩ <;> simp_all [Except.map]

section StringBytes

variable {n : Nat} {input rest : List Char} {value : Option (List UInt8)}

theorem yields_plain (c : Plain) (hrest : Yields (stringBytes n) input value rest) :
    Yields (stringBytes (c.val.utf8Size + n)) (c.val :: input)
      (value.map (String.utf8EncodeChar c.val ++ ·)) rest := by
  intro read
  have hbytes := stringBytes_ordinary (fun b hb => ordinary_of_plain c hb) n read (utf8 input)
  rw [String.length_utf8EncodeChar] at hbytes
  rw [utf8_cons, hbytes]
  have hafter := hrest ((String.utf8EncodeChar c.val).reverse ++ read)
  cases value with
  | some x =>
    obtain ⟨read', hread'⟩ := hafter
    exact ⟨read', by rw [hread']; rfl⟩
  | none =>
    obtain ⟨fault, hfault⟩ := hafter
    exact ⟨fault, by rw [hfault]; rfl⟩

theorem yields_quote : Yields (stringBytes (n + 1)) ('"' :: rest) (some []) rest :=
  (yields_take (by decide) rest).then (yields_pure _ _)

theorem toUTF8_toString (c : Char) : c.toString.toUTF8.toList = String.utf8EncodeChar c := by
  have hofList : c.toString = String.ofList [c] := rfl
  rw [hofList, toUTF8_ofList, utf8_cons, utf8_nil, List.append_nil]

theorem yields_backslash {c : Char} {tail : List Char}
    (hescape : Yields escape tail (some c) input)
    (hrest : Yields (stringBytes n) input value rest) :
    Yields (stringBytes (n + 1)) ('\\' :: tail) (value.map (String.utf8EncodeChar c ++ ·))
      rest := by
  refine (yields_take (by decide) tail).then (hescape.then ?_)
  rw [← toUTF8_toString]
  exact hrest.map _

theorem yields_backslash_none {tail : List Char} (hescape : Yields escape tail none input) :
    Yields (stringBytes (n + 1)) ('\\' :: tail) none rest :=
  (yields_take (by decide) tail).then hescape.stop

end StringBytes

/-! ## Escapes -/

theorem isAscii_letter (e : ShortEscape) : IsAscii e.letter := by cases e <;> decide

theorem yields_escape_short (e : ShortEscape) (rest : List Char) :
    Yields escape (e.letter :: rest) (some e.meaning) rest := by
  refine (yields_take (isAscii_letter e) rest).then ?_
  cases e <;> exact yields_pure _ _

theorem isAscii_hexDigit (d : HexDigit) : IsAscii d.char := by
  obtain ⟨value, capital⟩ := d
  revert value capital
  decide

theorem hexValue?_hexDigit (d : HexDigit) : hexValue? (code d.char) = some d.value.val := by
  obtain ⟨value, capital⟩ := d
  revert value capital
  decide

theorem hexEscape_of_number {a b d e : UInt8} {n : Nat} (hn : hexNumber? [a, b, d, e] = some n)
    (read bytes : List UInt8) :
    hexEscape ⟨read, a :: b :: d :: e :: bytes⟩ = .ok (n, ⟨e :: d :: b :: a :: read, bytes⟩) := by
  have hget : (get : Reader Cursor) ⟨read, a :: b :: d :: e :: bytes⟩ =
      .ok (⟨read, a :: b :: d :: e :: bytes⟩, ⟨read, a :: b :: d :: e :: bytes⟩) := rfl
  have hset : (set (Cursor.mk (e :: d :: b :: a :: read) bytes) : Reader PUnit)
      ⟨read, a :: b :: d :: e :: bytes⟩ = .ok (⟨⟩, ⟨e :: d :: b :: a :: read, bytes⟩) := rfl
  rw [hexEscape, bind_of_ok hget]
  dsimp only
  rw [bind_of_ok hset, hn]
  rfl

theorem yields_hexEscape (u : CodeUnit) (rest : List Char) :
    Yields hexEscape (u.chars ++ rest) (some u.value) rest := by
  intro read
  have hbytes : utf8 (u.chars ++ rest) =
      code u.a.char :: code u.b.char :: code u.c.char :: code u.d.char :: utf8 rest := by
    simp only [CodeUnit.chars, List.cons_append, List.nil_append,
      utf8_cons_of_ascii (isAscii_hexDigit _)]
  have hnumber : hexNumber? [code u.a.char, code u.b.char, code u.c.char, code u.d.char] =
      some u.value := by
    simp [hexNumber?, hexValue?_hexDigit, CodeUnit.value]
  rw [hbytes]
  exact ⟨_, hexEscape_of_number hnumber read (utf8 rest)⟩

theorem yields_pairByte {c : Char} (hc : IsAscii c) (rest : List Char) :
    Yields (pairByte c) (c :: rest) (some ()) rest := by
  refine (yields_take hc rest).then ?_
  dsimp only
  rw [bne_self_eq_false]
  exact yields_pure _ _

theorem yields_pairByte_none {c : Char} {input : List Char} (rest : List Char)
    (hhead : (utf8 input).head? ≠ some (code c)) : Yields (pairByte c) input none rest := by
  intro read
  unfold pairByte
  cases hbytes : utf8 input with
  | nil => exact ⟨_, rfl⟩
  | cons b bytes =>
    have htake : take ⟨read, b :: bytes⟩ = .ok (some b, ⟨b :: read, bytes⟩) := rfl
    have hne : b ≠ code c := by
      rintro rfl
      exact hhead (by rw [hbytes]; rfl)
    rw [bind_of_ok htake]
    dsimp only
    rw [if_pos (by simpa using hne)]
    exact ⟨_, rfl⟩

section Codes

variable {u v : CodeUnit} (rest : List Char)

theorem yields_codeEscape_single (hhigh : ¬ u.IsHigh) (hlow : ¬ u.IsLow) :
    Yields codeEscape (u.chars ++ rest) (some (Char.ofNat u.value)) rest := by
  simp only [CodeUnit.IsHigh, CodeUnit.IsLow] at hhigh hlow
  refine (yields_hexEscape u rest).then ?_
  rw [if_neg hlow, if_pos (by omega)]
  exact yields_pure _ _

theorem yields_codeEscape_low (hlow : u.IsLow) :
    Yields codeEscape (u.chars ++ rest) none rest := by
  simp only [CodeUnit.IsLow] at hlow
  refine (yields_hexEscape u rest).then ?_
  rw [if_pos hlow]
  exact (alwaysFails_failHere _).yields

/-- Behind a first half, the second is due. -/
theorem yields_codeEscape_high (hhigh : u.IsHigh) {input : List Char} {value : Option Char}
    (hpair : Yields (do
      pairByte '\\'
      pairByte 'u'
      let m ← hexEscape
      if m < 0xDC00 ∨ 0xDFFF < m then failHere .loneSurrogate
      else return Char.ofNat ((u.value - 0xD800) * 0x400 + (m - 0xDC00) + 0x10000))
      input value rest) :
    Yields codeEscape (u.chars ++ input) value rest := by
  simp only [CodeUnit.IsHigh] at hhigh
  refine (yields_hexEscape u input).then ?_
  rw [if_neg (by omega), if_neg (by omega)]
  exact hpair

/-- Two halves are a character if the second one is a second half. -/
theorem yields_codeEscape_pair (hhigh : u.IsHigh) :
    Yields codeEscape (u.chars ++ '\\' :: 'u' :: (v.chars ++ rest))
      (if v.IsLow then some (u.paired v) else none) rest := by
  refine yields_codeEscape_high rest hhigh ?_
  refine (yields_pairByte (by decide) _).then ((yields_pairByte (by decide) _).then
    ((yields_hexEscape v rest).then ?_))
  by_cases hlow : v.IsLow
  · rw [if_pos hlow]
    simp only [CodeUnit.IsLow] at hlow
    rw [if_neg (by omega), Nat.add_right_comm, Nat.add_comm (_ * _)]
    exact yields_pure _ _
  · rw [if_neg hlow]
    simp only [CodeUnit.IsLow] at hlow
    rw [if_pos (by omega)]
    exact (alwaysFails_failHere _).yields

/-- The first half of a pair with something else than a number behind it. -/
theorem yields_codeEscape_alone (hhigh : u.IsHigh) (ps : Pieces)
    (hps : ∀ v ps', ps ≠ .code v :: ps') :
    Yields codeEscape (u.chars ++ (ps.flatMap Piece.chars ++ '"' :: rest)) none rest := by
  refine yields_codeEscape_high rest hhigh ?_
  match ps, hps with
  | [], _ =>
    refine (yields_pairByte_none rest ?_).stop
    rw [List.flatMap_nil, List.nil_append, utf8_cons_of_ascii (by decide), List.head?_cons]
    decide
  | .plain c :: ps, _ =>
    refine (yields_pairByte_none rest ?_).stop
    obtain ⟨b, bytes, hbytes⟩ := List.exists_cons_of_length_pos
      (by rw [String.length_utf8EncodeChar]; exact c.val.utf8Size_pos)
    have hb : Ordinary b := ordinary_of_plain c (by rw [hbytes]; simp)
    simp [utf8, Piece.chars, hbytes, hb.not_backslash]
  | .short e :: ps, _ =>
    have hletter : code e.letter ≠ code 'u' := by cases e <;> decide
    have hnext : Yields (pairByte 'u') (e.letter :: (ps.flatMap Piece.chars ++ '"' :: rest)) none
        rest := by
      refine yields_pairByte_none rest ?_
      rw [utf8_cons_of_ascii (isAscii_letter e), List.head?_cons]
      simpa using hletter
    exact (yields_pairByte (by decide) _).then hnext.stop
  | .code v :: ps, hps => exact absurd rfl (hps v ps)

end Codes

/-! ## Whole strings -/

/-- What is left of a bound on a text is a bound on its end. -/
theorem exists_bound {c : Char} (front : List Char) {tail : List Char} {n : Nat}
    (hn : (utf8 (c :: (front ++ tail))).length < n) :
    ∃ m, n = m + c.utf8Size ∧ (utf8 tail).length < m := by
  rw [utf8_cons, utf8_append, List.length_append, List.length_append,
    String.length_utf8EncodeChar] at hn
  exact ⟨n - c.utf8Size, by omega, by omega⟩

theorem map_utf8_cons (c : Char) (value : Option (List Char)) :
    (value.map (c :: ·)).map utf8 = (value.map utf8).map (String.utf8EncodeChar c ++ ·) := by
  cases value <;> rfl

theorem flatMap_code (u : CodeUnit) (ps : Pieces) (tail : List Char) :
    (Piece.code u :: ps).flatMap Piece.chars ++ tail =
      '\\' :: ('u' :: u.chars ++ (ps.flatMap Piece.chars ++ tail)) := by
  simp [Piece.chars]

theorem yields_escape_code {tail rest : List Char} {value : Option Char}
    (hcode : Yields codeEscape tail value rest) : Yields escape ('u' :: tail) value rest :=
  (yields_take (by decide) tail).then hcode

/-- A string is read as what its pieces mean. -/
theorem yields_stringBytes (ps : Pieces) (rest : List Char) (n : Nat)
    (hn : (utf8 (ps.flatMap Piece.chars ++ '"' :: rest)).length < n) :
    Yields (stringBytes n) (ps.flatMap Piece.chars ++ '"' :: rest) (ps.meaning?.map utf8) rest := by
  -- The cases are those of the meaning. With every piece the bound goes down by its bytes.
  fun_induction Pieces.meaning? ps generalizing n with
  | case1 =>
    obtain ⟨m, rfl⟩ := Nat.exists_eq_add_of_lt hn
    exact yields_quote
  | case2 c ps ih =>
    obtain ⟨m, rfl, hm⟩ := exists_bound [] hn
    rw [map_utf8_cons, Nat.add_comm]
    exact yields_plain c (ih m hm)
  | case3 e ps ih =>
    obtain ⟨m, rfl, hm⟩ := exists_bound [e.letter] hn
    rw [map_utf8_cons]
    exact yields_backslash (yields_escape_short e _) (ih m hm)
  | case4 u hhigh v ps hlow ih =>
    rw [flatMap_code, flatMap_code] at hn ⊢
    obtain ⟨m, rfl, hm⟩ := exists_bound _ hn
    obtain ⟨k, rfl, hk⟩ := exists_bound _ hm
    rw [map_utf8_cons]
    have hpair := yields_codeEscape_pair (v := v) (ps.flatMap Piece.chars ++ '"' :: rest) hhigh
    rw [if_pos hlow] at hpair
    exact yields_backslash (yields_escape_code hpair) (ih _ (by omega))
  | case5 u hhigh v ps hlow =>
    rw [flatMap_code, flatMap_code] at hn ⊢
    obtain ⟨m, rfl, -⟩ := exists_bound _ hn
    have hpair := yields_codeEscape_pair (v := v) (ps.flatMap Piece.chars ++ '"' :: rest) hhigh
    rw [if_neg hlow] at hpair
    exact yields_backslash_none (yields_escape_code hpair)
  | case6 u ps hhigh hps =>
    rw [flatMap_code] at hn ⊢
    obtain ⟨m, rfl, -⟩ := exists_bound _ hn
    exact yields_backslash_none
      (yields_escape_code (yields_codeEscape_alone rest hhigh ps fun v ps' heq => hps v ps' heq))
  | case7 u ps hhigh hlow =>
    rw [flatMap_code] at hn ⊢
    obtain ⟨m, rfl, -⟩ := exists_bound _ hn
    exact yields_backslash_none (yields_escape_code (yields_codeEscape_low _ hlow))
  | case8 u ps hhigh hlow ih =>
    rw [flatMap_code] at hn ⊢
    obtain ⟨m, rfl, hm⟩ := exists_bound _ hn
    rw [map_utf8_cons]
    exact yields_backslash (yields_escape_code (yields_codeEscape_single _ hhigh hlow)) (ih m hm)

theorem yields_stringRest (ps : Pieces) (rest : List Char) :
    Yields stringRest (ps.flatMap Piece.chars ++ '"' :: rest) ps.text? rest := by
  intro read
  have hbytes := yields_stringBytes ps rest _ (Nat.lt_succ_self _)
  have htext := hbytes.map fun bytes => (String.fromUTF8? ⟨bytes.toArray⟩).getD ""
  have hvalue : (ps.meaning?.map utf8).map
      (fun bytes => (String.fromUTF8? ⟨bytes.toArray⟩).getD "") = ps.text? := by
    rw [Option.map_map]
    exact Option.map_congr fun cs _ => by simp [fromUTF8?_utf8]
  rw [hvalue] at htext
  exact htext read

end MarkerInjection.Json
