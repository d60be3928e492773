-- String literals as they are written: quoted ones with any escapes and continued
-- lines, and raw ones with any number of hash signs. What each of them stands for,
-- that it is read so, and that a written text is read back.
import MarkerInjection.Source.Lexer
import MarkerInjection.Proofs.JsonTexts
import Mathlib.Algebra.Group.Nat.Defs
import Mathlib.Data.List.ReduceOption

namespace MarkerInjection.Source

open MarkerInjection.Text
open MarkerInjection.Json (HexDigit)

/-! ## Escapes -/

/-- The escapes by one letter. -/
inductive LetterEscape
  | newline
  | lineReturn
  | tab
  | backslash
  | tick
  | quote
  | zero
  deriving Repr, DecidableEq

def LetterEscape.letter : LetterEscape → Char
  | newline => 'n'
  | lineReturn => 'r'
  | tab => 't'
  | backslash => '\\'
  | tick => '\''
  | quote => '"'
  | zero => '0'

def LetterEscape.meaning : LetterEscape → Char
  | newline => '\n'
  | lineReturn => '\r'
  | tab => '\t'
  | backslash => '\\'
  | tick => '\''
  | quote => '"'
  | zero => '\x00'

/-- The number that hexadecimal digits make behind those that made `start`. -/
def hexValue (start : Nat) (ds : List HexDigit) : Nat :=
  ds.foldl (fun n d => 16 * n + d.value.val) start

/-- What stands between the braces of an escape by code point: one to six hexadecimal digits, of
which a digit comes first, and underscores among them. -/
structure CodePoint where
  marks : List (Option HexDigit)
  begins : ∃ d more, marks = some d :: more
  few : marks.reduceOption.length ≤ 6
  valid : (hexValue 0 marks.reduceOption).isValidChar

def CodePoint.value (u : CodePoint) : Nat := hexValue 0 u.marks.reduceOption

/-- A digit, or an underscore. -/
def markChar (mark : Option HexDigit) : Char := mark.elim '_' HexDigit.char

/-! ## Quoted literals -/

/-- A part of a quoted literal. -/
inductive Part
  /-- A character for itself. -/
  | plain (c : Char) (hplain : c ≠ '"' ∧ c ≠ '\\' ∧ c ≠ '\r')
  /-- The end of a line, with a carriage return that does not count. -/
  | lineEnd
  | letter (e : LetterEscape)
  /-- Two hexadecimal digits of a character below 128. -/
  | hex (high : Fin 8) (low : HexDigit)
  | code (u : CodePoint)
  /-- A backslash before the end of a line, perhaps one with a carriage return. -/
  | continued (returned : Bool)

def Part.chars : Part → List Char
  | plain c _ => [c]
  | lineEnd => ['\r', '\n']
  | letter e => ['\\', e.letter]
  | hex high low => ['\\', 'x', (HexDigit.mk (high.castLE (by decide)) false).char, low.char]
  | code u => ['\\', 'u', '{'] ++ u.marks.map markChar ++ ['}']
  | continued returned => '\\' :: if returned then ['\r', '\n'] else ['\n']

/-- The blank characters that are left out at the start of the line behind a continued one. -/
def isLeftOut (c : Char) : Bool := c = ' ' || c = '\t' || c = '\n'

/-- The text that parts stand for. Where a line was continued, blanks are left out up to the next
character that is none, and so are further ends of lines. -/
def meaningOf (continuing : Bool) : List Part → List Char
  | [] => []
  | .plain c _ :: ps =>
    if continuing && isLeftOut c then meaningOf true ps else c :: meaningOf false ps
  | .lineEnd :: ps => if continuing then meaningOf true ps else '\n' :: meaningOf false ps
  | .letter e :: ps => e.meaning :: meaningOf false ps
  | .hex high low :: ps => Char.ofNat (16 * high.val + low.value.val) :: meaningOf false ps
  | .code u :: ps => Char.ofNat u.value :: meaningOf false ps
  | .continued _ :: ps => meaningOf true ps

/-- Where the reader of a quoted literal is before a part. -/
def beforePart (continuing : Bool) : Progress := if continuing then .skippingBlanks else .plain

section Quoted

variable {p next : Progress} {c : Char} {r text rest : List Char}

theorem readQuoted_of_goesOn {made : Option Char}
    (hstep : stepQuoted .text p c = .goesOn next made)
    (hrest : readQuoted .text next r = some (text, rest)) :
    readQuoted .text p (c :: r) = some (made.toList ++ text, rest) := by
  cases made with
  | none => simp [readQuoted, hstep, hrest]
  | some m => simp [readQuoted, hstep, hrest]

theorem stepQuoted_backslash (continuing : Bool) :
    stepQuoted .text (beforePart continuing) '\\' = .goesOn .afterBackslash none := by
  cases continuing with
  | false => rfl
  | true => rfl

theorem readQuoted_of_escape (continuing : Bool) {made : Option Char}
    (hstep : stepQuoted .text .afterBackslash c = .goesOn next made)
    (hrest : readQuoted .text next r = some (text, rest)) :
    readQuoted .text (beforePart continuing) ('\\' :: c :: r) =
      some (made.toList ++ text, rest) := by
  have hescape := readQuoted_of_goesOn hstep hrest
  have hwhole := readQuoted_of_goesOn (stepQuoted_backslash continuing) hescape
  exact hwhole

theorem stepQuoted_plain (continuing : Bool) (hplain : c ≠ '"' ∧ c ≠ '\\' ∧ c ≠ '\r') :
    stepQuoted .text (beforePart continuing) c =
      if continuing && isLeftOut c then .goesOn .skippingBlanks none
      else .goesOn .plain (some c) := by
  obtain ⟨hquote, hbackslash, hreturn⟩ := hplain
  cases continuing with
  | false => simp [beforePart, stepQuoted, stepPlain, hquote, hbackslash, hreturn]
  | true =>
    have hblank : isLeftOut c = true ↔ (c = ' ' ∨ c = '\t') ∨ c = '\n' := by simp [isLeftOut]
    simp [beforePart, stepQuoted, stepPlain, hblank, hreturn, hquote, hbackslash]

end Quoted

/-! ## Escapes by number -/

theorem digitValue_char (d : HexDigit) : digitValue d.char = some d.value.val := by
  obtain ⟨value, capital⟩ := d
  revert value capital
  decide

theorem char_ne_mark (d : HexDigit) : d.char ≠ '_' ∧ d.char ≠ '}' := by
  obtain ⟨value, capital⟩ := d
  revert value capital
  decide

theorem hexEscape_of_low (high : Fin 8) (low : HexDigit) :
    hexEscape .text high.val low.value.val =
      .goesOn .plain (some (Char.ofNat (16 * high.val + low.value.val))) := by
  have hlow := low.value.isLt
  have hhigh := high.isLt
  have hsmall : ¬ 16 * high.val + low.value.val ≥ 128 := by omega
  simp [hexEscape, hsmall]

/-- Digits and underscores up to the closing brace, behind at least one digit. -/
theorem readQuoted_marks (marks : List (Option HexDigit)) {count value : Nat}
    {r text rest : List Char} (hpos : 0 < count) (hfew : count + marks.reduceOption.length ≤ 6)
    (hvalid : (hexValue value marks.reduceOption).isValidChar)
    (hrest : readQuoted .text .plain r = some (text, rest)) :
    readQuoted .text (.unicodeDigits count value) (marks.map markChar ++ '}' :: r) =
      some (Char.ofNat (hexValue value marks.reduceOption) :: text, rest) := by
  induction marks generalizing count value with
  | nil =>
    have hmade : charOfNat? value = some (Char.ofNat value) := if_pos hvalid
    have hstep : stepQuoted .text (.unicodeDigits count value) '}' =
        .goesOn .plain (some (Char.ofNat value)) := by
      simp [stepQuoted, stepUnicode, hpos, hmade]
    exact readQuoted_of_goesOn hstep hrest
  | cons mark marks ih =>
    cases mark with
    | none =>
      have hstep : stepQuoted .text (.unicodeDigits count value) '_' =
          .goesOn (.unicodeDigits count value) none := by
        simp [stepQuoted, stepUnicode, hpos]
      exact readQuoted_of_goesOn hstep (ih hpos hfew hvalid)
    | some d =>
      obtain ⟨hunderscore, hbrace⟩ := char_ne_mark d
      rw [List.reduceOption_cons_of_some, List.length_cons] at hfew
      have hstep : stepQuoted .text (.unicodeDigits count value) d.char =
          .goesOn (.unicodeDigits (count + 1) (16 * value + d.value.val)) none := by
        have hroom : count ≠ 6 := by omega
        simp [stepQuoted, stepUnicode, hunderscore, hbrace, digitValue_char, hroom]
      exact readQuoted_of_goesOn hstep (ih (Nat.succ_pos _) (by omega) hvalid)

theorem readQuoted_code (continuing : Bool) (u : CodePoint) {r text rest : List Char}
    (hrest : readQuoted .text .plain r = some (text, rest)) :
    readQuoted .text (beforePart continuing) ((Part.code u).chars ++ r) =
      some (Char.ofNat u.value :: text, rest) := by
  obtain ⟨d, more, hmarks⟩ := u.begins
  have hfew := u.few
  have hvalid := u.valid
  rw [hmarks, List.reduceOption_cons_of_some] at hfew hvalid
  have hbehind :=
    readQuoted_marks more Nat.one_pos (by simpa [Nat.add_comm] using hfew) hvalid hrest
  have hfirst : stepQuoted .text (.unicodeDigits 0 0) d.char =
      .goesOn (.unicodeDigits 1 (16 * 0 + d.value.val)) none := by
    obtain ⟨hunderscore, hbrace⟩ := char_ne_mark d
    simp [stepQuoted, stepUnicode, hunderscore, hbrace, digitValue_char]
  have hdigits := readQuoted_of_goesOn hfirst hbehind
  have hopen : stepQuoted .text .unicodeOpen '{' = .goesOn (.unicodeDigits 0 0) none := rfl
  have hescape :=
    readQuoted_of_escape continuing (c := 'u') rfl (readQuoted_of_goesOn hopen hdigits)
  simpa [Part.chars, hmarks, markChar, CodePoint.value, hexValue] using hescape

theorem readQuoted_hex (continuing : Bool) (high : Fin 8) (low : HexDigit)
    {r text rest : List Char} (hrest : readQuoted .text .plain r = some (text, rest)) :
    readQuoted .text (beforePart continuing) ((Part.hex high low).chars ++ r) =
      some (Char.ofNat (16 * high.val + low.value.val) :: text, rest) := by
  have hhigh : stepQuoted .text .hexFirst (HexDigit.mk (high.castLE (by decide)) false).char =
      .goesOn (.hexSecond high.val) none := by
    simp [stepQuoted, digitValue_char]
  have hlow : stepQuoted .text (.hexSecond high.val) low.char =
      .goesOn .plain (some (Char.ofNat (16 * high.val + low.value.val))) := by
    simp [stepQuoted, digitValue_char, hexEscape_of_low]
  exact readQuoted_of_escape continuing (c := 'x') rfl
    (readQuoted_of_goesOn hhigh (readQuoted_of_goesOn hlow hrest))

/-! ## Ends of lines -/

theorem readQuoted_lineEnd (continuing : Bool) {r text rest : List Char}
    (hrest : readQuoted .text (beforePart continuing) r = some (text, rest)) :
    readQuoted .text (beforePart continuing) (Part.lineEnd.chars ++ r) =
      some (if continuing then text else '\n' :: text, rest) := by
  cases continuing with
  | false =>
    have hreturn : stepQuoted .text .plain '\r' = .goesOn .afterReturn none := rfl
    have hfeed : stepQuoted .text .afterReturn '\n' = .goesOn .plain (some '\n') := rfl
    exact readQuoted_of_goesOn hreturn (readQuoted_of_goesOn hfeed hrest)
  | true =>
    have hreturn : stepQuoted .text .skippingBlanks '\r' = .goesOn .skippingReturn none := rfl
    have hfeed : stepQuoted .text .skippingReturn '\n' = .goesOn .skippingBlanks none := rfl
    exact readQuoted_of_goesOn hreturn (readQuoted_of_goesOn hfeed hrest)

theorem readQuoted_continued (continuing returned : Bool) {r text rest : List Char}
    (hrest : readQuoted .text .skippingBlanks r = some (text, rest)) :
    readQuoted .text (beforePart continuing) ((Part.continued returned).chars ++ r) =
      some (text, rest) := by
  cases returned with
  | false => exact readQuoted_of_escape continuing (c := '\n') rfl hrest
  | true =>
    have hfeed : stepQuoted .text .skippingReturn '\n' = .goesOn .skippingBlanks none := rfl
    exact readQuoted_of_escape continuing (c := '\r') rfl (readQuoted_of_goesOn hfeed hrest)

/-! ## All parts -/

/-- A quoted literal is read as what its parts stand for, up to its closing quote. -/
theorem readQuoted_parts (parts : List Part) (continuing : Bool) (rest : List Char) :
    readQuoted .text (beforePart continuing) (parts.flatMap Part.chars ++ '"' :: rest) =
      some (meaningOf continuing parts, rest) := by
  induction parts generalizing continuing with
  | nil =>
    cases continuing with
    | false => rfl
    | true => rfl
  | cons part parts ih =>
    rw [List.flatMap_cons, List.append_assoc]
    cases part with
    | plain c hplain =>
      have hstep := stepQuoted_plain continuing hplain
      rw [meaningOf]
      split at hstep
      · rename_i hout
        rw [if_pos hout]
        exact readQuoted_of_goesOn hstep (ih true)
      · rename_i hout
        rw [if_neg hout]
        exact readQuoted_of_goesOn hstep (ih false)
    | lineEnd =>
      rw [readQuoted_lineEnd continuing (ih continuing)]
      cases continuing with
      | _ => rfl
    | letter e =>
      have hstep : stepQuoted .text .afterBackslash e.letter = .goesOn .plain (some e.meaning) := by
        cases e with
        | _ => rfl
      exact readQuoted_of_escape continuing hstep (ih false)
    | hex high low => exact readQuoted_hex continuing high low (ih false)
    | code u => exact readQuoted_code continuing u (ih false)
    | continued returned => exact readQuoted_continued continuing returned (ih true)

/-! ## Raw literals -/

/-- What a raw literal holds between its quotes, and the number of hash signs around them. -/
structure RawText where
  hashes : Nat
  content : List Char
  few : hashes ≤ 255
  noBareReturn : hasNoBareReturn content = true
  /-- No quote in it has so many hash signs behind it. -/
  open_ : ∀ before after, content = before ++ '"' :: after →
    ¬ List.replicate hashes '#' <+: after

def RawText.chars (t : RawText) : List Char :=
  'r' :: (List.replicate t.hashes '#' ++ '"' :: (t.content ++ '"' :: List.replicate t.hashes '#'))

theorem afterHashes_replicate (n : Nat) (r : List Char) :
    afterHashes n (List.replicate n '#' ++ r) = some r := by
  induction n with
  | zero => rfl
  | succ n ih => simpa [List.replicate_succ, afterHashes] using ih

theorem eq_of_afterHashes {n : Nat} {s r : List Char} (hs : afterHashes n s = some r) :
    s = List.replicate n '#' ++ r := by
  induction n generalizing s with
  | zero => simpa [afterHashes] using hs
  | succ n ih =>
    unfold afterHashes at hs
    split at hs
    · rename_i hzero
      cases hzero
    · rename_i hsucc
      cases hsucc
      rw [List.replicate_succ, List.cons_append, ih hs]
    · cases hs

/-- Too few hash signs stand behind a quote of the content, so the literal goes on. -/
theorem afterHashes_eq_none {n : Nat} {after r : List Char}
    (hopen : ¬ List.replicate n '#' <+: after) : afterHashes n (after ++ '"' :: r) = none := by
  cases hs : afterHashes n (after ++ '"' :: r) with
  | none => rfl
  | some left =>
    have heq := eq_of_afterHashes hs
    have hhashes : List.replicate n '#' <+: after ++ '"' :: r := ⟨left, heq.symm⟩
    rcases List.prefix_or_prefix_of_prefix hhashes (List.prefix_append after _) with h | h
    · exact absurd h hopen
    · -- The hash signs would reach up to the closing quote.
      obtain ⟨more, hmore⟩ := h
      rw [← hmore, List.append_assoc, List.append_cancel_left_eq] at heq
      have hall : ∀ c ∈ more, c = '#' := fun c hc =>
        List.eq_of_mem_replicate (hmore ▸ List.mem_append_right after hc)
      cases more with
      | nil => exact absurd (by simp [← hmore]) hopen
      | cons c more =>
        have hquote : '"' = c := (List.cons.inj heq).1
        exact absurd (hquote.trans (hall c List.mem_cons_self)) (by decide)

theorem readRaw_cons {hashes : Nat} {c : Char} (hreturn : c ≠ '\r') (hquote : c ≠ '"')
    (s : List Char) : readRaw .text hashes (c :: s) =
      (readRaw .text hashes s).map fun (text, rest) => (c :: text, rest) := by
  simp [readRaw, rawAllowed, hreturn]

theorem readRaw_content {hashes : Nat} {content : List Char}
    (hreturn : hasNoBareReturn content = true)
    (hopen : ∀ before after, content = before ++ '"' :: after →
      ¬ List.replicate hashes '#' <+: after) (rest : List Char) :
    readRaw .text hashes (content ++ '"' :: (List.replicate hashes '#' ++ rest)) =
      some (content, rest) := by
  induction content using hasNoBareReturn.induct with
  | case1 => simp [readRaw, afterHashes_replicate]
  | case2 r ih =>
    have hlater := ih hreturn fun before after h =>
      hopen ('\r' :: '\n' :: before) after (by simp [h])
    simp [readRaw, hlater]
  | case3 => exact absurd hreturn (by simp [hasNoBareReturn])
  | case4 c r hfeed hnoReturn ih =>
    have hlater := ih (by simpa [hasNoBareReturn, hnoReturn] using hreturn)
      fun before after h => hopen (c :: before) after (by simp [h])
    by_cases hquote : c = '"'
    · subst hquote
      simp [readRaw, hlater, afterHashes_eq_none (hopen [] r rfl)]
    · rw [List.cons_append, readRaw_cons hnoReturn hquote, hlater]
      rfl

theorem rawOpening_replicate {n : Nat} (hn : n ≤ 255) (r : List Char) :
    rawOpening (List.replicate n '#' ++ '"' :: r) = some (n, r) := by
  have hhashes :
      (List.replicate n '#' ++ '"' :: r).takeWhile (· == '#') = List.replicate n '#' := by
    rw [List.takeWhile_append_of_pos (by simp)]
    simp
  simp [rawOpening, hhashes, Nat.not_lt.mpr hn]

/-! ## Literals -/

/-- A string literal as it is written. -/
inductive Spelling
  | quoted (parts : List Part)
  | raw (t : RawText)

namespace Spelling

def chars : Spelling → List Char
  | quoted parts => '"' :: (parts.flatMap Part.chars ++ ['"'])
  | raw t => t.chars

/-- The literal as a token. -/
def token (w : Spelling) : Token := .literal (String.ofList w.chars)

/-- The text that the literal stands for. -/
def text : Spelling → String
  | quoted parts => String.ofList (meaningOf false parts)
  | raw t => String.ofList t.content

end Spelling

theorem readString_spelling (w : Spelling) : readString w.chars = some (w.text.toList, []) := by
  cases w with
  | quoted parts =>
    have hparts := readQuoted_parts parts false []
    simpa [Spelling.chars, Spelling.text, readString, beforePart] using hparts
  | raw t =>
    have hcontent := readRaw_content t.noBareReturn t.open_ []
    simp only [List.append_nil] at hcontent
    simp [Spelling.chars, Spelling.text, RawText.chars, readString, rawOpening_replicate t.few,
      hcontent]

theorem stringValue?_spelling (w : Spelling) :
    stringValue? (String.ofList w.chars) = some w.text := by
  simp [stringValue?, readString_spelling]

/-! ## Texts as they are written -/

/-- The hexadecimal digits of a number, in small letters. -/
def hexDigits (n : Nat) : List HexDigit :=
  if h : n < 16 then [⟨⟨n, h⟩, false⟩]
  else hexDigits (n / 16) ++ [⟨⟨n % 16, Nat.mod_lt n (by decide)⟩, false⟩]

theorem char_of_lt {d : Nat} (hd : d < 16) :
    (HexDigit.mk ⟨d, hd⟩ false).char = Nat.digitChar d := by
  have hall : ∀ v : Fin 16, (HexDigit.mk v false).char = Nat.digitChar v.val := by decide
  exact hall ⟨d, hd⟩

theorem map_char_hexDigits (n : Nat) : (hexDigits n).map HexDigit.char = Nat.toDigits 16 n := by
  induction n using Nat.strongRecOn with
  | ind n ih =>
    rw [hexDigits]
    split
    · rename_i hsmall
      rw [Nat.toDigits_of_lt_base hsmall, List.map_singleton, char_of_lt hsmall]
    · rename_i hlarge
      rw [Nat.toDigits_of_base_le (by omega) (Nat.le_of_not_lt hlarge), List.map_append,
        ih (n / 16) (by omega), List.map_singleton, char_of_lt]

theorem hexValue_hexDigits (n : Nat) : hexValue 0 (hexDigits n) = n := by
  induction n using Nat.strongRecOn with
  | ind n ih =>
    rw [hexDigits]
    split
    · simp [hexValue]
    · rename_i hlarge
      have hbefore := ih (n / 16) (by omega)
      unfold hexValue at hbefore ⊢
      rw [List.foldl_append, hbefore]
      exact Nat.div_add_mod n 16

theorem length_hexDigits_le {n count : Nat} (hpos : 0 < count) (hn : n < 16 ^ count) :
    (hexDigits n).length ≤ count := by
  induction count generalizing n with
  | zero => exact absurd hpos (Nat.lt_irrefl 0)
  | succ count ih =>
    rw [hexDigits]
    split
    · simp
    · rename_i hlarge
      have hquotient : n / 16 < 16 ^ count := Nat.div_lt_of_lt_mul (by rwa [← Nat.pow_succ'])
      have hcount : 0 < count := Nat.pos_of_ne_zero fun hzero => by
        simp [hzero] at hquotient
        omega
      simpa using ih hcount hquotient

theorem hexDigits_begins (n : Nat) : ∃ d more, hexDigits n = d :: more := by
  refine List.exists_cons_of_ne_nil fun hnil => ?_
  rw [hexDigits] at hnil
  split at hnil
  · cases hnil
  · simp at hnil

theorem reduceOption_map_some (ds : List HexDigit) : (ds.map some).reduceOption = ds := by
  simp [List.reduceOption]

/-- The escape by the code point of a character. -/
def CodePoint.of (c : Char) : CodePoint where
  marks := (hexDigits c.toNat).map some
  begins := by
    obtain ⟨d, more, hdigits⟩ := hexDigits_begins c.toNat
    exact ⟨d, more.map some, by rw [hdigits, List.map_cons]⟩
  few := by
    have hsmall : c.toNat < 16 ^ 6 := by
      rcases c.valid with h | ⟨-, h⟩
      · exact Nat.lt_trans h (by decide)
      · exact Nat.lt_trans h (by decide)
    rw [reduceOption_map_some]
    exact length_hexDigits_le (by decide) hsmall
  valid := by
    rw [reduceOption_map_some, hexValue_hexDigits]
    exact c.valid

theorem value_of (c : Char) : (CodePoint.of c).value = c.toNat := by
  rw [CodePoint.value, CodePoint.of, reduceOption_map_some, hexValue_hexDigits]

theorem chars_of (c : Char) : (Part.code (.of c)).chars = escapeCodePoint c := by
  simp [Part.chars, CodePoint.of, escapeCodePoint, ← map_char_hexDigits, List.map_map,
    Function.comp_def, markChar]

/-- The escape by a letter that a character is written with, if there is one. -/
def LetterEscape.of? (c : Char) : Option LetterEscape :=
  [zero, tab, lineReturn, newline, quote, backslash].find? (·.meaning = c)

/-- A character as it is written before what follows it. -/
def Part.written (c : Char) (behind : List Char) : Part :=
  if c = '\x00' && startsOctal behind then .hex 0 ⟨⟨0, Nat.succ_pos 15⟩, false⟩
  else
    match LetterEscape.of? c with
    | some e => .letter e
    | none =>
      if h : (c ≠ '"' ∧ c ≠ '\\' ∧ c ≠ '\r') ∧ ¬ (isExtending c || !isPrintable c) then
        .plain c h.1
      else .code (.of c)

def writtenParts : List Char → List Part
  | [] => []
  | c :: r => Part.written c r :: writtenParts r

theorem meaning_of_letter {c : Char} {e : LetterEscape} (he : LetterEscape.of? c = some e) :
    e.meaning = c := by
  simpa using List.find?_some he

theorem escapeChar_of_letter {c : Char} {e : LetterEscape} (he : LetterEscape.of? c = some e) :
    escapeChar c = ['\\', e.letter] := by
  obtain rfl := meaning_of_letter he
  cases e with
  | tick => exact absurd he (by decide)
  | _ => rfl

theorem escapeChar_of_no_letter {c : Char} (hnone : LetterEscape.of? c = none) :
    escapeChar c = if isExtending c || !isPrintable c then escapeCodePoint c else [c] := by
  unfold escapeChar
  split
  case h_7 => rfl
  all_goals exact absurd hnone (by decide)

theorem ne_of_no_letter {c : Char} (hnone : LetterEscape.of? c = none) :
    c ≠ '"' ∧ c ≠ '\\' ∧ c ≠ '\r' := by
  refine ⟨?_, ?_, ?_⟩
  all_goals
    rintro rfl
    exact absurd hnone (by decide)

theorem chars_written (c : Char) (behind : List Char) :
    (Part.written c behind).chars =
      if c = '\x00' && startsOctal behind then ['\\', 'x', '0', '0'] else escapeChar c := by
  unfold Part.written
  split
  · rfl
  · split
    · rename_i e he
      rw [escapeChar_of_letter he]
      rfl
    · rename_i hnone
      rw [escapeChar_of_no_letter hnone]
      by_cases hescaped : (isExtending c || !isPrintable c) = true
      · rw [dif_neg fun h => h.2 hescaped, if_pos hescaped, chars_of]
      · rw [dif_pos ⟨ne_of_no_letter hnone, hescaped⟩, if_neg hescaped]
        rfl

theorem chars_writtenParts (cs : List Char) :
    (writtenParts cs).flatMap Part.chars = literalBody cs := by
  induction cs with
  | nil => rfl
  | cons c r ih => rw [writtenParts, List.flatMap_cons, ih, chars_written, literalBody]

/-- No part of a written text continues a line, and each stands for its character. -/
theorem meaningOf_writtenParts (cs : List Char) : meaningOf false (writtenParts cs) = cs := by
  induction cs with
  | nil => rfl
  | cons c r ih =>
    rw [writtenParts]
    unfold Part.written
    split
    · rename_i hzero
      rw [Bool.and_eq_true, decide_eq_true_eq] at hzero
      rw [meaningOf, ih, hzero.1]
      rfl
    · split
      · rename_i e he
        rw [meaningOf, meaning_of_letter he, ih]
      · split
        · simp [meaningOf, ih]
        · rw [meaningOf, value_of, ih, Char.ofNat_toNat]

/-- The literal that is written for a text. -/
def Spelling.written (s : String) : Spelling := .quoted (writtenParts s.toList)

theorem chars_spelling_written (s : String) :
    String.ofList (Spelling.written s).chars = literal s := by
  simp [Spelling.written, Spelling.chars, chars_writtenParts, literal]

/-- A written text is read back. -/
theorem stringValue?_literal (s : String) : stringValue? (literal s) = some s := by
  rw [← chars_spelling_written, stringValue?_spelling]
  simp [Spelling.written, Spelling.text, meaningOf_writtenParts]

end MarkerInjection.Source
