-- The order of texts and the order of their bytes. UTF-8 keeps the order of the
-- characters: of two characters the smaller one has the smaller bytes, and these
-- decide whatever is behind them. So texts ascend exactly as their bytes do.
import MarkerInjection.Proofs.SharedStores
import Mathlib.Data.String.Basic

namespace MarkerInjection

/-! ## Bytes of one character -/

/-- The first byte decides, unless the two are equal. -/
theorem byte_cons_lt {a b : Nat} (hb : b < 256) (hle : a ≤ b) {xs ys : List UInt8}
    (hrest : a = b → xs < ys) : UInt8.ofNat a :: xs < UInt8.ofNat b :: ys := by
  rw [List.cons_lt_cons_iff]
  rcases Nat.lt_or_eq_of_le hle with hlt | rfl
  · left
    rw [UInt8.lt_iff_toNat_lt, UInt8.toNat_ofNat', UInt8.toNat_ofNat']
    omega
  · exact Or.inr ⟨rfl, hrest rfl⟩

/-- The smaller character has the smaller bytes, whatever is behind the two. -/
theorem utf8EncodeChar_append_lt {c d : Char} (hcd : c < d) (xs ys : List UInt8) :
    String.utf8EncodeChar c ++ xs < String.utf8EncodeChar d ++ ys := by
  have hlt : c.val.toNat < d.val.toNat := Char.lt_def.mp hcd
  have hd : d.val.toNat < 0x110000 := by
    rcases d.valid with hsmall | hlarge
    · exact Nat.lt_trans hsmall (by decide)
    · exact hlarge.2
  simp only [String.utf8EncodeChar]
  generalize c.val.toNat = m at *
  generalize d.val.toNat = n at *
  -- With equal numbers of bytes the first that differs decides; the fewer bytes there are, the
  -- smaller the first is.
  split
  · repeat' split
    all_goals exact byte_cons_lt (by omega) (by omega) (by omega)
  · split
    · repeat' split
      · omega
      · refine byte_cons_lt (by omega) (by omega) fun hfirst => ?_
        exact byte_cons_lt (by omega) (by omega) (by omega)
      all_goals exact byte_cons_lt (by omega) (by omega) (by omega)
    · split
      · repeat' split
        · omega
        · omega
        · refine byte_cons_lt (by omega) (by omega) fun hfirst => ?_
          refine byte_cons_lt (by omega) (by omega) fun hsecond => ?_
          exact byte_cons_lt (by omega) (by omega) (by omega)
        · exact byte_cons_lt (by omega) (by omega) (by omega)
      · repeat' split
        · omega
        · omega
        · omega
        · refine byte_cons_lt (by omega) (by omega) fun hfirst => ?_
          refine byte_cons_lt (by omega) (by omega) fun hsecond => ?_
          refine byte_cons_lt (by omega) (by omega) fun hthird => ?_
          exact byte_cons_lt (by omega) (by omega) (by omega)

/-! ## Bytes of texts -/

theorem utf8_lt {cs ds : List Char} (hlt : cs < ds) : Json.utf8 cs < Json.utf8 ds := by
  induction hlt with
  | @nil d ds =>
    have hlength := d.utf8Size_pos
    rw [← String.length_utf8EncodeChar] at hlength
    rw [Json.utf8_nil, Json.utf8_cons]
    obtain ⟨b, bs, hbytes⟩ := List.exists_cons_of_length_pos hlength
    rw [hbytes]
    exact List.Lex.nil
  | rel hcd => exact utf8EncodeChar_append_lt hcd _ _
  | cons _ ih =>
    rw [Json.utf8_cons, Json.utf8_cons]
    exact List.append_left_lt ih

/-- A text is before another exactly if its bytes are. -/
theorem lt_iff_bytesOf_lt (s t : String) : s < t ↔ bytesOf s < bytesOf t := by
  have hbytes {s t : String} (hlt : s < t) : bytesOf s < bytesOf t := by
    rw [bytesOf_eq, bytesOf_eq]
    exact utf8_lt (String.lt_iff_toList_lt.mp hlt)
  constructor
  · exact hbytes
  · intro hlt
    rcases lt_trichotomy s t with hst | rfl | hts
    · exact hst
    · exact absurd hlt (List.lt_irrefl _)
    · exact absurd hlt (List.lt_asymm (hbytes hts))

end MarkerInjection
