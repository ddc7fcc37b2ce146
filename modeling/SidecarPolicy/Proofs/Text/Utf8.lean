/-
Texts and their bytes.

The first byte of a character tells how many bytes follow and in which bounds the second one
lies; these bounds exclude what is no character.  The bytes of a character satisfy them.

* `Text.Utf8.first_two`, `Text.Utf8.first_three`, `Text.Utf8.first_four`: what the first byte
  of a longer character leads to;
* `Text.Utf8.scan_encodeChar`: **a character is read back from its bytes**, whatever follows;
* `Text.Utf8.decodeLossy_encode`: so is a text;
* `Text.Utf8.encode_ascii`: bytes below 128 are those of their characters.
-/
import Mathlib.Tactic
import SidecarPolicy.Text.Utf8

namespace SidecarPolicy.Text.Utf8

/-! ### Bytes -/

lemma toNat_byte {n : Nat} (h : n < 256) : (UInt8.ofNat n).toNat = n := by
  rw [UInt8.toNat_ofNat', Nat.mod_eq_of_lt h]

lemma first_two {b : Nat} (hb : 0xC2 ≤ b ∧ b ≤ 0xDF) :
    first b = (none, .inside (b - 0xC0) 0x80 0xBF 0) := by
  rw [first, if_neg (by omega), if_pos hb]

/-- The first of three bytes, with the bounds of the second one. -/
lemma first_three {b : Nat} (hb : 0xE0 ≤ b ∧ b ≤ 0xEF) :
    first b = (none, .inside (b - 0xE0) (if b = 0xE0 then 0xA0 else 0x80)
      (if b = 0xED then 0x9F else 0xBF) 1) := by
  by_cases he0 : b = 0xE0
  · subst he0
    rfl
  · by_cases hed : b = 0xED
    · subst hed
      rfl
    · rw [first, if_neg (by omega), if_neg (by omega), if_neg he0, if_neg hed, if_pos (by omega),
        if_neg he0, if_neg hed]

/-- The first of four bytes, with the bounds of the second one. -/
lemma first_four {b : Nat} (hb : 0xF0 ≤ b ∧ b ≤ 0xF4) :
    first b = (none, .inside (b - 0xF0) (if b = 0xF0 then 0x90 else 0x80)
      (if b = 0xF4 then 0x8F else 0xBF) 2) := by
  obtain ⟨hmin, hmax⟩ := hb
  interval_cases b <;> rfl

lemma scan_inside {value low high more : Nat} {b : UInt8} (h : low ≤ b.toNat ∧ b.toNat ≤ high)
    (rest : List UInt8) : scan (.inside value low high (more + 1)) (b :: rest) =
      scan (.inside (value * 64 + (b.toNat - 0x80)) 0x80 0xBF more) rest := by
  rw [scan, if_pos h]

lemma scan_last {value low high : Nat} {b : UInt8} (h : low ≤ b.toNat ∧ b.toNat ≤ high)
    (rest : List UInt8) : scan (.inside value low high 0) (b :: rest) =
      some (Char.ofNat (value * 64 + (b.toNat - 0x80))) :: scan .start rest := by
  rw [scan, if_pos h]

lemma scan_first {b : UInt8} {next : Expect} (h : first b.toNat = (none, next))
    (rest : List UInt8) : scan .start (b :: rest) = scan next rest := by
  rw [scan, h, emit]

/-! ### Characters -/

/-- **A character is read back from its bytes**, whatever follows. -/
theorem scan_encodeChar (c : Char) (rest : List UInt8) :
    scan .start (String.utf8EncodeChar c ++ rest) = some c :: scan .start rest := by
  have hvalid : c.val.toNat < 0xD800 ∨ 0xDFFF < c.val.toNat ∧ c.val.toNat < 0x110000 := c.valid
  have hchar : Char.ofNat c.val.toNat = c := Char.ofNat_toNat c
  unfold String.utf8EncodeChar
  generalize c.val.toNat = v at hvalid hchar ⊢
  have htail : (UInt8.ofNat (v % 64 + 128)).toNat = v % 64 + 128 := toNat_byte (by omega)
  dsimp only
  -- one byte, two, three or four
  split_ifs with hone htwo hthree
  · have hbyte : (UInt8.ofNat v).toNat = v := toNat_byte (by omega)
    rw [List.singleton_append, scan, hbyte, first, if_pos (by omega), hchar]
    rfl
  · have hbyte : (UInt8.ofNat (v / 64 % 32 + 192)).toNat = v / 64 % 32 + 192 :=
      toNat_byte (by omega)
    have hfirst := first_two (b := v / 64 % 32 + 192) (by omega)
    have hvalue : (v / 64 % 32 + 192 - 0xC0) * 64 + (v % 64 + 128 - 0x80) = v := by omega
    rw [List.cons_append, List.singleton_append, scan_first (hbyte ▸ hfirst),
      scan_last (by omega), hbyte, htail, hvalue, hchar]
  · have hbyte : (UInt8.ofNat (v / 4096 % 16 + 224)).toNat = v / 4096 % 16 + 224 :=
      toNat_byte (by omega)
    have hsecond : (UInt8.ofNat (v / 64 % 64 + 128)).toNat = v / 64 % 64 + 128 :=
      toNat_byte (by omega)
    have hfirst := first_three (b := v / 4096 % 16 + 224) (by omega)
    have hvalue : ((v / 4096 % 16 + 224 - 0xE0) * 64 + (v / 64 % 64 + 128 - 0x80)) * 64 +
        (v % 64 + 128 - 0x80) = v := by omega
    rw [List.cons_append, List.cons_append, List.singleton_append, scan_first (hbyte ▸ hfirst),
      scan_inside (by split_ifs <;> omega), scan_last (by omega), hbyte, hsecond, htail,
      hvalue, hchar]
  · have hbyte : (UInt8.ofNat (v / 262144 % 8 + 240)).toNat = v / 262144 % 8 + 240 :=
      toNat_byte (by omega)
    have hsecond : (UInt8.ofNat (v / 4096 % 64 + 128)).toNat = v / 4096 % 64 + 128 :=
      toNat_byte (by omega)
    have hthird : (UInt8.ofNat (v / 64 % 64 + 128)).toNat = v / 64 % 64 + 128 :=
      toNat_byte (by omega)
    have hfirst := first_four (b := v / 262144 % 8 + 240) (by omega)
    have hvalue : (((v / 262144 % 8 + 240 - 0xF0) * 64 + (v / 4096 % 64 + 128 - 0x80)) * 64 +
        (v / 64 % 64 + 128 - 0x80)) * 64 + (v % 64 + 128 - 0x80) = v := by omega
    rw [List.cons_append, List.cons_append, List.cons_append, List.singleton_append,
      scan_first (hbyte ▸ hfirst), scan_inside (by split_ifs <;> omega), scan_inside (by omega),
      scan_last (by omega), hbyte, hsecond, hthird, htail, hvalue, hchar]

/-! ### Texts -/

/-- **A text is read back from its bytes.** -/
theorem decodeLossy_encode (cs : List Char) : decodeLossy (encode cs) = cs := by
  have hscan : scan .start (encode cs) = cs.map some := by
    induction cs with
    | nil => rfl
    | cons c cs ih => rw [encode, List.flatMap_cons, scan_encodeChar, List.map_cons, ← ih, encode]
  rw [decodeLossy, hscan, List.map_map]
  exact List.map_id cs

/-- Bytes below 128 are those of their characters. -/
lemma encode_ascii {bs : List UInt8} (h : ∀ b ∈ bs, b.toNat < 0x80) :
    encode (bs.map fun b => Char.ofNat b.toNat) = bs := by
  have hone : ∀ b ∈ bs, String.utf8EncodeChar (Char.ofNat b.toNat) = [b] := by
    intro b hb
    have hlt := h b hb
    have hval : (Char.ofNat b.toNat).val.toNat = b.toNat := by
      rw [Char.ofNat, dif_pos (.inl (by omega))]
      rfl
    rw [String.utf8EncodeChar, hval, if_pos (by omega), UInt8.ofNat_toNat]
  rw [encode, List.flatMap_map]
  exact (List.flatMap_congr hone).trans (List.flatMap_singleton' bs)

end SidecarPolicy.Text.Utf8
