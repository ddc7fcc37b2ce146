/-
Forms are read back.

A byte that does not stand for itself is written as a sign for a space, or as a percent sign
and two digits; so neither of the signs that separate names, values and pairs is ever
written inside them.

* `Text.Form.hexValue?_hexDigit`, `Text.Form.unescape_escapeByte`: a digit is read back, and
  a byte is;
* `Text.Form.IsWritten`, `Text.Form.isWritten_escape`: the bytes that are written;
* `Text.Form.readPart_escape`: **a text is read back**;
* `Text.Form.parse_render`: **pairs are read back**;
* `Text.Form.parse_cons_separator`: a separator in front of them makes no difference.
-/
import SidecarPolicy.Proofs.Text.Pieces
import SidecarPolicy.Proofs.Text.Utf8
import SidecarPolicy.Text.Form

namespace SidecarPolicy.Text.Form

/-! ### Bytes -/

lemma hexValue?_hexDigit {n : UInt8} (h : n.toNat < 16) :
    hexValue? (hexDigit n) = some n ∧ isPlain (hexDigit n) = true := by
  have hall : ∀ k : Fin 16, hexValue? (hexDigit (UInt8.ofNat k)) = some (UInt8.ofNat k) ∧
      isPlain (hexDigit (UInt8.ofNat k)) = true := by decide
  have hn := hall ⟨n.toNat, h⟩
  rwa [UInt8.ofNat_toNat] at hn

lemma toNat_digits (b : UInt8) : (b / 16).toNat < 16 ∧ (b % 16).toNat < 16 ∧
    b / 16 * 16 + b % 16 = b := by
  have hb : b.toNat < 256 := b.toNat_lt
  have hdiv : (b / 16).toNat = b.toNat / 16 := UInt8.toNat_div b 16
  have hmod : (b % 16).toNat = b.toNat % 16 := UInt8.toNat_mod b 16
  refine ⟨by omega, by omega, UInt8.toNat_inj.mp ?_⟩
  rw [UInt8.toNat_add, UInt8.toNat_mul, hdiv, hmod]
  show (b.toNat / 16 * 16 % 256 + b.toNat % 16) % 256 = b.toNat
  omega

/-- A byte that is neither of the signs is read as it is. -/
lemma unescape_cons {b : UInt8} (hspace : b ≠ 0x2B) (hpercent : b ≠ 0x25) (rest : List UInt8) :
    unescape (b :: rest) = b :: unescape rest := by
  rw [unescape]
  · exact hspace
  · rintro _ _ _ rfl
    exact absurd rfl hpercent

/-- A byte is read back, whatever follows. -/
lemma unescape_escapeByte (b : UInt8) (rest : List UInt8) :
    unescape (escapeByte b ++ rest) = b :: unescape rest := by
  rw [escapeByte]
  split_ifs with hplain hspace
  · refine unescape_cons ?_ ?_ rest
    · rintro rfl
      exact absurd hplain (by decide)
    · rintro rfl
      exact absurd hplain (by decide)
  · rw [hspace]
    rfl
  · obtain ⟨hhigh, hlow, hsum⟩ := toNat_digits b
    show unescape (0x25 :: hexDigit (b / 16) :: hexDigit (b % 16) :: rest) = _
    rw [unescape, (hexValue?_hexDigit hhigh).1, (hexValue?_hexDigit hlow).1]
    dsimp only
    rw [hsum]

/-- The bytes that are written: those that stand for themselves, and the signs for a space and
for an escape. -/
def IsWritten (b : UInt8) : Prop := isPlain b = true ∨ b = 0x2B ∨ b = 0x25

lemma IsWritten.lt {b : UInt8} (h : IsWritten b) : b.toNat < 0x80 := by
  obtain hplain | rfl | rfl := h
  · simp only [isPlain, Bool.or_eq_true, Bool.and_eq_true, beq_iff_eq, decide_eq_true_eq,
      UInt8.le_iff_toNat_le, ← UInt8.toNat_inj, UInt8.reduceToNat] at hplain
    omega
  · decide
  · decide

lemma IsWritten.ne {b : UInt8} (h : IsWritten b) : b ≠ 0x26 ∧ b ≠ 0x3D := by
  constructor
  · rintro rfl
    obtain h | h | h := h <;> exact absurd h (by decide)
  · rintro rfl
    obtain h | h | h := h <;> exact absurd h (by decide)

/-! ### Texts -/

/-- Only such bytes are written for a text. -/
lemma isWritten_escape {s : String} : ∀ b ∈ escape s, IsWritten b := by
  intro b hb
  obtain ⟨b', -, hb⟩ := List.mem_flatMap.mp hb
  rw [escapeByte] at hb
  split_ifs at hb with hplain hspace
  · exact List.mem_singleton.mp hb ▸ .inl hplain
  · exact .inr (.inl (List.mem_singleton.mp hb))
  · obtain ⟨hhigh, hlow, -⟩ := toNat_digits b'
    simp only [List.mem_cons, List.not_mem_nil, or_false] at hb
    obtain rfl | rfl | rfl := hb
    · exact .inr (.inr rfl)
    · exact .inl (hexValue?_hexDigit hhigh).2
    · exact .inl (hexValue?_hexDigit hlow).2

/-- **A text is read back.** -/
theorem readPart_escape (s : String) : readPart (escape s) = s := by
  have hbytes : ∀ bs : List UInt8, unescape (bs.flatMap escapeByte) = bs := by
    intro bs
    induction bs with
    | nil => rfl
    | cons b bs ih => rw [List.flatMap_cons, unescape_escapeByte, ih]
  rw [readPart, escape, hbytes, Utf8.decodeLossy_encode, String.ofList_toList]

/-! ### Pairs -/

/-- A pair as it is written. -/
def written (pair : String × String) : List UInt8 := escape pair.1 ++ 0x3D :: escape pair.2

lemma readPair_written (pair : String × String) : readPair (written pair) = pair := by
  have hname : 0x3D ∉ escape pair.1 := fun h => (isWritten_escape _ h).ne.2 rfl
  rw [readPair, written, cut_append_cons hname]
  dsimp only
  rw [Option.getD_some, readPart_escape, readPart_escape]

/-- **Pairs are read back.** -/
theorem parse_render (pairs : List (String × String)) : parse (render pairs) = pairs := by
  have hrender : render pairs = [0x26].intercalate (pairs.map written) := by
    refine congrArg [0x26].intercalate (List.map_congr_left fun pair _ => ?_)
    rw [written, List.append_assoc, List.singleton_append]
  cases pairs with
  | nil => rfl
  | cons pair rest =>
      -- what separates the pairs is escaped in them
      have hseparator : ∀ piece ∈ (pair :: rest).map written, 0x26 ∉ piece := by
        intro piece hpiece hmem
        obtain ⟨pair', -, rfl⟩ := List.mem_map.mp hpiece
        obtain hmem | hmem := List.mem_append.mp hmem
        · exact (isWritten_escape _ hmem).ne.1 rfl
        · obtain h | hmem := List.mem_cons.mp hmem
          · exact absurd h (by decide)
          · exact (isWritten_escape _ hmem).ne.1 rfl
      have hkept : ((pair :: rest).map written).filter (! ·.isEmpty) =
          (pair :: rest).map written := by
        refine List.filter_eq_self.mpr fun piece hpiece => ?_
        obtain ⟨pair', -, rfl⟩ := List.mem_map.mp hpiece
        simp [written]
      have hback : readPair ∘ written = id := funext readPair_written
      rw [parse, hrender, splitOn_intercalate (by simp) hseparator, hkept, List.map_map, hback,
        List.map_id]

lemma parse_cons_separator (bs : List UInt8) : parse (0x26 :: bs) = parse bs := by
  rw [parse, splitOn, if_pos rfl]
  rfl

end SidecarPolicy.Text.Form
