/-
Numbers in decimal digits.

Digits are read from the left, and the number that has been read so far tells whether the
next character is a fault.  So a text of digits is read as the number that they stand for,
or has a first fault, and not both.

* `Text.readDigits_append`: digits that have been read count as the number that they stand
  for;
* `Text.FirstFault`, `Text.isDigits_or_firstFault`: the first fault of a text, and that every
  text has one unless it is a number within the bound;
* `Text.readDigits_eq_ok_iff`, `Text.readDigits_eq_error_iff`: **what is read of digits**;
* `Text.unsigned`, `Text.readNumber_eq`: what follows a sign;
* `Text.IsNumeral`: digits, behind at most one plus sign;
* `Text.readNumber_eq_ok_iff`, `Text.readNumber_eq_error_iff`: **what is read of a number**;
* `Text.readNumber_toDigits`: **a number within the bound is read back from its digits**.
-/
import Mathlib.Tactic
import SidecarPolicy.Text.Decimal

namespace SidecarPolicy.Text

variable {bound : Nat} {cs ds : List Char}

/-! ### Digits -/

/-- All characters are digits. -/
def IsDigits (cs : List Char) : Prop := ∀ c ∈ cs, c.isDigit = true

instance (cs : List Char) : Decidable (IsDigits cs) :=
  List.decidableBAll _ cs

/-- The number that digits stand for. -/
def valueOf (cs : List Char) : Nat := Nat.ofDigitChars 10 cs 0

lemma le_ofDigitChars (cs : List Char) (acc : Nat) : acc ≤ Nat.ofDigitChars 10 cs acc := by
  have hpower : 1 ≤ 10 ^ cs.length := Nat.one_le_pow _ _ (by omega)
  rw [Nat.ofDigitChars_eq_ofDigitChars_zero]
  nlinarith

lemma valueOf_concat (ds : List Char) (c : Char) :
    valueOf (ds ++ [c]) = valueOf ds * 10 + (c.toNat - 48) := by
  rw [valueOf, Nat.ofDigitChars_append, Nat.ofDigitChars_cons, Nat.ofDigitChars_nil, Nat.mul_comm]
  rfl

/-- Digits that have been read count as the number that they stand for, if it is within the
bound. -/
lemma readDigits_append (hdigits : IsDigits ds) {acc : Nat}
    (hbound : Nat.ofDigitChars 10 ds acc ≤ bound) (rest : List Char) :
    readDigits bound acc (ds ++ rest) = readDigits bound (Nat.ofDigitChars 10 ds acc) rest := by
  induction ds generalizing acc with
  | nil => rw [List.nil_append, Nat.ofDigitChars_nil]
  | cons c ds ih =>
      obtain ⟨hc, hdigits⟩ := List.forall_mem_cons.mp hdigits
      have hnext : Nat.ofDigitChars 10 (c :: ds) acc =
          Nat.ofDigitChars 10 ds (acc * 10 + (c.toNat - 48)) := by
        rw [Nat.ofDigitChars_cons, Nat.mul_comm]
        rfl
      rw [hnext] at hbound ⊢
      have hle := (le_ofDigitChars ds _).trans hbound
      rw [List.cons_append, readDigits, if_pos hc]
      dsimp only
      rw [if_pos hle]
      exact ih hdigits hbound

/-! ### Faults -/

/-- The first fault of a text, read from the left: behind digits that stand for a number
within the bound there is a character that is none, or a digit with which the number is too
large. -/
inductive FirstFault (bound : Nat) : List Char → NumberFault → Prop
  | invalidDigit {ds rest : List Char} {c : Char} (hdigits : IsDigits ds)
      (hbound : valueOf ds ≤ bound) (hc : c.isDigit = false) :
      FirstFault bound (ds ++ c :: rest) .invalidDigit
  | tooLarge {ds rest : List Char} {c : Char} (hdigits : IsDigits ds)
      (hbound : valueOf ds ≤ bound) (hc : c.isDigit = true)
      (hlarge : bound < valueOf (ds ++ [c])) : FirstFault bound (ds ++ c :: rest) .tooLarge

/-- A text has a first fault, unless it is a number within the bound; digits that have been
read make no difference. -/
lemma exists_firstFault (hdigits : IsDigits ds) (hbound : valueOf ds ≤ bound) (cs : List Char) :
    (IsDigits (ds ++ cs) ∧ valueOf (ds ++ cs) ≤ bound) ∨
      ∃ fault, FirstFault bound (ds ++ cs) fault := by
  induction cs generalizing ds with
  | nil => exact .inl ((List.append_nil ds).symm ▸ ⟨hdigits, hbound⟩)
  | cons c rest ih =>
      cases hc : c.isDigit with
      | false => exact .inr ⟨_, .invalidDigit hdigits hbound hc⟩
      | true =>
          by_cases hlarge : bound < valueOf (ds ++ [c])
          · exact .inr ⟨_, .tooLarge hdigits hbound hc hlarge⟩
          · have hmore : IsDigits (ds ++ [c]) :=
              List.forall_mem_append.mpr ⟨hdigits, List.forall_mem_singleton.mpr hc⟩
            rw [← List.singleton_append, ← List.append_assoc]
            exact ih hmore (Nat.le_of_not_lt hlarge)

/-- A text is a number within the bound, or has a first fault. -/
lemma isDigits_or_firstFault (bound : Nat) (cs : List Char) :
    (IsDigits cs ∧ valueOf cs ≤ bound) ∨ ∃ fault, FirstFault bound cs fault := by
  have hnil : IsDigits [] := List.forall_mem_nil _
  exact exists_firstFault hnil (Nat.zero_le bound) cs

/-- Digits are read as the number that they stand for, if it is within the bound. -/
lemma readDigits_eq_ok (hdigits : IsDigits cs) (hbound : valueOf cs ≤ bound) :
    readDigits bound 0 cs = .ok (valueOf cs) := by
  have hread := readDigits_append hdigits hbound []
  rwa [List.append_nil] at hread

lemma FirstFault.readDigits_eq {fault : NumberFault} (h : FirstFault bound cs fault) :
    readDigits bound 0 cs = .error fault := by
  cases h with
  | @invalidDigit ds rest c hdigits hbound hc =>
      rw [readDigits_append hdigits hbound, readDigits, if_neg (by simp [hc])]
  | @tooLarge ds rest c hdigits hbound hc hlarge =>
      rw [valueOf_concat] at hlarge
      rw [readDigits_append hdigits hbound, readDigits, if_pos hc]
      exact if_neg (Nat.not_le_of_lt hlarge)

/-- **A number is read** exactly of the digits that stand for it, if it is within the bound. -/
theorem readDigits_eq_ok_iff {n : Nat} :
    readDigits bound 0 cs = .ok n ↔ IsDigits cs ∧ valueOf cs ≤ bound ∧ n = valueOf cs := by
  constructor
  · intro h
    obtain ⟨hdigits, hbound⟩ | ⟨fault, hfault⟩ := isDigits_or_firstFault bound cs
    · exact ⟨hdigits, hbound, Except.ok.inj (h.symm.trans (readDigits_eq_ok hdigits hbound))⟩
    · cases h.symm.trans hfault.readDigits_eq
  · rintro ⟨hdigits, hbound, rfl⟩
    exact readDigits_eq_ok hdigits hbound

/-- **A fault is told** exactly if it is the first one of the text. -/
theorem readDigits_eq_error_iff {fault : NumberFault} :
    readDigits bound 0 cs = .error fault ↔ FirstFault bound cs fault := by
  constructor
  · intro h
    obtain ⟨hdigits, hbound⟩ | ⟨fault', hfault⟩ := isDigits_or_firstFault bound cs
    · cases h.symm.trans (readDigits_eq_ok hdigits hbound)
    · obtain rfl : fault = fault' := Except.error.inj (h.symm.trans hfault.readDigits_eq)
      exact hfault
  · exact FirstFault.readDigits_eq

/-! ### Numbers -/

/-- What is read digit by digit: a text, or what follows the plus sign that it begins with.  A
sign alone is a text of its own. -/
def unsigned : List Char → List Char
  | '+' :: c :: rest => c :: rest
  | cs => cs

/-- What follows a sign is read digit by digit. -/
lemma readNumber_eq (h : cs ≠ []) : readNumber bound cs = readDigits bound 0 (unsigned cs) := by
  rw [readNumber.eq_def, unsigned.eq_def]
  split
  · exact absurd rfl h
  · rfl
  · rfl
  · next c rest hlone hsign =>
      split
      · next c' rest' heq =>
          obtain ⟨rfl, rfl⟩ := List.cons.inj heq
          exact absurd rfl (hsign c' rest' rfl)
      · rfl

lemma unsigned_of_isDigits (h : IsDigits cs) : unsigned cs = cs := by
  unfold unsigned
  split
  · exact absurd (h '+' List.mem_cons_self) (by decide)
  · rfl

/-- A numeral: digits, of which there is one at least, behind at most one plus sign. -/
structure IsNumeral (cs digits : List Char) : Prop where
  signed : cs = digits ∨ cs = '+' :: digits
  ne_nil : digits ≠ []
  isDigits : IsDigits digits

lemma IsNumeral.unsigned_eq {digits : List Char} (h : IsNumeral cs digits) :
    unsigned cs = digits := by
  obtain ⟨rfl | rfl, hne, hdigits⟩ := h
  · exact unsigned_of_isDigits hdigits
  · obtain ⟨c, rest, rfl⟩ := List.exists_cons_of_ne_nil hne
    rfl

/-- If digits are all that is read of a text, it is a numeral. -/
lemma isNumeral_of_isDigits (hne : cs ≠ []) (h : IsDigits (unsigned cs)) :
    IsNumeral cs (unsigned cs) := by
  unfold unsigned at h ⊢
  split at h
  · exact ⟨.inr rfl, List.cons_ne_nil _ _, h⟩
  · exact ⟨.inl rfl, hne, h⟩

/-- **A number is read** exactly of the numerals within the bound. -/
theorem readNumber_eq_ok_iff {n : Nat} :
    readNumber bound cs = .ok n ↔
      ∃ digits, IsNumeral cs digits ∧ valueOf digits ≤ bound ∧ n = valueOf digits := by
  constructor
  · intro h
    have hne : cs ≠ [] := by
      rintro rfl
      cases h
    rw [readNumber_eq hne] at h
    obtain ⟨hdigits, hbound, hvalue⟩ := readDigits_eq_ok_iff.mp h
    exact ⟨_, isNumeral_of_isDigits hne hdigits, hbound, hvalue⟩
  · rintro ⟨digits, hnumeral, hbound, hvalue⟩
    have hne : cs ≠ [] := by
      rintro rfl
      exact hnumeral.ne_nil hnumeral.unsigned_eq.symm
    rw [readNumber_eq hne, hnumeral.unsigned_eq]
    exact readDigits_eq_ok_iff.mpr ⟨hnumeral.isDigits, hbound, hvalue⟩

/-- **A fault is told** exactly if there is nothing to read, or it is the first fault of what
is read. -/
theorem readNumber_eq_error_iff {fault : NumberFault} :
    readNumber bound cs = .error fault ↔
      cs = [] ∧ fault = .empty ∨ cs ≠ [] ∧ FirstFault bound (unsigned cs) fault := by
  by_cases hne : cs = []
  · subst hne
    simp [readNumber, eq_comm]
  · rw [readNumber_eq hne, readDigits_eq_error_iff]
    simp [hne]

/-- **A number within the bound is read back from its digits.** -/
theorem readNumber_toDigits {n : Nat} (h : n ≤ bound) :
    readNumber bound (Nat.toDigits 10 n) = .ok n := by
  have hdigits : IsDigits (Nat.toDigits 10 n) := fun c hc =>
    Nat.isDigit_of_mem_toDigits (by omega) le_rfl hc
  have hvalue : valueOf (Nat.toDigits 10 n) = n := Nat.ofDigitChars_ten_toDigits
  exact readNumber_eq_ok_iff.mpr
    ⟨_, ⟨.inl rfl, Nat.toDigits_ne_nil, hdigits⟩, hvalue.trans_le h, hvalue.symm⟩

end SidecarPolicy.Text
