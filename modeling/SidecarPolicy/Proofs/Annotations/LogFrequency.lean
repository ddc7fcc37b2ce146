/-
The frequency of log entries, read of any text.

What stands between the blanks of a text is a numeral, or has a first fault.  So a text is
read as the seconds that it spells, ten standing for none, or its first fault is told.

* `LogFrequency.seconds_ofSeconds`: the seconds of a number of 32 bits;
* `LogFrequency.ofText_eq_ok_iff`, `LogFrequency.ofText_eq_error_iff`: the texts that are
  read, and those of which a fault is told;
* `LogFrequency.ofText_text`: **a frequency is read back from its digits**;
* `LogFrequency.ofText_reads`: **what is read of any text**.
-/
import SidecarPolicy.Annotations.LogFrequency
import SidecarPolicy.Proofs.Text.Blank
import SidecarPolicy.Proofs.Text.Decimal

namespace SidecarPolicy.LogFrequency

open Text

variable {s : String} {f : LogFrequency}

/-! ### Seconds -/

lemma eq_of_seconds {f g : LogFrequency} (h : f.seconds = g.seconds) : f = g := by
  cases f
  cases g
  cases h
  rfl

/-- The seconds of a number of 32 bits: the number, or ten for zero. -/
lemma seconds_ofSeconds {n : Nat} (h : n ≤ UInt32.size - 1) :
    (ofSeconds n).seconds = if n = 0 then 10 else n := by
  by_cases hzero : n = 0
  · subst hzero
    rfl
  · have hsize : n < UInt32.size := Nat.lt_of_le_sub_one (by decide) h
    rw [ofSeconds, dif_pos ⟨Nat.pos_of_ne_zero hzero, hsize⟩, if_neg hzero]

lemma ofSeconds_seconds (f : LogFrequency) : ofSeconds f.seconds = f := by
  rw [ofSeconds, dif_pos ⟨f.positive, f.bounded⟩]

/-! ### Texts -/

/-- The numerals of a frequency: those of its seconds, and of zero if it is of ten seconds. -/
def Spells (cs : List Char) (f : LogFrequency) : Prop :=
  ∃ digits, IsNumeral cs digits ∧ valueOf digits ≤ UInt32.size - 1 ∧
    f.seconds = if valueOf digits = 0 then 10 else valueOf digits

/-- The texts that are read as a frequency. -/
lemma ofText_eq_ok_iff : ofText s = .ok f ↔ Spells (trimmed s.toList) f := by
  rw [ofText]
  constructor
  · intro h
    cases hread : readNumber (UInt32.size - 1) (trimmed s.toList) with
    | error fault =>
        rw [hread] at h
        cases h
    | ok n =>
        obtain ⟨digits, hnumeral, hbound, rfl⟩ := readNumber_eq_ok_iff.mp hread
        rw [hread] at h
        obtain rfl : ofSeconds (valueOf digits) = f := Except.ok.inj h
        exact ⟨digits, hnumeral, hbound, seconds_ofSeconds hbound⟩
  · rintro ⟨digits, hnumeral, hbound, hseconds⟩
    rw [readNumber_eq_ok_iff.mpr ⟨digits, hnumeral, hbound, rfl⟩]
    exact congrArg Except.ok (eq_of_seconds ((seconds_ofSeconds hbound).trans hseconds.symm))

lemma ofText_eq_error_iff {fault : NumberFault} :
    ofText s = .error fault ↔ readNumber (UInt32.size - 1) (trimmed s.toList) = .error fault := by
  rw [ofText]
  cases readNumber (UInt32.size - 1) (trimmed s.toList) <;> simp [Except.map]

/-- **A frequency is read back from its digits.** -/
theorem ofText_text (f : LogFrequency) : ofText f.text = .ok f := by
  have hdigits : f.text.toList = Nat.toDigits 10 f.seconds := by
    rw [text, Nat.toString_eq_repr, Nat.toList_repr]
  have htrimmed : trimmed (Nat.toDigits 10 f.seconds) = Nat.toDigits 10 f.seconds := by
    refine trimmed_eq_self fun c hc => isBlank_of_isAlphanum ?_
    have hdigit : c.isDigit = true := Nat.isDigit_of_mem_toDigits (by omega) le_rfl hc
    simp [Char.isAlphanum, hdigit]
  have hbound : f.seconds ≤ UInt32.size - 1 := Nat.le_sub_one_of_lt f.bounded
  rw [ofText, hdigits, htrimmed, readNumber_toDigits hbound]
  exact congrArg Except.ok f.ofSeconds_seconds

/-- **What is read of a text** is told by the one part of it that stands between its blanks.
A numeral of 32 bits is read as its value, or as ten if that is zero.  Of anything else a
fault is told: that there is nothing, or the first fault behind a plus sign, which is an
invalid digit for a sign alone and for a minus sign, unless the digits before it were too
large.  So no frequency is of zero seconds, and each is read back from its written form. -/
theorem ofText_reads (s : String) :
    ∃ body, (∀ cs, IsTrimming s.toList cs ↔ cs = body) ∧
      (∀ f, ofText s = .ok f ↔ Spells body f) ∧
      (∀ fault, ofText s = .error fault ↔ body = [] ∧ fault = .empty ∨
        body ≠ [] ∧ FirstFault (UInt32.size - 1) (unsigned body) fault) ∧
      (body = ['+'] → ofText s = .error .invalidDigit) ∧
      (∀ ds rest, IsDigits ds → valueOf ds ≤ UInt32.size - 1 →
        unsigned body = ds ++ '-' :: rest → ofText s = .error .invalidDigit) ∧
      ∀ f : LogFrequency, f.seconds ≠ 0 ∧ ofText f.text = .ok f := by
  have hfault : ∀ fault, ofText s = .error fault ↔
      trimmed s.toList = [] ∧ fault = .empty ∨ trimmed s.toList ≠ [] ∧
        FirstFault (UInt32.size - 1) (unsigned (trimmed s.toList)) fault := fun fault => by
    rw [ofText_eq_error_iff, readNumber_eq_error_iff]
  -- what is not a digit is the first fault behind digits within the bound
  have hinvalid : ∀ {ds rest : List Char} {c : Char}, IsDigits ds → valueOf ds ≤ UInt32.size - 1 →
      c.isDigit = false → unsigned (trimmed s.toList) = ds ++ c :: rest →
        ofText s = .error .invalidDigit := by
    intro ds rest c hdigits hbound hc heq
    refine (hfault _).mpr (.inr ⟨?_, heq ▸ .invalidDigit hdigits hbound hc⟩)
    intro hnil
    rw [hnil] at heq
    exact List.append_ne_nil_of_right_ne_nil ds (List.cons_ne_nil c rest) heq.symm
  refine ⟨trimmed s.toList, fun cs => ?_, fun f => ofText_eq_ok_iff, hfault, ?_, ?_, ?_⟩
  · rw [← trimmed_eq_iff, eq_comm]
  · intro hsign
    have hread : unsigned (trimmed s.toList) = [] ++ '+' :: [] := by
      rw [hsign]
      rfl
    exact hinvalid (List.forall_mem_nil _) (Nat.zero_le _) (by decide) hread
  · exact fun ds rest hdigits hbound => hinvalid hdigits hbound (by decide)
  · exact fun f => ⟨f.positive.ne', f.ofText_text⟩

/-- Blanks, a sign and zeros before the digits of a number make no difference. -/
theorem ofText_reads_padded :
    IsTrimming "\t +00420\n".toList "+00420".toList ∧
      ofText "\t +00420\n" = .ok ⟨420, by decide, by decide⟩ := by
  have hbody : IsTrimming "\t +00420\n".toList "+00420".toList := by
    refine ⟨⟨"\t ".toList, "\n".toList, by decide, ?_, ?_⟩, ?_, ?_⟩ <;> simp [isBlank]
  obtain ⟨body, honly, hread, -⟩ := ofText_reads "\t +00420\n"
  obtain rfl := (honly _).mp hbody
  have hnumeral : IsNumeral "+00420".toList "00420".toList := by
    refine ⟨.inr ?_, ?_, ?_⟩ <;> decide +kernel
  exact ⟨hbody, (hread _).mpr ⟨_, hnumeral, by decide +kernel⟩⟩

end SidecarPolicy.LogFrequency
