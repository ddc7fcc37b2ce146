/-
The delay of a failed key in machine words.

Checked arithmetic gives the numbers that it would give without bounds, or nothing.  So a power
and a product are cut off at the largest word and at the longest span; and as no limit is longer
than that, what is cut off once more by the limit does not show it.

* `Word.mul?_eq_some`, `Word.add?_eq_some`: checked arithmetic is exact;
* `Word.mulPower?_eq_some`, `Word.toNat_power`: **powers are exact as far as they are words**;
* `Span.total_inj`, `Span.le_iff`, `Span.total_min`: spans are told by their nanoseconds;
* `Span.scale?_total`: **a product is exact, or the longest span**;
* `Span.delay?_total`: the delay of a key;
* `Span.delay_exact`: **the delay is what it would be without bounds**, never more than the
  limit, and never less for more requeues.
-/
import Mathlib.Tactic
import SidecarPolicy.Queue.Backoff
import SidecarPolicy.Queue.Span

namespace SidecarPolicy

/-! ### Words -/

namespace Word

variable {w : ℕ} {a b c : BitVec w}

lemma exists_toNat_eq {n : ℕ} (h : n < 2 ^ w) : ∃ c : BitVec w, c.toNat = n :=
  ⟨BitVec.ofNat w n, (BitVec.toNat_ofNat n w).trans (Nat.mod_eq_of_lt h)⟩

/-- A checked product is the product of the numbers. -/
lemma mul?_eq_some : mul? a b = some c ↔ a.toNat * b.toNat = c.toNat := by
  rw [mul?]
  split_ifs with h
  · have hlarge : 2 ^ w ≤ a.toNat * b.toNat := by simpa [BitVec.umulOverflow] using h
    have hc := c.isLt
    simp only [false_iff]
    omega
  · rw [Option.some_inj, ← BitVec.toNat_mul_of_not_umulOverflow h, BitVec.toNat_inj]

/-- A checked sum is the sum of the numbers. -/
lemma add?_eq_some : add? a b = some c ↔ a.toNat + b.toNat = c.toNat := by
  rw [add?]
  split_ifs with h
  · have hlarge : 2 ^ w ≤ a.toNat + b.toNat := by simpa [BitVec.uaddOverflow] using h
    have hc := c.isLt
    simp only [false_iff]
    omega
  · rw [Option.some_inj, ← BitVec.toNat_add_of_not_uaddOverflow h, BitVec.toNat_inj]

lemma oddPart_eq_some {n : ℕ} :
    (if n % 2 = 1 then mul? a b else some a) = some c ↔ a.toNat * b.toNat ^ (n % 2) = c.toNat := by
  split_ifs with h
  · rw [h, pow_one, mul?_eq_some]
  · rw [Nat.mod_two_ne_one.mp h, pow_zero, mul_one, Option.some_inj, BitVec.toNat_inj]

/-- **Powers by squaring are exact.**  What is computed on the way is not larger than the result,
so it is a word if that is one. -/
theorem mulPower?_eq_some {acc p : BitVec w} {n : ℕ} (hacc : 0 < acc.toNat) (ha : 0 < a.toNat) :
    mulPower? acc a n = some p ↔ acc.toNat * a.toNat ^ n = p.toNat := by
  induction n using Nat.strong_induction_on generalizing acc a with
  | _ n ih =>
      rw [mulPower?]
      by_cases hzero : n = 0
      · rw [if_pos hzero, hzero, pow_zero, mul_one, Option.some_inj, BitVec.toNat_inj]
      by_cases hone : n = 1
      · rw [if_neg hzero, if_pos hone, hone, pow_one, mul?_eq_some]
      · -- the exponent is twice its half, and one more if it is odd
        have hhalves : acc.toNat * a.toNat ^ n =
            acc.toNat * a.toNat ^ (n % 2) * (a.toNat * a.toNat) ^ (n / 2) := by
          rw [← pow_two, ← pow_mul, mul_assoc, ← pow_add, Nat.mod_add_div]
        have hstep {next square : BitVec w} (hnext : acc.toNat * a.toNat ^ (n % 2) = next.toNat)
            (hsquare : a.toNat * a.toNat = square.toNat) :
            mulPower? next square (n / 2) = some p ↔ acc.toNat * a.toNat ^ n = p.toNat := by
          rw [ih (n / 2) (by omega) (hnext ▸ by positivity) (hsquare ▸ by positivity), ← hnext,
            ← hsquare, hhalves]
        simp only [if_neg hzero, if_neg hone, Option.bind_eq_some_iff, oddPart_eq_some,
          mul?_eq_some]
        constructor
        · rintro ⟨next, hnext, square, hsquare, h⟩
          exact (hstep hnext hsquare).mp h
        · intro h
          -- neither factor is larger than the result, so both are words
          have hlt : acc.toNat * a.toNat ^ n < 2 ^ w := h ▸ p.isLt
          have hnextle : acc.toNat * a.toNat ^ (n % 2) ≤ acc.toNat * a.toNat ^ n :=
            Nat.mul_le_mul_left _ (Nat.pow_le_pow_right ha (Nat.mod_le n 2))
          have hsquarele : a.toNat * a.toNat ≤ acc.toNat * a.toNat ^ n := by
            rw [← pow_two]
            exact (Nat.pow_le_pow_right ha (by omega)).trans (Nat.le_mul_of_pos_left _ hacc)
          obtain ⟨next, hnext⟩ := exists_toNat_eq (hnextle.trans_lt hlt)
          obtain ⟨square, hsquare⟩ := exists_toNat_eq (hsquarele.trans_lt hlt)
          exact ⟨next, hnext.symm, square, hsquare.symm, (hstep hnext.symm hsquare.symm).mpr h⟩

/-- **A power is exact, or the largest word** if it is none. -/
theorem toNat_power (ha : 0 < a.toNat) (n : ℕ) :
    (power a n).toNat = min (a.toNat ^ n) (2 ^ w - 1) := by
  have hlarge : 1 < 2 ^ w := lt_of_le_of_lt ha a.isLt
  have hone : (1#w).toNat = 1 := (BitVec.toNat_ofNat 1 w).trans (Nat.mod_eq_of_lt hlarge)
  have hpower (p : BitVec w) : mulPower? 1#w a n = some p ↔ a.toNat ^ n = p.toNat := by
    rw [mulPower?_eq_some (hone.symm ▸ Nat.one_pos) ha, hone, one_mul]
  rw [power]
  cases hp : mulPower? 1#w a n with
  | none =>
      -- squaring fails only where the power is no word
      have hmuch : 2 ^ w ≤ a.toNat ^ n := by
        by_contra hlt
        obtain ⟨p, hp'⟩ := exists_toNat_eq (not_le.mp hlt)
        cases hp.symm.trans ((hpower p).mpr hp'.symm)
      rw [Option.getD_none, BitVec.toNat_allOnes, min_eq_right (by omega)]
  | some p =>
      have hexact := (hpower p).mp hp
      have hword := p.isLt
      rw [Option.getD_some, ← hexact, min_eq_left (by omega)]

end Word

/-! ### Spans -/

namespace Span

variable {s t : Span}

lemma total_lt (s : Span) : s.total < 2 ^ 64 * 1000000000 := by
  have hsecs := s.secs.isLt
  have hnanos := s.nanos_lt
  rw [total]
  omega

lemma total_le_longest (s : Span) : s.total ≤ longest.total := by
  have hlongest : longest.total = 2 ^ 64 * 1000000000 - 1 := rfl
  have hlt := s.total_lt
  omega

/-- Spans with the same nanoseconds are the same. -/
lemma total_inj : s.total = t.total ↔ s = t := by
  refine ⟨fun h => ?_, congrArg total⟩
  have hs := s.nanos_lt
  have ht := t.nanos_lt
  rw [total, total] at h
  have hsecs : s.secs = t.secs := BitVec.toNat_inj.mp (by omega)
  have hnanos : s.nanos = t.nanos := BitVec.toNat_inj.mp (by omega)
  cases s
  cases t
  cases hsecs
  cases hnanos
  rfl

/-- A span is not longer if it has no more nanoseconds. -/
lemma le_iff : s ≤ t ↔ s.total ≤ t.total := by
  have hs := s.nanos_lt
  have ht := t.nanos_lt
  show s.secs < t.secs ∨ s.secs = t.secs ∧ s.nanos ≤ t.nanos ↔ _
  rw [BitVec.lt_def, ← BitVec.toNat_inj, BitVec.le_def, total, total]
  omega

lemma total_min (s t : Span) : (min s t).total = min s.total t.total := by
  have hmin : min s t = if s ≤ t then s else t := rfl
  rw [hmin]
  split_ifs with h
  · exact (min_eq_left (le_iff.mp h)).symm
  · exact (min_eq_right (le_of_not_ge (mt le_iff.mpr h))).symm

/-! ### Products -/

/-- The seconds are told if they fit. -/
lemma seconds?_eq_some {n : BitVec 32} {carried secs : BitVec 64} :
    s.seconds? n carried = some secs ↔
      s.secs.toNat * n.toNat + carried.toNat = secs.toNat := by
  have hn : (n.setWidth 64).toNat = n.toNat := BitVec.toNat_setWidth_of_le (by decide)
  simp only [seconds?, Option.bind_eq_some_iff, Word.mul?_eq_some, Word.add?_eq_some, hn]
  constructor
  · rintro ⟨product, hproduct, h⟩
    rw [hproduct, h]
  · intro h
    have hlt := secs.isLt
    obtain ⟨product, hproduct⟩ := Word.exists_toNat_eq (w := 64) (n := s.secs.toNat * n.toNat)
      (by omega)
    exact ⟨product, hproduct.symm, hproduct.symm ▸ h⟩

/-- **A product is exact, or the longest span** if it is too long.  There is always one: the
product of the nanoseconds fits, and there is nothing left to carry. -/
theorem scale?_total (s : Span) (n : BitVec 32) :
    ∃ t, s.scale? n = some t ∧ t.total = min (s.total * n.toNat) longest.total := by
  have hn : (n.setWidth 64).toNat = n.toNat := BitVec.toNat_setWidth_of_le (by decide)
  have hnanos : (s.nanos.setWidth 64).toNat = s.nanos.toNat :=
    BitVec.toNat_setWidth_of_le (by decide)
  have hfits : s.nanos.toNat * n.toNat < 2 ^ 64 :=
    (Nat.mul_lt_mul'' s.nanos_lt n.isLt).trans (by norm_num)
  obtain ⟨product, hproduct⟩ := Word.exists_toNat_eq (w := 64) hfits
  have hmul : Word.mul? (s.nanos.setWidth 64) (n.setWidth 64) = some product := by
    rw [Word.mul?_eq_some, hn, hnanos, hproduct]
  have hcarried : (product / 1000000000#64).toNat = product.toNat / 1000000000 :=
    BitVec.toNat_udiv
  have hrest : ((product % 1000000000#64).setWidth 32).toNat = product.toNat % 1000000000 := by
    simp only [BitVec.toNat_setWidth, BitVec.toNat_umod, BitVec.toNat_ofNat, Nat.reducePow,
      Nat.reduceMod]
    omega
  -- of the nanoseconds those are carried that make whole seconds
  have htotal : s.total * n.toNat =
      s.secs.toNat * n.toNat * 1000000000 + product.toNat := by
    rw [total, hproduct]
    ring
  rw [scale?, hmul, Option.bind_some]
  cases hsecs : s.seconds? n (product / 1000000000#64) with
  | some secs =>
      have hexact := seconds?_eq_some.mp hsecs
      have hbelow : ((product % 1000000000#64).setWidth 32).toNat < 1000000000 :=
        hrest ▸ Nat.mod_lt _ (by decide)
      refine ⟨⟨secs, _, hbelow⟩, dif_pos hbelow, ?_⟩
      have hsame : total ⟨secs, _, hbelow⟩ = s.total * n.toNat := by
        rw [htotal, total, ← hexact, hcarried, hrest]
        omega
      rw [← hsame]
      exact (min_eq_left (total_le_longest _)).symm
  | none =>
      refine ⟨longest, rfl, (min_eq_right ?_).symm⟩
      -- there are more seconds than a word can tell
      have hmuch : 2 ^ 64 ≤ s.secs.toNat * n.toNat + product.toNat / 1000000000 := by
        by_contra hlt
        obtain ⟨secs, hexact⟩ := Word.exists_toNat_eq (w := 64) (not_le.mp hlt)
        rw [← hcarried] at hexact
        cases hsecs.symm.trans (seconds?_eq_some.mpr hexact.symm)
      have hlongest := longest.total_lt
      rw [htotal]
      omega

/-! ### Delays -/

/-- The delay of a key: the base times a power of two, up to the limit.  What is cut off at the
longest span is cut off at the limit as well. -/
lemma delay?_total (base limit : Span) (r : BitVec 32) :
    ∃ d, delay? base limit r = some d ∧
      d.total = min (base.total * min (2 ^ r.toNat) (2 ^ 32 - 1)) limit.total := by
  obtain ⟨t, ht, htotal⟩ := base.scale?_total (Word.power 2#32 r.toNat)
  have hpower : (Word.power 2#32 r.toNat).toNat = min (2 ^ r.toNat) (2 ^ 32 - 1) :=
    Word.toNat_power (by decide) r.toNat
  refine ⟨min t limit, by rw [delay?, ht]; rfl, ?_⟩
  rw [total_min, htotal, hpower, min_assoc, min_eq_right limit.total_le_longest]

end Span

/-- The factor of a delay is a power of two, or the largest word of 32 bits. -/
lemma Backoff.factor_eq (r : ℕ) : factor r = min (2 ^ r) (2 ^ 32 - 1) := by
  have hpower : Nat.pow 2 r = 2 ^ r := rfl
  have hword : UInt32.size - 1 = 2 ^ 32 - 1 := rfl
  rw [factor, hpower, hword]
  split_ifs with h
  · have hle : 2 ^ r ≤ 2 ^ 31 := Nat.pow_le_pow_right (by decide) (by omega)
    exact (min_eq_left (by omega)).symm
  · have hle : 2 ^ 32 ≤ 2 ^ r := Nat.pow_le_pow_right (by decide) (by omega)
    exact (min_eq_right (by omega)).symm

namespace Span

lemma total_ofMillis (ms : BitVec 64) : (ofMillis ms).total = ms.toNat * 1000000 := by
  have hsecs : (ofMillis ms).secs.toNat = ms.toNat / 1000 := BitVec.toNat_udiv
  have hnanos : (ofMillis ms).nanos.toNat = ms.toNat % 1000 * 1000000 := toNat_fraction ms
  rw [total, hsecs, hnanos]
  omega

lemma millis_eq (s : Span) : s.millis = s.total / 1000000 := by
  rw [millis, total]
  omega

/-- **The delay is exact.**  For a base and a limit of any length and any number of requeues there
is a delay, and it is the base times two to the number of requeues, where a power beyond 32 bits
counts as the largest number of 32 bits, or the limit if that is less, as if nothing had a
bound.  It is never longer than the limit, it is no shorter for more requeues, and from 32
requeues on it stays the same.  For a base and a limit of whole milliseconds of 64 bits it is so
many milliseconds, which are those that a queue tells. -/
theorem delay_exact :
    (∀ base limit : Span, ∃ d : BitVec 32 → Span,
      (∀ r, delay? base limit r = some (d r) ∧
        (d r).total = min (base.total * min (2 ^ r.toNat) (2 ^ 32 - 1)) limit.total ∧
        d r ≤ limit) ∧
      (∀ r r', r ≤ r' → d r ≤ d r') ∧
      ∀ r, 32#32 ≤ r → d r = d 32#32) ∧
    ∀ (base limit : BitVec 64) (r : BitVec 32),
      ∃ d, delay? (ofMillis base) (ofMillis limit) r = some d ∧
        d.total =
          min (base.toNat * min (2 ^ r.toNat) (2 ^ 32 - 1)) limit.toNat * 1000000 ∧
        d.millis = Backoff.delay ⟨base.toNat, limit.toNat⟩ r.toNat := by
  refine ⟨fun base limit => ?_, fun base limit r => ?_⟩
  · choose d hd htotal using delay?_total base limit
    refine ⟨d, fun r => ⟨hd r, htotal r, ?_⟩, fun r r' h => ?_, fun r h => ?_⟩
    · rw [le_iff, htotal]
      exact min_le_right _ _
    · have hpower : 2 ^ r.toNat ≤ 2 ^ r'.toNat := Nat.pow_le_pow_right (by decide) h
      rw [le_iff, htotal, htotal]
      gcongr
    · have hpower : 2 ^ 32 ≤ 2 ^ r.toNat := Nat.pow_le_pow_right (by decide) h
      have hlargest : min (2 ^ r.toNat) (2 ^ 32 - 1) = 2 ^ 32 - 1 := min_eq_right (by omega)
      have hfirst : min (2 ^ (32#32).toNat) (2 ^ 32 - 1) = 2 ^ 32 - 1 := rfl
      rw [← total_inj, htotal, htotal, hlargest, hfirst]
  · obtain ⟨d, hd, htotal⟩ := delay?_total (ofMillis base) (ofMillis limit) r
    rw [total_ofMillis, total_ofMillis, mul_right_comm, Nat.mul_min_mul_right] at htotal
    refine ⟨d, hd, htotal, ?_⟩
    rw [millis_eq, htotal, Nat.mul_div_cancel _ (by decide), Backoff.delay, Backoff.factor_eq]

/-- The default delay after three requeues is 40 ms, after more it is no shorter, and after the
largest number of them it is what it is after 32.  The longest base in milliseconds is its own
delay if it is the limit as well, although its product is much too long. -/
theorem delay_exact_default :
    (∃ d : BitVec 32 → Span,
      delay? (ofMillis 5#64) (ofMillis 60000#64) 3#32 = some (d 3#32) ∧
        (d 3#32).total = 40 * 1000000 ∧ d 3#32 ≤ d 4#32 ∧ d 4294967295#32 = d 32#32) ∧
      ∃ d, delay? (ofMillis 18446744073709551615#64) (ofMillis 18446744073709551615#64) 40#32 =
          some d ∧
        d.total = 18446744073709551615 * 1000000 := by
  obtain ⟨hspans, hmillis⟩ := delay_exact
  obtain ⟨d, hd, hmono, hconst⟩ := hspans (ofMillis 5#64) (ofMillis 60000#64)
  obtain ⟨hthree, htotal, -⟩ := hd 3#32
  obtain ⟨longest, hlongest, hexact, -⟩ :=
    hmillis 18446744073709551615#64 18446744073709551615#64 40#32
  exact ⟨⟨d, hthree, htotal.trans (by decide), hmono _ _ (by decide), hconst _ (by decide)⟩,
    longest, hlongest, hexact.trans (by decide)⟩

end Span

end SidecarPolicy
