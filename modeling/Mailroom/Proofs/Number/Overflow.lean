import Mailroom.Number.Double
import Mathlib.Algebra.Order.Ring.Nat
import Mathlib.Tactic.Ring

/-!
Which whole numbers are too large for a double. A number is rounded to 53 binary digits, so it is
too large from the middle between the greatest double and the power of two after it.
-/

namespace Mailroom.Number

variable {n d limit : Nat}

/-- Half of the last unit is rounded up to an even limit, less than half is not. -/
theorem roundQuotient_eq_iff (hd : 0 < d) (hbelow : n < limit * d) (heven : limit % 2 = 0) :
    roundQuotient n d = limit ↔ (2 * limit - 1) * d ≤ 2 * n := by
  obtain ⟨q, r, hq, hr, hrd⟩ : ∃ q r, n / d = q ∧ n % d = r ∧ r < d :=
    ⟨_, _, rfl, rfl, Nat.mod_lt n hd⟩
  have hn : n = d * q + r := by
    rw [← hq, ← hr, Nat.div_add_mod]
  have hqlimit : q < limit := hq ▸ (Nat.div_lt_iff_lt_mul hd).mpr hbelow
  obtain ⟨gap, rfl⟩ : ∃ gap, limit = q + 1 + gap := ⟨limit - (q + 1), by omega⟩
  have hround : roundQuotient n d = q + 1 + gap ↔ gap = 0 ∧ d ≤ 2 * r := by
    unfold roundQuotient
    rw [hq, hr]
    simp only [Bool.or_eq_true, Bool.and_eq_true, decide_eq_true_eq, beq_iff_eq]
    split <;> omega
  have hbound : (2 * (q + 1 + gap) - 1) * d = 2 * (d * q) + d + 2 * (gap * d) := by
    rw [show 2 * (q + 1 + gap) - 1 = 2 * q + 1 + 2 * gap by omega]
    ring
  rw [hround, hbound, hn]
  constructor
  · rintro ⟨rfl, hhalf⟩
    omega
  · intro hle
    rcases Nat.eq_zero_or_pos gap with rfl | hgap
    · exact ⟨rfl, by omega⟩
    · have hunit : d ≤ gap * d := Nat.le_mul_of_pos_left d hgap
      omega

namespace Magnitude

/-- The first whole number that is rounded to the infinite size. -/
def firstOverflow : Nat := (2 ^ 54 - 1) * 2 ^ 970

/-- A whole number takes all 53 binary digits from its leading one on. -/
theorem scaleOf_one (hn : n ≠ 0) : scaleOf n 1 = (n.log2 : Int) - 52 := by
  have hone : Nat.log2 1 = 0 := by decide
  have hlog : 2 ^ n.log2 ≤ n := Nat.log2_self_le hn
  have hfits : (if (n.log2 : Int) - 52 ≥ 0 then
        1 * Nat.pow 2 (((n.log2 : Int) - 52).toNat + 52) ≤ n
      else 1 * Nat.pow 2 52 ≤ n * Nat.pow 2 (-((n.log2 : Int) - 52)).toNat) := by
    simp only [Nat.pow_eq, Nat.one_mul]
    split
    · rwa [show ((n.log2 : Int) - 52).toNat + 52 = n.log2 by omega]
    · calc 2 ^ 52 = 2 ^ n.log2 * 2 ^ (-((n.log2 : Int) - 52)).toNat := by
            rw [← pow_add]
            congr 1
            omega
        _ ≤ n * 2 ^ (-((n.log2 : Int) - 52)).toNat := Nat.mul_le_mul_right _ hlog
  simp only [scaleOf, hone, leastExponent, Int.natCast_zero, Int.sub_zero]
  rw [if_pos hfits]
  omega

/-- Rounding up to the limit of the significand moves the exponent by one; at the greatest exponent
this makes the size infinite. -/
theorem ofQuotient_eq_infinite_iff : ofQuotient n d = .infinite ↔
    greatestExponent < scaleOf n d ∨
      scaleOf n d = greatestExponent ∧ inUnits n d (scaleOf n d) = significandLimit := by
  simp only [ofQuotient, greatestExponent, beq_iff_eq]
  generalize inUnits n d (scaleOf n d) = units
  generalize scaleOf n d = e
  by_cases hlimit : units = significandLimit
  · rw [if_pos hlimit]
    simp only [ite_eq_left_iff, reduceCtorEq, imp_false, not_not]
    omega
  · rw [if_neg hlimit]
    simp only [ite_eq_left_iff, reduceCtorEq, imp_false, not_not, hlimit, and_false, or_false]

theorem firstOverflow_bounds : 2 ^ 1023 ≤ firstOverflow ∧ firstOverflow ≤ 2 ^ 1024 := by
  have hless : 2 ^ 1023 = 2 ^ 53 * 2 ^ 970 := by rw [← pow_add]
  have hmore : 2 ^ 1024 = 2 ^ 54 * 2 ^ 970 := by rw [← pow_add]
  rw [hless, hmore]
  exact ⟨Nat.mul_le_mul_right _ (by decide), Nat.mul_le_mul_right _ (by decide)⟩

theorem inUnits_natCast (exponent : Nat) :
    inUnits n d exponent = roundQuotient n (d * 2 ^ exponent) := by
  rw [inUnits, if_pos (Int.natCast_nonneg exponent), Int.toNat_natCast]
  rfl

theorem ofQuotient_one_eq_infinite_iff : ofQuotient n 1 = .infinite ↔ firstOverflow ≤ n := by
  rw [ofQuotient_eq_infinite_iff]
  obtain ⟨hleast, hgreatest⟩ := firstOverflow_bounds
  rcases Nat.eq_zero_or_pos n with rfl | hn
  · have hscale : scaleOf 0 1 = -53 := by decide
    have hpower : 0 < 2 ^ 1023 := pow_pos Nat.two_pos 1023
    have hpositive : 0 < firstOverflow := Nat.lt_of_lt_of_le hpower hleast
    rw [hscale]
    refine iff_of_false ?_ (Nat.not_le.mpr hpositive)
    simp [greatestExponent]
  have hlow : 2 ^ n.log2 ≤ n := Nat.log2_self_le (Nat.ne_of_gt hn)
  have hhigh : n < 2 ^ (n.log2 + 1) := Nat.lt_log2_self
  rw [scaleOf_one (Nat.ne_of_gt hn), greatestExponent]
  rcases Nat.lt_trichotomy n.log2 1023 with hlog | hlog | hlog
  · have hsmall : n < firstOverflow :=
      calc n < 2 ^ (n.log2 + 1) := hhigh
        _ ≤ 2 ^ 1023 := pow_le_pow_right₀ one_le_two hlog
        _ ≤ firstOverflow := hleast
    exact iff_of_false (by omega) (Nat.not_le.mpr hsmall)
  · -- The last binary digit stands for the greatest exponent, so rounding decides.
    have hbelow : n < significandLimit * 2 ^ 971 :=
      calc n < 2 ^ (n.log2 + 1) := hhigh
        _ = significandLimit * 2 ^ 971 := by
          rw [hlog, significandLimit, Nat.pow_eq, ← pow_add]
    have hunit : 0 < 2 ^ 971 := pow_pos Nat.two_pos 971
    have heven : significandLimit % 2 = 0 := by decide
    have hround := roundQuotient_eq_iff hunit hbelow heven
    have hhalf : (2 * significandLimit - 1) * 2 ^ 971 = 2 * firstOverflow := by
      have hones : 2 * significandLimit - 1 = 2 ^ 54 - 1 := by decide
      rw [hones, firstOverflow, pow_succ 2 970, ← Nat.mul_assoc, Nat.mul_comm]
    have hscale : ((1023 : Nat) : Int) - 52 = (971 : Nat) := rfl
    rw [hlog, hscale, inUnits_natCast, Nat.one_mul, hround, hhalf]
    omega
  · have hlarge : firstOverflow ≤ n :=
      calc firstOverflow ≤ 2 ^ 1024 := hgreatest
        _ ≤ 2 ^ n.log2 := pow_le_pow_right₀ one_le_two hlog
        _ ≤ n := hlow
    exact iff_of_true (.inl (by omega)) hlarge

end Magnitude

/-- A whole number has a double just if it is below the first that overflows, on either side of
zero. -/
theorem Double.ofInt?_eq_none_iff {n : Int} :
    Double.ofInt? n = none ↔ Magnitude.firstOverflow ≤ n.natAbs := by
  rw [← Magnitude.ofQuotient_one_eq_infinite_iff]
  unfold Double.ofInt?
  split
  · simp [*]
  · simp_all

end Mailroom.Number
