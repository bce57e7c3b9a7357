/-
Numbers of 53 digits against exact arithmetic. A quotient below `2 ^ k` is rounded by at most half a
unit in the last of its 53 places, and it is not rounded at all where it has no digit behind that place.
-/
import Mathlib
import ObjectChannel.Double

namespace ObjectChannel.Double

/-- The number as a fraction. -/
def value (x : Double) : ℚ := x.mantissa * 2 ^ x.exponent

/-! ## Whole numbers near a quotient -/

theorem abs_cast_lt_iff {a : ℤ} {n : ℕ} : |(a : ℚ)| < n ↔ a.natAbs < n := by
  rw [← Int.cast_abs, ← Nat.cast_natAbs, Nat.cast_lt]

theorem nearest_close (n : ℕ) {d : ℕ} (hd : 0 < d) : |(nearest n d : ℚ) - n / d| ≤ 1 / 2 := by
  have hd' : (0 : ℚ) < d := by exact_mod_cast hd
  have hn : (n : ℚ) = d * (n / d : ℕ) + (n % d : ℕ) := by exact_mod_cast (Nat.div_add_mod n d).symm
  have hquotient : (n : ℚ) / d = (n / d : ℕ) + (n % d : ℕ) / d := by
    rw [div_eq_iff hd'.ne', add_mul, div_mul_cancel₀ _ hd'.ne']
    linarith
  have hdown (h : 2 * (n % d) ≤ d) : |((n / d : ℕ) : ℚ) - n / d| ≤ 1 / 2 := by
    have hrest : ((n % d : ℕ) : ℚ) / d ≤ 1 / 2 := by
      rw [div_le_iff₀ hd']
      have : (2 * (n % d : ℕ) : ℚ) ≤ d := by exact_mod_cast h
      linarith
    have hpos : (0 : ℚ) ≤ ((n % d : ℕ) : ℚ) / d := by positivity
    rw [hquotient, abs_le]
    constructor <;> linarith
  have hup (h : d ≤ 2 * (n % d)) : |((n / d + 1 : ℕ) : ℚ) - n / d| ≤ 1 / 2 := by
    have hrest : 1 / 2 ≤ ((n % d : ℕ) : ℚ) / d := by
      rw [le_div_iff₀ hd']
      have : (d : ℚ) ≤ 2 * (n % d : ℕ) := by exact_mod_cast h
      linarith
    have hone : ((n % d : ℕ) : ℚ) / d ≤ 1 := by
      rw [div_le_one hd']
      exact_mod_cast (Nat.mod_lt n hd).le
    rw [hquotient, abs_le]
    push_cast
    constructor <;> linarith
  simp only [nearest]
  split
  · exact hdown (by omega)
  split
  · exact hup (by omega)
  split
  · exact hdown (by omega)
  · exact hup (by omega)

theorem nearest_of_dvd {n d : ℕ} (hd : 0 < d) (h : d ∣ n) : (nearest n d : ℚ) = n / d := by
  have hmod : n % d = 0 := Nat.mod_eq_zero_of_dvd h
  simp only [nearest, hmod, Nat.mul_zero, hd, ite_true]
  exact Nat.cast_div h (by positivity)

/-! ## The exponent of a quotient -/

theorem scaled_pos {n d : ℕ} (hd : 0 < d) (e : ℤ) : 0 < (scaled n d e).2 := by
  have hpower : 0 < powerOfTwo e.toNat := Nat.two_pow_pos _
  unfold scaled
  split
  · exact Nat.mul_pos hd hpower
  · exact hd

theorem powerOfTwo_cast (n : ℕ) : (powerOfTwo n : ℚ) = 2 ^ (n : ℤ) := by
  rw [zpow_natCast]
  exact Nat.cast_pow 2 n

theorem scaled_div (n d : ℕ) (e : ℤ) :
    ((scaled n d e).1 : ℚ) / (scaled n d e).2 = n / d / 2 ^ e := by
  unfold scaled
  split
  · have he : (e.toNat : ℤ) = e := by omega
    rw [Nat.cast_mul, powerOfTwo_cast, he, div_div]
  · have he : ((-e).toNat : ℤ) = -e := by omega
    rw [Nat.cast_mul, powerOfTwo_cast, he, zpow_neg]
    ring

theorem le_scaled_iff {n d : ℕ} (hd : 0 < d) (e : ℤ) (j : ℕ) :
    2 ^ j ≤ (scaled n d e).1 / (scaled n d e).2 ↔ (2 : ℚ) ^ (e + j) ≤ n / d := by
  have hpos := scaled_pos (n := n) hd e
  have hunit : (0 : ℚ) < 2 ^ e := by positivity
  rw [Nat.le_div_iff_mul_le hpos, ← Nat.cast_le (α := ℚ), Nat.cast_mul,
    ← le_div_iff₀ (by exact_mod_cast hpos), scaled_div, le_div_iff₀ hunit, Nat.cast_pow, Nat.cast_ofNat,
    ← zpow_natCast, ← zpow_add₀ (by norm_num), add_comm]

/-- A quotient has 53 digits before the point of the unit that its exponent gives, unless that unit is the
smallest one. -/
theorem exponentOf_bounds {n d : ℕ} (hn : n ≠ 0) (hd : 0 < d) :
    (n : ℚ) / d < 2 ^ (exponentOf n d + 53) ∧
      (-1074 < exponentOf n d → (2 : ℚ) ^ (exponentOf n d + 52) ≤ n / d) := by
  have hd' : (0 : ℚ) < d := by exact_mod_cast hd
  obtain ⟨e, he⟩ : ∃ e : ℤ, (n.log2 : ℤ) - d.log2 - 53 = e := ⟨_, rfl⟩
  have hlow : (2 : ℚ) ^ (e + 52) ≤ n / d := by
    have hnlow : (2 : ℚ) ^ n.log2 ≤ n := by exact_mod_cast Nat.log2_self_le hn
    have hdhigh : (d : ℚ) ≤ 2 ^ (d.log2 + 1) := by exact_mod_cast Nat.lt_log2_self.le
    have hsplit : (2 : ℚ) ^ (e + 52) * 2 ^ (d.log2 + 1) = 2 ^ n.log2 := by
      rw [← zpow_natCast, ← zpow_natCast, ← zpow_add₀ (by norm_num)]
      congr 1
      omega
    rw [le_div_iff₀ hd']
    calc (2 : ℚ) ^ (e + 52) * d ≤ 2 ^ (e + 52) * 2 ^ (d.log2 + 1) := by gcongr
      _ ≤ n := hsplit ▸ hnlow
  have hhigh : (n : ℚ) / d < 2 ^ (e + 54) := by
    have hnhigh : (n : ℚ) < 2 ^ (n.log2 + 1) := by exact_mod_cast Nat.lt_log2_self
    have hdlow : (2 : ℚ) ^ d.log2 ≤ d := by exact_mod_cast Nat.log2_self_le hd.ne'
    have hsplit : (2 : ℚ) ^ (e + 54) * 2 ^ d.log2 = 2 ^ (n.log2 + 1) := by
      rw [← zpow_natCast, ← zpow_natCast, ← zpow_add₀ (by norm_num)]
      congr 1
      omega
    rw [div_lt_iff₀ hd']
    calc (n : ℚ) < 2 ^ (e + 54) * 2 ^ d.log2 := hsplit ▸ hnhigh
      _ ≤ 2 ^ (e + 54) * d := by gcongr
  -- The estimate `e` is right, or the first digit lies one place further to the front.
  have hestimate : ∃ e', exponentOf n d = max e' (-1074) ∧ (2 : ℚ) ^ (e' + 52) ≤ n / d ∧
      (n : ℚ) / d < 2 ^ (e' + 53) := by
    have hfits : (scaled n d e).1 / (scaled n d e).2 < powerOfTwo 53 ↔ (n : ℚ) / d < 2 ^ (e + 53) := by
      rw [← not_le, ← not_le]
      exact not_congr (le_scaled_iff hd e 53)
    by_cases h : (scaled n d e).1 / (scaled n d e).2 < powerOfTwo 53
    · exact ⟨e, by simp only [exponentOf, he, h, ite_true], hlow, hfits.mp h⟩
    · refine ⟨e + 1, by simp only [exponentOf, he, h, ite_false], ?_, ?_⟩
      · rw [show e + 1 + 52 = e + 53 by ring]
        exact not_lt.mp (mt hfits.mpr h)
      · rwa [show e + 1 + 53 = e + 54 by ring]
  obtain ⟨e', hexponent, hlow', hhigh'⟩ := hestimate
  rw [hexponent]
  refine ⟨hhigh'.trans_le (zpow_le_zpow_right₀ (by norm_num) (by omega)), fun hmin => ?_⟩
  rwa [show max e' (-1074) = e' by omega]

/-- A quotient below `2 ^ k` has its last place at `2 ^ (k - 53)`, or further behind. -/
theorem exponentOf_le {n d k : ℕ} (hn : n ≠ 0) (hd : 0 < d) (h : n < d * 2 ^ k) :
    exponentOf n d ≤ (k : ℤ) - 53 := by
  by_contra hover
  have hquotient : (n : ℚ) / d < 2 ^ (k : ℤ) := by
    rw [div_lt_iff₀ (by exact_mod_cast hd), zpow_natCast, mul_comm]
    exact_mod_cast h
  have hpower : (2 : ℚ) ^ (k : ℤ) ≤ 2 ^ (exponentOf n d + 52) :=
    zpow_le_zpow_right₀ (by norm_num) (by omega)
  exact absurd (hpower.trans ((exponentOf_bounds hn hd).2 (by omega))) (not_le.mpr hquotient)

/-! ## Rounding -/

/-- The number `x` is what a fraction `q` below `2 ^ k` is rounded to. -/
structure Near (q : ℚ) (k : ℕ) (x : Double) : Prop where
  close : |x.value - q| ≤ 2 ^ ((k : ℤ) - 54)
  /-- There is nothing to round where the last digit is not behind the last place. -/
  exact : ∀ (j : ℕ) (z : ℤ), k + j ≤ 53 → q * 2 ^ j = z → x.value = q

theorem sign_mul_natAbs_div (n : ℤ) (d : ℕ) : (n.sign : ℚ) * (n.natAbs / d) = n / d := by
  rw [← mul_div_assoc, ← Int.cast_natCast n.natAbs, ← Int.cast_mul, Int.sign_mul_natAbs]

/-- A quotient in the units of its last place. -/
theorem div_eq_scaled (n : ℤ) (d : ℕ) (e : ℤ) :
    (n : ℚ) / d = n.sign * (((scaled n.natAbs d e).1 : ℚ) / (scaled n.natAbs d e).2) * 2 ^ e := by
  rw [scaled_div, mul_assoc, div_mul_cancel₀ _ (by positivity), sign_mul_natAbs_div]

/-- In the units of the last place the quotient is whole, if it has no digit behind that place. -/
theorem scaled_dvd {n : ℤ} {d j : ℕ} {e z : ℤ} (hd : 0 < d) (he : e ≤ -j)
    (h : (n : ℚ) / d * 2 ^ j = z) : (scaled n.natAbs d e).2 ∣ (scaled n.natAbs d e).1 := by
  have hproduct : n * 2 ^ j = z * d := by
    rw [div_mul_eq_mul_div, div_eq_iff (by positivity)] at h
    exact_mod_cast h
  have hdvd : d ∣ n.natAbs * 2 ^ j := by
    refine ⟨z.natAbs, ?_⟩
    have habs := congrArg Int.natAbs hproduct
    rw [Int.natAbs_mul, Int.natAbs_mul, Int.natAbs_pow] at habs
    exact habs.trans (Nat.mul_comm _ _)
  unfold scaled
  split
  · obtain ⟨rfl, rfl⟩ : e = 0 ∧ j = 0 := by omega
    simpa [powerOfTwo] using hdvd
  · exact hdvd.trans (Nat.mul_dvd_mul_left _ (Nat.pow_dvd_pow 2 (by omega)))

/-- A quotient below `2 ^ k` is rounded, and not refused. -/
theorem exists_near_ofQuotient {n : ℤ} {d k : ℕ} (hd : 0 < d) (hk : k ≤ 53)
    (h : |(n : ℚ) / d| < 2 ^ k) : ∃ x, ofQuotient? n d = some x ∧ Near (n / d) k x := by
  by_cases hn : n = 0
  · refine ⟨⟨0, 0⟩, by simp [ofQuotient?, hn], ?_, fun _ _ _ _ => ?_⟩
    · simp only [value, hn]
      simp
      positivity
    · simp [value, hn]
  have hd' : (0 : ℚ) < d := by exact_mod_cast hd
  have habs : n.natAbs < d * 2 ^ k := by
    rw [abs_div, Nat.abs_cast, div_lt_iff₀ hd', mul_comm] at h
    exact abs_cast_lt_iff.mp (by exact_mod_cast h)
  obtain ⟨e, he⟩ : ∃ e, exponentOf n.natAbs d = e := ⟨_, rfl⟩
  have hle : e ≤ (k : ℤ) - 53 := he ▸ exponentOf_le (Int.natAbs_ne_zero.mpr hn) hd habs
  have hfinite : ¬(971 < e ∨ (e = 971 ∧
      powerOfTwo 53 ≤ nearest (scaled n.natAbs d e).1 (scaled n.natAbs d e).2)) := by omega
  refine ⟨⟨n.sign * nearest (scaled n.natAbs d e).1 (scaled n.natAbs d e).2, e⟩, ?_, ?_, ?_⟩
  · simp only [ofQuotient?, he, hn, hfinite, ite_false]
  · have hclose := nearest_close (scaled n.natAbs d e).1 (scaled_pos (n := n.natAbs) hd e)
    have hsign : |(n.sign : ℚ)| = 1 := by
      rw [← Int.cast_abs, Int.abs_sign_of_ne_zero hn, Int.cast_one]
    have hunit : (2 : ℚ) ^ e ≤ 2 ^ ((k : ℤ) - 53) := zpow_le_zpow_right₀ (by norm_num) hle
    have hhalf : (2 : ℚ) ^ ((k : ℤ) - 54) = 1 / 2 * 2 ^ ((k : ℤ) - 53) := by
      rw [show (k : ℤ) - 53 = (k : ℤ) - 54 + 1 by ring, zpow_add_one₀ (by norm_num)]
      ring
    rw [div_eq_scaled n d e, value, hhalf]
    push_cast
    rw [← sub_mul, ← mul_sub, abs_mul, abs_mul, hsign, one_mul,
      abs_of_pos (show (0 : ℚ) < 2 ^ e by positivity)]
    exact mul_le_mul hclose hunit (by positivity) (by norm_num)
  · intro j z hj hz
    have hwhole := nearest_of_dvd (scaled_pos (n := n.natAbs) hd e) (scaled_dvd hd (by omega) hz)
    rw [div_eq_scaled n d e, ← hwhole, value]
    push_cast
    rfl

/-! ## Arithmetic -/

theorem denominator_pos (x : Double) : 0 < x.denominator := Nat.two_pow_pos _

theorem numerator_div_denominator (x : Double) : (x.numerator : ℚ) / x.denominator = x.value := by
  rw [numerator, denominator, value, Int.cast_mul, Int.cast_natCast, powerOfTwo_cast, powerOfTwo_cast]
  rcases le_total 0 x.exponent with he | he
  · have hdown : ((-x.exponent).toNat : ℤ) = 0 := by omega
    rw [Int.toNat_of_nonneg he, hdown]
    simp
  · have hup : (x.exponent.toNat : ℤ) = 0 := by omega
    rw [Int.toNat_of_nonneg (by omega : 0 ≤ -x.exponent), hup, zpow_neg]
    simp

/-- A product below `2 ^ k` is rounded, and not refused. -/
theorem exists_near_times {x : Double} {n : ℤ} {k : ℕ} (hk : k ≤ 53) (h : |x.value * n| < 2 ^ k) :
    ∃ y, x.times? n = some y ∧ Near (x.value * n) k y := by
  have hproduct : ((x.numerator * n : ℤ) : ℚ) / x.denominator = x.value * n := by
    rw [← numerator_div_denominator]
    push_cast
    ring
  rw [← hproduct] at h ⊢
  exact exists_near_ofQuotient x.denominator_pos hk h

theorem truncate_eq (x : Double) :
    x.truncate = if 0 ≤ x.value then ⌊x.value⌋ else ⌈x.value⌉ := by
  have hd : (0 : ℚ) < x.denominator := by exact_mod_cast x.denominator_pos
  have hsign : 0 ≤ x.value ↔ 0 ≤ x.numerator := by
    rw [← numerator_div_denominator, le_div_iff₀ hd, zero_mul]
    exact_mod_cast Iff.rfl
  rw [truncate, ← numerator_div_denominator, Rat.floor_intCast_div_natCast,
    Rat.ceil_intCast_div_natCast, numerator_div_denominator]
  split <;> rename_i h
  · exact Int.tdiv_eq_ediv_of_nonneg (hsign.mp h)
  · have hneg : 0 ≤ -x.numerator := by
      have := mt hsign.mpr h
      omega
    rw [← Int.tdiv_eq_ediv_of_nonneg hneg, Int.neg_tdiv, neg_neg]

/-- Cut off at the point, a number less than one away from a whole number gives that number, or the next
one towards zero. -/
theorem truncate_near {x : Double} {k : ℤ} (h : |x.value - k| < 1) :
    x.truncate = k ∨ x.truncate = k - k.sign := by
  obtain ⟨hbelow, habove⟩ := abs_lt.mp h
  rw [truncate_eq]
  rcases lt_trichotomy k 0 with hk | rfl | hk
  · have hk' : (k : ℚ) + 1 ≤ 0 := by exact_mod_cast hk
    rw [if_neg (by linarith), Int.sign_eq_neg_one_of_neg hk]
    have hlow : k - 1 < ⌈x.value⌉ := Int.lt_ceil.mpr (by push_cast; linarith)
    have hhigh : ⌈x.value⌉ ≤ k + 1 := Int.ceil_le.mpr (by push_cast; linarith)
    omega
  · push_cast at hbelow habove
    refine .inl ?_
    split
    · exact Int.floor_eq_iff.mpr ⟨by simpa, by simp; linarith⟩
    · exact Int.ceil_eq_iff.mpr ⟨by simp; linarith, by simp; linarith⟩
  · have hk' : (1 : ℚ) ≤ k := by exact_mod_cast hk
    rw [if_pos (by linarith), Int.sign_eq_one_of_pos hk]
    have hlow : k - 1 ≤ ⌊x.value⌋ := Int.le_floor.mpr (by push_cast; linarith)
    have hhigh : ⌊x.value⌋ < k + 1 := Int.floor_lt.mpr (by push_cast; linarith)
    omega

theorem truncate_of_whole {x : Double} {k : ℤ} (h : x.value = k) : x.truncate = k := by
  rw [truncate_eq, h]
  simp

theorem fraction_value (x : Double) : x.fraction.value = x.value - x.truncate := by
  have hd : (x.denominator : ℚ) ≠ 0 := by exact_mod_cast x.denominator_pos.ne'
  have hrest : (x.numerator.tmod x.denominator : ℚ) =
      x.numerator - x.denominator * x.truncate := by
    exact_mod_cast Int.tmod_def x.numerator x.denominator
  have hunit : (2 : ℚ) ^ min x.exponent 0 = 1 / x.denominator := by
    have he : min x.exponent 0 = -((-x.exponent).toNat : ℤ) := by omega
    rw [denominator, powerOfTwo_cast, he, zpow_neg, one_div]
  rw [← numerator_div_denominator x, fraction, value, hunit, hrest]
  field_simp

theorem abs_fraction_lt (x : Double) : |x.fraction.value| < 1 := by
  rw [fraction_value, truncate_eq, abs_lt]
  split
  · have := Int.floor_le x.value
    have := Int.lt_floor_add_one x.value
    constructor <;> linarith
  · have := Int.le_ceil x.value
    have := Int.ceil_lt_add_one x.value
    constructor <;> linarith

theorem round_close (x : Double) : |(x.round : ℚ) - x.value| ≤ 1 / 2 := by
  have hclose := nearest_close x.numerator.natAbs x.denominator_pos
  have hsign : |(x.numerator.sign : ℚ)| ≤ 1 := by
    rcases Int.sign_trichotomy x.numerator with h | h | h <;> simp [h]
  rw [← numerator_div_denominator, ← sign_mul_natAbs_div, round, Int.cast_mul, Int.cast_natCast,
    ← mul_sub, abs_mul]
  exact (mul_le_mul hsign hclose (abs_nonneg _) zero_le_one).trans (by norm_num)

end ObjectChannel.Double
