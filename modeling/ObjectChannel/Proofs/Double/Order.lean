/-
Rounding keeps the order: of two quotients over one denominator the smaller one is not rounded to the larger
number. So where rounding goes past a number is settled by the two quotients next to it.
-/
import Mathlib
import ObjectChannel.Proofs.Double

namespace ObjectChannel.Double

/-! ## Whole numbers near a quotient -/

theorem div_le_nearest (n d : ℕ) : n / d ≤ nearest n d := by
  simp only [nearest]
  split_ifs <;> omega

theorem nearest_le_div (n d : ℕ) : nearest n d ≤ n / d + 1 := by
  simp only [nearest]
  split_ifs <;> omega

theorem nearest_mono {n n' : ℕ} (d : ℕ) (h : n ≤ n') : nearest n d ≤ nearest n' d := by
  rcases (Nat.div_le_div_right (c := d) h).lt_or_eq with hlt | heq
  · exact (nearest_le_div n d).trans ((Nat.succ_le_of_lt hlt).trans (div_le_nearest n' d))
  · have hrest : n % d ≤ n' % d := by
      have hn := Nat.div_add_mod n d
      have hn' := Nat.div_add_mod n' d
      rw [heq] at hn
      omega
    simp only [nearest, heq]
    split_ifs <;> omega

theorem scaled_mono {n n' : ℕ} (d : ℕ) (e : ℤ) (h : n ≤ n') :
    (scaled n d e).1 ≤ (scaled n' d e).1 ∧ (scaled n d e).2 = (scaled n' d e).2 := by
  unfold scaled
  split
  · exact ⟨h, rfl⟩
  · exact ⟨Nat.mul_le_mul_right _ h, rfl⟩

/-! ## Rounding -/

/-- What a quotient of natural numbers is rounded to. -/
def rounded (n d : ℕ) : ℚ :=
  nearest (scaled n d (exponentOf n d)).1 (scaled n d (exponentOf n d)).2 * 2 ^ exponentOf n d

theorem rounded_nonneg (n d : ℕ) : 0 ≤ rounded n d := by
  unfold rounded
  positivity

theorem rounded_zero {d : ℕ} (hd : 0 < d) : rounded 0 d = 0 := by
  have hnothing : (scaled 0 d (exponentOf 0 d)).1 = 0 := by
    unfold scaled
    split <;> simp
  rw [rounded, nearest_of_dvd (scaled_pos hd _) (by rw [hnothing]; exact dvd_zero _), hnothing,
    Nat.cast_zero, zero_div, zero_mul]

theorem rounded_mono {n n' d : ℕ} (hd : 0 < d) (h : n ≤ n') : rounded n d ≤ rounded n' d := by
  by_cases hn : n = 0
  · rw [hn, rounded_zero hd]
    exact rounded_nonneg n' d
  have hn' : n' ≠ 0 := by omega
  obtain ⟨hlt, hle⟩ := exponentOf_bounds hn hd
  obtain ⟨hlt', hle'⟩ := exponentOf_bounds hn' hd
  have hmin : -1074 ≤ exponentOf n' d := le_max_right _ _
  have hmin' : -1074 ≤ exponentOf n d := le_max_right _ _
  have hquotient : (n : ℚ) / d ≤ n' / d := by gcongr
  unfold rounded
  generalize exponentOf n d = e at *
  generalize exponentOf n' d = e' at *
  rcases lt_trichotomy e e' with hless | rfl | hmore
  · -- A number of the smaller unit does not reach the next one, where the larger unit begins.
    have hbelow : nearest (scaled n d e).1 (scaled n d e).2 ≤ 2 ^ 53 := by
      have hdigits : (scaled n d e).1 / (scaled n d e).2 < 2 ^ 53 := by
        rw [← not_le, le_scaled_iff hd e 53]
        exact not_le.mpr hlt
      exact (nearest_le_div _ _).trans hdigits
    have habove : 2 ^ 52 ≤ nearest (scaled n' d e').1 (scaled n' d e').2 :=
      ((le_scaled_iff hd e' 52).mpr (hle' (by omega))).trans (div_le_nearest _ _)
    calc (nearest (scaled n d e).1 (scaled n d e).2 : ℚ) * 2 ^ e
        ≤ 2 ^ 53 * 2 ^ e := by gcongr; exact_mod_cast hbelow
      _ = 2 ^ 52 * 2 ^ (e + 1) := by rw [zpow_add_one₀ (by norm_num)]; ring
      _ ≤ 2 ^ 52 * 2 ^ e' := by gcongr <;> [norm_num; omega]
      _ ≤ nearest (scaled n' d e').1 (scaled n' d e').2 * 2 ^ e' := by
        gcongr
        exact_mod_cast habove
  · obtain ⟨hscaled, hunit⟩ := scaled_mono d e h
    rw [hunit]
    gcongr
    exact nearest_mono _ hscaled
  · have hover : (2 : ℚ) ^ (e' + 53) ≤ 2 ^ (e + 52) := zpow_le_zpow_right₀ (by norm_num) (by omega)
    exact absurd (((hle (by omega)).trans hquotient).trans_lt hlt') (not_lt.mpr hover)

theorem ofQuotient?_eq (n : ℤ) (d : ℕ) : ofQuotient? n d =
    if n = 0 then some ⟨0, 0⟩
    else if 971 < exponentOf n.natAbs d ∨ (exponentOf n.natAbs d = 971 ∧ powerOfTwo 53 ≤
        nearest (scaled n.natAbs d (exponentOf n.natAbs d)).1 (scaled n.natAbs d (exponentOf n.natAbs d)).2)
      then none
    else some ⟨n.sign *
      nearest (scaled n.natAbs d (exponentOf n.natAbs d)).1 (scaled n.natAbs d (exponentOf n.natAbs d)).2,
      exponentOf n.natAbs d⟩ := rfl

theorem value_of_ofQuotient {n : ℤ} {d : ℕ} {x : Double} (h : ofQuotient? n d = some x) :
    x.value = n.sign * rounded n.natAbs d := by
  rw [ofQuotient?_eq] at h
  split at h
  next hn =>
    obtain rfl := Option.some.inj h
    simp [value, hn]
  split at h
  · exact absurd h.symm (Option.some_ne_none x)
  · obtain rfl := Option.some.inj h
    simp only [value, rounded]
    push_cast
    ring

/-- **Rounding keeps the order.** -/
theorem value_mono {n n' : ℤ} {d : ℕ} {x x' : Double} (hd : 0 < d) (h : n ≤ n')
    (hx : ofQuotient? n d = some x) (hx' : ofQuotient? n' d = some x') : x.value ≤ x'.value := by
  have hnonneg {k : ℤ} (hk : 0 ≤ k) : (k.sign : ℚ) * rounded k.natAbs d = rounded k.natAbs d := by
    rcases hk.eq_or_lt with rfl | hpos
    · rw [Int.natAbs_zero, rounded_zero hd, mul_zero]
    · rw [Int.sign_eq_one_of_pos hpos, Int.cast_one, one_mul]
  have hneg {k : ℤ} (hk : k < 0) : (k.sign : ℚ) * rounded k.natAbs d = -rounded k.natAbs d := by
    rw [Int.sign_eq_neg_one_of_neg hk, Int.cast_neg, Int.cast_one, neg_one_mul]
  rw [value_of_ofQuotient hx, value_of_ofQuotient hx']
  rcases lt_or_ge n 0 with hn | hn
  · rw [hneg hn]
    rcases lt_or_ge n' 0 with hn' | hn'
    · rw [hneg hn']
      exact neg_le_neg (rounded_mono hd (by omega))
    · rw [hnonneg hn']
      exact (neg_nonpos.mpr (rounded_nonneg _ _)).trans (rounded_nonneg _ _)
  · rw [hnonneg hn, hnonneg (hn.trans h)]
    exact rounded_mono hd (by omega)

/-- A quotient below `2 ^ 1023` is not refused. -/
theorem exists_ofQuotient {n : ℤ} {d k : ℕ} (hd : 0 < d) (hk : k ≤ 1023) (h : n.natAbs < d * 2 ^ k) :
    ∃ x, ofQuotient? n d = some x := by
  rw [ofQuotient?_eq]
  split
  · exact ⟨_, rfl⟩
  next hn =>
    have hexponent := exponentOf_le (Int.natAbs_ne_zero.mpr hn) hd h
    rw [if_neg (by omega)]
    exact ⟨_, rfl⟩

end ObjectChannel.Double
