/-
How well a time survives its milliseconds. Both ways go through a number of seconds with 53 digits, so a
time that is read may be off by some microseconds, and the milliseconds that are written may be one less
than they were; an eighth of a second has no rounding at all.
-/
import Mathlib
import ObjectChannel.Time.Metadata
import ObjectChannel.Proofs.Double
import ObjectChannel.Proofs.Time.Calendar

namespace ObjectChannel.Time

/-- The milliseconds of the years 1 to 9999. -/
def Representable (k : Int) : Prop := firstSecond * 1000 ≤ k ∧ k < endSecond * 1000

instance (k : Int) : Decidable (Representable k) := inferInstanceAs (Decidable (_ ∧ _))

/-- Milliseconds `k'` that come of the milliseconds `k` by writing `n` times: they lie in the same eighth of
a second, not farther from the start of 1970, and at most `n` closer to it. -/
structure Drifts (n : Nat) (k k' : Int) : Prop where
  eighth : k'.natAbs / 125 = k.natAbs / 125
  back : 0 ≤ k' ∧ k' ≤ k ∨ k ≤ k' ∧ k' ≤ 0
  slow : (k - k').natAbs ≤ n

namespace Drifts

variable {m n : Nat} {k k' k'' : Int}

theorem refl (k : Int) : Drifts 0 k k := ⟨rfl, by omega, by omega⟩

theorem trans (h : Drifts m k k') (h' : Drifts n k' k'') : Drifts (m + n) k k'' where
  eighth := h'.eighth.trans h.eighth
  back := by
    have := h.back
    have := h'.back
    omega
  slow := by
    have := h.slow
    have := h'.slow
    omega

/-- A whole number of eighths of a second stays what it is. -/
theorem whole (h : Drifts n k k') (hk : 125 ∣ k) : k' = k := by
  have := h.eighth
  have := h.back
  omega

theorem representable (h : Drifts n k k') (hk : Representable k) : Representable k' := by
  have := h.back
  unfold Representable firstSecond endSecond at *
  omega

/-- Cut off at the point, milliseconds lose at most one, and none where they are not rounded. -/
theorem of_truncated (h : k' = k ∨ k' = k - k.sign) (hwhole : 125 ∣ k → k' = k) : Drifts 1 k k' := by
  rcases h with rfl | h
  · exact ⟨rfl, by omega, by omega⟩
  by_cases hk : 125 ∣ k
  · obtain rfl := hwhole hk
    exact ⟨rfl, by omega, by omega⟩
  rcases lt_trichotomy k 0 with hneg | rfl | hpos
  · rw [Int.sign_eq_neg_one_of_neg hneg] at h
    exact ⟨by omega, by omega, by omega⟩
  · exact absurd (dvd_zero 125) hk
  · rw [Int.sign_eq_one_of_pos hpos] at h
    exact ⟨by omega, by omega, by omega⟩

end Drifts

theorem Representable.bounds {k : Int} (hk : Representable k) :
    (-62135596800000 : ℚ) ≤ k ∧ (k : ℚ) ≤ 253402300799999 := by
  obtain ⟨hfirst, hend⟩ := hk
  unfold firstSecond at hfirst
  unfold endSecond at hend
  constructor
  · exact_mod_cast hfirst
  · exact_mod_cast (by omega : k ≤ 253402300799999)

/-! ## Writing -/

theorem milliseconds_eq {t : DateTime} {x y : Double}
    (hx : Double.ofQuotient? t.microseconds 1000000 = some x) (hy : x.times? 1000 = some y) :
    milliseconds t = y.truncate := by
  unfold milliseconds
  rw [hx, Option.bind_some, hy]

/-- **What is written of a time** that lies at `k` milliseconds, or next to them as far as reading may be
off, is `k` or one millisecond less. -/
theorem milliseconds_drifts {t : DateTime} {k : Int} (hk : Representable k)
    (hclose : (t.microseconds - 1000 * k).natAbs ≤ 15)
    (hwhole : 125 ∣ k → t.microseconds = 1000 * k) : Drifts 1 k (milliseconds t) := by
  obtain ⟨hfirst, hend⟩ := hk.bounds
  have hoff : |((t.microseconds - 1000 * k : Int) : ℚ)| < (16 : ℕ) :=
    Double.abs_cast_lt_iff.mpr (by omega)
  push_cast [abs_lt] at hoff
  -- The seconds leave 15 binary places behind the point, the milliseconds 5.
  have hseconds : |(t.microseconds : ℚ) / (1000000 : ℕ)| < 2 ^ 38 := by
    rw [abs_lt]
    push_cast
    constructor <;> linarith
  obtain ⟨x, hx, hnear⟩ := Double.exists_near_ofQuotient (by norm_num) (by norm_num) hseconds
  have hxclose := abs_le.mp hnear.close
  norm_num at hxclose
  have hproduct : |x.value * (1000 : ℤ)| < 2 ^ 48 := by
    rw [abs_lt]
    push_cast
    constructor <;> linarith
  obtain ⟨y, hy, hnear'⟩ := Double.exists_near_times (by norm_num) hproduct
  have hyclose := abs_le.mp hnear'.close
  norm_num at hyclose
  rw [milliseconds_eq hx hy]
  refine .of_truncated (Double.truncate_near ?_) fun hdvd => Double.truncate_of_whole ?_
  · rw [abs_lt]
    constructor <;> linarith
  · obtain ⟨eighths, rfl⟩ := hdvd
    rw [hwhole ⟨eighths, rfl⟩] at hnear
    have hxexact := hnear.exact 3 eighths (by decide) (by push_cast; ring)
    have hyexact := hnear'.exact 0 (125 * eighths) (by decide) (by rw [hxexact]; push_cast; ring)
    rw [hyexact, hxexact]
    push_cast
    ring

/-! ## Reading -/

/-- A time that is read for `k` milliseconds: universal time, exact to the microsecond for as long as the
seconds have less than 34 binary digits, and at eighths of a second. -/
structure DateTime.Shows (t : DateTime) (k : Int) : Prop where
  valid : t.isValid = true
  universal : t.ahead = 0
  close : (t.microseconds - 1000 * k).natAbs ≤ 15
  exact : k.natAbs < 8589934592000 ∨ 125 ∣ k → t.microseconds = 1000 * k

/-- The whole seconds and the microseconds make up the number but for the rounding of the
microseconds. -/
theorem splitSeconds_close (x : Double) : ∃ (seconds : Int) (micros : Nat),
    splitSeconds x = (seconds, micros) ∧ micros < 1000000 ∧
      |((seconds * 1000000 + micros : Int) : ℚ) - x.value * 1000000| ≤ 1 / 2 + 1 / 2 ^ 34 := by
  obtain ⟨hbelow, habove⟩ := abs_lt.mp x.abs_fraction_lt
  have hproduct : |x.fraction.value * (1000000 : ℤ)| < 2 ^ 20 := by
    rw [abs_lt]
    push_cast
    constructor <;> linarith
  obtain ⟨y, hy, hnear⟩ := Double.exists_near_times (by norm_num) hproduct
  have hyclose := abs_le.mp hnear.close
  have hround := abs_le.mp y.round_close
  norm_num at hyclose
  have hmicros : y.round.natAbs < 1000001 := by
    rw [← Double.abs_cast_lt_iff, abs_lt]
    push_cast
    constructor <;> linarith
  have htotal (seconds : Int) (micros : Nat)
      (h : seconds * 1000000 + micros = x.truncate * 1000000 + y.round) :
      |((seconds * 1000000 + micros : Int) : ℚ) - x.value * 1000000| ≤ 1 / 2 + 1 / 2 ^ 34 := by
    rw [x.fraction_value] at hyclose
    rw [h, abs_le]
    push_cast
    constructor <;> linarith
  simp only [splitSeconds, hy]
  split
  · exact ⟨_, _, rfl, by omega, htotal _ _ (by omega)⟩
  split
  · exact ⟨_, _, rfl, by omega, htotal _ _ (by omega)⟩
  · exact ⟨_, _, rfl, by omega, htotal _ _ (by omega)⟩

/-- The first second of the years that the clock's calendar has, and the first one after them. -/
def clockFirst : Int := -67768040609740800
def clockEnd : Int := 67768036191676800

theorem clockYears_ofSeconds (seconds : Int) (micros : Nat) :
    clockYears (DateTime.ofSeconds seconds micros).year = true ↔
      clockFirst ≤ seconds ∧ seconds < clockEnd := by
  have hbefore := year_ofSeconds_lt_iff seconds (-2147481748) micros
  have hafter := year_ofSeconds_lt_iff seconds 2147485548 micros
  have hyears : daysFromDate (-2147481748) 1 1 * 86400 = clockFirst ∧
      daysFromDate 2147485548 1 1 * 86400 = clockEnd := by
    decide
  simp only [clockYears, Bool.and_eq_true, decide_eq_true_eq]
  omega

variable {clock : Clock}

theorem ofMilliseconds_of_split {k seconds : Int} {micros : Nat} {x : Double}
    (hx : Double.ofQuotient? k 1000 = some x) (hsplit : splitSeconds x = (seconds, micros)) :
    ofMilliseconds clock k =
      if ¬clock.counts seconds then .error .seconds
      else if ¬(clockFirst ≤ seconds ∧ seconds < clockEnd) then .error .year
      else if ¬(firstSecond ≤ seconds ∧ seconds < endSecond) then .ok none
      else .ok (some (DateTime.ofSeconds seconds micros)) := by
  have hcalendar : (DateTime.ofSeconds seconds micros).year < 1 ∨
      9999 < (DateTime.ofSeconds seconds micros).year ↔
      ¬(firstSecond ≤ seconds ∧ seconds < endSecond) := by
    rw [← year_ofSeconds_iff seconds micros]
    omega
  unfold ofMilliseconds
  rw [hx]
  simp only [hsplit, hcalendar, Bool.not_eq_true', ← Bool.not_eq_true, clockYears_ofSeconds]

theorem ofMilliseconds_eq {k seconds : Int} {micros : Nat} {x : Double}
    (hx : Double.ofQuotient? k 1000 = some x) (hsplit : splitSeconds x = (seconds, micros))
    (hfirst : firstSecond ≤ seconds) (hend : seconds < endSecond) :
    ofMilliseconds clock k = .ok (some (DateTime.ofSeconds seconds micros)) := by
  have hclock : clockFirst ≤ seconds ∧ seconds < clockEnd := by
    unfold firstSecond at hfirst
    unfold endSecond at hend
    unfold clockFirst clockEnd
    omega
  have hcounted : clock.counts seconds = true := by
    unfold clockFirst clockEnd at hclock
    exact Bool.or_eq_true_iff.mpr (.inl (Bool.and_eq_true_iff.mpr
      ⟨decide_eq_true (by unfold endOfSeconds; omega), decide_eq_true (by unfold endOfSeconds; omega)⟩))
  rw [ofMilliseconds_of_split hx hsplit, if_neg (not_not.mpr hcounted), if_neg (not_not.mpr hclock),
    if_neg (not_not.mpr ⟨hfirst, hend⟩)]

/-- The seconds that stand for `k` milliseconds tell every microsecond, where they are few or whole
eighths. -/
theorem seconds_precise {k : Int} {x : Double} (hx : Double.ofQuotient? k 1000 = some x)
    (hnear : Double.Near (k / (1000 : ℕ)) 38 x) (h : k.natAbs < 8589934592000 ∨ 125 ∣ k) :
    |x.value - k / (1000 : ℕ)| ≤ 1 / 2 ^ 21 := by
  rcases h with hfew | ⟨eighths, rfl⟩
  · have hk : |(k : ℚ)| < (8589934592000 : ℕ) := Double.abs_cast_lt_iff.mpr hfew
    have hseconds : |(k : ℚ) / (1000 : ℕ)| < 2 ^ 33 := by
      rw [abs_lt] at hk ⊢
      push_cast at hk ⊢
      constructor <;> linarith
    obtain ⟨x', hx', hnear'⟩ := Double.exists_near_ofQuotient (by norm_num) (by norm_num) hseconds
    obtain rfl := Option.some.inj (hx.symm.trans hx')
    refine hnear'.close.trans ?_
    norm_num
  · rw [hnear.exact 3 eighths (by decide) (by push_cast; ring), sub_self, abs_zero]
    positivity

/-- **The time that is read for `k` milliseconds shows them.** -/
theorem ofMilliseconds_shows (clock : Clock) {k : Int} (hk : Representable k) :
    ∃ t, ofMilliseconds clock k = .ok (some t) ∧ t.Shows k := by
  obtain ⟨hfirst, hend⟩ := hk.bounds
  have hseconds : |(k : ℚ) / (1000 : ℕ)| < 2 ^ 38 := by
    rw [abs_lt]
    push_cast
    constructor <;> linarith
  obtain ⟨x, hx, hnear⟩ := Double.exists_near_ofQuotient (by norm_num) (by norm_num) hseconds
  obtain ⟨seconds, micros, hsplit, hmicros, hsum⟩ := splitSeconds_close x
  have hsum := abs_le.mp hsum
  have hxclose := abs_le.mp hnear.close
  norm_num at hsum hxclose
  have hclose : (seconds * 1000000 + micros - 1000 * k).natAbs < 16 := by
    rw [← Double.abs_cast_lt_iff, abs_lt]
    push_cast
    constructor <;> linarith
  have hexact (h : k.natAbs < 8589934592000 ∨ 125 ∣ k) : seconds * 1000000 + micros = 1000 * k := by
    have hprecise := abs_le.mp (seconds_precise hx hnear h)
    norm_num at hprecise
    have hnone : (seconds * 1000000 + micros - 1000 * k).natAbs < 1 := by
      rw [← Double.abs_cast_lt_iff, abs_lt]
      push_cast
      constructor <;> linarith
    omega
  have hrange : firstSecond ≤ seconds ∧ seconds < endSecond := by
    obtain ⟨hfirst', hend'⟩ := hk
    unfold firstSecond at *
    unfold endSecond at *
    omega
  have hmicroseconds := microseconds_ofSeconds seconds micros
  refine ⟨_, ofMilliseconds_eq hx hsplit hrange.1 hrange.2, ?_⟩
  exact ⟨isValid_ofSeconds hrange.1 hrange.2 hmicros, rfl, hmicroseconds ▸ Nat.le_of_lt_succ hclose,
    hmicroseconds ▸ hexact⟩

end ObjectChannel.Time
