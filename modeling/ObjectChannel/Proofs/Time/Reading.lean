/-
What reading the times comes to, for any metadata. An entry without a number holds no time, and neither does
a number of milliseconds in no year from 1 to 9999. But a number beyond the years of the clock is not taken as
invalid: it stops the reading, and the times of the other entries are lost with it.
-/
import Mathlib
import ObjectChannel.Proofs.Double.Order
import ObjectChannel.Proofs.Time.RoundTrip

namespace ObjectChannel.Time

section Seconds

variable {k seconds bound least : Int} {micros : Nat} {x : Double}

/-! ## Where whole seconds are reached -/

theorem total_close (hsplit : splitSeconds x = (seconds, micros)) : micros < 1000000 ∧
    |((seconds * 1000000 + micros : Int) : ℚ) - x.value * 1000000| < 1 := by
  obtain ⟨seconds', micros', hsplit', hmicros, hsum⟩ := splitSeconds_close x
  obtain ⟨rfl, rfl⟩ := Prod.mk.inj (hsplit.symm.trans hsplit')
  exact ⟨hmicros, hsum.trans_lt (by norm_num)⟩

theorem le_seconds (hsplit : splitSeconds x = (seconds, micros)) (h : (bound : ℚ) ≤ x.value) :
    bound ≤ seconds := by
  obtain ⟨hmicros, hclose⟩ := total_close hsplit
  have hbelow := (abs_lt.mp hclose).1
  have htotal : ((bound * 1000000 - 1 : Int) : ℚ) < (seconds * 1000000 + micros : Int) := by
    push_cast at hbelow ⊢
    linarith
  have := Int.cast_lt.mp htotal
  omega

/-- Where the number is a microsecond short of them, the rounding does not reach them. -/
theorem seconds_lt (hsplit : splitSeconds x = (seconds, micros))
    (h : x.value * 1000000 + 1 ≤ bound * 1000000) : seconds < bound := by
  obtain ⟨-, hclose⟩ := total_close hsplit
  have habove := (abs_lt.mp hclose).2
  have htotal : ((seconds * 1000000 + micros : Int) : ℚ) < (bound * 1000000 : Int) := by
    push_cast at habove ⊢
    linarith
  have := Int.cast_lt.mp htotal
  omega

/-- Of all milliseconds, `least` are the first whose number of seconds reaches the whole number `bound`, and
the ones before are a microsecond short of it. -/
def FirstReached (bound least : Int) : Prop :=
  (∃ y ∈ Double.ofQuotient? least 1000, bound * y.denominator ≤ y.numerator) ∧
    ∃ y ∈ Double.ofQuotient? (least - 1) 1000,
      y.numerator * 1000000 + y.denominator ≤ bound * 1000000 * y.denominator

instance (bound least : Int) : Decidable (FirstReached bound least) :=
  inferInstanceAs (Decidable (_ ∧ _))

/-- Rounding keeps the order, so two numbers settle where the seconds are reached. -/
theorem FirstReached.le_seconds_iff (h : FirstReached bound least)
    (hx : Double.ofQuotient? k 1000 = some x) (hsplit : splitSeconds x = (seconds, micros)) :
    bound ≤ seconds ↔ least ≤ k := by
  obtain ⟨⟨y, hy, hreached⟩, z, hz, hshort⟩ := h
  have hydenominator : (0 : ℚ) < y.denominator := by exact_mod_cast y.denominator_pos
  have hzdenominator : (0 : ℚ) < z.denominator := by exact_mod_cast z.denominator_pos
  constructor
  · refine fun hseconds => not_lt.mp fun hless => not_lt.mpr hseconds (seconds_lt hsplit ?_)
    have hmono := Double.value_mono (by decide) (by omega : k ≤ least - 1) hx hz
    have hvalue : z.value * 1000000 + 1 ≤ bound * 1000000 := by
      rw [← z.numerator_div_denominator, div_mul_eq_mul_div, div_add_one hzdenominator.ne',
        div_le_iff₀ hzdenominator]
      exact_mod_cast hshort
    linarith
  · refine fun hleast => le_seconds hsplit (le_trans ?_ (Double.value_mono (by decide) hleast hy hx))
    rw [← y.numerator_div_denominator, le_div_iff₀ hydenominator]
    exact_mod_cast hreached

/-! ## The ranges of milliseconds -/

/-- The milliseconds that the clock has a year for. Numbers of seconds of this size are rounded to eights, and
either bound of the years is what is reached from four seconds before it. -/
def OnClock (k : Int) : Prop := (clockFirst - 4) * 1000 ≤ k ∧ k < (clockEnd - 4) * 1000

/-- The milliseconds from which on there are too many seconds. Below 2^63 the numbers are rounded to steps of
1024, and above to steps of 2048, of which the first ends in 2^63 again. -/
def Clock.endOfCount (clock : Clock) : Int :=
  if clock.countsEnd then (endOfSeconds + 1024) * 1000 + 1 else (endOfSeconds - 512) * 1000

/-- The milliseconds whose seconds the clock can count, as they are rounded. -/
def Countable (clock : Clock) (k : Int) : Prop :=
  -((endOfSeconds + 1024) * 1000) ≤ k ∧ k < clock.endOfCount

instance (k : Int) : Decidable (OnClock k) := inferInstanceAs (Decidable (_ ∧ _))

instance (clock : Clock) (k : Int) : Decidable (Countable clock k) :=
  inferInstanceAs (Decidable (_ ∧ _))

theorem Representable.onClock (h : Representable k) : OnClock k := by
  unfold Representable firstSecond endSecond at h
  unfold OnClock clockFirst clockEnd
  omega

theorem OnClock.countable (clock : Clock) (h : OnClock k) : Countable clock k := by
  unfold OnClock clockFirst clockEnd at h
  unfold Countable Clock.endOfCount endOfSeconds
  split <;> omega

theorem seconds_representable_iff (hx : Double.ofQuotient? k 1000 = some x)
    (hsplit : splitSeconds x = (seconds, micros)) :
    firstSecond ≤ seconds ∧ seconds < endSecond ↔ Representable k := by
  have hfirst : FirstReached firstSecond (firstSecond * 1000) := by decide +kernel
  have hend : FirstReached endSecond (endSecond * 1000) := by decide +kernel
  rw [hfirst.le_seconds_iff hx hsplit, ← not_le, hend.le_seconds_iff hx hsplit, not_le]
  rfl

theorem seconds_onClock_iff (hx : Double.ofQuotient? k 1000 = some x)
    (hsplit : splitSeconds x = (seconds, micros)) :
    clockFirst ≤ seconds ∧ seconds < clockEnd ↔ OnClock k := by
  have hfirst : FirstReached clockFirst ((clockFirst - 4) * 1000) := by decide +kernel
  have hend : FirstReached clockEnd ((clockEnd - 4) * 1000) := by decide +kernel
  rw [hfirst.le_seconds_iff hx hsplit, ← not_le, hend.le_seconds_iff hx hsplit, not_le]
  rfl

theorem seconds_countable_iff (clock : Clock) (hx : Double.ofQuotient? k 1000 = some x)
    (hsplit : splitSeconds x = (seconds, micros)) : clock.counts seconds = true ↔ Countable clock k := by
  have hfirst : FirstReached (-endOfSeconds) (-((endOfSeconds + 1024) * 1000)) := by decide +kernel
  have hend : FirstReached endOfSeconds ((endOfSeconds - 512) * 1000) := by decide +kernel
  have hafter : FirstReached (endOfSeconds + 1) ((endOfSeconds + 1024) * 1000 + 1) := by decide +kernel
  have hfirst := hfirst.le_seconds_iff hx hsplit
  have hend := hend.le_seconds_iff hx hsplit
  have hafter := hafter.le_seconds_iff hx hsplit
  obtain ⟨countsEnd⟩ := clock
  cases countsEnd <;> simp [Clock.counts, Countable, Clock.endOfCount] <;> omega

theorem not_countable_of_refused (clock : Clock) (h : Double.ofQuotient? k 1000 = none) :
    ¬Countable clock k := by
  intro hk
  have hsmall : k.natAbs < 1000 * 2 ^ 64 := by
    unfold Countable Clock.endOfCount endOfSeconds at hk
    split at hk <;> omega
  obtain ⟨x, hx⟩ := Double.exists_ofQuotient (by decide) (by decide) hsmall
  rw [h] at hx
  exact nomatch hx

end Seconds

/-! ## One entry -/

/-- What the number in an entry is read as. -/
inductive Told (clock : Clock) : Option Int → Except ClockFault (Option DateTime) → Prop
  | nothing : Told clock none (.ok none)
  | shown {k : Int} {t : DateTime} (hk : Representable k) (ht : t.Shows k) :
    Told clock (some k) (.ok (some t))
  | beyond {k : Int} (hk : ¬Representable k) (hclock : OnClock k) : Told clock (some k) (.ok none)
  | year {k : Int} (hclock : ¬OnClock k) (hcount : Countable clock k) :
    Told clock (some k) (.error .year)
  | seconds {k : Int} (hcount : ¬Countable clock k) : Told clock (some k) (.error .seconds)

variable {clock : Clock}

theorem ofMilliseconds_told (k : Int) : Told clock (some k) (ofMilliseconds clock k) := by
  by_cases hk : Representable k
  · obtain ⟨t, ht, hshows⟩ := ofMilliseconds_shows clock hk
    exact ht ▸ .shown hk hshows
  cases hx : Double.ofQuotient? k 1000 with
  | none =>
    have hfault : ofMilliseconds clock k = .error .seconds := by
      unfold ofMilliseconds
      rw [hx]
    exact hfault ▸ .seconds (not_countable_of_refused clock hx)
  | some x =>
    obtain ⟨seconds, micros, hsplit, -⟩ := splitSeconds_close x
    rw [ofMilliseconds_of_split hx hsplit]
    simp only [seconds_countable_iff clock hx hsplit, seconds_onClock_iff hx hsplit,
      seconds_representable_iff hx hsplit]
    split
    next hcount => exact .seconds hcount
    next hcount =>
      split
      next hclock => exact .year hclock (not_not.mp hcount)
      next hclock => exact .beyond hk (not_not.mp hclock)

theorem readTime_told (entry : Option String) :
    Told clock (entry.bind Text.integer?) (readTime clock entry) := by
  unfold readTime
  cases entry.bind Text.integer? with
  | none => exact .nothing
  | some k => exact ofMilliseconds_told k

/-- An entry is read if its number is on the clock. -/
theorem Told.read_iff {number : Option Int} {result : Except ClockFault (Option DateTime)}
    (h : Told clock number result) : (∃ t, result = .ok t) ↔ ∀ k, number = some k → OnClock k := by
  have hread {k : Int} {t : Option DateTime} (hclock : OnClock k) :
      (∃ t', (.ok t : Except ClockFault (Option DateTime)) = .ok t') ↔ ∀ k', some k = some k' → OnClock k' :=
    ⟨fun _ _ hk => Option.some.inj hk ▸ hclock, fun _ => ⟨t, rfl⟩⟩
  have hfault {k : Int} {fault : ClockFault} (hclock : ¬OnClock k) :
      (∃ t : Option DateTime, Except.error fault = .ok t) ↔ ∀ k', some k = some k' → OnClock k' :=
    ⟨fun ⟨_, hok⟩ => (nomatch hok), fun hall => absurd (hall k rfl) hclock⟩
  cases h with
  | nothing => exact ⟨fun _ _ hk => (nomatch hk), fun _ => ⟨none, rfl⟩⟩
  | shown hk ht => exact hread hk.onClock
  | beyond hk hclock => exact hread hclock
  | year hclock hcount => exact hfault hclock
  | seconds hcount => exact hfault fun hclock => hcount (hclock.countable clock)

/-! ## All entries -/

/-- All times are read, or reading stops at an entry. -/
theorem readTimes_cases (m : Metadata) :
    (∃ times, readTimes clock m = .ok times ∧
        ∀ s : Stamp, readTime clock (m.get? s.key) = .ok (times.stamp s)) ∨
      ∃ (s : Stamp) (fault : ClockFault),
        readTimes clock m = .error fault ∧ readTime clock (m.get? s.key) = .error fault := by
  unfold readTimes
  cases hmodified : readTime clock (m.get? lastModifiedKey) with
  | error fault => exact .inr ⟨.lastModified, fault, rfl, hmodified⟩
  | ok modified =>
    cases haccess : readTime clock (m.get? lastAccessKey) with
    | error fault => exact .inr ⟨.lastAccess, fault, rfl, haccess⟩
    | ok access =>
      cases hcreate : readTime clock (m.get? createTimeKey) with
      | error fault => exact .inr ⟨.createTime, fault, rfl, hcreate⟩
      | ok create =>
        refine .inl ⟨⟨modified, access, create⟩, rfl, fun s => ?_⟩
        cases s with
        | lastModified => exact hmodified
        | lastAccess => exact haccess
        | createTime => exact hcreate

theorem stamps_of_readTimes {m : Metadata} {times : Times} (h : readTimes clock m = .ok times) (s : Stamp) :
    readTime clock (m.get? s.key) = .ok (times.stamp s) := by
  rcases readTimes_cases m with ⟨times', htimes, hstamps⟩ | ⟨-, fault, hfault, -⟩
  · obtain rfl := Except.ok.inj (h.symm.trans htimes)
    exact hstamps s
  · exact nomatch h.symm.trans hfault

theorem fault_of_readTimes {m : Metadata} {fault : ClockFault} (h : readTimes clock m = .error fault) :
    ∃ s : Stamp, readTime clock (m.get? s.key) = .error fault := by
  rcases readTimes_cases m with ⟨times, htimes, -⟩ | ⟨s, fault', hfault, hentry⟩
  · exact nomatch h.symm.trans htimes
  · obtain rfl := Except.error.inj (h.symm.trans hfault)
    exact ⟨s, hentry⟩

/-- What reading the times in the metadata `m` comes to. -/
structure TimesTold (clock : Clock) (m : Metadata) (result : Except ClockFault Times) : Prop where
  /-- An entry is read by itself. -/
  entries : ∀ s : Stamp, Told clock ((m.get? s.key).bind Text.integer?) (readTime clock (m.get? s.key))
  times : ∀ times, result = .ok times ↔ ∀ s : Stamp, readTime clock (m.get? s.key) = .ok (times.stamp s)
  /-- All times are read, or none. -/
  read : (∃ times, result = .ok times) ↔
    ∀ (s : Stamp) k, (m.get? s.key).bind Text.integer? = some k → OnClock k
  stopped : ∀ fault, result = .error fault → ∃ s : Stamp, readTime clock (m.get? s.key) = .error fault

/-- **Reading, entry by entry.** -/
theorem readTimes_told (clock : Clock) (m : Metadata) : TimesTold clock m (readTimes clock m) where
  entries s := readTime_told (m.get? s.key)
  times times := ⟨fun h => stamps_of_readTimes h, readTimes_of_stamps⟩
  read := by
    constructor
    · rintro ⟨times, htimes⟩ s
      exact (readTime_told (m.get? s.key)).read_iff.mp ⟨_, stamps_of_readTimes htimes s⟩
    · intro hclock
      obtain ⟨times, htimes, -⟩ :=
        exists_readTimes fun s => (readTime_told (m.get? s.key)).read_iff.mpr (hclock s)
      exact ⟨times, htimes⟩
  stopped _ := fault_of_readTimes

/-- Text without a number and a time in the year 10000 are read as no time, and leave the last modification
alone. -/
theorem readTimes_told_of_mixed :
    let clock : Clock := .ofWords
    let m : Metadata := ((Table.empty.insert lastModifiedKey "1500").insert lastAccessKey "soon").insert
      createTimeKey "253402300800000"
    let modified : DateTime :=
      { year := 1970, month := 1, day := 1, hour := 0, minute := 0, second := 1, microsecond := 500000
        offset := some 0 }
    (∃ times, readTimes clock m = .ok times) ∧ readTimes clock m = .ok { lastModified := some modified } := by
  intro clock m modified
  have hmodified : (m.get? lastModifiedKey).bind Text.integer? = some 1500 := by decide +kernel
  have haccess : (m.get? lastAccessKey).bind Text.integer? = none := by decide +kernel
  have hcreate : (m.get? createTimeKey).bind Text.integer? = some 253402300800000 := by decide +kernel
  refine ⟨(readTimes_told clock m).read.mpr fun s k hk => ?_, by decide +kernel⟩
  cases s with
  | lastModified =>
    obtain rfl := Option.some.inj (hmodified.symm.trans hk)
    decide
  | lastAccess => exact nomatch haccess.symm.trans hk
  | createTime =>
    obtain rfl := Option.some.inj (hcreate.symm.trans hk)
    decide

/-- A last access far beyond the years of the clock takes the last modification along, which is read where it
stands alone. -/
theorem far_access_hides_times :
    let clock : Clock := .ofWords
    let m : Metadata := Table.empty.insert lastModifiedKey "1000"
    let second : DateTime :=
      { year := 1970, month := 1, day := 1, hour := 0, minute := 0, second := 1, microsecond := 0
        offset := some 0 }
    readTimes clock m = .ok { lastModified := some second } ∧
      readTime clock ((m.insert lastAccessKey "99999999999999999999999999").get? lastModifiedKey) =
        .ok (some second) ∧
      readTimes clock (m.insert lastAccessKey "99999999999999999999999999") = .error .seconds ∧
      readTimes clock (m.insert lastAccessKey "67768036191676800000") = .error .year := by
  decide +kernel

end ObjectChannel.Time
