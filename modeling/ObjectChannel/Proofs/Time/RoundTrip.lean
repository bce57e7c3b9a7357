/-
Times written to the metadata and read back. Of the times that are given the milliseconds are kept, or one
less; the entries of the others and of everything else stay. Metadata whose times are read and set over and
over again keep them to the eighth of a second.
-/
import Mathlib
import ObjectChannel.Proofs.Text.Integer
import ObjectChannel.Proofs.Time.Precision

namespace ObjectChannel.Time

/-- The times that travel with an object. -/
inductive Stamp where
  | lastModified
  | lastAccess
  | createTime
  deriving DecidableEq

def Stamp.key : Stamp → String
  | lastModified => lastModifiedKey
  | lastAccess => lastAccessKey
  | createTime => createTimeKey

theorem Stamp.key_injective {s s' : Stamp} (h : s.key = s'.key) : s = s' := by
  cases s <;> cases s' <;> first | rfl | exact absurd h (by decide)

def Times.stamp (times : Times) : Stamp → Option DateTime
  | .lastModified => times.lastModified
  | .lastAccess => times.lastAccess
  | .createTime => times.createTime

/-! ## One entry -/

variable {clock : Clock}

/-- **The text of `k` is read as a time that shows `k`.** -/
theorem readTime_toString {k : Int} (hk : Representable k) :
    ∃ t, readTime clock (some (toString k)) = .ok (some t) ∧ t.Shows k := by
  have hsize : k.natAbs < Nat.pow 10 15 := by
    obtain ⟨hfirst, hend⟩ := hk
    unfold firstSecond at hfirst
    unfold endSecond at hend
    show k.natAbs < 1000000000000000
    omega
  have hlength : (Nat.toDigits 10 k.natAbs).length ≤ 15 :=
    (Nat.length_toDigits_le_iff (by decide) (by decide)).mpr hsize
  have hvalue : Text.integer? (toString k) = some k :=
    Text.integer?_toString (hlength.trans (by decide))
  obtain ⟨t, ht, hshows⟩ := ofMilliseconds_shows clock hk
  refine ⟨t, ?_, hshows⟩
  simp only [readTime, Option.bind_some, hvalue, ht]

/-- The metadata with one of the times set, if it is given. -/
def setStamp (times : Times) (m : Metadata) (s : Stamp) : Metadata :=
  match times.stamp s with
  | some t => m.insert s.key (toString (milliseconds t))
  | none => m

theorem setTimes_eq (m : Metadata) (times : Times) : setTimes m times =
    setStamp times (setStamp times (setStamp times m .lastModified) .lastAccess) .createTime := rfl

theorem get?_setStamp_of_given {times : Times} {s : Stamp} {t : DateTime} (m : Metadata)
    (h : times.stamp s = some t) :
    (setStamp times m s).get? s.key = some (toString (milliseconds t)) := by
  simp only [setStamp, h, Table.get?_insert_self]

theorem get?_setStamp_of_other {times : Times} {s : Stamp} {key : String} (m : Metadata)
    (h : key = s.key → times.stamp s = none) : (setStamp times m s).get? key = m.get? key := by
  unfold setStamp
  split
  next t ht =>
    refine Table.get?_insert_other _ _ fun hkey => ?_
    rw [h hkey] at ht
    exact nomatch ht
  next => rfl

theorem get?_setTimes_of_given {times : Times} {s : Stamp} {t : DateTime} (m : Metadata)
    (h : times.stamp s = some t) :
    (setTimes m times).get? s.key = some (toString (milliseconds t)) := by
  have hother {s' : Stamp} (hne : s ≠ s') : s.key = s'.key → times.stamp s' = none :=
    fun hkey => absurd (Stamp.key_injective hkey) hne
  rw [setTimes_eq]
  cases s with
  | lastModified =>
    rw [get?_setStamp_of_other _ (hother (by decide)), get?_setStamp_of_other _ (hother (by decide)),
      get?_setStamp_of_given _ h]
  | lastAccess => rw [get?_setStamp_of_other _ (hother (by decide)), get?_setStamp_of_given _ h]
  | createTime => rw [get?_setStamp_of_given _ h]

theorem get?_setTimes_of_absent {times : Times} {key : String} (m : Metadata)
    (h : ∀ s : Stamp, key = s.key → times.stamp s = none) :
    (setTimes m times).get? key = m.get? key := by
  rw [setTimes_eq, get?_setStamp_of_other _ (h _), get?_setStamp_of_other _ (h _),
    get?_setStamp_of_other _ (h _)]

theorem readTimes_of_stamps {m : Metadata} {times : Times}
    (h : ∀ s : Stamp, readTime clock (m.get? s.key) = .ok (times.stamp s)) :
    readTimes clock m = .ok times := by
  have hmodified := h .lastModified
  have haccess := h .lastAccess
  have hcreate := h .createTime
  simp only [Stamp.key] at hmodified haccess hcreate
  unfold readTimes
  rw [hmodified, haccess, hcreate]
  rfl

/-- What can be read of each entry makes up the times. -/
theorem exists_readTimes {m : Metadata} (h : ∀ s : Stamp, ∃ x, readTime clock (m.get? s.key) = .ok x) :
    ∃ times, readTimes clock m = .ok times ∧
      ∀ s : Stamp, readTime clock (m.get? s.key) = .ok (times.stamp s) := by
  obtain ⟨modified, hmodified⟩ := h .lastModified
  obtain ⟨access, haccess⟩ := h .lastAccess
  obtain ⟨create, hcreate⟩ := h .createTime
  have hstamps : ∀ s : Stamp, readTime clock (m.get? s.key) =
      .ok (Times.stamp { lastModified := modified, lastAccess := access, createTime := create } s) := by
    intro s
    cases s with
    | lastModified => exact hmodified
    | lastAccess => exact haccess
    | createTime => exact hcreate
  exact ⟨_, readTimes_of_stamps hstamps, hstamps⟩

/-! ## Setting times, and reading them -/

/-- The times that are given are whole milliseconds of the years 1 to 9999. -/
def Times.Whole (given : Times) : Prop :=
  ∀ s t, given.stamp s = some t → ∃ k, Representable k ∧ t.microseconds = 1000 * k

/-- The metadata `m'` carry the times `given`, which were set in the metadata `m`. -/
structure Carries (clock : Clock) (m : Metadata) (given : Times) (m' : Metadata) : Prop where
  /-- The milliseconds of a given time, or one less, are written, and read as they are written. -/
  stamped : ∀ s t k, given.stamp s = some t → t.microseconds = 1000 * k →
    ∃ k' t', Drifts 1 k k' ∧ m'.get? s.key = some (toString k') ∧
      readTime clock (m'.get? s.key) = .ok (some t') ∧ t'.Shows k'
  kept : ∀ key, (∀ s : Stamp, key = s.key → given.stamp s = none) → m'.get? key = m.get? key
  /-- The times are read entry by entry, if those that were not given can be read. -/
  read : (∀ s, given.stamp s = none → ∃ x, readTime clock (m.get? s.key) = .ok x) →
    ∃ times, readTimes clock m' = .ok times ∧
      ∀ s : Stamp, readTime clock (m'.get? s.key) = .ok (times.stamp s)

theorem setTimes_carries (m : Metadata) {given : Times} (hgiven : given.Whole) :
    Carries clock m given (setTimes m given) := by
  have hkept (key : String) (h : ∀ s : Stamp, key = s.key → given.stamp s = none) :
      (setTimes m given).get? key = m.get? key := get?_setTimes_of_absent m h
  have hstamped (s : Stamp) (t : DateTime) (k : Int) (ht : given.stamp s = some t)
      (hk : t.microseconds = 1000 * k) : ∃ k' t', Drifts 1 k k' ∧
        (setTimes m given).get? s.key = some (toString k') ∧
        readTime clock ((setTimes m given).get? s.key) = .ok (some t') ∧ t'.Shows k' := by
    obtain ⟨k₀, hk₀, hmicroseconds⟩ := hgiven s t ht
    obtain rfl : k₀ = k := by omega
    have hdrifts := milliseconds_drifts (t := t) hk₀ (by omega) fun _ => hk
    have hentry := get?_setTimes_of_given m ht
    obtain ⟨t', ht', hshows⟩ := readTime_toString (hdrifts.representable hk₀)
    exact ⟨_, t', hdrifts, hentry, hentry ▸ ht', hshows⟩
  refine ⟨hstamped, hkept, fun hrest => exists_readTimes fun s => ?_⟩
  cases hs : given.stamp s with
  | none =>
    rw [hkept s.key fun s' hkey => Stamp.key_injective hkey ▸ hs]
    exact hrest s hs
  | some t =>
    obtain ⟨k, -, hk⟩ := hgiven s t hs
    obtain ⟨-, t', -, -, ht', -⟩ := hstamped s t k hs hk
    exact ⟨_, ht'⟩

/-- A time at an eighth of a second is read as the same instant, in universal time. -/
theorem Carries.same {m m' : Metadata} {given : Times} (h : Carries clock m given m') {s : Stamp}
    {t : DateTime} (ht : given.stamp s = some t) (heighth : 125000 ∣ t.microseconds) :
    ∃ t', readTime clock (m'.get? s.key) = .ok (some t') ∧ t'.isValid = true ∧ t'.ahead = 0 ∧
      t'.microseconds = t.microseconds := by
  obtain ⟨eighths, heighths⟩ := heighth
  have hk : t.microseconds = 1000 * (125 * eighths) := by omega
  obtain ⟨k', t', hdrifts, -, ht', hshows⟩ := h.stamped s t _ ht hk
  obtain rfl := hdrifts.whole ⟨eighths, rfl⟩
  exact ⟨t', ht', hshows.valid, hshows.universal, (hshows.exact (.inr ⟨eighths, rfl⟩)).trans hk.symm⟩

/-! ## Over and over again -/

/-- The metadata whose times are read and set again, so many times. -/
def reset (clock : Clock) : Nat → Metadata → Except ClockFault Metadata
  | 0, m => .ok m
  | n + 1, m => do
    let m' ← reset clock n m
    return setTimes m' (← readTimes clock m')

/-- Each entry for a time is the text of representable milliseconds, or tells no time. -/
def Legible (clock : Clock) (m : Metadata) : Prop :=
  ∀ s : Stamp, readTime clock (m.get? s.key) = .ok none ∨
    ∃ k, Representable k ∧ m.get? s.key = some (toString k)

/-- The metadata `m'` are the metadata `m` after their times have been set again `n` times. -/
structure Worn (clock : Clock) (n : Nat) (m m' : Metadata) : Prop where
  stamped : ∀ (s : Stamp) k, Representable k → m.get? s.key = some (toString k) →
    ∃ k', Drifts n k k' ∧ m'.get? s.key = some (toString k')
  kept : ∀ key, (∀ s : Stamp, key = s.key → readTime clock (m.get? key) = .ok none) →
    m'.get? key = m.get? key

theorem Worn.refl (m : Metadata) : Worn clock 0 m m :=
  ⟨fun _ k _ h => ⟨k, .refl k, h⟩, fun _ _ => rfl⟩

theorem Worn.trans {n n' : Nat} {m m' m'' : Metadata} (h : Worn clock n m m')
    (h' : Worn clock n' m' m'') : Worn clock (n + n') m m'' where
  stamped s k hk hentry := by
    obtain ⟨k', hdrifts, hentry'⟩ := h.stamped s k hk hentry
    obtain ⟨k'', hdrifts', hentry''⟩ := h'.stamped s k' (hdrifts.representable hk) hentry'
    exact ⟨k'', hdrifts.trans hdrifts', hentry''⟩
  kept key hkey := by
    have hsame := h.kept key hkey
    rw [h'.kept key (hsame ▸ hkey), hsame]

theorem Worn.legible {n : Nat} {m m' : Metadata} (h : Worn clock n m m') (hm : Legible clock m) :
    Legible clock m' := by
  intro s
  rcases hm s with hnone | ⟨k, hk, hentry⟩
  · have hsame := h.kept s.key fun _ _ => hnone
    exact .inl (hsame ▸ hnone)
  · obtain ⟨k', hdrifts, hentry'⟩ := h.stamped s k hk hentry
    exact .inr ⟨k', hdrifts.representable hk, hentry'⟩

/-- Reading the times and setting them once more. -/
theorem setTimes_worn {m : Metadata} (hm : Legible clock m) :
    ∃ times, readTimes clock m = .ok times ∧ Worn clock 1 m (setTimes m times) := by
  have hread : ∀ s : Stamp, ∃ x, readTime clock (m.get? s.key) = .ok x := by
    intro s
    rcases hm s with hnone | ⟨k, hk, hentry⟩
    · exact ⟨_, hnone⟩
    · obtain ⟨t, ht, -⟩ := readTime_toString hk
      exact ⟨_, hentry ▸ ht⟩
  obtain ⟨times, htimes, hstamps⟩ := exists_readTimes hread
  refine ⟨times, htimes, fun s k hk hentry => ?_, fun key hkey => ?_⟩
  · obtain ⟨t, ht, hshows⟩ := readTime_toString hk
    rw [← hentry] at ht
    have hstamp : times.stamp s = some t := Except.ok.inj ((hstamps s).symm.trans ht)
    exact ⟨_, milliseconds_drifts hk hshows.close fun h => hshows.exact (.inr h),
      get?_setTimes_of_given m hstamp⟩
  · refine get?_setTimes_of_absent m fun s hs => ?_
    subst hs
    exact Except.ok.inj ((hstamps s).symm.trans (hkey s rfl))

theorem reset_worn {m : Metadata} (hm : Legible clock m) (n : Nat) :
    ∃ m', reset clock n m = .ok m' ∧ Worn clock n m m' := by
  induction n with
  | zero => exact ⟨m, rfl, .refl m⟩
  | succ n ih =>
    obtain ⟨m', hreset, hworn⟩ := ih
    obtain ⟨times, htimes, hstep⟩ := setTimes_worn (hworn.legible hm)
    refine ⟨setTimes m' times, ?_, hworn.trans hstep⟩
    rw [reset, hreset]
    show (do return setTimes m' (← readTimes clock m')) = _
    rw [htimes]
    rfl

/-- An entry at an eighth of a second stays what it is. -/
theorem Worn.same {n : Nat} {m m' : Metadata} (h : Worn clock n m m') {s : Stamp} {k : Int}
    (hk : Representable k) (heighth : 125 ∣ k) (hentry : m.get? s.key = some (toString k)) :
    m'.get? s.key = some (toString k) := by
  obtain ⟨k', hdrifts, hentry'⟩ := h.stamped s k hk hentry
  obtain rfl := hdrifts.whole heighth
  exact hentry'

/-- **Times travel with an object, to the eighth of a second.** What is set of them in any metadata is at
most one millisecond off and is read as it stands there, and all else in the metadata stays; and however
often the times are read and set again, they stay in the eighth of a second that they were in. -/
theorem times_travel (clock : Clock) (m : Metadata) :
    (∀ given : Times, given.Whole → Carries clock m given (setTimes m given)) ∧
      (Legible clock m → ∀ n, ∃ m', reset clock n m = .ok m' ∧ Worn clock n m m') :=
  ⟨fun _ hgiven => setTimes_carries m hgiven, fun hm n => reset_worn hm n⟩

/-- Half past one on the first day of 1970, one hour east, and three eighths of a second. -/
def halfPastOne : DateTime :=
  { year := 1970, month := 1, day := 1, hour := 1, minute := 30, second := 0, microsecond := 375000
    offset := some 60 }

/-- It is read as the same instant, and an access a tenth of a second before 1970 stays in its eighth of a
second, however often both are read and set again. -/
theorem times_travel_of_half_past_one :
    let clock : Clock := .ofWords
    let m : Metadata := Table.empty.insert lastAccessKey "-100"
    let given : Times := { createTime := some halfPastOne }
    (∃ t, readTime clock ((setTimes m given).get? createTimeKey) = .ok (some t) ∧
        t.microseconds = halfPastOne.microseconds) ∧
      ∃ m' k, reset clock 20 (setTimes m given) = .ok m' ∧ m'.get? createTimeKey = some "1800375" ∧
        m'.get? lastAccessKey = some (toString k) ∧ -100 ≤ k ∧ k ≤ 0 := by
  intro clock m given
  have hwhole : given.Whole := by
    intro s t ht
    cases s with
    | lastModified => exact nomatch ht
    | lastAccess => exact nomatch ht
    | createTime =>
      obtain rfl := Option.some.inj ht
      exact ⟨1800375, by decide, by decide⟩
  have haccess : (setTimes m given).get? lastAccessKey = some (toString (-100 : Int)) := by
    decide +kernel
  have hcreate : (setTimes m given).get? createTimeKey = some (toString (1800375 : Int)) := by
    decide +kernel
  have hlegible : Legible clock (setTimes m given) := by
    intro s
    cases s with
    | lastModified => exact .inl (by decide +kernel)
    | lastAccess => exact .inr ⟨_, by decide, haccess⟩
    | createTime => exact .inr ⟨_, by decide, hcreate⟩
  have hcarries := (times_travel clock m).1 given hwhole
  obtain ⟨t, ht, -, -, hsame⟩ := hcarries.same (s := .createTime) rfl (by decide)
  obtain ⟨m', hreset, hworn⟩ := (times_travel clock (setTimes m given)).2 hlegible 20
  obtain ⟨k, hdrifts, hentry⟩ := hworn.stamped .lastAccess _ (by decide) haccess
  have hback := hdrifts.back
  have hkept := hworn.same (s := .createTime) (k := 1800375) (by decide) (by decide) hcreate
  exact ⟨⟨t, ht, hsame⟩, m', k, hreset, hkept, hentry, by omega, by omega⟩

/-- At a thousandth of a second after the first second of 1970 the thousandth is lost, when the time is set
and when it is read and set again. -/
theorem thousandth_lost :
    let clock : Clock := .ofWords
    let t : DateTime :=
      { year := 1970, month := 1, day := 1, hour := 0, minute := 0, second := 1, microsecond := 1000
        offset := some 0 }
    let m : Metadata := setTimes .empty { lastModified := some t }
    t.isValid = true ∧ t.microseconds = 1000 * 1001 ∧ m.get? lastModifiedKey = some "1000" ∧
      readTimes clock m = .ok { lastModified := some { t with microsecond := 0 } } ∧
      readTimes clock (Table.empty.insert lastModifiedKey "1001") = .ok { lastModified := some t } ∧
      reset clock 1 (Table.empty.insert lastModifiedKey "1001") =
        .ok (Table.empty.insert lastModifiedKey "1000") := by
  refine ⟨by decide, by decide, ?_, ?_, ?_, ?_⟩
  · decide +kernel
  · decide +kernel
  · decide +kernel
  · rfl

end ObjectChannel.Time
