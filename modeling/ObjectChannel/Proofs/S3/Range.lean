/-
Ranges in writing. What a client writes of a range that covers something is read back by the service
as the first and the last position of that range; only a position of too many digits is not written.
-/
import ObjectChannel.Proofs.Text.Integer
import ObjectChannel.S3.Client

namespace ObjectChannel.S3

/-- A number is read from its digits. -/
theorem natural?_toDigits (n : Nat) : natural? (Nat.toDigits 10 n) = some n := by
  have hempty : (Nat.toDigits 10 n).isEmpty = false :=
    List.isEmpty_eq_false_iff.mpr Nat.toDigits_ne_nil
  have hdigits : (Nat.toDigits 10 n).any (fun c => !c.isDigit) = false := by
    rw [List.any_eq_false]
    intro c hc
    simp [Nat.isDigit_of_mem_toDigits (by decide) (by decide) hc]
  have hvalue := Nat.ofDigitChars_toDigits (n := n) (by decide : 1 < 10) (by decide)
  rw [Nat.ofDigitChars_eq_foldl] at hvalue
  simp only [natural?, hempty, hdigits, hvalue, Bool.or_self, Bool.false_eq_true, ite_false]

/-- The characters of a written range. -/
theorem toList_rangeText {start stop : Nat} (h : start < stop) :
    (rangeText start stop).toList =
      "bytes=".toList ++ (Nat.toDigits 10 start ++ '-' :: Nat.toDigits 10 (stop - 1)) := by
  have hlast : (stop : Int) - 1 = ((stop - 1 : Nat) : Int) := by omega
  have htext (n : Nat) : (toString (n : Int)).toList = Nat.toDigits 10 n := Nat.toList_repr
  simp only [rangeText, hlast, String.toList_append, htext, List.append_assoc]
  rfl

/-- **A range that covers something is read back as it was written**, with the last position
included. -/
theorem readRange?_rangeText {start stop : Nat} (h : start < stop) :
    readRange? (rangeText start stop) = some (start, stop - 1) := by
  have hnotDash : ∀ c ∈ Nat.toDigits 10 start, (c != '-') = true := by
    intro c hc
    have hdigit := Nat.isDigit_of_mem_toDigits (by decide) (by decide) hc
    refine bne_iff_ne.mpr fun hdash => ?_
    rw [hdash] at hdigit
    exact absurd hdigit (by decide)
  have hprefix : "bytes=".toList.isPrefixOf (rangeText start stop).toList = true := by
    rw [toList_rangeText h, List.isPrefixOf_iff_prefix]
    exact List.prefix_append _ _
  have hrest : (rangeText start stop).toList.drop "bytes=".toList.length =
      Nat.toDigits 10 start ++ '-' :: Nat.toDigits 10 (stop - 1) := by
    rw [toList_rangeText h, List.drop_left]
  simp only [readRange?, hprefix, hrest, ite_true, List.takeWhile_append_of_pos hnotDash,
    List.dropWhile_append_of_pos hnotDash]
  simp [natural?_toDigits]

example : rangeText 2 5 = "bytes=2-4" := by decide

/-- The positions up to this one can be the end of a range that is written. -/
def positionLimit : Nat := Nat.pow 10 Text.maxDigits

theorem le_positionLimit {n : Nat} (h : n ≤ Text.maxDigits) : n ≤ positionLimit := by
  unfold positionLimit
  exact Nat.le_of_lt (Text.lt_pow_maxDigits h)

/-- A range that covers something is written unless it ends too far out. -/
theorem writtenRange_eq {start stop : Nat} (h : start < stop) :
    Client.writtenRange start stop =
      if stop ≤ positionLimit then .ok (rangeText start stop) else .error .tooManyDigits := by
  have hlast : (stop : Int) - 1 = ((stop - 1 : Nat) : Int) := by omega
  unfold Client.writtenRange positionLimit
  simp only [hlast, Text.isTooLong_eq, Int.natAbs_natCast]
  generalize Nat.pow 10 Text.maxDigits = limit
  by_cases hstop : stop ≤ limit
  · have hstart : ¬limit ≤ start := by omega
    have hend : ¬limit ≤ stop - 1 := by omega
    simp [hstop, hstart, hend]
  · have hend : limit ≤ stop - 1 := by omega
    simp [hstop, hend]

end ObjectChannel.S3
