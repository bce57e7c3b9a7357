/-
Numbers as machine words. A number that counts bytes in memory has to fit one, and a byte string
takes up some of it for itself.
-/
namespace ObjectChannel.Capacity

/-- The largest number that counts as a size: the largest signed 64-bit word. -/
def maxSize : Int := 9223372036854775807

/-- Whether a number fits a signed 64-bit word. -/
def fitsWord (n : Int) : Bool := -maxSize - 1 ≤ n && n ≤ maxSize

/-- The largest size of a byte string that is made anew, which takes up 33 bytes for itself. -/
def maxFresh : Int := maxSize - 33

theorem fitsWord_natCast {n : Nat} (h : (n : Int) ≤ maxSize) : fitsWord n = true :=
  Bool.and_eq_true_iff.2 ⟨decide_eq_true (by simp only [maxSize]; omega), decide_eq_true h⟩

end ObjectChannel.Capacity
