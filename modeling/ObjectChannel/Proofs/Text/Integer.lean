/-
Numbers in writing: a number is read from the text that is written for it, if that is not too long.
-/
import ObjectChannel.Text.Integer

namespace ObjectChannel.Text

/-- The digits of the usual script are the first that are looked for. -/
theorem digitValue?_of_isDigit {c : Char} (h : c.isDigit = true) :
    digitValue? c = some (c.toNat - '0'.toNat) := by
  simp only [Char.isDigit, Bool.and_eq_true, decide_eq_true_eq] at h
  have hlow : 48 ≤ c.toNat := h.1
  have hhigh : c.toNat ≤ 57 := h.2
  have hzeros : zeros = 48 :: zeros.tail := rfl
  have hfirst : zeros.find? (fun z => z ≤ c.toNat && c.toNat < z + 10) = some 48 := by
    rw [hzeros]
    refine List.find?_cons_of_pos ?_
    simp only [Bool.and_eq_true, decide_eq_true_eq]
    omega
  rw [digitValue?, hfirst]
  rfl

theorem isNumberBlank_of_isDigit {c : Char} (h : c.isDigit = true) : isNumberBlank c = false := by
  simp only [Char.isDigit, Bool.and_eq_true, decide_eq_true_eq] at h
  have hlow : 48 ≤ c.toNat := h.1
  have hhigh : c.toNat ≤ 57 := h.2
  have hspace : c ≠ ' ' := by
    rintro rfl
    exact absurd hlow (by decide)
  simp only [isNumberBlank, if_pos (by omega : c.toNat < 128), hspace, decide_false, Bool.false_or,
    Bool.and_eq_false_iff, decide_eq_false_iff_not]
  omega

/-- The digits of a text without an underscore. -/
theorem digits?_of_isDigit : ∀ {cs : List Char}, cs ≠ [] → (∀ c ∈ cs, c.isDigit = true) →
    digits? cs = some (cs.map fun c => c.toNat - '0'.toNat)
  | [], hne, _ => absurd rfl hne
  | [c], _, h => by simp [digits?, digitValue?_of_isDigit (h c (.head _))]
  | c :: c' :: rest, _, h => by
    have hunderscore : c' ≠ '_' := by
      rintro rfl
      exact absurd (h '_' (.tail _ (.head _))) (by decide)
    have hrest := digits?_of_isDigit (List.cons_ne_nil c' rest) fun d hd => h d (.tail _ hd)
    rw [digits?, digitValue?_of_isDigit (h c (.head _)), hrest]
    · rfl
    · exact List.cons_ne_nil c' rest
    · exact fun rest' h' => hunderscore (List.cons.inj h').1

theorem trimmed_of_none {p : Char → Bool} {cs : List Char} (h : ∀ c ∈ cs, p c = false) :
    trimmed p cs = cs := by
  have hkept (ds : List Char) (hds : ∀ c ∈ ds, p c = false) : ds.dropWhile p = ds := by
    cases ds with
    | nil => rfl
    | cons d ds => simp [hds d (.head _)]
  rw [trimmed, hkept cs h, hkept cs.reverse fun c hc => h c (List.mem_reverse.mp hc),
    List.reverse_reverse]

theorem ofDigits_toDigits (n : Nat) :
    ofDigits ((Nat.toDigits 10 n).map fun c => c.toNat - '0'.toNat) = n := by
  have hvalue := Nat.ofDigitChars_toDigits (n := n) (by decide : 1 < 10) (by decide)
  rw [Nat.ofDigitChars_eq_foldl] at hvalue
  rw [ofDigits, List.foldl_map]
  exact hvalue

theorem isDigit_of_mem_toDigits {n : Nat} {c : Char} (h : c ∈ Nat.toDigits 10 n) : c.isDigit = true :=
  Nat.isDigit_of_mem_toDigits (by decide) (by decide) h

theorem digits?_toDigits (n : Nat) :
    digits? (Nat.toDigits 10 n) = some ((Nat.toDigits 10 n).map fun c => c.toNat - '0'.toNat) :=
  digits?_of_isDigit Nat.toDigits_ne_nil fun _ => isDigit_of_mem_toDigits

/-- The text of a number: its sign, if it is below zero, and its digits. -/
theorem toList_toString (k : Int) :
    (toString k).toList =
      if k < 0 then '-' :: Nat.toDigits 10 k.natAbs else Nat.toDigits 10 k.natAbs := by
  cases k with
  | ofNat n =>
    exact Nat.toList_repr.trans (if_neg (Int.not_lt.mpr (Int.natCast_nonneg n))).symm
  | negSucc n =>
    rw [if_pos (by omega)]
    have htext : (toString (n + 1)).toList = Nat.toDigits 10 (n + 1) := Nat.toList_repr
    show ("-" ++ toString (n + 1)).toList = _
    rw [String.toList_append, htext]
    rfl

theorem signed_toString (k : Int) : signed (toString k) = (decide (k < 0), Nat.toDigits 10 k.natAbs) := by
  have hdigit : ∀ c ∈ Nat.toDigits 10 k.natAbs, c.isDigit = true := fun _ => isDigit_of_mem_toDigits
  have htrimmed : trimmed isNumberBlank (toString k).toList = (toString k).toList := by
    refine trimmed_of_none fun c hc => ?_
    rw [toList_toString] at hc
    split at hc
    · rcases List.mem_cons.mp hc with rfl | hc
      · decide
      · exact isNumberBlank_of_isDigit (hdigit c hc)
    · exact isNumberBlank_of_isDigit (hdigit c hc)
  rw [signed, htrimmed, toList_toString]
  by_cases hk : k < 0
  · simp only [hk, ite_true, decide_true]
  · simp only [hk, ite_false, decide_false]
    -- A digit is neither of the signs.
    split
    next h => exact absurd (hdigit '-' (by simp [h])) (by decide)
    next h => exact absurd (hdigit '+' (by simp [h])) (by decide)
    next => rfl

/-- **A number is read from its text**, unless it has too many digits. -/
theorem integer?_toString {k : Int} (h : (Nat.toDigits 10 k.natAbs).length ≤ maxDigits) :
    integer? (toString k) = some k := by
  have hlength : ¬maxDigits < ((Nat.toDigits 10 k.natAbs).map fun c => c.toNat - '0'.toNat).length := by
    rw [List.length_map]
    omega
  simp only [integer?, signed_toString, digits?_toDigits, Option.bind_eq_bind, Option.bind_some, hlength,
    ite_false, ofDigits_toDigits]
  by_cases hk : k < 0
  · simp only [hk, decide_true, ite_true]
    congr 1
    omega
  · simp only [hk, decide_false, Bool.false_eq_true, ite_false]
    congr 1
    omega

/-- A number is too long from the first one on that has a digit too many. -/
theorem isTooLong_eq (n : Int) : isTooLong n = decide (Nat.pow 10 maxDigits ≤ n.natAbs) := by
  have hlength (k : Nat) (hk : 0 < k) :
      (Nat.toDigits 10 n.natAbs).length ≤ k ↔ n.natAbs < Nat.pow 10 k :=
    Nat.length_toDigits_le_iff (by decide) hk
  refine decide_eq_decide.mpr ?_
  rw [← Nat.not_le, hlength maxDigits (by decide), Nat.not_lt]

/-- A number no larger than the number of digits that are written is far from too long. -/
theorem lt_pow_maxDigits {n : Nat} (h : n ≤ maxDigits) : n < Nat.pow 10 maxDigits := by
  generalize maxDigits = k at h
  exact Nat.lt_of_le_of_lt h (Nat.lt_pow_self (by decide))

end ObjectChannel.Text
