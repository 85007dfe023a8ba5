import DiagramSchema.Number.Binary64

/-! Whole numbers as doubles. One of at most 53 bits is kept as it is, and one of 1022 bits is still
within range. -/
namespace DiagramSchema.Binary64

theorem twoTo_pos (k : Nat) : 0 < twoTo k := Nat.pow_pos (by decide)

theorem twoTo_add (j k : Nat) : twoTo (j + k) = twoTo j * twoTo k := Nat.pow_add 2 j k

theorem twoTo_mono {j k : Nat} (less : j ≤ k) : twoTo j ≤ twoTo k :=
  Nat.pow_le_pow_right (by decide) less

theorem log2_lt_of_lt {n k : Nat} (nonzero : n ≠ 0) (less : n < twoTo k) : n.log2 < k :=
  (Nat.log2_lt nonzero).mpr less

theorem fittingExponent_le (n : Nat) : fittingExponent n 1 ≤ n.log2 - 52 := by
  have unit : Nat.log2 1 = 0 := by decide
  unfold fittingExponent
  rw [unit]
  dsimp only
  split <;> omega

theorem isFinite_ofNat {n : Nat} (small : n < twoTo 1022) : (ofNat n).isFinite = true := by
  have sign : decide ((n : Int) < 0) = false := by simp
  rw [ofNat, ofInt, sign, Int.natAbs_natCast, ofRatio]
  by_cases none : n = 0
  · rw [if_pos none]
    rfl
  · have bits : n.log2 < 1022 := log2_lt_of_lt none small
    have fits := fittingExponent_le n
    have least : leastExponent = -1074 := rfl
    have greatest : greatestExponent = 971 := rfl
    rw [if_neg none]
    dsimp only
    split
    · rw [if_neg (by omega)]
      rfl
    · rw [if_neg (by omega)]
      rfl

theorem scaled_up (num den k : Nat) : scaled num den (-k) = (num * twoTo k, den) := by
  have none : (-(k : Int)).toNat = 0 := by omega
  rw [scaled, none, Int.neg_neg, Int.toNat_natCast]
  exact congrArg (num * twoTo k, ·) (Nat.mul_one den)

theorem scaled_down (num den k : Nat) : scaled num den k = (num, den * twoTo k) := by
  have none : (-(k : Int)).toNat = 0 := by omega
  rw [scaled, none, Int.toNat_natCast]
  exact congrArg (·, den * twoTo k) (Nat.mul_one num)

theorem fittingExponent_small {n : Nat} (nonzero : n ≠ 0) (bits : n.log2 < 53) :
    fittingExponent n 1 = -(52 - n.log2 : Nat) := by
  have unit : Nat.log2 1 = 0 := by decide
  have low : (n.log2 : Int) - (0 : Nat) - 53 = -(52 - n.log2 + 1 : Nat) := by omega
  have full : twoTo 53 ≤ n * twoTo (52 - n.log2 + 1) := by
    calc twoTo 53 = twoTo (n.log2 + (52 - n.log2 + 1)) := by congr 1; omega
      _ = twoTo n.log2 * twoTo (52 - n.log2 + 1) := twoTo_add _ _
      _ ≤ n * twoTo (52 - n.log2 + 1) := Nat.mul_le_mul_right _ (Nat.log2_self_le nonzero)
  unfold fittingExponent
  rw [unit, low]
  dsimp only
  rw [scaled_up]
  dsimp only
  rw [Nat.div_one, if_neg (Nat.not_lt.mpr full)]
  omega

theorem ofNat_eq {n : Nat} (nonzero : n ≠ 0) (small : n < twoTo 53) :
    ofNat n = .finite false (n * twoTo (52 - n.log2)) (-(52 - n.log2 : Nat)) := by
  have bits : n.log2 < 53 := log2_lt_of_lt nonzero small
  have fits : n * twoTo (52 - n.log2) < twoTo 53 := by
    calc n * twoTo (52 - n.log2)
        < twoTo (n.log2 + 1) * twoTo (52 - n.log2) :=
          Nat.mul_lt_mul_of_pos_right Nat.lt_log2_self (twoTo_pos _)
      _ = twoTo (n.log2 + 1 + (52 - n.log2)) := (twoTo_add _ _).symm
      _ = twoTo 53 := by congr 1; omega
  have whole : roundHalfEven (n * twoTo (52 - n.log2)) 1 = n * twoTo (52 - n.log2) := by
    simp [roundHalfEven, Nat.mod_one]
  have least : max (-(52 - n.log2 : Nat) : Int) leastExponent = -(52 - n.log2 : Nat) := by
    simp only [leastExponent]
    omega
  have greatest : ¬greatestExponent < -(52 - n.log2 : Nat) := by
    simp only [greatestExponent]
    omega
  have sign : decide ((n : Int) < 0) = false := by simp
  rw [ofNat, ofInt, sign, Int.natAbs_natCast, ofRatio, if_neg nonzero]
  dsimp only
  rw [fittingExponent_small nonzero bits, least, scaled_up]
  dsimp only
  rw [whole, if_neg (Nat.ne_of_lt fits)]
  dsimp only
  rw [if_neg greatest]

theorem toInt_zero (exponent : Int) : (finite false 0 exponent).toInt? = some 0 := by
  simp [toInt?, scaled]

theorem toInt_shifted (n k : Nat) : (finite false (n * twoTo k) (-k)).toInt? = some (n : Int) := by
  rw [toInt?, Int.neg_neg, scaled_down]
  dsimp only
  rw [Nat.one_mul, Nat.mul_mod_left, if_pos rfl, Nat.mul_div_cancel _ (twoTo_pos k)]
  rfl

theorem toInt_ofNat {n : Nat} (small : n < twoTo 53) : (ofNat n).toInt? = some (n : Int) := by
  by_cases zero : n = 0
  · rw [zero]
    exact toInt_zero leastExponent
  · rw [ofNat_eq zero small, toInt_shifted]

end DiagramSchema.Binary64
