import DiagramSchema.Proofs.WholeNumbers
import Mathlib.Data.Nat.Sqrt
import Mathlib.Tactic.Ring

/-! The square root of a whole number, rounded to a double. Rounding takes a root to the whole number
below it only where the root has too many bits before the point: for numbers of fewer than 53 bits the
ceiling of the double is that of the root. -/
namespace DiagramSchema.Binary64

/-- The natural number nearest to the square root, which never lies halfway between two of them. -/
def nearestRoot (square : Nat) : Nat :=
  let below := square.sqrt
  if square ≤ below * below + below then below else below + 1

/-- The double nearest to the square root of a number of at most 53 bits: the root has half as many
before the point, and the others behind it. -/
def root (n : Nat) : Binary64 :=
  let places := 52 - n.log2 / 2
  .finite false (nearestRoot (n * twoTo (2 * places))) (-places)

def ceiling? : Binary64 → Option Int
  | .finite negative significand exponent =>
    let (a, b) := scaled significand 1 (-exponent)
    some (if negative then -(a / b : Nat) else ((a + (b - 1)) / b : Nat))
  | _ => none

theorem nearestRoot_le (square : Nat) :
    nearestRoot square * nearestRoot square ≤ square + nearestRoot square := by
  have below := Nat.sqrt_le square
  simp only [nearestRoot]
  split
  case isTrue near => omega
  case isFalse far =>
    rw [Nat.add_mul, Nat.mul_add]
    omega

theorem le_nearestRoot (square : Nat) :
    square ≤ nearestRoot square * nearestRoot square + nearestRoot square := by
  have above := Nat.sqrt_le_add square
  simp only [nearestRoot]
  split
  case isTrue near => exact near
  case isFalse far =>
    rw [Nat.add_mul, Nat.mul_add]
    omega

/-- The root of a number between two squares, taken in small units, lies between their roots, and
above the lower one by half a unit at least. -/
theorem nearestRoot_between {n c units : Nat} (above : c * c < n) (upTo : n ≤ (c + 1) * (c + 1))
    (fine : c < units) : c * units < nearestRoot (n * (units * units)) ∧
      nearestRoot (n * (units * units)) ≤ (c + 1) * units := by
  have least := nearestRoot_le (n * (units * units))
  have greatest := le_nearestRoot (n * (units * units))
  generalize nearestRoot (n * (units * units)) = m at least greatest
  constructor
  · by_contra low
    have root : m ≤ c * units := Nat.not_lt.mp low
    have near : c * units * (c * units) + units * units ≤ c * units * (c * units) + c * units := by
      calc c * units * (c * units) + units * units = (c * c + 1) * (units * units) := by ring
        _ ≤ n * (units * units) := Nat.mul_le_mul_right _ above
        _ ≤ m * m + m := greatest
        _ ≤ c * units * (c * units) + c * units := Nat.add_le_add (Nat.mul_le_mul root root) root
    have coarse : units ≤ c :=
      Nat.le_of_mul_le_mul_right (Nat.le_of_add_le_add_left near) (Nat.zero_lt_of_lt fine)
    omega
  · by_contra high
    have root : (c + 1) * units + 1 ≤ m := Nat.not_le.mp high
    have far : (c + 1) * units * m + m ≤ (c + 1) * units * ((c + 1) * units) + m := by
      calc (c + 1) * units * m + m = ((c + 1) * units + 1) * m := by ring
        _ ≤ m * m := Nat.mul_le_mul_right m root
        _ ≤ n * (units * units) + m := least
        _ ≤ (c + 1) * (c + 1) * (units * units) + m :=
          Nat.add_le_add_right (Nat.mul_le_mul_right _ upTo) m
        _ = (c + 1) * units * ((c + 1) * units) + m := by ring
    have positive : 0 < (c + 1) * units := Nat.mul_pos (Nat.succ_pos c) (Nat.zero_lt_of_lt fine)
    have bounded : m ≤ (c + 1) * units :=
      Nat.le_of_mul_le_mul_left (Nat.le_of_add_le_add_right far) positive
    omega

theorem ceiling_root {n c : Nat} (small : n < twoTo 52) (above : c * c < n)
    (upTo : n ≤ (c + 1) * (c + 1)) : (root n).ceiling? = some ((c + 1 : Nat) : Int) := by
  have bits : n.log2 < 52 := log2_lt_of_lt (Nat.ne_of_gt (Nat.zero_lt_of_lt above)) small
  rw [root]
  generalize placed : 52 - n.log2 / 2 = places
  -- At least 27 places behind the point are more than the bits of `c`.
  have fine : c < twoTo places := by
    have squares : c * c < twoTo 26 * twoTo 26 := Nat.lt_trans above small
    calc c < twoTo 26 := Nat.mul_self_lt_mul_self_iff.mp squares
      _ ≤ twoTo places := twoTo_mono (by omega)
  have square : twoTo (2 * places) = twoTo places * twoTo places := by
    rw [Nat.two_mul, twoTo_add]
  obtain ⟨low, high⟩ := nearestRoot_between above upTo fine
  rw [square, ceiling?, Int.neg_neg, scaled_down]
  generalize nearestRoot (n * (twoTo places * twoTo places)) = m at low high
  generalize twoTo places = units at low high fine
  have ceiling : (m + (units - 1)) / units = c + 1 := by
    refine Nat.div_eq_of_lt_le ?_ ?_
    · rw [Nat.add_mul, Nat.one_mul]
      omega
    · rw [Nat.add_mul, Nat.one_mul]
      omega
  dsimp only
  rw [Nat.one_mul, ceiling]
  rfl

/-- The double nearest to the root of a number just above a large square is the root of the square. -/
example : (root (twoTo 52 + 1)).ceiling? = some (twoTo 26 : Nat) := by decide +kernel

end DiagramSchema.Binary64
