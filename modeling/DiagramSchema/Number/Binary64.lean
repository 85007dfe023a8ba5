/-! Double-precision numbers as exact values.

A finite number is a significand times a power of two; nothing here is approximate but the one
function that rounds. Canvas positions are such numbers. -/
namespace DiagramSchema

/-- Not a number, an infinity, or `significand * 2 ^ exponent` with a sign. Zero keeps its sign. -/
inductive Binary64 where
  | nan
  | infinite (negative : Bool)
  | finite (negative : Bool) (significand : Nat) (exponent : Int)
deriving DecidableEq, Repr

namespace Binary64

/-- The exponent of zero and of the smallest numbers. -/
def leastExponent : Int := -1074

/-- The largest exponent of a finite number whose significand has all 53 bits. -/
def greatestExponent : Int := 971

def zero : Binary64 := .finite false 0 leastExponent

def twoTo (k : Nat) : Nat := Nat.pow 2 k

/-- The natural number nearest to `num / den`; a half goes to the even neighbour. -/
def roundHalfEven (num den : Nat) : Nat :=
  let below := num / den
  let twice := 2 * (num % den)
  if twice < den then below
  else if den < twice then below + 1
  else below + below % 2

/-- The quotient `num / den` divided by `2 ^ exponent`, as a fraction. -/
def scaled (num den : Nat) (exponent : Int) : Nat × Nat :=
  (num * twoTo (-exponent).toNat, den * twoTo exponent.toNat)

/-- The exponent with which the integer part of the scaled quotient has 53 bits. -/
def fittingExponent (num den : Nat) : Int :=
  -- the lengths of numerator and denominator leave two candidates
  let low : Int := (num.log2 : Int) - den.log2 - 53
  let (a, b) := scaled num den low
  if a / b < twoTo 53 then low else low + 1

/-- The number nearest to `num / den`, with the given sign. What is too large is infinite. -/
def ofRatio (negative : Bool) (num den : Nat) : Binary64 :=
  if num = 0 then .finite negative 0 leastExponent
  else
    let exponent := max (fittingExponent num den) leastExponent
    let (a, b) := scaled num den exponent
    let rounded := roundHalfEven a b
    -- rounding up may take the significand to 54 bits
    let (significand, exponent) :=
      if rounded = twoTo 53 then (twoTo 52, exponent + 1) else (rounded, exponent)
    if greatestExponent < exponent then .infinite negative
    else .finite negative significand exponent

def ofInt (i : Int) : Binary64 := ofRatio (decide (i < 0)) i.natAbs 1

def ofNat (n : Nat) : Binary64 := ofInt n

def isFinite : Binary64 → Bool
  | .finite .. => true
  | _ => false

/-- The integer that a number is, if it is one. Both zeros are the integer zero. -/
def toInt? : Binary64 → Option Int
  | .finite negative significand exponent =>
    let (a, b) := scaled significand 1 (-exponent)
    if a % b = 0 then some (if negative then -(a / b : Nat) else (a / b : Nat)) else none
  | _ => none

example : ofInt 10 = .finite false (10 * twoTo 49) (-49) := by decide
example : (ofInt 9007199254740993).toInt? = some 9007199254740992 := by decide +kernel

end Binary64
end DiagramSchema
