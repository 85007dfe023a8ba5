import DiagramSchema.Number.Binary64
import DiagramSchema.Text.Basic

/-! Decimal numerals: read from text, rounded to the nearest double, and the shortest numeral that
reads back as a given double. -/
namespace DiagramSchema

/-- The numeral `digits * 10 ^ exponent`, with a sign. -/
structure Decimal where
  negative : Bool
  digits : Nat
  exponent : Int
deriving DecidableEq, Repr

namespace Decimal

def tenTo (k : Nat) : Nat := Nat.pow 10 k

def digitsValue (digits : Text) : Nat :=
  digits.foldl (fun value c => 10 * value + (c.toNat - '0'.toNat)) 0

def takeSign : Text → Bool × Text
  | '-' :: rest => (true, rest)
  | '+' :: rest => (false, rest)
  | s => (false, s)

/-- The power of ten at the end of a numeral: nothing, or `e` and a whole number. -/
def readExponent : Text → Option Int
  | [] => some 0
  | c :: rest =>
    let (negative, digits) := takeSign rest
    if (c == 'e' || c == 'E') && !digits.isEmpty && digits.all Char.isDigit then
      some (if negative then -(digitsValue digits : Int) else digitsValue digits)
    else none

/-- Reads an unsigned numeral: digits with or without a point, at least one digit in all, and a
power of ten. -/
def readUnsigned (negative : Bool) (s : Text) : Option Decimal :=
  let whole := s.takeWhile Char.isDigit
  let (fraction, rest) : Text × Text := match s.dropWhile Char.isDigit with
    | '.' :: rest => (rest.takeWhile Char.isDigit, rest.dropWhile Char.isDigit)
    | rest => ([], rest)
  if whole.isEmpty && fraction.isEmpty then none
  else (readExponent rest).map fun exponent =>
    ⟨negative, digitsValue (whole ++ fraction), exponent - fraction.length⟩

def read? (s : Text) : Option Decimal :=
  let (negative, rest) := takeSign s
  readUnsigned negative rest

/-- The nearest double. -/
def toBinary64 (d : Decimal) : Binary64 :=
  -- a numeral of more than 310 integer digits is infinite, and one whose first digit stands 330 places
  -- behind the point is zero, whatever the digits are
  let size := (Nat.toDigits 10 d.digits).length + d.exponent
  if d.digits = 0 || size < -330 then .finite d.negative 0 Binary64.leastExponent
  else if 310 < size then .infinite d.negative
  else .ofRatio d.negative (d.digits * tenTo d.exponent.toNat) (tenTo (-d.exponent).toNat)

/-- The multiple of `10 ^ k` nearest to `m * 2 ^ q`, as a factor of `10 ^ k`, if it is among the
reals that round to that double. Halves go to the even factor. -/
def nearestMultiple? (m : Nat) (q k : Int) : Option Nat :=
  let grid := tenTo k.toNat * Binary64.twoTo (2 - q).toNat
  let unit := Binary64.twoTo (q - 2).toNat * tenTo (-k).toNat
  let value := 4 * m * unit
  -- these reals reach half way to the two neighbours, both ends included if `m` is even; below a power
  -- of two the lower neighbour is only half as far
  let atPowerOfTwo := m = Binary64.twoTo 52 && Binary64.leastExponent < q
  let low := (if atPowerOfTwo then 4 * m - 1 else 4 * m - 2) * unit
  let high := (4 * m + 2) * unit
  let reads (factor : Nat) : Bool :=
    if m % 2 = 0 then low ≤ factor * grid && factor * grid ≤ high
    else low < factor * grid && factor * grid < high
  let nearest := Binary64.roundHalfEven value grid
  let other := if nearest * grid ≤ value then nearest + 1 else nearest - 1
  if reads nearest then some nearest else if reads other then some other else none

/-- The shortest numeral that reads back as `m * 2 ^ q`: a multiple of the largest possible power of
ten. -/
def shortest (negative : Bool) (m : Nat) (q : Int) : Decimal :=
  if m = 0 then ⟨negative, 0, 0⟩
  else
    let count (n : Nat) : Int := (Nat.toDigits 10 n).length
    -- the number lies below `10 ^ top`, and seventeen digits always suffice
    let top := count (m * Binary64.twoTo q.toNat) - count (Binary64.twoTo (-q).toNat) + 1
    let powers := (List.range 20).map fun (step : Nat) => top - step
    let found := powers.findSome? fun k => (nearestMultiple? m q k).map fun factor => (factor, k)
    let (digits, exponent) := found.getD (0, 0)
    ⟨negative, digits, exponent⟩

/-- How numerals are laid out. A number from `10 ^ positionalFrom` up to `10 ^ positionalBelow` is
written with all its places, any other with a power of ten. -/
structure Layout where
  positionalFrom : Int
  positionalBelow : Int
  exponentDigits : Nat
  wholeEnd : Text
deriving DecidableEq, Repr

/-- Digits between `point` and the left or right end, filled up with zeros. -/
def positional (layout : Layout) (digits : Text) (point : Int) : Text :=
  if point ≤ 0 then "0." ++ List.replicate (-point).toNat '0' ++ digits
  else
    let whole := digits.take point.toNat
    let zeros := List.replicate (point.toNat - digits.length) '0'
    match digits.drop point.toNat with
    | [] => whole ++ zeros ++ layout.wholeEnd
    | fraction => whole ++ ['.'] ++ fraction

/-- One digit, the others after a point, and a power of ten with a sign. -/
def scientific (layout : Layout) (digits : Text) (power : Int) : Text :=
  let fraction := match digits.drop 1 with
    | [] => []
    | rest => '.' :: rest
  digits.take 1 ++ fraction ++ ['e', if power < 0 then '-' else '+']
    ++ Text.padded 10 layout.exponentDigits power.natAbs

def text (layout : Layout) (d : Decimal) : Text :=
  let digits := Text.ofNat d.digits
  let point := digits.length + d.exponent
  let body :=
    if d.digits = 0 then '0' :: layout.wholeEnd
    else if layout.positionalFrom < point && point ≤ layout.positionalBelow then
      positional layout digits point
    else scientific layout digits (point - 1)
  if d.negative then '-' :: body else body

end Decimal

/-- Positional from a ten-thousandth up to ten quadrillions, at least two digits of exponent, and
whole numbers end in `.0`. -/
def numberLayout : Decimal.Layout := ⟨-4, 16, 2, ".0"⟩

/-- The shortest text that reads back as the number. -/
def Binary64.text : Binary64 → Text
  | .nan => "nan"
  | .infinite negative => if negative then "-inf" else "inf"
  | .finite negative significand exponent =>
    (Decimal.shortest negative significand exponent).text numberLayout

end DiagramSchema
