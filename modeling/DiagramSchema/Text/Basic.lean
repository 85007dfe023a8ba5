/-! Text as the list of its characters. These are Unicode characters, so no text holds a surrogate.

Every rule of this library that reads or writes text is a function on lists of characters, so that
its laws are proved by induction on the list. `String` appears in literals and at the outer edge. -/
namespace DiagramSchema

abbrev Text := List Char

/-- A literal stands for the list of its characters. -/
instance : Coe String Text := ⟨String.toList⟩

namespace Text

/-- Whether all characters of a text have a property is found out character by character. -/
instance (priority := high) decidableForallMem {p : Char → Prop} [DecidablePred p] (s : Text) :
    Decidable (∀ c ∈ s, p c) :=
  List.decidableBAll p s

def orElse (s other : Text) : Text := if s.isEmpty then other else s

/-- What follows the first place at which `pattern` occurs. -/
def after? (pattern : Text) : Text → Option Text
  | [] => if pattern.isEmpty then some [] else none
  | c :: rest => match pattern.isPrefixOf? (c :: rest) with
    | some found => some found
    | none => after? pattern rest

/-- What stands before the last `mark`. -/
def beforeLast? (mark : Char) (s : Text) : Option Text :=
  match s.reverse.dropWhile (· != mark) with
  | [] => none
  | _ :: earlier => some earlier.reverse

def ofNat (n : Nat) : Text := Nat.toDigits 10 n

/-- An integer in decimal digits, after a minus sign if it is negative. -/
def ofInt : Int → Text
  | .ofNat n => ofNat n
  | .negSucc n => '-' :: ofNat (n + 1)

/-- The digits of `n` in the given base, filled up with zeros on the left. -/
def padded (base width n : Nat) : Text :=
  let digits := Nat.toDigits base n
  List.replicate (width - digits.length) '0' ++ digits

end Text
end DiagramSchema
