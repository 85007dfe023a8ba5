import DiagramSchema.Json.Value
import DiagramSchema.Keyed
import DiagramSchema.Text.Digit

/-! Reading JSON text.

The text is cut into tokens one character at a time; a stack of unfinished lists and objects then
turns the tokens into a value. Of two fields of one name the last counts, at the place of the
first. -/
namespace DiagramSchema.Json

inductive Token where
  | beginList
  | endList
  | beginObject
  | endObject
  | comma
  | colon
  | text (value : Text)
  | atom (value : Json)

/-- What the reader of characters is in the middle of. Parts of a token are kept last first; a text
is a sequence of UTF-16 units and whole characters. -/
inductive Mode where
  | between
  | atom (read : Text)
  | text (units : List Nat)
  | escape (units : List Nat)
  | hexadecimal (units : List Nat) (left value : Nat)

/-- Joins each high surrogate with the low one after it. One that stands alone is no character, so
there is no text that holds it. -/
def joinSurrogates? : List Nat → Option Text
  | [] => some []
  | [unit] => if 0xD800 ≤ unit && unit ≤ 0xDFFF then none else some [Char.ofNat unit]
  | high :: low :: rest =>
    if 0xD800 ≤ high && high ≤ 0xDBFF && 0xDC00 ≤ low && low ≤ 0xDFFF then
      (joinSurrogates? rest).map
        (Char.ofNat (0x10000 + (high - 0xD800) * 0x400 + (low - 0xDC00)) :: ·)
    else if 0xD800 ≤ high && high ≤ 0xDFFF then none
    else (joinSurrogates? (low :: rest)).map (Char.ofNat high :: ·)

/-- The character that a letter after a backslash stands for. -/
def escapedUnit? : Char → Option Nat
  | '"' => some 0x22
  | '\\' => some 0x5C
  | '/' => some 0x2F
  | 'b' => some 8
  | 'f' => some 12
  | 'n' => some 10
  | 'r' => some 13
  | 't' => some 9
  | _ => none

/-- The integer part of a numeral has no superfluous zero at its start. -/
def plainStart (unsigned : Text) : Bool :=
  match unsigned with
  | '0' :: c :: _ => !c.isDigit
  | c :: _ => c.isDigit
  | [] => false

/-- A number: an integer if it consists of digits alone, otherwise a double. -/
def readNumber? (s : Text) : Option Json :=
  let (negative, unsigned) := match s with
    | '-' :: rest => (true, rest)
    | _ => (false, s)
  if !plainStart unsigned then none
  else if unsigned.all Char.isDigit then
    let value : Int := Decimal.digitsValue unsigned
    some (.int (if negative then -value else value))
  else (Decimal.readUnsigned negative unsigned).map fun d => .float d.toBinary64

def readAtom? (s : Text) : Option Json :=
  if s = "null" then some .null
  else if s = "true" then some (.bool true)
  else if s = "false" then some (.bool false)
  else if s = "NaN" then some (.float .nan)
  else if s = "Infinity" then some (.float (.infinite false))
  else if s = "-Infinity" then some (.float (.infinite true))
  else readNumber? s

/-- A character between tokens: it is blank, or a mark, or starts a longer token. -/
def readBetween (tokens : List Token) (c : Char) : Mode × List Token :=
  match c with
  | ' ' | '\t' | '\n' | '\r' => (.between, tokens)
  | '[' => (.between, .beginList :: tokens)
  | ']' => (.between, .endList :: tokens)
  | '\x7b' => (.between, .beginObject :: tokens)
  | '\x7d' => (.between, .endObject :: tokens)
  | ',' => (.between, .comma :: tokens)
  | ':' => (.between, .colon :: tokens)
  | '"' => (.text [], tokens)
  | _ => (.atom [c], tokens)

def isAtomChar (c : Char) : Bool := c.isAlphanum || c == '+' || c == '-' || c == '.'

/-- One more character, given the tokens so far, last first. -/
def readChar? : Mode × List Token → Char → Option (Mode × List Token)
  | (.between, tokens), c => some (readBetween tokens c)
  | (.atom read, tokens), c =>
    if isAtomChar c then some (.atom (c :: read), tokens)
    else (readAtom? read.reverse).map fun json => readBetween (.atom json :: tokens) c
  | (.text units, tokens), c =>
    if c == '"' then
      (joinSurrogates? units.reverse).map fun value => (.between, .text value :: tokens)
    else if c == '\\' then some (.escape units, tokens)
    else some (.text (c.toNat :: units), tokens)
  | (.escape units, tokens), c =>
    if c == 'u' then some (.hexadecimal units 4 0, tokens)
    else (escapedUnit? c).map fun unit => (.text (unit :: units), tokens)
  | (.hexadecimal units left value, tokens), c => (Text.hexValue? c).map fun digit =>
    let value := 16 * value + digit
    if left ≤ 1 then (.text (value :: units), tokens)
    else (.hexadecimal units (left - 1) value, tokens)

/-- The tokens of a text, unless one is malformed or unfinished. -/
def tokens? (s : Text) : Option (List Token) :=
  match s.foldlM readChar? (Mode.between, []) with
  | some (.between, tokens) => some tokens.reverse
  | some (.atom read, tokens) =>
    (readAtom? read.reverse).map fun json => (Token.atom json :: tokens).reverse
  | _ => none

/-- An unfinished list or object, its parts last first. An object waits for the value of `key`. -/
inductive Frame where
  | list (items : List Json)
  | object (fields : List (Text × Json)) (key : Text)

mutual
/-- Reads on where a value has to start. -/
def valueFrom : List Frame → List Token → Option Json
  | frames, .atom json :: rest => goOn frames json rest
  | frames, .text value :: rest => goOn frames (.text value) rest
  | frames, .beginList :: .endList :: rest => goOn frames (.list []) rest
  | frames, .beginList :: rest => valueFrom (.list [] :: frames) rest
  | frames, .beginObject :: .endObject :: rest => goOn frames (.object []) rest
  | frames, .beginObject :: .text key :: .colon :: rest => valueFrom (.object [] key :: frames) rest
  | _, _ => none

/-- Reads on behind a value. -/
def goOn : List Frame → Json → List Token → Option Json
  | [], json, [] => some json
  | .list items :: frames, json, .comma :: rest => valueFrom (.list (json :: items) :: frames) rest
  | .list items :: frames, json, .endList :: rest =>
    goOn frames (.list (json :: items).reverse) rest
  | .object fields key :: frames, json, .comma :: .text next :: .colon :: rest =>
    valueFrom (.object ((key, json) :: fields) next :: frames) rest
  | .object fields key :: frames, json, .endObject :: rest =>
    goOn frames (.object (latestByKey Prod.fst ((key, json) :: fields).reverse)) rest
  | _, _, _ => none
end

def read? (s : Text) : Option Json := (tokens? s).bind (valueFrom [])

end DiagramSchema.Json
