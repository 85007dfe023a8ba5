import DiagramSchema.Json.Checked
import DiagramSchema.Text.Blank

/-! Decoders from JSON to texts, truth values, numbers, lists and records.

Decoding is lenient: a truth value or a number may be given as a text, and a field by either of two
names, one in camel case and one with underscores. -/
namespace DiagramSchema

/-- A check that a JSON value stands for a value of a type. -/
abbrev Decoder (α : Type) := Json → Checked α

namespace Decoder

def text : Decoder Text
  | .text value => .ok value
  | _ => .fault .notText

def text? : Decoder (Option Text)
  | .null => .ok none
  | .text value => .ok (some value)
  | _ => .fault .notText

@[simp] theorem text?_ofText? (value : Option Text) : text? (.ofText? value) = .ok value := by
  cases value <;> rfl

def truthWords : List (Text × Bool) :=
  [("0", false), ("off", false), ("f", false), ("false", false), ("n", false), ("no", false),
    ("1", true), ("on", true), ("t", true), ("true", true), ("y", true), ("yes", true)]

/-- Zero and one are truth values. Another whole number is unreadable as one if it fits a word. -/
def booleanOfWhole (fits : Bool) (value : Int) : Checked Bool :=
  if value = 0 then .ok false
  else if value = 1 then .ok true
  else if fits then .fault .unreadableBoolean
  else .fault .notBoolean

def boolean : Decoder Bool
  | .bool value => .ok value
  -- words have 64 bits and a sign; the least one is taken from an integer, but not from a double
  | .int value =>
    booleanOfWhole (-(Binary64.twoTo 63 : Int) ≤ value && value < Binary64.twoTo 63) value
  | .float value => match value.toInt? with
    | some whole =>
      booleanOfWhole (-(Binary64.twoTo 63 : Int) < whole && whole < Binary64.twoTo 63) whole
    | none => .fault .notBoolean
  | .text value => match truthWords.lookup (value.map Char.toLower) with
    | some truth => .ok truth
    | none => .fault .unreadableBoolean
  | _ => .fault .notBoolean

/-- Blanks that may surround a number in a text: all but the information separators. -/
def isNumberMargin (c : Char) : Bool :=
  Text.isBlank c && !(28 ≤ c.toNat && c.toNat ≤ 31)

/-- A numeral, or a word for an infinity or for no number, in any case and with a sign. -/
def readNumber? (s : Text) : Option Binary64 :=
  let (negative, unsigned) := Decimal.takeSign s
  let word := unsigned.map Char.toLower
  if word = "inf" || word = "infinity" then some (.infinite negative)
  else if word = "nan" then some .nan
  else (Decimal.read? s).map Decimal.toBinary64

/-- Whether underscores only separate: none at either end and no two in a row. -/
def separatesDigits (s : Text) : Bool :=
  s.contains '_' && (s.splitOnP (· == '_')).all fun part => !part.isEmpty

/-- A number in a text with blanks around it, or in a text with underscores between digits. -/
def numberOfText? (s : Text) : Option Binary64 :=
  let start := s.dropWhile isNumberMargin
  match readNumber? (start.reverse.dropWhile isNumberMargin).reverse with
  | some value => some value
  | none => if separatesDigits s then readNumber? (s.filter (· != '_')) else none

def number : Decoder Binary64
  | .bool value => .ok (.ofNat value.toNat)
  | .int value => match Binary64.ofInt value with
    | .infinite _ => .fault .notNumber
    | rounded => .ok rounded
  | .float value => .ok value
  | .text value => match numberOfText? value with
    | some value => .ok value
    | none => .fault .unreadableNumber
  | _ => .fault .notNumber

def itemsFrom {α : Type} (item : Decoder α) : Nat → List Json → Checked (List α)
  | _, [] => .ok []
  | place, json :: rest =>
    List.cons <$> (item json).under (.index place) <*> itemsFrom item (place + 1) rest

def list {α : Type} (item : Decoder α) : Decoder (List α)
  | .list items => itemsFrom item 0 items
  | _ => .fault .notList

theorem itemsFrom_map {α : Type} {item : Decoder α} {json : α → Json}
    (reads : ∀ value, item (json value) = .ok value) (place : Nat) (values : List α) :
    itemsFrom item place (values.map json) = .ok values := by
  induction values generalizing place with
  | nil => rfl
  | cons value rest ih => simp [itemsFrom, reads, ih]

theorem list_map {α : Type} {item : Decoder α} {json : α → Json}
    (reads : ∀ value, item (json value) = .ok value) (values : List α) :
    list item (.list (values.map json)) = .ok values :=
  itemsFrom_map reads 0 values

/-- The two names of a field. -/
structure FieldName where
  camel : Text
  plain : Text
deriving DecidableEq, Repr

def FieldName.of (name : Text) : FieldName := ⟨name, name⟩

/-- The field as it is present: its name and its value. The name in camel case comes first. -/
def FieldName.find? (name : FieldName) (fields : List (Text × Json)) : Option (Text × Json) :=
  match fields.lookup name.camel with
  | some json => some (name.camel, json)
  | none => (fields.lookup name.plain).map fun json => (name.plain, json)

def field {α : Type} (fields : List (Text × Json)) (name : FieldName) (decode : Decoder α) :
    Checked α :=
  match name.find? fields with
  | some (key, json) => (decode json).under (.key key)
  | none => .refused [⟨[.key name.camel], .missing⟩]

def fieldOr {α : Type} (fields : List (Text × Json)) (name : FieldName) (default : α)
    (decode : Decoder α) : Checked α :=
  match name.find? fields with
  | some (key, json) => (decode json).under (.key key)
  | none => .ok default

/-- A record with a name, from the fields of an object. -/
def record {α : Type} (name : Text) (build : List (Text × Json) → Checked α) : Decoder α
  | .object fields => build fields
  | _ => .fault (.notRecord name)

end Decoder
end DiagramSchema
