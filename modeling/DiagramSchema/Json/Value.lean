import DiagramSchema.Number.Decimal
import DiagramSchema.Text.Quoted

/-! JSON values.

An object keeps its fields in order. A number is an integer of any size or a double, as it was
written: with a point or a power of ten it is a double. -/
namespace DiagramSchema

inductive Json where
  | null
  | bool (value : Bool)
  | int (value : Int)
  | float (value : Binary64)
  | text (value : Text)
  | list (items : List Json)
  | object (fields : List (Text × Json))
deriving Repr, Inhabited

namespace Json

/-- The value of a field; absent fields and values that are no objects give nothing. -/
def get? (key : Text) : Json → Option Json
  | .object fields => fields.lookup key
  | _ => none

/-- The fields of an object; other values have none. -/
def fields : Json → List (Text × Json)
  | .object fields => fields
  | _ => []

/-- The value of a field, where an absent field counts as `null`. -/
def getOrNull (key : Text) (json : Json) : Json := (json.get? key).getD .null

/-- Everything counts as true but `null`, `false`, zero and what is empty. -/
def truthy : Json → Bool
  | .null => false
  | .bool value => value
  | .int value => value != 0
  | .float value => value.toInt? != some 0
  | .text value => !value.isEmpty
  | .list items => !items.isEmpty
  | .object fields => !fields.isEmpty

def ofText? : Option Text → Json
  | some value => .text value
  | none => .null

def ofTexts (items : List Text) : Json := .list (items.map .text)

def typeWord : Json → Text
  | .null => "NoneType"
  | .bool _ => "bool"
  | .int _ => "int"
  | .float _ => "float"
  | .text _ => "str"
  | .list _ => "list"
  | .object _ => "dict"

mutual
/-- A value as messages show it: texts quoted, and the three words capitalised. -/
def shown : Json → Text
  | .null => "None"
  | .bool true => "True"
  | .bool false => "False"
  | .int value => Text.ofInt value
  | .float value => value.text
  | .text value => Text.quoted value
  | .list items => ['['] ++ List.intercalate ", " (shownItems items) ++ [']']
  | .object fields => ['\x7b'] ++ List.intercalate ", " (shownFields fields) ++ ['\x7d']

def shownItems : List Json → List Text
  | [] => []
  | item :: rest => shown item :: shownItems rest

def shownFields : List (Text × Json) → List Text
  | [] => []
  | (key, value) :: rest => (Text.quoted key ++ ": " ++ shown value) :: shownFields rest
end

/-- A value as messages show it within other text: a text stands without quotes. -/
def bare : Json → Text
  | .text value => value
  | json => json.shown

end Json
end DiagramSchema
