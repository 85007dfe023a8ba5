import DiagramSchema.Number.Binary64
import DiagramSchema.Text.Basic

/-! Entity diagrams: boxes with typed attributes on a canvas, and the relations between them. -/
namespace DiagramSchema

inductive ScalarType where
  | string
  | boolean
  | int
  | bigInt
  | float
  | decimal
  | json
  | bytes
  | dateTime
deriving DecidableEq, Repr

namespace ScalarType

/-- Every scalar type, in the order in which messages list them. -/
def all : List ScalarType :=
  [.string, .boolean, .int, .bigInt, .float, .decimal, .json, .bytes, .dateTime]

/-- The name of a type in diagrams, stored documents and schema text. -/
def name : ScalarType → Text
  | .string => "String"
  | .boolean => "Boolean"
  | .int => "Int"
  | .bigInt => "BigInt"
  | .float => "Float"
  | .decimal => "Decimal"
  | .json => "Json"
  | .bytes => "Bytes"
  | .dateTime => "DateTime"

def ofName? (name : Text) : Option ScalarType := all.find? fun type => type.name == name

theorem mem_all (type : ScalarType) : type ∈ all := by
  cases type <;> decide

@[simp] theorem ofName?_name (type : ScalarType) : ofName? type.name = some type := by
  cases type <;> decide

theorem ofName?_eq_some_iff {name : Text} {type : ScalarType} :
    ofName? name = some type ↔ type.name = name := by
  constructor
  · intro found
    simpa using List.find?_some found
  · intro same
    rw [← same, ofName?_name]

end ScalarType

/-- The flags of an attribute, and the text of its default value as the user typed it. -/
structure Constraint where
  required : Bool := false
  unique : Bool := false
  list : Bool := false
  updatedAt : Bool := false
  isId : Bool := false
  defaultValue : Option Text := none
deriving DecidableEq, Repr, Inhabited

/-- An attribute may be absent unless it is required; a list is never marked as optional. -/
def Constraint.optional (c : Constraint) : Bool := !c.list && !c.required

structure Attribute where
  name : Text := []
  type : ScalarType := .string
  constraint : Constraint := {}
deriving DecidableEq, Repr

structure Position where
  x : Binary64 := .zero
  y : Binary64 := .zero
deriving DecidableEq, Repr

structure Entity where
  id : Text
  name : Text := []
  position : Position := {}
  attributes : List Attribute := []
deriving DecidableEq, Repr

/-- An edge between two boxes, given by their ids. Its type is any text; four have a meaning. -/
structure Relation where
  id : Text
  source : Text
  target : Text
  type : Text := "1-m"
deriving DecidableEq, Repr

structure Diagram where
  entities : List Entity := []
  relations : List Relation := []
deriving DecidableEq, Repr

/-- How many of either side belong to one of the other. -/
inductive Cardinality where
  | oneToOne
  | oneToMany
  | manyToOne
  | manyToMany
deriving DecidableEq, Repr

namespace Cardinality

/-- The text of a cardinality, source side first. -/
def text : Cardinality → Text
  | .oneToOne => "1-1"
  | .oneToMany => "1-m"
  | .manyToOne => "m-1"
  | .manyToMany => "m-n"

def all : List Cardinality := [.oneToOne, .oneToMany, .manyToOne, .manyToMany]

def ofText? (type : Text) : Option Cardinality := all.find? fun c => c.text == type

@[simp] theorem ofText?_text (c : Cardinality) : ofText? c.text = some c := by
  cases c <;> decide

theorem ofText?_eq_some_iff {type : Text} {c : Cardinality} :
    ofText? type = some c ↔ c.text = type := by
  constructor
  · intro found
    simpa using List.find?_some found
  · intro same
    rw [← same, ofText?_text]

end Cardinality
end DiagramSchema
