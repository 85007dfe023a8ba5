import DiagramSchema.Diagram.Basic
import DiagramSchema.Json.Decoder

/-! Diagrams as JSON, in both directions. -/
namespace DiagramSchema

open Decoder (field fieldOr record)

namespace Position

def decode : Decoder Position := record "Position" fun fields =>
  Position.mk
    <$> fieldOr fields (.of "x") .zero Decoder.number
    <*> fieldOr fields (.of "y") .zero Decoder.number

def json (p : Position) : Json := .object [("x", .float p.x), ("y", .float p.y)]

@[simp] theorem decode_json (p : Position) : decode p.json = .ok p := rfl

end Position

namespace Constraint

def decode : Decoder Constraint := record "Constraint" fun fields =>
  Constraint.mk
    <$> fieldOr fields (.of "required") false Decoder.boolean
    <*> fieldOr fields (.of "unique") false Decoder.boolean
    <*> fieldOr fields (.of "list") false Decoder.boolean
    <*> fieldOr fields ⟨"updatedAt", "updated_at"⟩ false Decoder.boolean
    <*> fieldOr fields ⟨"isId", "is_id"⟩ false Decoder.boolean
    <*> fieldOr fields ⟨"defaultValue", "default_value"⟩ none Decoder.text?

def json (c : Constraint) : Json :=
  .object [("required", .bool c.required), ("unique", .bool c.unique), ("list", .bool c.list),
    ("updatedAt", .bool c.updatedAt), ("isId", .bool c.isId),
    ("defaultValue", .ofText? c.defaultValue)]

@[simp] theorem decode_json (c : Constraint) : decode c.json = .ok c := by
  obtain ⟨required, unique, list, updatedAt, isId, defaultValue⟩ := c
  cases defaultValue <;> rfl

end Constraint

namespace ScalarType

def checked (name : Text) : Checked ScalarType :=
  match ofName? name with
  | some type => .ok type
  | none => .fault (.notAmong (all.map ScalarType.name))

def decode : Decoder ScalarType
  | .text name => checked name
  | _ => .fault (.notAmong (all.map ScalarType.name))

@[simp] theorem decode_name (type : ScalarType) : decode (.text type.name) = .ok type := by
  simp [decode, checked]

end ScalarType

namespace Attribute

def decode : Decoder Attribute := record "Attribute" fun fields =>
  Attribute.mk
    <$> fieldOr fields (.of "name") [] Decoder.text
    <*> fieldOr fields (.of "type") .string ScalarType.decode
    <*> fieldOr fields (.of "constraint") {} Constraint.decode

def json (a : Attribute) : Json :=
  .object [("name", .text a.name), ("type", .text a.type.name), ("constraint", a.constraint.json)]

@[simp] theorem decode_json (a : Attribute) : decode a.json = .ok a := by
  show Attribute.mk
    <$> Checked.ok a.name
    <*> (ScalarType.decode (.text a.type.name)).under (.key "type")
    <*> (Constraint.decode a.constraint.json).under (.key "constraint") = .ok a
  simp

end Attribute

namespace Entity

def decode : Decoder Entity := record "Entity" fun fields =>
  Entity.mk
    <$> field fields (.of "id") Decoder.text
    <*> fieldOr fields (.of "name") [] Decoder.text
    <*> fieldOr fields (.of "position") {} Position.decode
    <*> fieldOr fields (.of "attributes") [] (Decoder.list Attribute.decode)

def json (e : Entity) : Json :=
  .object [("id", .text e.id), ("name", .text e.name), ("position", e.position.json),
    ("attributes", .list (e.attributes.map Attribute.json))]

@[simp] theorem decode_json (e : Entity) : decode e.json = .ok e := by
  show Entity.mk
    <$> Checked.ok e.id
    <*> Checked.ok e.name
    <*> (Position.decode e.position.json).under (.key "position")
    <*> (Decoder.list Attribute.decode (.list (e.attributes.map Attribute.json))).under
      (.key "attributes") = .ok e
  rw [Decoder.list_map Attribute.decode_json]
  simp

end Entity

namespace Relation

def decode : Decoder Relation := record "Relation" fun fields =>
  Relation.mk
    <$> field fields (.of "id") Decoder.text
    <*> field fields ⟨"sourceEntityId", "source_entity_id"⟩ Decoder.text
    <*> field fields ⟨"targetEntityId", "target_entity_id"⟩ Decoder.text
    <*> fieldOr fields ⟨"relationType", "relation_type"⟩ "1-m" Decoder.text

def json (r : Relation) : Json :=
  .object [("id", .text r.id), ("sourceEntityId", .text r.source),
    ("targetEntityId", .text r.target), ("relationType", .text r.type)]

@[simp] theorem decode_json (r : Relation) : decode r.json = .ok r := rfl

end Relation

/-- Why a value given as a diagram or as a stored document is none. Its shape is looked at first. -/
inductive Malformed where
  | notObject (expected : Text)
  | notLists (parts : Text)
  | problems (record : Text) (found : List Problem)
deriving DecidableEq, Repr

namespace Malformed

/-- The first line of the message: problems are only counted. -/
def message : Malformed → Text
  | .notObject expected => expected
  | .notLists parts => parts ++ " must be lists"
  | .problems record found =>
    Text.ofNat found.length ++ (if found.length = 1 then " validation error for " else
      " validation errors for ") ++ record

end Malformed

/-- Whether a field, if present, is a list. -/
def Json.isListField (fields : List (Text × Json)) (key : Text) : Bool :=
  match fields.lookup key with
  | none | some (.list _) => true
  | _ => false

namespace Diagram

def decode : Decoder Diagram := record "Graph" fun fields =>
  Diagram.mk
    <$> fieldOr fields (.of "entities") [] (Decoder.list Entity.decode)
    <*> fieldOr fields (.of "relations") [] (Decoder.list Relation.decode)

def json (d : Diagram) : Json :=
  .object [("entities", .list (d.entities.map Entity.json)),
    ("relations", .list (d.relations.map Relation.json))]

@[simp] theorem decode_json (d : Diagram) : decode d.json = .ok d := by
  show Diagram.mk
    <$> (Decoder.list Entity.decode (.list (d.entities.map Entity.json))).under (.key "entities")
    <*> (Decoder.list Relation.decode (.list (d.relations.map Relation.json))).under
      (.key "relations") = .ok d
  rw [Decoder.list_map Entity.decode_json, Decoder.list_map Relation.decode_json]
  simp

/-- Accepts a diagram as a caller sends it. -/
def accept : Json → Except Malformed Diagram
  | .object fields =>
    if Json.isListField fields "entities" && Json.isListField fields "relations" then
      match decode (.object fields) with
      | .ok diagram => .ok diagram
      | .refused found => .error (.problems "Graph" found)
    else .error (.notLists "entities and relations")
  | _ => .error (.notObject "graph must be an object with entities and relations")

@[simp] theorem accept_json (d : Diagram) : accept d.json = .ok d := by
  show (match decode d.json with
    | .ok diagram => Except.ok diagram
    | .refused found => .error (Malformed.problems "Graph" found)) = .ok d
  rw [decode_json]

end Diagram
end DiagramSchema
