import DiagramSchema.Diagram.Json
import DiagramSchema.Stored.Basic

/-! Stored documents as JSON, in both directions. -/
namespace DiagramSchema

open Decoder (field fieldOr record)

namespace StoredConstraint

def tag : StoredConstraint → Text
  | .id => "id"
  | .unique => "unique"
  | .updatedAt => "updatedAt"
  | .default _ => "default"

def json : StoredConstraint → Json
  | .default value => .object [("type", .text "default"), ("value", .text value)]
  | c => .object [("type", .text c.tag)]

/-- A `type` field that has to hold the given tag, if it is there. -/
def checkTag (fields : List (Text × Json)) (tag : Text) : Checked Unit :=
  fieldOr fields (.of "type") () fun
    | .text found => if found = tag then .ok () else .fault (.notAmong [tag])
    | _ => .fault (.notAmong [tag])

def decodeSort (name : Text) (c : StoredConstraint) : Decoder StoredConstraint :=
  record name fun fields => (fun _ => c) <$> checkTag fields c.tag

def decodeId : Decoder StoredConstraint := decodeSort "IdConstraint" .id

def decodeUnique : Decoder StoredConstraint := decodeSort "UniqueConstraint" .unique

def decodeUpdatedAt : Decoder StoredConstraint := decodeSort "UpdatedAtConstraint" .updatedAt

def decodeDefault : Decoder StoredConstraint := record "DefaultConstraint" fun fields =>
  (fun _ value => .default value)
    <$> checkTag fields "default"
    <*> field fields (.of "value") Decoder.text

def decoders : List (Text × Decoder StoredConstraint) :=
  [("id", decodeId), ("unique", decodeUnique), ("updatedAt", decodeUpdatedAt),
    ("default", decodeDefault)]

/-- A constraint of any sort, told by its tag. Problems within it are found under the tag. -/
def decode : Decoder StoredConstraint
  | .object fields => match fields.lookup ("type" : Text) with
    | none => .fault .noTag
    | some (.text tag) => match decoders.lookup tag with
      | some decodeTagged => (decodeTagged (.object fields)).under (.key tag)
      | none => .fault (.unknownTag tag (decoders.map Prod.fst))
    | some other => .fault (.unknownTag other.bare (decoders.map Prod.fst))
  | _ => .fault .nothingToExtract

@[simp] theorem decode_json (c : StoredConstraint) : decode c.json = .ok c := by
  cases c <;> rfl

end StoredConstraint

namespace StoredField

def decode : Decoder StoredField := record "StorageField" fun fields =>
  StoredField.mk
    <$> field fields (.of "name") Decoder.text
    <*> fieldOr fields (.of "type") "String" Decoder.text
    <*> fieldOr fields ⟨"isOptional", "is_optional"⟩ true Decoder.boolean
    <*> fieldOr fields ⟨"isList", "is_list"⟩ false Decoder.boolean
    <*> fieldOr fields (.of "constraints") [] (Decoder.list StoredConstraint.decode)
    <*> fieldOr fields ⟨"defaultValue", "default_value"⟩ none Decoder.text?

def json (f : StoredField) : Json :=
  .object [("name", .text f.name), ("type", .text f.type), ("isOptional", .bool f.isOptional),
    ("isList", .bool f.isList), ("constraints", .list (f.constraints.map StoredConstraint.json)),
    ("defaultValue", .ofText? f.defaultValue)]

@[simp] theorem decode_json (f : StoredField) : decode f.json = .ok f := by
  show StoredField.mk
    <$> Checked.ok f.name
    <*> Checked.ok f.type
    <*> Checked.ok f.isOptional
    <*> Checked.ok f.isList
    <*> (Decoder.list StoredConstraint.decode
      (.list (f.constraints.map StoredConstraint.json))).under (.key "constraints")
    <*> (Decoder.text? (.ofText? f.defaultValue)).under (.key "defaultValue") = .ok f
  rw [Decoder.list_map StoredConstraint.decode_json, Decoder.text?_ofText?]
  simp

end StoredField

namespace StoredModel

def decode : Decoder StoredModel := record "StorageModel" fun fields =>
  StoredModel.mk
    <$> field fields ⟨"nodeId", "node_id"⟩ Decoder.text
    <*> field fields (.of "name") Decoder.text
    <*> fieldOr fields (.of "position") {} Position.decode
    <*> fieldOr fields (.of "fields") [] (Decoder.list StoredField.decode)

/-- The JSON of a model with a given value for its place. -/
def jsonWithPlace (m : StoredModel) (place : Json) : Json :=
  .object [("nodeId", .text m.nodeId), ("name", .text m.name), ("position", place),
    ("fields", .list (m.fields.map StoredField.json))]

def json (m : StoredModel) : Json := m.jsonWithPlace m.position.json

@[simp] theorem decode_json (m : StoredModel) : decode m.json = .ok m := by
  show StoredModel.mk
    <$> Checked.ok m.nodeId
    <*> Checked.ok m.name
    <*> (Position.decode m.position.json).under (.key "position")
    <*> (Decoder.list StoredField.decode (.list (m.fields.map StoredField.json))).under
      (.key "fields") = .ok m
  rw [Decoder.list_map StoredField.decode_json]
  simp

end StoredModel

namespace StoredRelation

def decode : Decoder StoredRelation := record "StorageRelation" fun fields =>
  StoredRelation.mk
    <$> field fields ⟨"edgeId", "edge_id"⟩ Decoder.text
    <*> field fields ⟨"sourceModelId", "source_model_id"⟩ Decoder.text
    <*> field fields ⟨"targetModelId", "target_model_id"⟩ Decoder.text
    <*> fieldOr fields ⟨"relationType", "relation_type"⟩ "1-m" Decoder.text

def json (r : StoredRelation) : Json :=
  .object [("edgeId", .text r.edgeId), ("sourceModelId", .text r.source),
    ("targetModelId", .text r.target), ("relationType", .text r.type)]

@[simp] theorem decode_json (r : StoredRelation) : decode r.json = .ok r := rfl

end StoredRelation

namespace Document

def decode : Decoder Document := record "SchemaDocument" fun fields =>
  Document.mk
    <$> fieldOr fields (.of "models") [] (Decoder.list StoredModel.decode)
    <*> fieldOr fields (.of "relations") [] (Decoder.list StoredRelation.decode)

def json (d : Document) : Json :=
  .object [("models", .list (d.models.map StoredModel.json)),
    ("relations", .list (d.relations.map StoredRelation.json))]

@[simp] theorem decode_json (d : Document) : decode d.json = .ok d := by
  show Document.mk
    <$> (Decoder.list StoredModel.decode (.list (d.models.map StoredModel.json))).under
      (.key "models")
    <*> (Decoder.list StoredRelation.decode (.list (d.relations.map StoredRelation.json))).under
      (.key "relations") = .ok d
  rw [Decoder.list_map StoredModel.decode_json, Decoder.list_map StoredRelation.decode_json]
  simp

/-- Accepts a stored document as a caller sends it. -/
def accept : Json → Except Malformed Document
  | .object fields =>
    if Json.isListField fields "models" && Json.isListField fields "relations" then
      match decode (.object fields) with
      | .ok document => .ok document
      | .refused found => .error (.problems "SchemaDocument" found)
    else .error (.notLists "models and relations")
  | _ => .error (.notObject "storage document must be an object with models and relations")

@[simp] theorem accept_json (d : Document) : accept d.json = .ok d := by
  show (match decode d.json with
    | .ok document => Except.ok document
    | .refused found => .error (Malformed.problems "SchemaDocument" found)) = .ok d
  rw [decode_json]

end Document
end DiagramSchema
