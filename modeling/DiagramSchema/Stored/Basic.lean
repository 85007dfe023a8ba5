import DiagramSchema.Diagram.Basic

/-! Schemas as they are stored: a document of models with tagged constraints, and of relations
between model ids. -/
namespace DiagramSchema

inductive StoredConstraint where
  | id
  | unique
  | updatedAt
  | default (value : Text)
deriving DecidableEq, Repr

/-- A stored field. Its type is any text. -/
structure StoredField where
  name : Text
  type : Text := "String"
  isOptional : Bool := true
  isList : Bool := false
  constraints : List StoredConstraint := []
  defaultValue : Option Text := none
deriving DecidableEq, Repr

structure StoredModel where
  nodeId : Text
  name : Text
  position : Position := {}
  fields : List StoredField := []
deriving DecidableEq, Repr

/-- A stored relation. Its ends are entity ids until the models have ids of their own. -/
structure StoredRelation where
  edgeId : Text
  source : Text
  target : Text
  type : Text := "1-m"
deriving DecidableEq, Repr

structure Document where
  models : List StoredModel := []
  relations : List StoredRelation := []
deriving DecidableEq, Repr

end DiagramSchema
