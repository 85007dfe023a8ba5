import DiagramSchema.Stored.Json

/-! Diagrams to stored documents and back.

Storing keeps everything but empty names. Loading keeps one tag of each field: the first of id,
unique, updatedAt and default that its constraints have, and otherwise whether it is a list,
required or optional. The list flag and the stored default value always survive. -/
namespace DiagramSchema

def unnamed : Text := "Unnamed"

def Constraint.stored (c : Constraint) : List StoredConstraint :=
  (if c.isId then [StoredConstraint.id] else [])
    ++ (if c.unique then [StoredConstraint.unique] else [])
    ++ (if c.updatedAt then [StoredConstraint.updatedAt] else [])
    ++ match c.defaultValue with
      | none | some [] => []
      | some value => [StoredConstraint.default value]

def Attribute.stored (a : Attribute) : StoredField where
  name := a.name
  type := a.type.name
  isOptional := !a.constraint.required
  isList := a.constraint.list
  constraints := a.constraint.stored
  defaultValue := a.constraint.defaultValue

def Entity.stored (e : Entity) : StoredModel :=
  ⟨e.id, Text.orElse e.name unnamed, e.position, e.attributes.map Attribute.stored⟩

def Relation.stored (r : Relation) : StoredRelation :=
  ⟨r.id, r.source, r.target, Text.orElse r.type Cardinality.oneToMany.text⟩

def Diagram.stored (d : Diagram) : Document :=
  ⟨d.entities.map Entity.stored, d.relations.map Relation.stored⟩

/-- The tag that stands for a stored field. -/
inductive Tag where
  | id
  | unique
  | updatedAt
  | default
  | list
  | required
  | optional
deriving DecidableEq, Repr

namespace Tag

def text : Tag → Text
  | .id => "id"
  | .unique => "unique"
  | .updatedAt => "updatedAt"
  | .default => "default"
  | .list => "list"
  | .required => "required"
  | .optional => "optional"

/-- The tag that a text names. Any other text counts as optional. -/
def ofText (name : Text) : Tag :=
  ([Tag.id, .unique, .updatedAt, .default, .list, .required].find? fun tag => tag.text == name).getD
    .optional

/-- The flags that a tag alone stands for, with the value of a default. -/
def constraint (tag : Tag) (value : Option Text) : Constraint :=
  match tag with
  | .id => { isId := true }
  | .unique => { unique := true }
  | .updatedAt => { updatedAt := true }
  | .default => { defaultValue := value }
  | .list => { list := true }
  | .required => { required := true }
  | .optional => {}

end Tag

def StoredConstraint.value? : StoredConstraint → Option Text
  | .default value => some value
  | _ => none

namespace StoredField

/-- The value of the last of the default constraints. -/
def lastDefault? (f : StoredField) : Option Text :=
  (f.constraints.filterMap StoredConstraint.value?).getLast?

/-- The tag that a stored field collapses to, and the value that a default has. -/
def tag (f : StoredField) : Tag × Option Text :=
  if f.constraints.contains .id then (.id, none)
  else if f.constraints.contains .unique then (.unique, none)
  else if f.constraints.contains .updatedAt then (.updatedAt, none)
  else match f.lastDefault? with
    | some value => (.default, some value)
    | none =>
      if f.isList then (.list, none)
      else if f.isOptional then (.optional, none)
      else (.required, none)

def constraint (f : StoredField) : Constraint :=
  let (tag, value) := f.tag
  { tag.constraint value with
    list := f.isList
    defaultValue := value.or f.defaultValue }

def loaded (f : StoredField) : Except Malformed Attribute :=
  match (ScalarType.checked (Text.orElse f.type "String")).under (.key "type") with
  | .ok type => .ok ⟨f.name, type, f.constraint⟩
  | .refused problems => .error (.problems "Attribute" problems)

end StoredField

def StoredModel.loaded (m : StoredModel) : Except Malformed Entity :=
  (m.fields.mapM StoredField.loaded).map fun attributes =>
    ⟨m.nodeId, Text.orElse m.name unnamed, m.position, attributes⟩

def StoredRelation.loaded (r : StoredRelation) : Relation :=
  ⟨r.edgeId, r.source, r.target, Text.orElse r.type Cardinality.oneToMany.text⟩

/-- The diagram that a document is loaded as. The first field whose type is no scalar type stands in
its way. -/
def Document.loaded (d : Document) : Except Malformed Diagram :=
  (d.models.mapM StoredModel.loaded).map fun entities =>
    ⟨entities, d.relations.map StoredRelation.loaded⟩

end DiagramSchema
