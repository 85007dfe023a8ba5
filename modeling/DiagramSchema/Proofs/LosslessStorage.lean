import DiagramSchema.Proofs.NormalForm

/-! What a stored document tells of its diagram: everything but whether a name `Unnamed` and a relation
type `1-m` were given or left empty. Loading a document drops flags, but the document has them all. -/
namespace DiagramSchema

namespace StoredField

/-- The flags and the default that a field shows. The default stands beside the constraints, where an
empty one is told apart from none. -/
def flags (f : StoredField) : Constraint where
  required := !f.isOptional
  unique := f.constraints.contains .unique
  list := f.isList
  updatedAt := f.constraints.contains .updatedAt
  isId := f.constraints.contains .id
  defaultValue := f.defaultValue

def original? (f : StoredField) : Option Attribute :=
  (ScalarType.ofName? f.type).map fun type => ⟨f.name, type, f.flags⟩

end StoredField

def StoredModel.original (m : StoredModel) : Entity :=
  ⟨m.nodeId, m.name, m.position, m.fields.filterMap StoredField.original?⟩

def Document.original (d : Document) : Diagram :=
  ⟨d.models.map StoredModel.original, d.relations.map StoredRelation.loaded⟩

namespace Attribute

theorem flags_stored (a : Attribute) : a.stored.flags = a.constraint := by
  obtain ⟨hasId, hasUnique, hasUpdatedAt⟩ := a.constraint.contains_stored
  have constraints : a.stored.constraints = a.constraint.stored := rfl
  have required : (!a.stored.isOptional) = a.constraint.required := Bool.not_not _
  rw [StoredField.flags, constraints, hasId, hasUnique, hasUpdatedAt, required]
  rfl

theorem original_stored (a : Attribute) : a.stored.original? = some a := by
  have type : ScalarType.ofName? a.stored.type = some a.type := ScalarType.ofName?_name a.type
  rw [StoredField.original?, type, flags_stored]
  rfl

end Attribute

def Entity.filled (e : Entity) : Entity := { e with name := Text.orElse e.name unnamed }

/-- The diagram with `Unnamed` for the empty names and `1-m` for the empty relation types. -/
def Diagram.filled (d : Diagram) : Diagram :=
  ⟨d.entities.map Entity.filled, d.relations.map Relation.normal⟩

theorem Entity.original_stored (e : Entity) : e.stored.original = e.filled := by
  have each : StoredField.original? ∘ Attribute.stored = some := funext Attribute.original_stored
  have fields : e.stored.fields.filterMap StoredField.original? = e.attributes := by
    show (e.attributes.map Attribute.stored).filterMap StoredField.original? = e.attributes
    rw [List.filterMap_map, each, List.filterMap_some]
  rw [StoredModel.original, fields]
  rfl

theorem Entity.stored_filled (e : Entity) : e.filled.stored = e.stored := by
  rw [stored, stored, filled, Text.orElse_orElse]

theorem Relation.stored_normal (r : Relation) : r.normal.stored = r.stored := by
  rw [stored, stored, normal, Text.orElse_orElse]

namespace Diagram

theorem original_stored (d : Diagram) : d.stored.original = d.filled := by
  have entities : StoredModel.original ∘ Entity.stored = Entity.filled :=
    funext Entity.original_stored
  have relations : StoredRelation.loaded ∘ Relation.stored = Relation.normal :=
    funext Relation.loaded_stored
  rw [Document.original, stored, List.map_map, List.map_map, entities, relations, filled]

theorem stored_filled (d : Diagram) : d.filled.stored = d.stored := by
  have entities : Entity.stored ∘ Entity.filled = Entity.stored := funext Entity.stored_filled
  have relations : Relation.stored ∘ Relation.normal = Relation.stored :=
    funext Relation.stored_normal
  rw [stored, filled, List.map_map, List.map_map, entities, relations, stored]

/-- Two diagrams are stored as the same document if and only if they are the same with empty names and
types filled in. The document shows that diagram, and a field all the flags of its attribute. -/
theorem stored_lossless (d g : Diagram) :
    (d.stored = g.stored ↔ d.filled = g.filled) ∧ d.stored.original = d.filled ∧
      ∀ a : Attribute, a.stored.flags = a.constraint ∧ a.stored.original? = some a := by
  refine ⟨⟨fun same => ?_, fun same => ?_⟩, d.original_stored, fun a => ?_⟩
  · rw [← original_stored, same, original_stored]
  · rw [← stored_filled, same, stored_filled]
  · exact ⟨a.flags_stored, a.original_stored⟩

end Diagram
end DiagramSchema
