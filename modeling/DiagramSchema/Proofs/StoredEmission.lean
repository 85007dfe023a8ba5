import DiagramSchema.Proofs.ModelBlocks
import DiagramSchema.Proofs.NormalForm

/-! The schema text of a stored diagram. Schema text depends on the ids, the model names and the
field lines of the entities, and on the relations. If nothing has to be left out of the normal form,
storing keeps all of them. -/
namespace DiagramSchema

/-- What schema text takes from an entity: its id, the name of its model and its field lines. -/
def Entity.written (e : Entity) : Text × Text × List Line := (e.id, e.modelName, e.attributeLines)

namespace Diagram

theorem blocks_written (d : Diagram) :
    d.blocks = (latestByKey Prod.fst (d.entities.map Entity.written)).map fun w =>
      ⟨w.2.1, ((Line.identity :: w.2.2 ++ d.contributedLines w.1).map Line.text).eraseDups⟩ := by
  rw [latestByKey_map, List.map_map]
  rfl

variable {d g : Diagram}

theorem emit_of_written (entities : d.entities.map Entity.written = g.entities.map Entity.written)
    (relations : d.relations = g.relations) (s : Settings) :
    (d.emit s).value = (g.emit s).value := by
  have labels : d.entities.map Entity.label = g.entities.map Entity.label := by
    have shown (d : Diagram) : d.entities.map Entity.label =
        (d.entities.map Entity.written).map fun w => (w.1, w.2.1) := by
      rw [List.map_map]
      rfl
    rw [shown, shown, entities]
  have contributed := contributedLines_of_labels labels relations
  have blocks : d.blocks = g.blocks := by
    rw [blocks_written, blocks_written, entities, contributed]
  have warnings : d.warnings = g.warnings := by
    rw [Diagram.warnings, Diagram.warnings, warning_of_names (modelName_of_labels labels), relations]
  show (⟨d.schema s, d.warnings⟩ : Emission) = ⟨g.schema s, g.warnings⟩
  rw [schema, schema, blocks, warnings]

end Diagram

/-- Flags of which the normal form leaves none out, but that a list is required. -/
structure Constraint.Settled (c : Constraint) : Prop where
  single : [c.isId, c.unique, c.updatedAt].count true ≤ 1
  bare : c.required = true → c.list = false →
    c.isId = false ∧ c.unique = false ∧ c.updatedAt = false ∧ c.hasDefault = false

instance (c : Constraint) : Decidable c.Settled :=
  decidable_of_iff
    ([c.isId, c.unique, c.updatedAt].count true ≤ 1 ∧ (c.required = true → c.list = false →
      c.isId = false ∧ c.unique = false ∧ c.updatedAt = false ∧ c.hasDefault = false))
    ⟨fun ⟨single, bare⟩ => ⟨single, bare⟩, fun settled => ⟨settled.single, settled.bare⟩⟩

namespace Constraint.Settled

variable {c : Constraint} (settled : c.Settled)

include settled

theorem required_normal : c.normal.required = (c.required && !c.list) := by
  show (c.required && !(c.isId || c.unique || c.updatedAt || c.hasDefault || c.list)) = _
  cases needed : c.required with
  | false => rfl
  | true =>
    cases many : c.list with
    | true => simp
    | false =>
      obtain ⟨isId, unique, updatedAt, hasDefault⟩ := settled.bare needed many
      rw [isId, unique, updatedAt, hasDefault]
      rfl

theorem flags_normal : c.normal.unique = c.unique ∧ c.normal.updatedAt = c.updatedAt := by
  have single := settled.single
  show (c.unique && !c.isId) = c.unique ∧ (c.updatedAt && !(c.isId || c.unique)) = c.updatedAt
  cases isId : c.isId <;> cases unique : c.unique <;> cases updatedAt : c.updatedAt <;>
    simp_all

theorem mark_normal : c.normal.mark = c.mark := by
  rw [mark, mark, settled.required_normal]
  show (if c.list then _ else _) = (if c.list then _ else _)
  cases c.list <;> simp

end Constraint.Settled

theorem Attribute.line_normal {a : Attribute} (settled : a.constraint.Settled) :
    a.normal.line = a.line := by
  have unique : a.normal.constraint.unique = a.constraint.unique := settled.flags_normal.1
  have updatedAt : a.normal.constraint.updatedAt = a.constraint.updatedAt := settled.flags_normal.2
  have decorators : a.normal.decorators = a.decorators := by
    rw [Attribute.decorators, unique, updatedAt]
    rfl
  show Line.field _ _ a.constraint.normal.mark a.normal.decorators = _
  rw [settled.mark_normal, decorators]
  rfl

theorem Entity.written_normal {e : Entity} (named : e.name ≠ [])
    (settled : ∀ a ∈ e.attributes, a.constraint.Settled) : e.normal.written = e.written := by
  have lines : e.normal.attributeLines = e.attributeLines := by
    have kept : (e.attributes.map Attribute.normal).filter (fun a => !a.isIdentity) =
        (e.attributes.filter fun a => !a.isIdentity).map Attribute.normal := List.filter_map
    show ((e.attributes.map Attribute.normal).filter fun a => !a.isIdentity).map _ = _
    rw [kept, List.map_map]
    exact List.map_congr_left fun a member =>
      Attribute.line_normal (settled a (List.mem_filter.mp member).1)
  have name : e.normal.modelName = e.modelName := by
    show Naming.capitalized (Text.orElse e.name unnamed) = _
    rw [Text.orElse_of_ne_nil named]
    rfl
  show (e.id, e.normal.modelName, e.normal.attributeLines) = _
  rw [name, lines]
  rfl

namespace Diagram

/-- A diagram of which storing leaves nothing out that schema text shows. -/
structure Settled (d : Diagram) : Prop where
  named : ∀ e ∈ d.entities, e.name ≠ []
  typed : ∀ r ∈ d.relations, r.type ≠ []
  attributes : ∀ e ∈ d.entities, ∀ a ∈ e.attributes, a.constraint.Settled

/-- Storing a settled diagram does not change its schema text and its warnings. -/
theorem emit_stored {d : Diagram} (settled : d.Settled) (s : Settings) :
    (d.stored.loaded.map fun g => (g.emit s).value) = .ok (d.emit s).value := by
  have entities : d.normal.entities.map Entity.written = d.entities.map Entity.written := by
    show (d.entities.map Entity.normal).map _ = _
    rw [List.map_map]
    exact List.map_congr_left fun e member =>
      Entity.written_normal (settled.named e member) (settled.attributes e member)
  have relations : d.normal.relations = d.relations := by
    refine (List.map_congr_left fun r member => ?_).trans (List.map_id _)
    rw [Relation.normal, Text.orElse_of_ne_nil (settled.typed r member)]
    rfl
  rw [loaded_stored, Except.map, emit_of_written entities relations]

def shelf : Diagram where
  entities :=
    [ { id := "1", name := "shelf" },
      { id := "1", name := "book", attributes :=
        [ { name := "isbn", constraint := { unique := true, defaultValue := some "0".toList } },
          { name := "tags", constraint := { required := true, list := true, updatedAt := true } },
          { name := "pages", type := .int,
            constraint := { required := true, defaultValue := some [] } } ] } ]
  relations :=
    [ { id := "r", source := "1", target := "2" }, { id := "s", source := "1", target := "1", type := "n" } ]

theorem shelf_stored : shelf.Settled ∧
    (shelf.stored.loaded.map fun g => (g.emit {}).value) = .ok (shelf.emit {}).value := by
  have settled : shelf.Settled := ⟨by decide, by decide, by decide⟩
  exact ⟨settled, emit_stored settled {}⟩

end Diagram
end DiagramSchema
