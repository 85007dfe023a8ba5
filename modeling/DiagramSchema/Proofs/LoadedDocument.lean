import DiagramSchema.Stored.Conversion
import DiagramSchema.Proofs.Counterparts

/-! What a document is loaded as, part by part. Loading succeeds on a document if and only if it
succeeds on each of its fields, and on a field if and only if its type is a scalar type or empty. -/
namespace DiagramSchema

theorem map_eq_ok {ε α β : Type} {f : α → β} {x : Except ε α} {b : β} :
    x.map f = .ok b ↔ ∃ a, x = .ok a ∧ f a = b := by
  cases x <;> simp [Except.map]

theorem ScalarType.checked_eq_ok {name : Text} {type : ScalarType} :
    checked name = .ok type ↔ ofName? name = some type := by
  rw [checked]
  cases ofName? name <;> simp [Checked.fault]

namespace StoredField

theorem loaded_eq_ok {f : StoredField} {a : Attribute} : f.loaded = .ok a ↔
    a.name = f.name ∧ Text.orElse f.type "String" = a.type.name ∧ a.constraint = f.constraint := by
  obtain ⟨name, type, constraint⟩ := a
  rw [loaded, eq_comm (a := Text.orElse f.type "String"), ← ScalarType.ofName?_eq_some_iff,
    ← ScalarType.checked_eq_ok]
  cases ScalarType.checked (Text.orElse f.type "String") with
  | refused problems => simp [Checked.under]
  | ok found => simp [Checked.under, eq_comm, and_left_comm]

theorem loads_iff (f : StoredField) :
    (∃ a, f.loaded = .ok a) ↔ f.type = [] ∨ ∃ type : ScalarType, f.type = type.name := by
  constructor
  · rintro ⟨a, loads⟩
    obtain ⟨-, type, -⟩ := loaded_eq_ok.mp loads
    cases given : f.type with
    | nil => exact Or.inl rfl
    | cons c rest =>
      rw [given] at type
      exact Or.inr ⟨a.type, type⟩
  · rintro (none | ⟨type, given⟩)
    · exact ⟨⟨f.name, .string, f.constraint⟩, loaded_eq_ok.mpr ⟨rfl, by rw [none]; rfl, rfl⟩⟩
    · refine ⟨⟨f.name, type, f.constraint⟩, loaded_eq_ok.mpr ⟨rfl, ?_, rfl⟩⟩
      rw [given]
      cases type <;> rfl

end StoredField

namespace StoredModel

theorem loaded_eq_ok {m : StoredModel} {e : Entity} : m.loaded = .ok e ↔
    e.id = m.nodeId ∧ e.name = Text.orElse m.name unnamed ∧ e.position = m.position ∧
      List.Forall₂ (fun f a => f.loaded = .ok a) m.fields e.attributes := by
  obtain ⟨id, name, position, attributes⟩ := e
  rw [loaded, map_eq_ok]
  simp only [Counterparts.mapM_eq_ok, Entity.mk.injEq]
  constructor
  · rintro ⟨_, each, rfl, rfl, rfl, rfl⟩
    exact ⟨rfl, rfl, rfl, each⟩
  · rintro ⟨rfl, rfl, rfl, each⟩
    exact ⟨_, each, rfl, rfl, rfl, rfl⟩

theorem loads_iff (m : StoredModel) :
    (∃ e, m.loaded = .ok e) ↔ ∀ f ∈ m.fields, ∃ a, f.loaded = .ok a := by
  rw [← Counterparts.exists_iff]
  constructor
  · rintro ⟨e, loads⟩
    exact ⟨e.attributes, (loaded_eq_ok.mp loads).2.2.2⟩
  · rintro ⟨attributes, each⟩
    exact ⟨⟨_, _, _, attributes⟩, loaded_eq_ok.mpr ⟨rfl, rfl, rfl, each⟩⟩

end StoredModel

namespace Document

theorem loaded_eq_ok {d : Document} {g : Diagram} : d.loaded = .ok g ↔
    List.Forall₂ (fun m e => m.loaded = .ok e) d.models g.entities ∧
      g.relations = d.relations.map StoredRelation.loaded := by
  obtain ⟨entities, relations⟩ := g
  rw [loaded, map_eq_ok]
  simp only [Counterparts.mapM_eq_ok, Diagram.mk.injEq]
  constructor
  · rintro ⟨_, each, rfl, rfl⟩
    exact ⟨each, rfl⟩
  · rintro ⟨each, rfl⟩
    exact ⟨_, each, rfl, rfl⟩

theorem loads_iff (d : Document) :
    (∃ g, d.loaded = .ok g) ↔ ∀ m ∈ d.models, ∃ e, m.loaded = .ok e := by
  rw [← Counterparts.exists_iff]
  constructor
  · rintro ⟨g, loads⟩
    exact ⟨g.entities, (loaded_eq_ok.mp loads).1⟩
  · rintro ⟨entities, each⟩
    exact ⟨⟨entities, _⟩, loaded_eq_ok.mpr ⟨each, rfl⟩⟩

end Document
end DiagramSchema
