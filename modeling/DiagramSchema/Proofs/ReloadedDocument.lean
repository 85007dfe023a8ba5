import DiagramSchema.Proofs.NormalForm
import DiagramSchema.Proofs.TagPriority

/-! Documents that are loaded, stored and loaded again. What is loaded from a document is in normal
form but for fields that are required and have a default value without a constraint for it: such a
field is loaded as required and is stored with a constraint, which the next time stands for it. -/
namespace DiagramSchema

namespace StoredField

/-- A required field that is no list and has no constraints, although it has a default value. -/
structure RequiredWithDefault (f : StoredField) : Prop where
  constraints : f.constraints = []
  isList : f.isList = false
  isOptional : f.isOptional = false
  value : ∃ value, f.defaultValue = some value ∧ value ≠ []

theorem tag_required_iff (f : StoredField) : f.tag.1 = .required ↔
    f.constraints = [] ∧ f.isList = false ∧ f.isOptional = false := by
  rw [← tag_iff, required_iff]

theorem value_of_tag_required {f : StoredField} (required : f.tag.1 = .required) :
    f.tag.2 = none := by
  refine valueless fun collapses => ?_
  rw [tag_iff, required] at collapses
  exact Tag.noConfusion collapses

/-- Only the flag of a required field is at risk: a list or a default would take its place. -/
theorem constraint_normal_iff (f : StoredField) :
    f.constraint.normal = f.constraint ↔ ¬f.RequiredWithDefault := by
  by_cases required : f.tag.1 = .required
  · obtain ⟨bare, notList, notOptional⟩ := f.tag_required_iff.mp required
    have value := value_of_tag_required required
    have flags : f.constraint = { required := true, defaultValue := f.defaultValue } := by
      rw [constraint]
      simp [required, value, Tag.constraint, notList]
    have kept : f.constraint.normal = f.constraint ↔ f.constraint.hasDefault = false := by
      rw [flags]
      simp [Constraint.normal, Constraint.hasDefault]
    rw [kept, flags, Constraint.hasDefault]
    constructor
    · rintro absent ⟨-, -, -, value, given, some⟩
      simp [given, some] at absent
    · intro settled
      cases given : f.defaultValue with
      | none => rfl
      | some value =>
        have empty : value = [] := by
          by_contra some
          exact settled ⟨bare, notList, notOptional, value, given, some⟩
        simp [empty]
  · have settled : ¬f.RequiredWithDefault := fun torn =>
      required (f.tag_required_iff.mpr ⟨torn.constraints, torn.isList, torn.isOptional⟩)
    refine iff_of_true ?_ settled
    rw [constraint]
    generalize f.tag = collapsed at required
    obtain ⟨tag, value⟩ := collapsed
    cases tag <;> simp_all [Tag.constraint, Constraint.normal]

theorem normal_iff {f : StoredField} {a : Attribute} (loads : f.loaded = .ok a) :
    a.normal = a ↔ ¬f.RequiredWithDefault := by
  obtain ⟨name, type, constraint⟩ := a
  obtain ⟨-, -, rfl⟩ := loaded_eq_ok.mp loads
  rw [← f.constraint_normal_iff, Attribute.normal, Attribute.mk.injEq]
  simp

end StoredField

theorem StoredModel.normal_iff {m : StoredModel} {e : Entity} (loads : m.loaded = .ok e) :
    e.normal = e ↔ ∀ f ∈ m.fields, ¬f.RequiredWithDefault := by
  obtain ⟨id, name, position, attributes⟩ := e
  obtain ⟨-, named, -, each⟩ := StoredModel.loaded_eq_ok.mp loads
  have kept : Text.orElse name unnamed = name := by
    rw [show name = Text.orElse m.name unnamed from named, Text.orElse_orElse]
  rw [← Counterparts.map_eq_self_iff each fun _ _ => StoredField.normal_iff, Entity.normal,
    Entity.mk.injEq]
  simp [kept]

theorem StoredRelation.loaded_normal (r : StoredRelation) : r.loaded.normal = r.loaded := by
  rw [loaded, Relation.normal, Text.orElse_orElse]

namespace Document

theorem normal_iff {document : Document} {d : Diagram} (loads : document.loaded = .ok d) :
    d.normal = d ↔ ∀ m ∈ document.models, ∀ f ∈ m.fields, ¬f.RequiredWithDefault := by
  obtain ⟨entities, relations⟩ := d
  obtain ⟨each, rfl⟩ := loaded_eq_ok.mp loads
  have kept : (document.relations.map StoredRelation.loaded).map Relation.normal =
      document.relations.map StoredRelation.loaded := by
    rw [List.map_map]
    exact List.map_congr_left fun r _ => r.loaded_normal
  rw [← Counterparts.map_eq_self_iff each fun _ _ => StoredModel.normal_iff, Diagram.normal,
    Diagram.mk.injEq]
  simp only [kept, and_true]

/-- A diagram that is loaded comes back unchanged when it is stored and loaded again, if and only if
the document had no required field with a default value and no constraints. What is loaded the
second time comes back unchanged in any case. -/
theorem reload_iff {document : Document} {d : Diagram} (loads : document.loaded = .ok d) :
    (d.stored.loaded = .ok d ↔
        ∀ m ∈ document.models, ∀ f ∈ m.fields, ¬f.RequiredWithDefault) ∧
      ∃ g, d.stored.loaded = .ok g ∧ g.stored.loaded = .ok g := by
  refine ⟨?_, d.normal, d.loaded_stored, ?_⟩
  · rw [d.loaded_stored, Except.ok.injEq]
    exact normal_iff loads
  · rw [Diagram.loaded_stored, Diagram.normal_normal]

def drawer : Document where
  models :=
    [ { nodeId := "1", name := [], fields :=
        [ { name := "isbn", isOptional := false, defaultValue := some "0".toList, constraints :=
            [.default "1", .unique, .default [], .unique] },
          { name := "tags", type := [], isOptional := false, isList := true,
            defaultValue := some "[]".toList },
          { name := "pages", type := "Int", isOptional := false, defaultValue := some [] },
          { name := "year", type := "Int", isOptional := false, constraints :=
            [.default "7", .default "8"] } ] } ]
  relations := [ { edgeId := [], source := "1", target := "2", type := [] } ]

def drawerDiagram : Diagram where
  entities :=
    [ { id := "1", name := "Unnamed", attributes :=
        [ { name := "isbn", constraint := { unique := true, defaultValue := some "0".toList } },
          { name := "tags", constraint := { list := true, defaultValue := some "[]".toList } },
          { name := "pages", type := .int,
            constraint := { required := true, defaultValue := some [] } },
          { name := "year", type := .int, constraint := { defaultValue := some "8".toList } } ] } ]
  relations := [ { id := [], source := "1", target := "2" } ]

theorem drawer_reloaded : drawer.loaded = .ok drawerDiagram ∧
    drawerDiagram.stored.loaded = .ok drawerDiagram ∧
    ∃ g, drawerDiagram.stored.loaded = .ok g ∧ g.stored.loaded = .ok g := by
  have loads : drawer.loaded = .ok drawerDiagram := by rfl
  have settled : ∀ m ∈ drawer.models, ∀ f ∈ m.fields, ¬f.RequiredWithDefault := by
    have each : ∀ m ∈ drawer.models, ∀ f ∈ m.fields,
        f.constraints ≠ [] ∨ f.isList = true ∨ f.defaultValue = some [] := by decide
    rintro m member f inside ⟨bare, notList, -, value, given, some⟩
    rcases each m member f inside with constrained | list | empty
    · exact constrained bare
    · simp [notList] at list
    · simp [given, some] at empty
  exact ⟨loads, (reload_iff loads).1.mpr settled, (reload_iff loads).2⟩

def torn : Document where
  models :=
    [ { nodeId := "1", name := "Book", fields :=
        [{ name := "isbn", isOptional := false, defaultValue := some "0".toList }] } ]

def bookDiagram (required : Bool) : Diagram where
  entities :=
    [ { id := "1", name := "Book", attributes :=
        [{ name := "isbn", constraint := { required, defaultValue := some "0".toList } }] } ]

theorem torn_reloaded : torn.loaded = .ok (bookDiagram true) ∧
    (bookDiagram true).stored.loaded = .ok (bookDiagram false) ∧
    bookDiagram true ≠ bookDiagram false :=
  ⟨by rfl, by rfl, by decide⟩

end Document
end DiagramSchema
