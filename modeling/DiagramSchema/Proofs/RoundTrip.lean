import DiagramSchema.Proofs.RelationRecovery
import Mathlib.Data.List.Zip

/-! The diagram that comes back from the schema text of a diagram. Names become model names, the
attributes keep everything but the spelling of their defaults, the keys of the relations join the
attributes, and each relation comes back from the end that is listed first. -/
namespace DiagramSchema
open Text

namespace Attribute

theorem field_of_recovered_key {a : Attribute} {model : Text} {required : Bool}
    (same : a.recovered = key model required) : a.field = (key model required).field := by
  obtain ⟨name, type, constraint⟩ := a
  have none : form? ⟨name, type, constraint⟩ = none := by
    have kept : keptDefault ⟨name, type, constraint⟩ = .none := congrArg (·.constraint.defaultValue) same
    rw [← form_value, Option.map_eq_none_iff] at kept
    exact kept
  have list : constraint.list = false := congrArg (·.constraint.list) same
  have unique : constraint.unique = false := congrArg (·.constraint.unique) same
  have updatedAt : constraint.updatedAt = false := congrArg (·.constraint.updatedAt) same
  have isId : constraint.isId = true := congrArg (·.constraint.isId) same
  have needed : (constraint.required && !constraint.list) = required :=
    congrArg (·.constraint.required) same
  obtain rfl : name = Naming.keyField model := congrArg (·.name) same
  obtain rfl : type = .string := congrArg (·.type) same
  rw [list, Bool.not_false, Bool.and_true] at needed
  rw [field, tail_none none, list, unique, updatedAt, isId, Constraint.optional, list, needed]
  rfl

end Attribute

namespace Diagram

def keys (d : Diagram) (id : Text) : List Attribute := d.relations.flatMap (d.keysAt id)

def attributesBack (e : Entity) : List Attribute := (writtenAttributes e).map Attribute.recovered

def newKeys (d : Diagram) (e : Entity) : List Attribute :=
  (d.keys e.id).filter fun key => !(attributesBack e).contains key

def entityBack (d : Diagram) (e : Entity) (place : Position) : Entity :=
  ⟨e.modelName, e.modelName, place, attributesBack e ++ d.newKeys e⟩

def recovered (d : Diagram) : Diagram :=
  ⟨List.zipWith d.entityBack d.entities (Grid.positions d.entities.length), d.relationsBack⟩

theorem mem_keysAt {d : Diagram} {id : Text} {r : Relation} {key : Attribute}
    (member : key ∈ d.keysAt id r) :
    (r.source = id ∧ key = Attribute.key (d.nameOf r.target) false) ∨
      (r.target = id ∧ key = Attribute.key (d.nameOf r.source) true) := by
  obtain ⟨c, ⟨here, start⟩ | ⟨here, stop⟩⟩ := mem_atEnds member
  · exact Or.inl ⟨here, Cardinality.key_of_sourceKeys start⟩
  · exact Or.inr ⟨here, Cardinality.key_of_targetKeys stop⟩

theorem key_of_mem {d : Diagram} {id : Text} {key : Attribute} (member : key ∈ d.keys id) :
    ∃ model required, key = Attribute.key model required := by
  obtain ⟨r, _, inside⟩ := List.mem_flatMap.mp member
  rcases mem_keysAt inside with ⟨_, shape⟩ | ⟨_, shape⟩
  · exact ⟨_, _, shape⟩
  · exact ⟨_, _, shape⟩

theorem nodup_keysAt (d : Diagram) (id : Text) (r : Relation) : (d.keysAt id r).Nodup := by
  unfold keysAt atEnds
  cases (Cardinality.ofText? r.type).getD .manyToMany <;>
    by_cases source : r.source = id <;> by_cases target : r.target = id <;>
    simp [source, target, Cardinality.sourceKeys, Cardinality.targetKeys]

theorem keys_recovered (d : Diagram) (id : Text) : (d.keys id).map Attribute.recovered = d.keys id := by
  refine (List.map_congr_left ?_).trans (List.map_id _)
  intro key member
  obtain ⟨model, required, rfl⟩ := key_of_mem member
  exact Attribute.key_recovered model required

namespace Legible

variable {d : Diagram} (legible : d.Legible)

include legible

theorem field_reads {e : Entity} (known : e ∈ d.entities) {a : Attribute}
    (member : a ∈ writtenAttributes e ++ d.keys e.id) :
    a.field.isIdentity = false ∧ a.field.attribute? = some a.recovered := by
  refine Attribute.attribute_of_field ?_
  rcases List.mem_append.mp member with written | key
  · exact legible.plainDefault e known a (List.mem_filter.mp written).1
  · obtain ⟨model, required, rfl⟩ := key_of_mem key
    exact Attribute.key_plain model required

theorem scalar_fields {e : Entity} (known : e ∈ d.entities) :
    (d.allFields e).filter (fun f => !f.isIdentity && !d.isLink f) =
      (writtenAttributes e ++ d.keys e.id).map Attribute.field := by
  have identity : Line.identityField.isIdentity = true := by decide
  have plain {a : Attribute} (member : a ∈ writtenAttributes e ++ d.keys e.id) :
      (!a.field.isIdentity && !d.isLink a.field) = true := by
    rw [(legible.field_reads known member).1]
    have scalar : d.isLink a.field = false := legible.scalar_not_model a.type
    rw [scalar]
    rfl
  have kept {l : List Attribute} (within : ∀ a ∈ l, a ∈ writtenAttributes e ++ d.keys e.id) :
      (l.map Attribute.field).filter (fun f => !f.isIdentity && !d.isLink f) =
        l.map Attribute.field := by
    rw [List.filter_eq_self]
    intro f member
    obtain ⟨a, inside, rfl⟩ := List.mem_map.mp member
    exact plain (within a inside)
  have fromRelations : (d.relations.flatMap (d.fieldsAt e.id)).filter
      (fun f => !f.isIdentity && !d.isLink f) = (d.keys e.id).map Attribute.field := by
    rw [← List.filter_filter, List.filter_flatMap,
      List.flatMap_congr fun r member => (legible.fields_at member known).2, keys,
      ← List.map_flatMap]
    refine List.filter_eq_self.mpr fun f member => ?_
    obtain ⟨a, inside, rfl⟩ := List.mem_map.mp member
    rw [(legible.field_reads known (List.mem_append_right _ inside)).1]
    rfl
  rw [allFields, List.filter_cons_of_neg (by simp [identity]), List.filter_append, fromRelations,
    kept fun a inside => List.mem_append_left _ inside, List.map_append]

theorem key_shape {r : Relation} (member : r ∈ d.relations) {id : Text} {key : Attribute}
    (inside : key ∈ d.keysAt id r) : ∃ e ∈ d.entities, ∃ required,
      key = Attribute.key e.modelName required ∧
        ((r.source = id ∧ r.target = e.id) ∨ (r.target = id ∧ r.source = e.id)) := by
  obtain ⟨⟨s, source, atSource⟩, t, target, atTarget⟩ := legible.resolved r member
  rcases mem_keysAt inside with ⟨here, shape⟩ | ⟨here, shape⟩
  · rw [← atTarget, legible.nameOf_member target] at shape
    exact ⟨t, target, false, shape, Or.inl ⟨here, atTarget.symm⟩⟩
  · rw [← atSource, legible.nameOf_member source] at shape
    exact ⟨s, source, true, shape, Or.inr ⟨here, atSource.symm⟩⟩

theorem same_of_key {e f : Entity} (first : e ∈ d.entities) (second : f ∈ d.entities)
    {required other : Bool}
    (same : Attribute.key e.modelName required = Attribute.key f.modelName other) : e = f := by
  have names := Naming.keyField_injective (legible.model_identifier first)
    (legible.model_identifier second) (congrArg Attribute.name same)
  rw [Entity.modelName, Entity.modelName, Naming.capitalized_capitalized (legible.named e first),
    Naming.capitalized_capitalized (legible.named f second)] at names
  exact legible.same_of_model first second names

theorem nodup_keys (id : Text) : (d.keys id).Nodup := by
  rw [keys, List.nodup_flatMap]
  refine ⟨fun r _ => d.nodup_keysAt id r, List.Pairwise.imp_of_mem ?_ legible.once⟩
  intro r s inR inS apart key first second
  obtain ⟨e, known, _, shape, endsR⟩ := legible.key_shape inR first
  obtain ⟨f, other, _, shape', endsS⟩ := legible.key_shape inS second
  obtain rfl := legible.same_of_key known other (shape.symm.trans shape')
  have pair : r.samePair s = true := by
    rw [Relation.samePair_iff]
    rcases endsR with ⟨a, b⟩ | ⟨a, b⟩ <;> rcases endsS with ⟨a', b'⟩ | ⟨a', b'⟩
    · exact Or.inl ⟨a.trans a'.symm, b.trans b'.symm⟩
    · exact Or.inr ⟨a.trans a'.symm, b.trans b'.symm⟩
    · exact Or.inr ⟨b.trans b'.symm, a.trans a'.symm⟩
    · exact Or.inl ⟨b.trans b'.symm, a.trans a'.symm⟩
  rw [apart] at pair
  exact absurd pair (by decide)

theorem attributes_of_faithful {e : Entity} (known : e ∈ d.entities)
    (faithful : ∀ a ∈ writtenAttributes e ++ d.keys e.id,
      ∀ b ∈ writtenAttributes e ++ d.keys e.id, a.recovered = b.recovered → a.field = b.field) :
    (d.model e).attributes (d.entities.map d.model) =
      (attributesBack e ++ d.keys e.id).eraseDups := by
  let all := writtenAttributes e ++ d.keys e.id
  let back (f : Field) : Attribute := f.attribute?.getD {}
  have recovered : ∀ a ∈ all, a.field.attribute? = some a.recovered := fun a member =>
    (legible.field_reads known member).2
  have fields : (d.model e).plainFields (d.entities.map d.model) =
      (all.map Attribute.field).eraseDups := by
    show (d.allFields e).eraseDups.filter (fun f => !f.isIdentity && !d.isLink f) = _
    rw [Distinct.filter_eraseDups, legible.scalar_fields known]
  have read : ∀ f ∈ (all.map Attribute.field).eraseDups, f.attribute? = some (back f) := by
    intro f member
    obtain ⟨a, inside, rfl⟩ := List.mem_map.mp (List.mem_eraseDups.mp member)
    simp [back, recovered a inside]
  have injective : ∀ f ∈ all.map Attribute.field, ∀ g ∈ all.map Attribute.field,
      back f = back g → f = g := by
    intro f first g second same
    obtain ⟨a, inA, rfl⟩ := List.mem_map.mp first
    obtain ⟨b, inB, rfl⟩ := List.mem_map.mp second
    simp only [back, recovered a inA, recovered b inB, Option.getD_some] at same
    exact faithful a inA b inB same
  have shown : (all.map Attribute.field).map back = attributesBack e ++ d.keys e.id := by
    have each : ∀ a ∈ all, (back ∘ Attribute.field) a = a.recovered := fun a member => by
      simp [back, recovered a member]
    rw [List.map_map, List.map_congr_left each, List.map_append, d.keys_recovered e.id]
    rfl
  rw [Model.attributes, fields, List.filterMap_congr read, List.filterMap_eq_map',
    ← Distinct.eraseDups_map injective, shown]

end Legible

namespace Plain

variable {d : Diagram} (plain : d.Plain)

include plain

theorem written_all {e : Entity} (known : e ∈ d.entities) : writtenAttributes e = e.attributes := by
  refine List.filter_eq_self.mpr fun a member => ?_
  rw [plain.noIdentity e known a member]
  rfl

theorem nodup_attributesBack {e : Entity} (known : e ∈ d.entities) :
    ((attributesBack e).map Attribute.name).Nodup := by
  rw [attributesBack, plain.written_all known, List.map_map]
  exact plain.distinctAttributes e known

theorem field_of_recovered {e : Entity} (known : e ∈ d.entities) {a b : Attribute}
    (first : a ∈ writtenAttributes e ++ d.keys e.id)
    (second : b ∈ writtenAttributes e ++ d.keys e.id) (same : a.recovered = b.recovered) :
    a.field = b.field := by
  rw [plain.written_all known] at first second
  rcases List.mem_append.mp second with writtenB | keyB
  · rcases List.mem_append.mp first with writtenA | keyA
    · have name : a.recovered.name = b.recovered.name := congrArg Attribute.name same
      rw [List.inj_on_of_nodup_map (plain.distinctAttributes e known) writtenA writtenB name]
    · obtain ⟨model, required, rfl⟩ := key_of_mem keyA
      rw [Attribute.key_recovered] at same
      exact (Attribute.field_of_recovered_key same.symm).symm
  · obtain ⟨model, required, rfl⟩ := key_of_mem keyB
    rw [Attribute.key_recovered] at same
    exact Attribute.field_of_recovered_key same

theorem attributes_back {e : Entity} (known : e ∈ d.entities) :
    (d.model e).attributes (d.entities.map d.model) = attributesBack e ++ d.newKeys e := by
  have distinct : (attributesBack e).Nodup := List.Nodup.of_map _ (plain.nodup_attributesBack known)
  rw [plain.toLegible.attributes_of_faithful known fun a first b second same =>
      plain.field_of_recovered known first second same,
    List.eraseDups_append, Distinct.eraseDups_of_nodup distinct, Distinct.eraseDups_of_nodup]
  · rfl
  · exact (plain.toLegible.nodup_keys e.id).filter _

theorem diagram_back : Model.diagram (d.entities.map d.model) = d.recovered := by
  have entity : List.Forall₂
      (fun e place => (d.model e).entity (d.entities.map d.model) place = d.entityBack e place)
      d.entities (Grid.positions d.entities.length) := by
    refine List.forall₂_iff_zip.mpr ⟨(Grid.length_positions _).symm, ?_⟩
    intro e place member
    rw [Model.entity, plain.attributes_back (List.of_mem_zip member).1]
    rfl
  rw [Model.diagram, plain.toLegible.relations_back, List.zipWith_map_left, List.length_map,
    List.zipWith_congr _ _ _ _ entity]
  rfl

end Plain

theorem Legible.ofSchema_schema {d : Diagram} (legible : d.Legible) (some : d.entities ≠ []) :
    ofSchema (d.schema {}) = .ok (Model.diagram (d.entities.map d.model)) := by
  rw [ofSchema, legible.all_models]
  cases entities : d.entities with
  | nil => exact absurd entities some
  | cons e rest => rfl

/-- A plain diagram comes back from its schema text. -/
theorem schema_round_trip {d : Diagram} (plain : d.Plain) (some : d.entities ≠ []) :
    ofSchema (d.schema {}) = .ok d.recovered := by
  rw [plain.toLegible.ofSchema_schema some, plain.diagram_back]

def tasks : Diagram where
  entities :=
    [ { id := "1", name := "user", attributes :=
        [ { name := "email", constraint := { required := true, unique := true } },
          { name := "active", type := .boolean, constraint := { defaultValue := some " TRUE ".toList } } ] },
      { id := "2", name := "Task", attributes :=
        [ { name := "title", constraint := { defaultValue := some "a \"b\" (c)".toList } },
          { name := "due", type := .dateTime, constraint := { defaultValue := some "now()".toList } } ] } ]
  relations := [ { id := "r", source := "1", target := "2", type := "1-m" } ]

theorem tasks_round_trip : tasks.Plain ∧ tasks.entities ≠ [] ∧
    ofSchema (tasks.schema {}) = .ok tasks.recovered := by
  have plain : tasks.Plain := by decide
  exact ⟨plain, by decide, schema_round_trip plain (by decide)⟩

def ends (r : Relation) : Text × Text × Text := (r.source, r.target, r.type)

def namedEnds (d : Diagram) (r : Relation) : Text × Text × Text :=
  (d.nameOf r.source, d.nameOf r.target, r.type)

/-- What a relation says when it comes back: the same if its source is listed first, and otherwise
that one belongs to one, from the target to the source. -/
def endsBack (d : Diagram) (r : Relation) : Text × Text × Text :=
  if d.forward r then d.namedEnds r
  else (d.nameOf r.target, d.nameOf r.source, Cardinality.oneToOne.text)

theorem ends_readBack {d : Diagram} {r : Relation} (single : r.type = Cardinality.oneToMany.text ∨
    r.type = Cardinality.oneToOne.text) : ends (d.readBack r) = d.endsBack r := by
  unfold readBack endsBack
  rcases single with type | type <;> cases d.forward r <;>
    simp [type, ends, namedEnds, Relation.between, Cardinality.atSource, Cardinality.atTarget]

theorem Legible.mem_relationsBack {d : Diagram} (legible : d.Legible) {l : Relation} :
    l ∈ d.relationsBack ↔ ∃ r ∈ d.relations, d.readBack r = l := by
  rw [relationsBack, List.mem_flatMap]
  constructor
  · rintro ⟨e, _, member⟩
    obtain ⟨r, inside, shape⟩ := List.mem_map.mp member
    exact ⟨r, (List.mem_filter.mp inside).1, shape⟩
  · rintro ⟨r, member, shape⟩
    obtain ⟨e, known, same⟩ : ∃ e ∈ d.entities, e.id = d.firstEnd r := by
      unfold firstEnd
      split
      · exact (legible.resolved r member).1
      · exact (legible.resolved r member).2
    refine ⟨e, known, List.mem_map.mpr ⟨r, List.mem_filter.mpr ⟨member, ?_⟩, shape⟩⟩
    simp [same]

/-- Relations between one and many, or one and one, come back with the ends in the order in which
their entities are listed. -/
theorem cardinality_round_trip {d : Diagram} (legible : d.Legible) (some : d.entities ≠ [])
    (single : ∀ r ∈ d.relations, r.type = Cardinality.oneToMany.text ∨
      r.type = Cardinality.oneToOne.text) :
    ∃ g, ofSchema (d.schema {}) = .ok g ∧
      ∀ t, t ∈ g.relations.map ends ↔ t ∈ d.relations.map d.endsBack := by
  refine ⟨_, legible.ofSchema_schema some, fun t => ?_⟩
  show t ∈ (Model.relations (d.entities.map d.model)).map ends ↔ _
  rw [legible.relations_back, List.mem_map, List.mem_map]
  constructor
  · rintro ⟨l, member, rfl⟩
    obtain ⟨r, inside, rfl⟩ := legible.mem_relationsBack.mp member
    exact ⟨r, inside, (ends_readBack (single r inside)).symm⟩
  · rintro ⟨r, inside, rfl⟩
    exact ⟨_, legible.mem_relationsBack.mpr ⟨r, inside, rfl⟩, ends_readBack (single r inside)⟩

def tasksFirst : Diagram where
  entities := [ { id := "2", name := "Task" }, { id := "1", name := "User" } ]
  relations := [ { id := "r", source := "1", target := "2", type := "1-m" } ]

theorem tasksFirst_cardinality : tasksFirst.Legible ∧ tasksFirst.entities ≠ [] ∧
    (∀ r ∈ tasksFirst.relations, r.type = Cardinality.oneToMany.text ∨
      r.type = Cardinality.oneToOne.text) ∧
    ∃ g, ofSchema (tasksFirst.schema {}) = .ok g ∧
      ∀ t, t ∈ g.relations.map ends ↔ t ∈ tasksFirst.relations.map tasksFirst.endsBack := by
  have legible : tasksFirst.Legible := by decide
  exact ⟨legible, by decide, by decide, cardinality_round_trip legible (by decide) (by decide)⟩

/-- Where the target is listed before the source, a relation of one to many comes back as one of one
to one, the other way round. Without entities nothing comes back. -/
theorem tasksFirst_turned : tasksFirst.Legible ∧ tasksFirst.entities ≠ [] ∧
    (∀ e ∈ tasksFirst.entities, ∀ a ∈ e.attributes, a.constraint.defaultValue = none) ∧
    (∀ r ∈ tasksFirst.relations, (r.type = Cardinality.oneToMany.text ∨
      r.type = Cardinality.oneToOne.text) ∧ r.source ≠ r.target) ∧
    ∃ g, ofSchema (tasksFirst.schema {}) = .ok g ∧
      g.relations.map ends = [("Task".toList, "User".toList, "1-1".toList)] ∧
      tasksFirst.relations.map tasksFirst.namedEnds =
        [("User".toList, "Task".toList, "1-m".toList)] ∧
      (¬ ∀ t, t ∈ g.relations.map ends ↔ t ∈ tasksFirst.relations.map tasksFirst.namedEnds) ∧
      ofSchema (({} : Diagram).schema {}) = .error .noModels := by
  have legible : tasksFirst.Legible := by decide
  refine ⟨legible, by decide, by decide, by decide, _, legible.ofSchema_schema (by decide), ?_⟩
  have back : (Model.diagram (tasksFirst.entities.map tasksFirst.model)).relations.map ends =
      [("Task".toList, "User".toList, "1-1".toList)] := by
    show (Model.relations (tasksFirst.entities.map tasksFirst.model)).map ends = _
    rw [legible.relations_back]
    decide
  have meant : tasksFirst.relations.map tasksFirst.namedEnds =
      [("User".toList, "Task".toList, "1-m".toList)] := by decide
  refine ⟨back, meant, fun same => ?_, by rfl⟩
  have kept := (same ("User".toList, "Task".toList, "1-m".toList)).mpr (by rw [meant]; simp)
  rw [back] at kept
  exact absurd kept (by decide)

end Diagram
end DiagramSchema
