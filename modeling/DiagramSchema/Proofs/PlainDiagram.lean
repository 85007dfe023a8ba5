import DiagramSchema.Proofs.AttributeRecovery
import DiagramSchema.Proofs.ModelBlocks
import DiagramSchema.Schema.Recovery

/-! Diagrams that schema text can hold: names that are identifiers, defaults without signs of schema
text, and relations between entities of the diagram, one for each pair. -/
namespace DiagramSchema
open Text

namespace Diagram

/-- Names that are identifiers, apart from each other, and relations of known types between
entities of the diagram. -/
structure Named (d : Diagram) : Prop where
  distinctIds : (d.entities.map Entity.id).Nodup
  named : ∀ e ∈ d.entities, isIdentifier e.name = true
  distinctModels : (d.entities.map Entity.modelName).Nodup
  noScalar : ∀ e ∈ d.entities, ScalarType.ofName? e.modelName = none
  attributeNamed : ∀ e ∈ d.entities, ∀ a ∈ e.attributes, isIdentifier a.name = true
  known : ∀ r ∈ d.relations, ∃ c : Cardinality, r.type = c.text
  resolved : ∀ r ∈ d.relations, (∃ e ∈ d.entities, e.id = r.source) ∧ ∃ e ∈ d.entities, e.id = r.target

/-- A diagram whose schema text reads as it was written. Attributes may have one name. -/
structure Legible (d : Diagram) : Prop extends Named d where
  plainDefault : ∀ e ∈ d.entities, ∀ a ∈ e.attributes, a.HasPlainDefault
  once : d.relations.Pairwise fun r s => r.samePair s = false

/-- A legible diagram where the attributes of an entity have different names, none of them `id`. -/
structure Plain (d : Diagram) : Prop extends Legible d where
  distinctAttributes : ∀ e ∈ d.entities, (e.attributes.map Attribute.name).Nodup
  noIdentity : ∀ e ∈ d.entities, ∀ a ∈ e.attributes, a.isIdentity = false

instance (d : Diagram) : Decidable d.Named :=
  decidable_of_iff
    ((d.entities.map Entity.id).Nodup ∧ (∀ e ∈ d.entities, isIdentifier e.name = true) ∧
      (d.entities.map Entity.modelName).Nodup ∧
      (∀ e ∈ d.entities, ScalarType.ofName? e.modelName = none) ∧
      (∀ e ∈ d.entities, ∀ a ∈ e.attributes, isIdentifier a.name = true) ∧
      (∀ r ∈ d.relations, ∃ c ∈ Cardinality.all, r.type = c.text) ∧
      ∀ r ∈ d.relations,
        (∃ e ∈ d.entities, e.id = r.source) ∧ ∃ e ∈ d.entities, e.id = r.target)
    ⟨fun ⟨ids, names, models, scalars, attributes, types, ends⟩ =>
      ⟨ids, names, models, scalars, attributes,
        fun r member => (types r member).imp fun _ found => found.2, ends⟩,
    fun h => ⟨h.distinctIds, h.named, h.distinctModels, h.noScalar, h.attributeNamed,
      fun r member => (h.known r member).imp fun c type => ⟨by cases c <;> decide, type⟩,
      h.resolved⟩⟩

instance (d : Diagram) : Decidable d.Legible :=
  decidable_of_iff
    (d.Named ∧ (∀ e ∈ d.entities, ∀ a ∈ e.attributes, a.HasPlainDefault) ∧
      d.relations.Pairwise fun r s => r.samePair s = false)
    ⟨fun ⟨named, defaults, pairs⟩ => ⟨named, defaults, pairs⟩,
      fun legible => ⟨legible.toNamed, legible.plainDefault, legible.once⟩⟩

instance (d : Diagram) : Decidable d.Plain :=
  decidable_of_iff
    (d.Legible ∧ (∀ e ∈ d.entities, (e.attributes.map Attribute.name).Nodup) ∧
      ∀ e ∈ d.entities, ∀ a ∈ e.attributes, a.isIdentity = false)
    ⟨fun ⟨legible, names, noIds⟩ => ⟨legible, names, noIds⟩,
      fun plain => ⟨plain.toLegible, plain.distinctAttributes, plain.noIdentity⟩⟩

def nameOf (d : Diagram) (id : Text) : Text := (d.modelName? id).getD []

def place (d : Diagram) (id : Text) : Nat := (d.entities.map Entity.id).idxOf id

end Diagram

theorem Relation.samePair_iff {r s : Relation} : r.samePair s = true ↔
    (r.source = s.source ∧ r.target = s.target) ∨ (r.source = s.target ∧ r.target = s.source) := by
  simp [Relation.samePair]

theorem Relation.samePair_refl (r : Relation) : r.samePair r = true :=
  samePair_iff.mpr (Or.inl ⟨rfl, rfl⟩)

theorem Relation.samePair_symm {r s : Relation} (pair : r.samePair s = true) :
    s.samePair r = true := by
  rw [samePair_iff] at pair ⊢
  rcases pair with ⟨a, b⟩ | ⟨a, b⟩
  · exact Or.inl ⟨a.symm, b.symm⟩
  · exact Or.inr ⟨b.symm, a.symm⟩

theorem Relation.samePair_trans (q r s : Relation) (first : q.samePair r = true)
    (second : r.samePair s = true) : q.samePair s = true := by
  rw [samePair_iff] at first second ⊢
  rcases first with ⟨a, b⟩ | ⟨a, b⟩
  · rw [a, b]
    exact second
  · rw [a, b]
    rcases second with ⟨c, d⟩ | ⟨c, d⟩
    · exact Or.inr ⟨d, c⟩
    · exact Or.inl ⟨d, c⟩

namespace Diagram.Named

variable {d : Diagram} (named : d.Named)

include named

theorem modelName_of_member {e : Entity} (member : e ∈ d.entities) :
    d.modelName? e.id = some e.modelName := by
  rw [modelName?, Distinct.findRev_of_distinct named.distinctIds member, Option.map_some]

theorem nameOf_member {e : Entity} (member : e ∈ d.entities) : d.nameOf e.id = e.modelName := by
  rw [nameOf, named.modelName_of_member member, Option.getD_some]

theorem same_of_id {e f : Entity} (first : e ∈ d.entities) (second : f ∈ d.entities)
    (same : e.id = f.id) : e = f :=
  List.inj_on_of_nodup_map named.distinctIds first second same

theorem same_of_model {e f : Entity} (first : e ∈ d.entities) (second : f ∈ d.entities)
    (same : e.modelName = f.modelName) : e = f :=
  List.inj_on_of_nodup_map named.distinctModels first second same

theorem model_identifier {e : Entity} (member : e ∈ d.entities) :
    isIdentifier e.modelName = true :=
  Naming.capitalized_identifier (named.named e member)

theorem relation_shape {r : Relation} (member : r ∈ d.relations) :
    ∃ s ∈ d.entities, ∃ t ∈ d.entities, ∃ c : Cardinality,
      r.source = s.id ∧ r.target = t.id ∧ r.type = c.text := by
  obtain ⟨c, type⟩ := named.known r member
  obtain ⟨⟨s, source, atSource⟩, t, target, atTarget⟩ := named.resolved r member
  exact ⟨s, source, t, target, c, atSource.symm, atTarget.symm, type⟩

end Diagram.Named
end DiagramSchema
