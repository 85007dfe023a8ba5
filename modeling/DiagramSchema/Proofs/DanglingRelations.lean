import DiagramSchema.Proofs.ModelBlocks

/-! Relations that lack an end. They leave no trace in schema text, and each of them is reported, as
is each relation of an unknown type; of all others nothing is reported. -/
namespace DiagramSchema

def Relation.IsKnown (r : Relation) : Prop := r.type ∈ Cardinality.all.map Cardinality.text

instance (r : Relation) : Decidable r.IsKnown :=
  inferInstanceAs (Decidable (r.type ∈ Cardinality.all.map Cardinality.text))

theorem Relation.isKnown_iff {r : Relation} : r.IsKnown ↔ ∃ c, Cardinality.ofText? r.type = some c := by
  have listed (c : Cardinality) : c ∈ Cardinality.all := by cases c <;> decide
  simp [IsKnown, Cardinality.ofText?_eq_some_iff, listed]

theorem Relation.ofText_unknown {r : Relation} (unknown : ¬r.IsKnown) : Cardinality.ofText? r.type = none := by
  rw [Option.eq_none_iff_forall_ne_some]
  exact fun c found => unknown (Relation.isKnown_iff.mpr ⟨c, found⟩)

theorem Relation.lines_known {r : Relation} (known : r.IsKnown) :
    ∃ c : Cardinality, ∀ source target, r.lines source target = c.lines source target := by
  obtain ⟨c, type⟩ := Relation.isKnown_iff.mp known
  exact ⟨c, fun source target => by rw [lines, type]⟩

namespace Diagram

/-- A relation whose ends are entities of the diagram. -/
def Joins (d : Diagram) (r : Relation) : Prop :=
  r.source ∈ d.entities.map Entity.id ∧ r.target ∈ d.entities.map Entity.id

instance (d : Diagram) (r : Relation) : Decidable (d.Joins r) :=
  inferInstanceAs
    (Decidable (r.source ∈ d.entities.map Entity.id ∧ r.target ∈ d.entities.map Entity.id))

def withoutDangling (d : Diagram) : Diagram :=
  { d with relations := d.relations.filter fun r => d.Joins r }

variable {d : Diagram} {r : Relation}

theorem modelNames_of_joins (joins : d.Joins r) : ∃ source target,
    d.modelName? r.source = some source ∧ d.modelName? r.target = some target := by
  obtain ⟨source, atSource⟩ := modelName_isSome joins.1
  obtain ⟨target, atTarget⟩ := modelName_isSome joins.2
  exact ⟨source, target, atSource, atTarget⟩

theorem modelName_of_dangling (dangling : ¬d.Joins r) :
    d.modelName? r.source = none ∨ d.modelName? r.target = none := by
  by_contra both
  obtain ⟨hasSource, hasTarget⟩ := not_or.mp both
  obtain ⟨source, atSource⟩ := Option.ne_none_iff_exists'.mp hasSource
  obtain ⟨target, atTarget⟩ := Option.ne_none_iff_exists'.mp hasTarget
  obtain ⟨e, inside, first, -⟩ := mem_of_modelName atSource
  obtain ⟨f, within, second, -⟩ := mem_of_modelName atTarget
  exact dangling ⟨first ▸ List.mem_map_of_mem inside, second ▸ List.mem_map_of_mem within⟩

theorem contributionsOf_dangling (dangling : ¬d.Joins r) : d.contributionsOf r = [] := by
  unfold contributionsOf
  rcases modelName_of_dangling dangling with noSource | noTarget
  · rw [noSource]
  · rw [noTarget]
    cases d.modelName? r.source <;> rfl

theorem contributedLines_withoutDangling (d : Diagram) :
    d.withoutDangling.contributedLines = d.contributedLines := by
  funext id
  refine congrArg (List.map Prod.snd) (filter_flatMap_filter fun r _ dangling => ?_)
  have nothing : d.contributionsOf r = [] := contributionsOf_dangling (of_decide_eq_false dangling)
  exact (congrArg (List.filter _) nothing).trans List.filter_nil

theorem schema_withoutDangling (d : Diagram) (s : Settings) :
    d.withoutDangling.schema s = d.schema s := by
  have block : d.withoutDangling.block = d.block := by
    funext e
    rw [Diagram.block, contributedLines_withoutDangling]
    rfl
  exact schema_of_block block rfl s

theorem warning_dangling (dangling : ¬d.Joins r) :
    d.warning? r = some (.missingEnd r.id r.source r.target) := by
  unfold warning?
  rcases modelName_of_dangling dangling with noSource | noTarget
  · rw [noSource]
  · rw [noTarget]
    cases d.modelName? r.source <;> rfl

theorem warning_known (joins : d.Joins r) (known : r.IsKnown) : d.warning? r = none := by
  obtain ⟨source, target, atSource, atTarget⟩ := modelNames_of_joins joins
  obtain ⟨c, type⟩ := Relation.isKnown_iff.mp known
  rw [warning?, atSource, atTarget, type]

theorem warning_unknown (joins : d.Joins r) (unknown : ¬r.IsKnown) :
    d.warning? r = some (.unknownType r.id r.typeWord) := by
  obtain ⟨source, target, atSource, atTarget⟩ := modelNames_of_joins joins
  rw [warning?, atSource, atTarget, Relation.ofText_unknown unknown]

def faultKind (d : Diagram) (r : Relation) : Text :=
  if d.Joins r then "unknown_relation_type" else "unresolved_reference"

theorem warnings_shown (d : Diagram) :
    d.warnings.map (fun w => (w.kind, w.relationId)) =
      (d.relations.filter fun r => ¬(d.Joins r ∧ r.IsKnown)).map fun r => (d.faultKind r, r.id) := by
  rw [warnings]
  induction d.relations with
  | nil => rfl
  | cons r rest ih =>
    rw [List.filterMap_cons, List.filter_cons]
    by_cases joins : d.Joins r
    · by_cases known : r.IsKnown
      · rw [warning_known joins known, if_neg (by simp [joins, known])]
        exact ih
      · rw [warning_unknown joins known, if_pos (by simp [known]), List.map_cons, List.map_cons, ih,
          faultKind, if_pos joins]
        rfl
    · rw [warning_dangling joins, if_pos (by simp [joins]), List.map_cons, List.map_cons, ih,
        faultKind, if_neg joins]
      rfl

/-- Leaving out the relations that lack an end does not change the schema text. Reported are, in their
order, these relations and those of unknown types. -/
theorem dangling_dropped (d : Diagram) (s : Settings) :
    (d.withoutDangling.emit s).value.schema = (d.emit s).value.schema ∧
      (d.emit s).value.warnings.map (fun w => (w.kind, w.relationId)) =
        (d.relations.filter fun r => ¬(d.Joins r ∧ r.IsKnown)).map fun r => (d.faultKind r, r.id) :=
  ⟨schema_withoutDangling d s, warnings_shown d⟩

end Diagram
end DiagramSchema
