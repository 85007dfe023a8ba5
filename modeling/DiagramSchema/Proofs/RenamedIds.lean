import DiagramSchema.Proofs.ModelBlocks
import Mathlib.Logic.Function.Defs

/-! Other ids for the entities of a diagram. Ids only say which entities a relation joins, and which
entities share a block. Under other ids that tell apart the same entities, the schema text is the same,
and so is what is reported, but for the ids that a message names. -/
namespace DiagramSchema

theorem latestByKey_of_injective {α κ ι : Type} [DecidableEq κ] [DecidableEq ι] {f : κ → ι}
    (injective : Function.Injective f) (key : α → κ) (items : List α) :
    latestByKey (fun a => f (key a)) items = latestByKey key items := by
  have keys : (items.map fun a => f (key a)).eraseDups = (items.map key).eraseDups.map f := by
    rw [← Distinct.eraseDups_map fun a _ b _ same => injective same, List.map_map]
    rfl
  rw [latestByKey, keys, List.filterMap_map, latestByKey]
  refine List.filterMap_congr fun k _ => ?_
  simp only [Function.comp_apply, injective.beq_eq]

def Entity.renamed (f : Text → Text) (e : Entity) : Entity := { e with id := f e.id }

def Relation.renamed (f : Text → Text) (r : Relation) : Relation :=
  { r with source := f r.source, target := f r.target }

def Warning.renamed (f : Text → Text) : Warning → Warning
  | .missingEnd relation source target => .missingEnd relation (f source) (f target)
  | .unknownType relation type => .unknownType relation type

theorem Warning.shown_renamed (f : Text → Text) (w : Warning) :
    ((w.renamed f).kind, (w.renamed f).relationId) = (w.kind, w.relationId) := by
  cases w <;> rfl

namespace Diagram

def renamed (f : Text → Text) (d : Diagram) : Diagram where
  entities := d.entities.map (Entity.renamed f)
  relations := d.relations.map (Relation.renamed f)

section
variable {f : Text → Text} (injective : Function.Injective f) (d : Diagram)

include injective

theorem modelName_renamed (id : Text) : (d.renamed f).modelName? (f id) = d.modelName? id := by
  show ((d.entities.map (Entity.renamed f)).findRev? fun e => e.id == f id).map Entity.modelName = _
  have same : (fun e => (Entity.renamed f e).id == f id) = fun e => e.id == id :=
    funext fun e => injective.beq_eq
  rw [findRev_map, Option.map_map, same]
  rfl

theorem modelEntities_renamed :
    (d.renamed f).modelEntities = d.modelEntities.map (Entity.renamed f) := by
  show latestByKey Entity.id (d.entities.map (Entity.renamed f)) = _
  rw [latestByKey_map]
  exact congrArg (List.map _) (latestByKey_of_injective injective Entity.id d.entities)

theorem contributionsOf_renamed (r : Relation) :
    (d.renamed f).contributionsOf (r.renamed f) = (d.contributionsOf r).map (Prod.map f id) := by
  have source : (d.renamed f).modelName? (r.renamed f).source = d.modelName? r.source :=
    modelName_renamed injective d r.source
  have target : (d.renamed f).modelName? (r.renamed f).target = d.modelName? r.target :=
    modelName_renamed injective d r.target
  unfold contributionsOf
  rw [source, target]
  split
  · rw [List.map_append, List.map_map, List.map_map]
    rfl
  · rfl

theorem contributedLines_renamed (id : Text) :
    (d.renamed f).contributedLines (f id) = d.contributedLines id := by
  have contributions : (d.renamed f).relations.flatMap (d.renamed f).contributionsOf =
      (d.relations.flatMap d.contributionsOf).map (Prod.map f fun line => line) := by
    rw [List.map_flatMap]
    show (d.relations.map (Relation.renamed f)).flatMap _ = _
    rw [List.flatMap_map]
    exact List.flatMap_congr fun r _ => contributionsOf_renamed injective d r
  have same : (fun c : Text × Line => c.1 == f id) ∘ Prod.map f (fun line => line) = fun c => c.1 == id :=
    funext fun _ => injective.beq_eq
  rw [contributedLines, contributions, List.filter_map, List.map_map, same]
  rfl

theorem block_renamed (e : Entity) : (d.renamed f).block (e.renamed f) = d.block e := by
  show (⟨e.modelName, ((Line.identity :: e.attributeLines ++
    (d.renamed f).contributedLines (f e.id)).map Line.text).eraseDups⟩ : Block) = _
  rw [contributedLines_renamed injective]
  rfl

theorem blocks_renamed : (d.renamed f).blocks = d.blocks := by
  rw [blocks, modelEntities_renamed injective, List.map_map]
  exact List.map_congr_left fun e _ => block_renamed injective d e

theorem warning_renamed (r : Relation) :
    (d.renamed f).warning? (r.renamed f) = (d.warning? r).map (Warning.renamed f) := by
  have source : (d.renamed f).modelName? (r.renamed f).source = d.modelName? r.source :=
    modelName_renamed injective d r.source
  have target : (d.renamed f).modelName? (r.renamed f).target = d.modelName? r.target :=
    modelName_renamed injective d r.target
  have type : (r.renamed f).type = r.type := rfl
  unfold warning?
  rw [source, target, type]
  split
  · split <;> rfl
  · rfl

theorem warnings_renamed : (d.renamed f).warnings = d.warnings.map (Warning.renamed f) := by
  show (d.relations.map (Relation.renamed f)).filterMap _ = _
  rw [List.filterMap_map, warnings, List.map_filterMap]
  exact List.filterMap_congr fun r _ => warning_renamed injective d r

/-- Other ids change neither the schema text nor which warnings are given of which relations. -/
theorem ids_opaque (s : Settings) :
    ((d.renamed f).emit s).value.schema = (d.emit s).value.schema ∧
      ((d.renamed f).emit s).value.warnings.map (fun w => (w.kind, w.relationId)) =
        (d.emit s).value.warnings.map fun w => (w.kind, w.relationId) := by
  constructor
  · show (d.renamed f).schema s = d.schema s
    rw [schema, schema, blocks_renamed injective]
  · show (d.renamed f).warnings.map _ = d.warnings.map _
    rw [warnings_renamed injective, List.map_map]
    exact List.map_congr_left fun w _ => w.shown_renamed f

end

def terminal : Diagram where
  entities :=
    [ { id := "1", name := "bus" }, { id := "2", name := "stop" },
      { id := "1", name := "train", attributes := [ { name := "number", type := .int } ] } ]
  relations :=
    [ { id := "r", source := "1", target := "2", type := "1-m" },
      { id := "s", source := "3", target := "2", type := "1-1" },
      { id := "t", source := "2", target := "1", type := "often" } ]

theorem terminal_renamed : Function.Injective (fun id : Text => id ++ id) ∧
    ((terminal.renamed fun id => id ++ id).emit {}).value.schema = (terminal.emit {}).value.schema ∧
    ((terminal.renamed fun id => id ++ id).emit {}).value.warnings.map (fun w => (w.kind, w.relationId)) =
      [(("unresolved_reference" : Text), ("s" : Text)), ("unknown_relation_type", "t")] := by
  have injective : Function.Injective fun id : Text => id ++ id := by
    intro a b same
    have lengths : a.length = b.length := by
      have doubled : (a ++ a).length = (b ++ b).length := congrArg List.length same
      rw [List.length_append, List.length_append] at doubled
      omega
    exact (List.append_inj same lengths).1
  have renamed := ids_opaque injective terminal {}
  exact ⟨injective, renamed.1, renamed.2.trans (by decide)⟩

end Diagram
end DiagramSchema
