import DiagramSchema.Proofs.DefaultIsolation
import DiagramSchema.Proofs.LinePieces
import DiagramSchema.Proofs.RecoveredDiagram
import Mathlib.Data.List.Flatten

/-! Models that are still apart when the schema text of a diagram is read again. The names of
entities and attributes, the defaults and the types of relations are free text, and schema text
holds them as they are. -/
namespace DiagramSchema
open Text

namespace Diagram

variable {d : Diagram}

/-- A diagram whose free text leaves the models of its schema text apart: their names are words,
blanks around them aside; no block comment goes over the end of a block; and in no block a line that
opens a model stands behind one that closes the block. -/
structure Separable (d : Diagram) : Prop where
  distinctIds : (d.entities.map Entity.id).Nodup
  named : ∀ e ∈ d.entities, IsOneLine e.modelName ∧ (trim e.modelName).IsName
  distinctModels : (d.entities.map fun e => trim e.modelName).Nodup
  comments : d.blocks.Pairwise fun b c => ¬ Comment.Crosses b.text c.text
  within : ∀ b ∈ d.blocks, SourceBlock.StaysWithin (SourceBlock.pieces b.text)

instance (d : Diagram) : Decidable d.Separable :=
  decidable_of_iff
    ((d.entities.map Entity.id).Nodup ∧
      (∀ e ∈ d.entities, IsOneLine e.modelName ∧ (trim e.modelName).IsName) ∧
      (d.entities.map fun e => trim e.modelName).Nodup ∧
      (d.blocks.Pairwise fun b c => ¬ Comment.Crosses b.text c.text) ∧
      ∀ b ∈ d.blocks, SourceBlock.StaysWithin (SourceBlock.pieces b.text))
    ⟨fun ⟨ids, names, models, comments, within⟩ => ⟨ids, names, models, comments, within⟩,
      fun h => ⟨h.distinctIds, h.named, h.distinctModels, h.comments, h.within⟩⟩

namespace Separable

variable (separable : d.Separable)

include separable

theorem names_scanned : (SourceBlock.all (d.schema {})).map SourceBlock.name =
    d.entities.map fun e => trim e.modelName := by
  have blocks := blocks_of_distinct separable.distinctIds
  have named : ∀ b ∈ d.blocks, IsOneLine b.name ∧ (trim b.name).IsName := by
    rw [blocks]
    intro b member
    obtain ⟨e, known, rfl⟩ := List.mem_map.mp member
    exact separable.named e known
  rw [SourceBlock.all_body, SourceBlock.all, sourceLines,
    SourceBlock.lines_blocks d.block_nonempty separable.comments,
    SourceBlock.scan_names named separable.within, blocks, List.map_map]
  rfl

theorem models_named : (Model.all (d.schema {})).map Model.name =
    d.entities.map fun e => trim e.modelName := by
  rw [Model.names_all, separable.names_scanned, Distinct.eraseDups_of_nodup separable.distinctModels]

end Separable
end Diagram

namespace Operation

/-- The diagram that comes back of the schema text of a diagram, if both steps succeed. -/
def redrawn? (payload : Json) : Option Diagram :=
  match (emit payload {}).value with
  | .ok (.emission emission) => match (recover (.object [("schema", .text emission.schema)])).value with
    | .ok (.diagram d) => some d
    | _ => none
  | _ => none

theorem get_only (key : Text) (value : Json) : (Json.object [(key, value)]).get? key = some value := by
  rw [Json.get?, List.lookup_cons_self]

theorem recover_value (text : Text) : (Diagram.recover text).value = Diagram.ofSchema text := rfl

theorem redrawn_accepted {payload : Json} {d : Diagram} (accepted : Diagram.accept payload = .ok d) :
    redrawn? payload = (Diagram.ofSchema (d.schema {})).toOption := by
  have emitted : (emit payload {}).value = .ok (.emission ⟨d.schema {}, d.warnings⟩) := by
    rw [emit, accepted]
    rfl
  rw [redrawn?, emitted]
  dsimp only
  rw [recover, get_only]
  dsimp only [Noted.map]
  rw [recover_value]
  cases Diagram.ofSchema (d.schema {}) with
  | error cause => rfl
  | ok g => rfl

end Operation

namespace Diagram

/-- The schema text of a separable diagram can be drawn again without losing or adding an entity. -/
theorem redrawn_entities {payload : Json} {d : Diagram} (accepted : accept payload = .ok d)
    (inhabited : d.entities ≠ []) (separable : d.Separable) :
    (Operation.redrawn? payload).map (fun g => g.entities.map Entity.name) =
      some (d.entities.map fun e => trim e.modelName) := by
  have models := separable.models_named
  have found : Model.all (d.schema {}) ≠ [] := by
    intro none
    rw [none, List.map_nil, eq_comm, List.map_eq_nil_iff] at models
    exact inhabited models
  have names : (Model.diagram (Model.all (d.schema {}))).entities.map Entity.name =
      d.entities.map fun e => trim e.modelName := by
    rw [List.map_congr_left (Model.entity_named _), Model.entity_ids, models]
  rw [Operation.redrawn_accepted accepted, ofSchema_nonempty found]
  exact congrArg some names

def board : Diagram where
  entities :=
    [ { id := "1", name := " note", attributes :=
        [ { name := "a /* \x7d */ b // \x7b" },
          { name := "open", constraint := { defaultValue := some "*/5 /*".toList } },
          { name := "text", constraint := { defaultValue := some "*/\nmodel Inner \x7b\r\n\x7d".toList } } ] },
      { id := "2", name := "user" } ]
  relations :=
    [ { id := "r", source := "2", target := "1", type := "1-m" },
      { id := "s", source := "2", target := "2", type := "\u2028model Inner \x7b" } ]

theorem board_redrawn : accept board.json = .ok board ∧ board.entities ≠ [] ∧ board.Separable ∧
    (Operation.redrawn? board.json).map (fun g => g.entities.map Entity.name) =
      some ["note".toList, "User".toList] := by
  have separable : board.Separable := by decide +kernel
  have inhabited : board.entities ≠ [] := by decide
  exact ⟨accept_json board, inhabited, separable,
    redrawn_entities (accept_json board) inhabited separable⟩

/-- Diagrams that come back with other models: a name of two words and one with a line break, names
that differ in the case of the first letter or in a blank, attributes that close the block and open
another, and defaults that open and close a comment. -/
def inseparable : List Diagram :=
  [ { entities := [{ id := "1", name := "my note" }] },
    { entities := [{ id := "1", name := "note\n" }] },
    { entities := [{ id := "1", name := "user" }, { id := "2", name := "User" }] },
    { entities := [{ id := "1", name := "User" }, { id := "2", name := "User " }] },
    notes [{ name := "\x7d//" }, { name := "model Smuggled \x7b" }],
    { entities :=
        [ { id := "1", name := "A", attributes :=
            [{ name := "x", constraint := { defaultValue := some "/*".toList } }] },
          { id := "2", name := "B", attributes :=
            [{ name := "y", constraint := { defaultValue := some "*/".toList } }] } ] } ]

theorem count_redrawn (d : Diagram) :
    (Operation.redrawn? d.json).map (fun g => g.entities.length) =
      (ofSchema (unlines d.sourceLines)).toOption.map fun g => g.entities.length := by
  rw [Operation.redrawn_accepted (accept_json d), ofSchema_body]

theorem inseparable_redrawn : inseparable.Forall fun d => d.entities ≠ [] ∧
    (d.entities.map Entity.id).Nodup ∧ (∀ e ∈ d.entities, e.name ≠ []) ∧
    (d.entities.map Entity.name).Nodup ∧
    (Operation.redrawn? d.json).map (fun g => g.entities.length) ≠ some d.entities.length := by
  simp only [inseparable, List.Forall, count_redrawn]
  refine ⟨?_, ?_, ?_, ?_, ?_, ?_⟩ <;>
    exact ⟨by decide, by decide, by decide, by decide, by decide +kernel⟩

end Diagram
end DiagramSchema
