import DiagramSchema.Proofs.LinePieces
import DiagramSchema.Proofs.ModelBlocks
import DiagramSchema.Schema.Recovery

/-! What of the models in schema text comes to show in a diagram. A field shows as an attribute or as a
link between models; all other fields might as well not be there, and neither might the lines that
are no fields. -/
namespace DiagramSchema
open Text

/-- A field that shows in a diagram of models with the given names: it links to one of them, or it is
an attribute. -/
def Field.isShown (names : List Text) (f : Field) : Bool :=
  names.contains f.type || (!f.isIdentity && (ScalarType.ofName? f.type).isSome)

namespace Model

def shown (names : List Text) (m : Model) : Model := ⟨m.name, m.fields.filter (Field.isShown names)⟩

variable {names : List Text} {models : List Model}

theorem isNameAmong_shown : isNameAmong (models.map (shown names)) = isNameAmong models := by
  funext type
  rw [isNameAmong, isNameAmong, List.any_map]
  rfl

theorem attributes_shown (m : Model) :
    (m.shown names).attributes (models.map (shown names)) = m.attributes models := by
  rw [attributes, attributes, plainFields, plainFields, isNameAmong_shown, shown,
    List.filterMap_filter, List.filterMap_filter, List.filterMap_filter]
  refine List.filterMap_congr fun f _ => ?_
  cases shows : f.isShown names with
  | true => rfl
  | false =>
    obtain ⟨linksNot, noAttribute⟩ := Bool.or_eq_false_iff.mp shows
    cases identity : f.isIdentity with
    | true => simp
    | false =>
      have scalar : ScalarType.ofName? f.type = none := by simpa [identity] using noAttribute
      simp [Field.attribute?, scalar]

variable (named : ∀ type, isNameAmong models type = names.contains type)

include named

theorem links_shown : links (models.map (shown names)) = links models := by
  rw [links, links, List.flatMap_map, isNameAmong_shown]
  refine List.flatMap_congr fun m _ => ?_
  have kept : ((m.fields.filter (Field.isShown names)).filter fun f => isNameAmong models f.type) =
      m.fields.filter fun f => isNameAmong models f.type := by
    rw [List.filter_filter]
    refine List.filter_congr fun f _ => ?_
    rw [named]
    cases linked : names.contains f.type with
    | true => simp only [Field.isShown, linked, Bool.true_or, Bool.and_true]
    | false => rfl
  rw [shown, kept]
  rfl

theorem diagram_shown : diagram (models.map (shown names)) = diagram models := by
  have entities (place : Position) (m : Model) :
      (m.shown names).entity (models.map (shown names)) place = m.entity models place := by
    rw [entity, entity, attributes_shown]
    rfl
  rw [diagram, diagram, relations, relations, links_shown named, List.length_map, List.zipWith_map_left]
  simp only [entities]

end Model

namespace SourceBlock

theorem trim_piece {line piece : Text} (member : piece ∈ pieces line) : trim piece = piece := by
  obtain ⟨cut, _, rfl⟩ := List.mem_map.mp member
  exact trim_trim cut

def fieldsOf (line : Text) : List Field := (pieces line).filterMap Field.read?

theorem fields_pieces (name : Text) (lines : List Text) (closed : Bool) :
    fields ⟨name, lines.flatMap pieces, closed⟩ = lines.flatMap fieldsOf := by
  rw [fields_body, List.filterMap_flatMap]
  refine List.flatMap_congr fun line _ => List.filterMap_congr fun piece member => ?_
  rw [trim_piece member]

end SourceBlock

namespace Model

variable {d : Diagram}

def ofBlock (b : Block) : Model := ⟨b.name, b.lines.flatMap SourceBlock.fieldsOf⟩

theorem all_blocks (isName : ∀ b ∈ d.blocks, b.name.IsName)
    (comments : Comment.IsWithinLines d.sourceLines)
    (inside : ∀ b ∈ d.blocks, ∀ line ∈ b.lines, ['\x7d'] ∉ SourceBlock.pieces line) :
    all (d.schema {}) = latestByKey Model.name (d.blocks.map ofBlock) := by
  have each (b : Block) :
      SourceBlock.model ⟨b.name, b.lines.flatMap SourceBlock.pieces, true⟩ = ofBlock b := by
    rw [SourceBlock.model, SourceBlock.fields_pieces, ofBlock]
  rw [all_body, all, SourceBlock.all, SourceBlock.pieces_unlines comments, Diagram.sourceLines,
    SourceBlock.scan_pieces isName inside, List.map_map]
  congr 1
  exact List.map_congr_left fun b _ => each b

theorem isNameAmong_blocks (d : Diagram) (type : Text) :
    isNameAmong (latestByKey Model.name (d.blocks.map ofBlock)) type =
      (d.blocks.map Block.name).contains type := by
  have found : isNameAmong (latestByKey Model.name (d.blocks.map ofBlock)) type = true ↔
      type ∈ (latestByKey Model.name (d.blocks.map ofBlock)).map Model.name := by
    simp [isNameAmong, List.mem_map]
  rw [Bool.eq_iff_iff, found, mem_keys_latestByKey, List.map_map, List.contains_iff_mem]
  rfl

theorem shown_latest (names : List Text) (models : List Model) :
    (latestByKey Model.name models).map (shown names) = latestByKey Model.name (models.map (shown names)) :=
  (latestByKey_map Model.name (shown names) models).symm

end Model
end DiagramSchema
