import DiagramSchema.Proofs.DecodedParts
import DiagramSchema.Proofs.ModelHeaders

/-! Reading schema text fails for want of a model and for nothing else. The checks that a diagram from
a caller has to pass are passed by every diagram that is put together from models: of the fields that
become attributes the type alone could be refused, and the others are left out before. -/
namespace DiagramSchema

/-- A field as an attribute that has yet to be checked. Its type may be any text. -/
def Field.unchecked (f : Field) : Json :=
  .object [("name", .text f.name), ("type", .text f.type), ("constraint", f.constraint.json)]

theorem Field.decode_unchecked (f : Field) : Attribute.decode f.unchecked =
    match f.attribute? with
    | some a => .ok a
    | none => .refused [⟨[.key "type"], .notAmong (ScalarType.all.map ScalarType.name)⟩] := by
  show Attribute.mk <$> Checked.ok f.name
    <*> (ScalarType.decode (.text f.type)).under (.key "type")
    <*> (Constraint.decode f.constraint.json).under (.key "constraint") = _
  rw [Constraint.decode_json, ScalarType.decode, ScalarType.checked, Field.attribute?]
  cases ScalarType.ofName? f.type <;> rfl

namespace Model

def supported (models : List Model) (m : Model) : List Field :=
  (m.plainFields models).filter fun f => (ScalarType.ofName? f.type).isSome

def unchecked (models : List Model) (m : Model) (position : Position) : Json :=
  .object [("id", .text m.name), ("name", .text m.name), ("position", position.json),
    ("attributes", .list ((m.supported models).map Field.unchecked))]

def uncheckedDiagram (models : List Model) : Json :=
  .object
    [ ("entities", .list (List.zipWith (fun m position => m.unchecked models position) models
        (Grid.positions models.length))),
      ("relations", .list ((relations models).map Relation.json)) ]

theorem decode_supported (fields : List Field) :
    List.Forall₂ (fun json a => Attribute.decode json = .ok a)
      ((fields.filter fun f => (ScalarType.ofName? f.type).isSome).map Field.unchecked)
      (fields.filterMap Field.attribute?) := by
  induction fields with
  | nil => exact .nil
  | cons f rest ih =>
    have checked := f.decode_unchecked
    cases scalar : ScalarType.ofName? f.type with
    | none =>
      have absent : f.attribute? = none := by
        rw [Field.attribute?, scalar]
        rfl
      rwa [List.filter_cons_of_neg (by simp [scalar]), List.filterMap_cons_none absent]
    | some type =>
      have present : f.attribute? = some ⟨f.name, type, f.constraint⟩ := by
        rw [Field.attribute?, scalar]
        rfl
      rw [present] at checked
      rw [List.filter_cons_of_pos (by simp [scalar]), List.filterMap_cons_some present, List.map_cons]
      exact .cons checked ih

theorem decode_entity (models : List Model) (m : Model) (position : Position) :
    Entity.decode (m.unchecked models position) = .ok (m.entity models position) := by
  have attributes : Decoder.list Attribute.decode
      (.list ((m.supported models).map Field.unchecked)) = .ok (m.attributes models) :=
    Decoder.list_eq_ok.mpr (decode_supported (m.plainFields models))
  show Entity.mk <$> Checked.ok m.name <*> Checked.ok m.name
    <*> (Position.decode position.json).under (.key "position")
    <*> (Decoder.list Attribute.decode
      (.list ((m.supported models).map Field.unchecked))).under (.key "attributes") = _
  rw [attributes, Position.decode_json]
  rfl

theorem decode_entities (models : List Model) (positions : List Position) :
    Decoder.list Entity.decode
      (.list (List.zipWith (fun m position => m.unchecked models position) models positions)) =
        .ok (List.zipWith (fun m position => m.entity models position) models positions) := by
  rw [Decoder.list_eq_ok, ← List.map_uncurry_zip_eq_zipWith, ← List.map_uncurry_zip_eq_zipWith,
    List.forall₂_map_left_iff, List.forall₂_map_right_iff, List.forall₂_same]
  exact fun placed _ => decode_entity models placed.1 placed.2

theorem accept_unchecked (models : List Model) :
    Diagram.accept (uncheckedDiagram models) = .ok (diagram models) := by
  have decoded : Diagram.decode (uncheckedDiagram models) = .ok (diagram models) := by
    show Diagram.mk
      <$> (Decoder.list Entity.decode (.list (List.zipWith
        (fun m position => m.unchecked models position) models
          (Grid.positions models.length)))).under (.key "entities")
      <*> (Decoder.list Relation.decode (.list ((relations models).map Relation.json))).under
        (.key "relations") = _
    rw [decode_entities, Decoder.list_map Relation.decode_json]
    rfl
  rw [uncheckedDiagram] at decoded ⊢
  rw [Diagram.accept, decoded]
  rfl

end Model

namespace Diagram

theorem entities_ne_nil {models : List Model} (inhabited : models ≠ []) :
    (Model.diagram models).entities ≠ [] := by
  intro empty
  have ids := Model.entity_ids models
  rw [empty] at ids
  exact inhabited (List.map_eq_nil_iff.mp ids.symm)

/-- A text is refused if and only if no line opens a model, comments aside. Any other text gives a diagram
with an entity, and none of the fields that become attributes is refused by the checks. -/
theorem ofSchema_total (text : Text) :
    (ofSchema text = .error .noModels ↔ ¬HasModel text) ∧
      (HasModel text ↔ ∃ d, ofSchema text = .ok d ∧ d.entities ≠ [] ∧
        accept (Model.uncheckedDiagram (Model.all text)) = .ok d) := by
  by_cases has : HasModel text
  · have read := ofSchema_of_hasModel has
    have inhabited : Model.all text ≠ [] := fun empty => Model.all_eq_nil_iff.mp empty has
    refine ⟨⟨fun refused => ?_, fun hasNot => absurd has hasNot⟩, fun _ => ?_, fun _ => has⟩
    · rw [read] at refused
      exact absurd refused (by simp)
    · exact ⟨_, read, entities_ne_nil inhabited, Model.accept_unchecked _⟩
  · have refused := ofSchema_of_not_hasModel has
    refine ⟨⟨fun _ => has, fun _ => refused⟩, fun other => absurd other has, ?_⟩
    rintro ⟨d, read, -⟩
    rw [refused] at read
    exact absurd read (by simp)

end Diagram
end DiagramSchema
