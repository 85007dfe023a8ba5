import DiagramSchema.Proofs.LinePieces
import DiagramSchema.Proofs.RecoveredDiagram
import DiagramSchema.Proofs.WholeNumbers
import DiagramSchema.Service.Route

/-! Answers that have a JSON form: those with finite coordinates. A diagram that is read from schema
text has such coordinates, as its entities stand on a grid and a text has room for few of them. -/
namespace DiagramSchema

def Position.IsFinite (p : Position) : Prop := p.x.isFinite = true ∧ p.y.isFinite = true

instance (p : Position) : Decidable p.IsFinite :=
  inferInstanceAs (Decidable (p.x.isFinite = true ∧ p.y.isFinite = true))

namespace Grid

/-- So many boxes have finite places on a grid. -/
def capacity : Nat := Binary64.twoTo 200

theorem isFinite_positions {count : Nat} (few : count ≤ capacity) :
    ∀ p ∈ positions count, p.IsFinite := by
  have within {n size : Nat} (inside : n < count) (bounded : size ≤ 320) :
      n * size < Binary64.twoTo 1022 := by
    calc n * size ≤ Binary64.twoTo 200 * 320 := Nat.mul_le_mul (inside.le.trans few) bounded
      _ < Binary64.twoTo 210 := by decide
      _ ≤ Binary64.twoTo 1022 := Binary64.twoTo_mono (by decide)
  intro p member
  obtain ⟨corner, inside, rfl⟩ := List.mem_map.mp member
  obtain ⟨i, place, rfl⟩ := List.mem_map.mp inside
  have before : i < count := List.mem_range.mp place
  have column : i % columns count < count := (Nat.mod_le i _).trans_lt before
  have row : i / columns count < count := (Nat.div_le_self i _).trans_lt before
  exact ⟨Binary64.isFinite_ofNat (within column (by decide)),
    Binary64.isFinite_ofNat (within row (by decide))⟩

end Grid

theorem SourceBlock.length_scan_le (state : Option (Text × List Text)) (ls : List Text) :
    (scan state ls).length ≤ ls.length + state.toList.length := by
  fun_induction scan state ls
  case case1 | case2 => simp
  case case3 ih | case4 ih | case5 ih | case6 ih | case7 ih =>
    simp only [List.length_cons, Option.toList] at ih ⊢
    omega

theorem Model.length_all_le (text : Text) : (all text).length ≤ text.length := by
  have blocks : (SourceBlock.all text).length ≤ (Text.lines (Comment.strip text)).length := by
    have bound := SourceBlock.length_scan_le none ((Text.lines (Comment.strip text)).map Text.trim)
    rwa [List.length_map] at bound
  calc (all text).length = ((all text).map Model.name).length := by rw [List.length_map]
    _ = (((SourceBlock.all text).map SourceBlock.name).eraseDups).length := by rw [names_all]
    _ ≤ ((SourceBlock.all text).map SourceBlock.name).length :=
      (Distinct.eraseDups_sublist _).length_le
    _ = (SourceBlock.all text).length := by rw [List.length_map]
    _ ≤ (Text.lines (Comment.strip text)).length := blocks
    _ ≤ (Comment.strip text).length := Text.length_lines_le _
    _ ≤ text.length := (Comment.strip_sublist text).length_le

namespace Json

theorem areWritable_eq (items : List Json) : areWritable items = items.all isWritable := by
  induction items with
  | nil => rfl
  | cons item rest ih => rw [areWritable, ih, List.all_cons]

theorem areFieldsWritable_eq (fields : List (Text × Json)) :
    areFieldsWritable fields = fields.all fun field => field.2.isWritable := by
  induction fields with
  | nil => rfl
  | cons field rest ih => rw [areFieldsWritable, ih, List.all_cons]

@[simp] theorem isWritable_text (value : Text) : (text value).isWritable = true := rfl

@[simp] theorem isWritable_bool (value : Bool) : (bool value).isWritable = true := rfl

@[simp] theorem isWritable_float (value : Binary64) : (float value).isWritable = value.isFinite := rfl

@[simp] theorem isWritable_list (items : List Json) :
    (list items).isWritable = items.all isWritable := areWritable_eq items

@[simp] theorem isWritable_object (fields : List (Text × Json)) :
    (object fields).isWritable = fields.all fun field => field.2.isWritable :=
  areFieldsWritable_eq fields

@[simp] theorem isWritable_ofText (value : Option Text) : (ofText? value).isWritable = true := by
  cases value <;> rfl

end Json

@[simp] theorem Position.isWritable_json (p : Position) :
    p.json.isWritable = decide p.IsFinite := by
  rw [Bool.eq_iff_iff, decide_eq_true_iff]
  simp [json, IsFinite]

@[simp] theorem Constraint.isWritable_json (c : Constraint) : c.json.isWritable = true := by
  simp [json]

@[simp] theorem Attribute.isWritable_json (a : Attribute) : a.json.isWritable = true := by
  simp [json]

@[simp] theorem Entity.isWritable_json (e : Entity) :
    e.json.isWritable = decide e.position.IsFinite := by
  simp [json, Function.comp_def]

@[simp] theorem Relation.isWritable_json (r : Relation) : r.json.isWritable = true := by
  simp [json]

@[simp] theorem StoredConstraint.isWritable_json (c : StoredConstraint) :
    c.json.isWritable = true := by
  cases c <;> simp [json]

@[simp] theorem StoredField.isWritable_json (f : StoredField) : f.json.isWritable = true := by
  simp [json, Function.comp_def]

@[simp] theorem StoredModel.isWritable_json (m : StoredModel) :
    m.json.isWritable = decide m.position.IsFinite := by
  simp [json, jsonWithPlace, Function.comp_def]

@[simp] theorem StoredRelation.isWritable_json (r : StoredRelation) :
    r.json.isWritable = true := by
  simp [json]

namespace Outcome

def positions : Outcome → List Position
  | .diagram d | .generated _ (some d) => d.entities.map Entity.position
  | .document d => d.models.map StoredModel.position
  | _ => []

def IsPlaced (outcome : Outcome) : Prop := ∀ p ∈ outcome.positions, p.IsFinite

instance (outcome : Outcome) : Decidable outcome.IsPlaced :=
  inferInstanceAs (Decidable (∀ p ∈ outcome.positions, p.IsFinite))

theorem isPlaced_of_nil {outcome : Outcome} (none : outcome.positions = []) : outcome.IsPlaced := by
  rw [IsPlaced, none]
  exact List.forall_mem_nil _

theorem isWritable_iff (outcome : Outcome) :
    (answerJson (.ok outcome)).isWritable = true ↔ outcome.IsPlaced := by
  cases outcome with
  | emission e => simp [answerJson, fields, Emission.fields, Warning.json, IsPlaced, positions]
  | diagram d =>
    simp [answerJson, fields, Diagram.json, Json.fields, IsPlaced, positions]
  | document d =>
    simp [answerJson, fields, Document.json, Json.fields, IsPlaced, positions]
  | report r => simp [answerJson, fields, Audit.Report.fields, Json.ofTexts, IsPlaced, positions]
  | generated schema diagram =>
    cases diagram with
    | none => simp [answerJson, fields, IsPlaced, positions]
    | some d =>
      simp [answerJson, fields, Diagram.json, Json.fields, IsPlaced, positions]

end Outcome

theorem Diagram.isFinite_ofSchema {text : Text} {d : Diagram} (found : ofSchema text = .ok d)
    (short : text.length ≤ Grid.capacity) : ∀ e ∈ d.entities, e.position.IsFinite := by
  obtain rfl := ofSchema_eq found
  intro e member
  rw [Model.diagram, ← List.map_uncurry_zip_eq_zipWith] at member
  obtain ⟨⟨m, p⟩, paired, rfl⟩ := List.mem_map.mp member
  exact Grid.isFinite_positions ((Model.length_all_le text).trans short) p (List.of_mem_zip paired).2

end DiagramSchema
