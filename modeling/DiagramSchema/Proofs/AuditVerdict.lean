import DiagramSchema.Service.Operation

/-! The verdict of an audit on a document in its JSON form: it passes if and only if ids, names and
types are not empty and every relation joins two of its models. -/
namespace DiagramSchema

structure Document.Sound (d : Document) : Prop where
  models : ∀ m ∈ d.models, m.nodeId ≠ [] ∧ m.name ≠ []
  relations : ∀ r ∈ d.relations, r.edgeId ≠ [] ∧ r.type ≠ []
  resolved : ∀ r ∈ d.relations,
    r.source ∈ d.models.map StoredModel.nodeId ∧ r.target ∈ d.models.map StoredModel.nodeId

namespace Audit

theorem findingsFrom_eq_nil {φ : Type} {fault? : Json → Option φ} {items : List Json} (place : Nat) :
    findingsFrom fault? place items = [] ↔ ∀ item ∈ items, fault? item = none := by
  induction items generalizing place with
  | nil => simp [findingsFrom]
  | cons item rest ih =>
    rw [findingsFrom, List.forall_mem_cons]
    cases fault? item with
    | none => simp [ih]
    | some fault => simp

theorem isSound_check {models relations : List Json} :
    (check (.list models) (.list relations)).isSound = true ↔
      (∀ m ∈ models, modelFault? m = none) ∧
        ∀ r ∈ relations, relationFault? (nodeIds models) r = none := by
  rw [← findingsFrom_eq_nil 0, ← findingsFrom_eq_nil 0, check]
  cases findingsFrom modelFault? 0 models with
  | cons finding more => simp [Report.isSound]
  | nil =>
    cases findingsFrom (relationFault? (nodeIds models)) 0 relations with
    | nil => simp [Report.isSound]
    | cons finding more => simp [Report.isSound]

theorem isName_text (value : Text) : isName (.text value) = true ↔ value ≠ [] := by
  simp [isName]

theorem isNodeIdAmong_text {ids : List Text} {value : Text} :
    isNodeIdAmong ids (.text value) = true ↔ value ≠ [] ∧ value ∈ ids := by
  simp [isNodeIdAmong]

theorem check_eq_none {φ : Type} {passes : Bool} {fault : φ} {others : Option φ} :
    (if !passes then some fault else others) = none ↔ passes = true ∧ others = none := by
  cases passes <;> simp

theorem modelFault_eq_none {model : Json} : modelFault? model = none ↔
    isObject model = true ∧ isName (model.getOrNull "nodeId") = true ∧
      isName (model.getOrNull "name") = true ∧ isPlace (model.getOrNull "position") = true ∧
      isList (model.getOrNull "fields") = true := by
  simp only [modelFault?, check_eq_none, and_true]

theorem relationFault_eq_none {ids : List Text} {relation : Json} :
    relationFault? ids relation = none ↔
      isObject relation = true ∧ isName (relation.getOrNull "edgeId") = true ∧
        isName (relation.getOrNull "relationType") = true ∧
        isNodeIdAmong ids (relation.getOrNull "sourceModelId") = true ∧
        isNodeIdAmong ids (relation.getOrNull "targetModelId") = true := by
  simp only [relationFault?, check_eq_none, and_true]

theorem modelFault_json (m : StoredModel) :
    modelFault? m.json = none ↔ m.nodeId ≠ [] ∧ m.name ≠ [] := by
  have nodeId : m.json.getOrNull "nodeId" = .text m.nodeId := rfl
  have name : m.json.getOrNull "name" = .text m.name := rfl
  have place : isPlace (m.json.getOrNull "position") = true := rfl
  have fields : isList (m.json.getOrNull "fields") = true := rfl
  have object : isObject m.json = true := rfl
  rw [modelFault_eq_none, nodeId, name, isName_text, isName_text]
  simp only [object, place, fields, true_and, and_true]

theorem relationFault_json {ids : List Text} (r : StoredRelation) :
    relationFault? ids r.json = none ↔ (r.edgeId ≠ [] ∧ r.type ≠ []) ∧
      (r.source ≠ [] ∧ r.source ∈ ids) ∧ r.target ≠ [] ∧ r.target ∈ ids := by
  have edgeId : r.json.getOrNull "edgeId" = .text r.edgeId := rfl
  have type : r.json.getOrNull "relationType" = .text r.type := rfl
  have source : r.json.getOrNull "sourceModelId" = .text r.source := rfl
  have target : r.json.getOrNull "targetModelId" = .text r.target := rfl
  have object : isObject r.json = true := rfl
  rw [relationFault_eq_none, edgeId, type, source, target, isName_text, isName_text,
    isNodeIdAmong_text, isNodeIdAmong_text]
  simp only [object, true_and, and_assoc]

theorem nodeIds_json (models : List StoredModel) :
    nodeIds (models.map StoredModel.json) = models.map StoredModel.nodeId := by
  rw [nodeIds, List.filterMap_map]
  exact congrFun List.filterMap_eq_map' models

theorem isSound_json (d : Document) : (checkDocument d.json).isSound = true ↔ d.Sound := by
  have parts : checkDocument d.json =
      check (.list (d.models.map StoredModel.json)) (.list (d.relations.map StoredRelation.json)) :=
    rfl
  rw [parts, isSound_check, nodeIds_json, List.forall_mem_map, List.forall_mem_map]
  simp only [modelFault_json, relationFault_json]
  constructor
  · rintro ⟨models, relations⟩
    exact ⟨models, fun r member => (relations r member).1,
      fun r member => ⟨(relations r member).2.1.2, (relations r member).2.2.2⟩⟩
  · rintro ⟨models, relations, resolved⟩
    -- an id that a model has is not empty
    have named {id : Text} (known : id ∈ d.models.map StoredModel.nodeId) : id ≠ [] := by
      obtain ⟨m, member, rfl⟩ := List.mem_map.mp known
      exact (models m member).1
    refine ⟨models, fun r member => ⟨relations r member, ?_⟩⟩
    obtain ⟨source, target⟩ := resolved r member
    exact ⟨⟨named source, source⟩, named target, target⟩

theorem sound_of_isSound {report : Report} (passes : report.isSound = true) : report = .sound := by
  cases report with
  | sound => rfl
  | _ => exact absurd passes (by simp [Report.isSound])

end Audit
end DiagramSchema
