import DiagramSchema.Proofs.AuditVerdict
import DiagramSchema.Proofs.Counterparts
import DiagramSchema.Proofs.DecodedParts
import DiagramSchema.Proofs.LoadedDocument

/-! What is read from a document that passes the audit.

The audit sees to it that ids, names and the ends of relations are there as they have to be. What it
leaves open is whether the places of the models and the entries of their fields can be decoded. -/
namespace DiagramSchema

namespace Json

def items : Json → List Json
  | .list items => items
  | _ => []

theorem get_of_getOrNull {key : Text} {json value : Json} (found : json.getOrNull key = value)
    (given : value ≠ .null) : json.get? key = some value := by
  unfold getOrNull at found
  cases present : json.get? key with
  | none =>
    rw [present] at found
    exact absurd found.symm given
  | some other =>
    rw [present] at found
    exact congrArg some found

end Json

namespace Audit

theorem isName_iff {json : Json} : isName json = true ↔ ∃ value, json = .text value ∧ value ≠ [] := by
  cases json <;> simp [isName]

theorem isObject_iff {json : Json} : isObject json = true ↔ ∃ fields, json = .object fields := by
  cases json <;> simp [isObject]

theorem isList_iff {json : Json} : isList json = true ↔ ∃ items, json = .list items := by
  cases json <;> simp [isList]

theorem isNodeIdAmong_iff {ids : List Text} {json : Json} :
    isNodeIdAmong ids json = true ↔ ∃ value, json = .text value ∧ value ≠ [] ∧ value ∈ ids := by
  cases json <;> simp [isNodeIdAmong]

theorem decode_model {model : Json} (faultless : modelFault? model = none) :
    ∃ nodeId name, nodeId ≠ [] ∧ name ≠ [] ∧ model.get? "nodeId" = some (.text nodeId) ∧
      ∀ m, StoredModel.decode model = .ok m ↔ m.nodeId = nodeId ∧ m.name = name ∧
        Position.decode (model.getOrNull "position") = .ok m.position ∧
        List.Forall₂ (fun json f => StoredField.decode json = .ok f)
          (model.getOrNull "fields").items m.fields := by
  obtain ⟨object, hasId, hasName, hasPlace, hasFields⟩ := modelFault_eq_none.mp faultless
  obtain ⟨parts, rfl⟩ := isObject_iff.mp object
  obtain ⟨nodeId, atId, nodeIdGiven⟩ := isName_iff.mp hasId
  obtain ⟨name, atName, nameGiven⟩ := isName_iff.mp hasName
  obtain ⟨fields, atFields⟩ := isList_iff.mp hasFields
  have placed : (Json.object parts).getOrNull "position" ≠ .null := by
    intro null
    rw [null] at hasPlace
    exact absurd hasPlace (by decide)
  have first := Json.get_of_getOrNull atId (by simp)
  have second := Json.get_of_getOrNull atName (by simp)
  have third := Json.get_of_getOrNull (Eq.refl ((Json.object parts).getOrNull "position")) placed
  have fourth := Json.get_of_getOrNull atFields (by simp)
  refine ⟨nodeId, name, nodeIdGiven, nameGiven, first, fun m => ?_⟩
  obtain ⟨id, title, place, entries⟩ := m
  rw [atFields, StoredModel.decode, Decoder.record,
    Decoder.field_of_lookup ⟨"nodeId", "node_id"⟩ first,
    Decoder.field_of_lookup (.of "name") second,
    Decoder.fieldOr_of_lookup (.of "position") third,
    Decoder.fieldOr_of_lookup (.of "fields") fourth, Checked.record_eq_ok]
  simp only [Checked.under_eq_ok, Decoder.list_eq_ok, Decoder.text, Checked.ok.injEq,
    StoredModel.mk.injEq, Json.items]
  constructor
  · rintro ⟨_, _, _, _, rfl, rfl, atPlace, each, rfl, rfl, rfl, rfl⟩
    exact ⟨rfl, rfl, atPlace, each⟩
  · rintro ⟨rfl, rfl, atPlace, each⟩
    exact ⟨_, _, _, _, rfl, rfl, atPlace, each, rfl, rfl, rfl, rfl⟩

theorem decode_relation {ids : List Text} {relation : Json}
    (faultless : relationFault? ids relation = none) :
    ∃ r, StoredRelation.decode relation = .ok r ∧ r.edgeId ≠ [] ∧ r.type ≠ [] ∧
      r.source ∈ ids ∧ r.target ∈ ids := by
  obtain ⟨object, hasId, hasType, hasSource, hasTarget⟩ := relationFault_eq_none.mp faultless
  obtain ⟨parts, rfl⟩ := isObject_iff.mp object
  obtain ⟨edgeId, atId, idGiven⟩ := isName_iff.mp hasId
  obtain ⟨type, atType, typeGiven⟩ := isName_iff.mp hasType
  obtain ⟨source, atSource, _, sourceKnown⟩ := isNodeIdAmong_iff.mp hasSource
  obtain ⟨target, atTarget, _, targetKnown⟩ := isNodeIdAmong_iff.mp hasTarget
  refine ⟨⟨edgeId, source, target, type⟩, ?_, idGiven, typeGiven, sourceKnown, targetKnown⟩
  rw [StoredRelation.decode, Decoder.record,
    Decoder.field_of_lookup ⟨"edgeId", "edge_id"⟩ (Json.get_of_getOrNull atId (by simp)),
    Decoder.field_of_lookup ⟨"sourceModelId", "source_model_id"⟩
      (Json.get_of_getOrNull atSource (by simp)),
    Decoder.field_of_lookup ⟨"targetModelId", "target_model_id"⟩
      (Json.get_of_getOrNull atTarget (by simp)),
    Decoder.fieldOr_of_lookup ⟨"relationType", "relation_type"⟩
      (Json.get_of_getOrNull atType (by simp))]
  rfl

theorem lists_of_isSound {models relations : Json}
    (passes : (check models relations).isSound = true) :
    ∃ listed linked, models = .list listed ∧ relations = .list linked := by
  unfold check at passes
  split at passes
  · exact ⟨_, _, rfl, rfl⟩
  · exact absurd passes (by simp [Report.isSound])

theorem isSound_iff {given : Json} : (checkDocument given).isSound = true ↔
    ∃ models relations, given.getOrNull "models" = .list models ∧
      given.getOrNull "relations" = .list relations ∧ (∀ m ∈ models, modelFault? m = none) ∧
      ∀ r ∈ relations, relationFault? (nodeIds models) r = none := by
  cases given with
  | object parts =>
    rw [checkDocument]
    constructor
    · intro passes
      obtain ⟨models, relations, first, second⟩ := lists_of_isSound passes
      rw [first, second, isSound_check] at passes
      exact ⟨models, relations, first, second, passes⟩
    · rintro ⟨models, relations, first, second, faultless⟩
      rw [first, second]
      exact isSound_check.mpr faultless
  | _ => simp [checkDocument, Report.isSound, Json.getOrNull, Json.get?]

theorem nodeIds_decoded {models : List Json} {decoded : List StoredModel}
    (faultless : ∀ m ∈ models, modelFault? m = none)
    (each : List.Forall₂ (fun json m => StoredModel.decode json = .ok m) models decoded) :
    nodeIds models = decoded.map StoredModel.nodeId := by
  induction each with
  | nil => rfl
  | @cons json m models decoded first _ ih =>
    obtain ⟨head, tail⟩ := List.forall_mem_cons.mp faultless
    obtain ⟨nodeId, _, _, _, present, parts⟩ := decode_model head
    rw [nodeIds, List.filterMap_cons, present, List.map_cons, ((parts m).mp first).1]
    exact congrArg _ (ih tail)

end Audit

namespace Document

variable {given : Json} {document : Document}

theorem accept_audited (passes : (Audit.checkDocument given).isSound = true) :
    accept given = .ok document ↔
      List.Forall₂ (fun json m => StoredModel.decode json = .ok m)
          (given.getOrNull "models").items document.models ∧
        List.Forall₂ (fun json r => StoredRelation.decode json = .ok r)
          (given.getOrNull "relations").items document.relations := by
  obtain ⟨models, relations, atModels, atRelations, -⟩ := Audit.isSound_iff.mp passes
  obtain ⟨storedModels, storedRelations⟩ := document
  have first := Json.get_of_getOrNull atModels (by simp)
  have second := Json.get_of_getOrNull atRelations (by simp)
  cases given with
  | object parts =>
    have lists : (Json.isListField parts "models" && Json.isListField parts "relations") = true := by
      have firstLookup : parts.lookup "models".toList = some (.list models) := first
      have secondLookup : parts.lookup "relations".toList = some (.list relations) := second
      rw [Json.isListField, Json.isListField, firstLookup, secondLookup]
      rfl
    have accepted : accept (.object parts) = .ok ⟨storedModels, storedRelations⟩ ↔
        decode (.object parts) = .ok ⟨storedModels, storedRelations⟩ := by
      rw [accept, if_pos lists]
      cases decode (.object parts) <;> simp
    rw [accepted, atModels, atRelations, decode, Decoder.record,
      Decoder.fieldOr_of_lookup (.of "models") first,
      Decoder.fieldOr_of_lookup (.of "relations") second, Checked.seq_eq_ok]
    simp only [Checked.map_eq_ok, Checked.under_eq_ok, Decoder.list_eq_ok, Json.items]
    constructor
    · rintro ⟨_, _, ⟨_, eachModel, rfl⟩, eachRelation, built⟩
      obtain ⟨rfl, rfl⟩ := Document.mk.inj built
      exact ⟨eachModel, eachRelation⟩
    · rintro ⟨eachModel, eachRelation⟩
      exact ⟨_, _, ⟨_, eachModel, rfl⟩, eachRelation, rfl⟩
  | _ => exact absurd first (by simp [Json.get?])

theorem sound_of_accepted (passes : (Audit.checkDocument given).isSound = true)
    (accepted : accept given = .ok document) : document.Sound := by
  obtain ⟨models, relations, atModels, atRelations, faultlessModels, faultlessRelations⟩ :=
    Audit.isSound_iff.mp passes
  obtain ⟨eachModel, eachRelation⟩ := (accept_audited passes).mp accepted
  rw [atModels] at eachModel
  rw [atRelations] at eachRelation
  rw [Audit.nodeIds_decoded faultlessModels eachModel] at faultlessRelations
  have found {r : StoredRelation} (member : r ∈ document.relations) :
      r.edgeId ≠ [] ∧ r.type ≠ [] ∧ r.source ∈ document.models.map StoredModel.nodeId ∧
        r.target ∈ document.models.map StoredModel.nodeId := by
    obtain ⟨json, inside, decoded⟩ := Counterparts.of_mem eachRelation.flip r member
    obtain ⟨s, same, sound⟩ := Audit.decode_relation (faultlessRelations json inside)
    rw [decoded, Checked.ok.injEq] at same
    exact same ▸ sound
  constructor
  · intro m member
    obtain ⟨json, inside, decoded⟩ := Counterparts.of_mem eachModel.flip m member
    obtain ⟨nodeId, name, nodeIdGiven, nameGiven, _, parts⟩ :=
      Audit.decode_model (faultlessModels json inside)
    obtain ⟨sameId, sameName, -⟩ := (parts m).mp decoded
    exact ⟨sameId ▸ nodeIdGiven, sameName ▸ nameGiven⟩
  · exact fun r member => ⟨(found member).1, (found member).2.1⟩
  · exact fun r member => (found member).2.2

theorem loads_audited (passes : (Audit.checkDocument given).isSound = true) :
    (∃ document, accept given = .ok document ∧ ∃ d, document.loaded = .ok d) ↔
      ∀ model ∈ (given.getOrNull "models").items,
        ∃ m, StoredModel.decode model = .ok m ∧ ∃ e, m.loaded = .ok e := by
  constructor
  · rintro ⟨document, accepted, loads⟩ model member
    obtain ⟨decoded, -⟩ := (accept_audited passes).mp accepted
    obtain ⟨m, inside, read⟩ := Counterparts.of_mem decoded model member
    exact ⟨m, read, document.loads_iff.mp loads m inside⟩
  · intro loadable
    obtain ⟨models, relations, -, atRelations, -, faultless⟩ := Audit.isSound_iff.mp passes
    have linkable : ∀ relation ∈ (given.getOrNull "relations").items,
        ∃ r, StoredRelation.decode relation = .ok r := by
      rw [atRelations]
      intro relation member
      obtain ⟨r, read, -⟩ := Audit.decode_relation (faultless relation member)
      exact ⟨r, read⟩
    obtain ⟨stored, decoded⟩ := Counterparts.exists_iff.mpr loadable
    obtain ⟨links, joined⟩ := Counterparts.exists_iff.mpr linkable
    refine ⟨⟨stored, links⟩, (accept_audited passes).mpr ⟨?_, joined⟩, ?_⟩
    · exact decoded.imp fun _ _ entry => entry.1
    · refine (loads_iff _).mpr fun m member => ?_
      obtain ⟨_, _, entry⟩ := Counterparts.of_mem decoded.flip m member
      exact entry.2

end Document
end DiagramSchema
