import DiagramSchema.Proofs.DanglingRelations
import DiagramSchema.Proofs.NormalForm

/-! Which diagrams can be stored: those where no id is empty and every relation joins two entities. The
refusal of any other diagram names each entity without an id by its place or, if there is none, each
relation that is at fault. -/
namespace DiagramSchema

namespace Audit

theorem findingsFrom_map {α φ : Type} {fault? : Json → Option φ} {json : α → Json} {isBad : α → Bool}
    {fault : α → φ} (each : ∀ a, fault? (json a) = if isBad a then some (fault a) else none)
    (place : Nat) (items : List α) : findingsFrom fault? place (items.map json) =
      ((items.zipIdx place).filter fun p => isBad p.1).map fun p => ⟨p.2, json p.1, fault p.1⟩ := by
  induction items generalizing place with
  | nil => rfl
  | cons a rest ih =>
    rw [List.map_cons, findingsFrom, each, ih, List.zipIdx_cons, List.filter_cons]
    cases isBad a with
    | false => rfl
    | true => rfl

theorem check_faultyModels {models relations : List Json}
    (faulty : findingsFrom modelFault? 0 models ≠ []) :
    check (.list models) (.list relations) = .faultyModels (findingsFrom modelFault? 0 models) := by
  rw [check]
  cases findings : findingsFrom modelFault? 0 models with
  | nil => exact absurd findings faulty
  | cons first rest => rfl

theorem check_faultyRelations {models relations : List Json}
    (faultless : findingsFrom modelFault? 0 models = [])
    (faulty : findingsFrom (relationFault? (nodeIds models)) 0 relations ≠ []) :
    check (.list models) (.list relations) =
      .faultyRelations (findingsFrom (relationFault? (nodeIds models)) 0 relations) := by
  rw [check, faultless]
  cases findings : findingsFrom (relationFault? (nodeIds models)) 0 relations with
  | nil => exact absurd findings faulty
  | cons first rest => rfl

theorem isName_nil : isName (.text []) = false := rfl

theorem modelFault_stored (e : Entity) : modelFault? e.stored.json =
    if decide (e.id = []) then some .noNodeId else none := by
  by_cases anonymous : e.id = []
  · have nodeId : e.stored.json.getOrNull "nodeId" = .text [] := congrArg Json.text anonymous
    have object : isObject e.stored.json = true := rfl
    rw [modelFault?, nodeId, object, isName_nil, decide_eq_true anonymous]
    rfl
  · have named : e.stored.name ≠ [] := Text.orElse_ne_nil (by decide) e.name
    rw [(modelFault_json e.stored).mpr ⟨anonymous, named⟩, decide_eq_false anonymous]
    rfl

end Audit

namespace Diagram

structure IsStorable (d : Diagram) : Prop where
  entities : ∀ e ∈ d.entities, e.id ≠ []
  relations : ∀ r ∈ d.relations, r.id ≠ [] ∧ d.Joins r

def relationFault (d : Diagram) (r : Relation) : Audit.RelationFault :=
  if r.id = [] then .noEdgeId
  else if (d.entities.map Entity.id).contains r.source then .unmatchedTarget (.text r.target)
  else .unmatchedSource (.text r.source)

def entityErrors (d : Diagram) : List Text :=
  (d.entities.zipIdx.filter fun p => p.1.id = []).map fun p =>
    "model " ++ Text.ofNat p.2 ++ ": " ++ "missing nodeId"

def relationErrors (d : Diagram) : List Text :=
  (d.relations.zipIdx.filter fun p => ¬(p.1.id ≠ [] ∧ d.Joins p.1)).map fun p =>
    "relation " ++ Text.ofNat p.2 ++ ": " ++ (d.relationFault p.1).message

variable {d : Diagram}

theorem stored_nodeIds (d : Diagram) :
    d.stored.models.map StoredModel.nodeId = d.entities.map Entity.id := by
  show (d.entities.map Entity.stored).map _ = _
  rw [List.map_map]
  rfl

theorem relationFault_stored (named : ∀ e ∈ d.entities, e.id ≠ []) (r : Relation) :
    Audit.relationFault? (d.entities.map Entity.id) r.stored.json =
      if decide (¬(r.id ≠ [] ∧ d.Joins r)) then some (d.relationFault r) else none := by
  have object : Audit.isObject r.stored.json = true := rfl
  have edgeId : r.stored.json.getOrNull "edgeId" = .text r.id := rfl
  have source : r.stored.json.getOrNull "sourceModelId" = .text r.source := rfl
  have target : r.stored.json.getOrNull "targetModelId" = .text r.target := rfl
  have typed : Audit.isName (r.stored.json.getOrNull "relationType") = true :=
    (Audit.isName_text _).mpr (Text.orElse_ne_nil (by decide) r.type)
  -- an id that an entity has is not empty
  have among (id : Text) : Audit.isNodeIdAmong (d.entities.map Entity.id) (.text id) =
      decide (id ∈ d.entities.map Entity.id) := by
    rw [Bool.eq_iff_iff, Audit.isNodeIdAmong_text, decide_eq_true_iff, and_iff_right_of_imp]
    intro known
    obtain ⟨e, member, rfl⟩ := List.mem_map.mp known
    exact named e member
  rw [Audit.relationFault?, source, target, object, edgeId, typed, among, among, relationFault]
  by_cases anonymous : r.id = []
  · simp [anonymous, Audit.isName]
  · have isNamed : Audit.isName (.text r.id) = true := (Audit.isName_text _).mpr anonymous
    by_cases atSource : r.source ∈ d.entities.map Entity.id
    · by_cases atTarget : r.target ∈ d.entities.map Entity.id
      · simp [isNamed, anonymous, Joins, atSource, atTarget]
      · simp [isNamed, anonymous, Joins, atSource, atTarget]
    · simp [isNamed, anonymous, Joins, atSource]

theorem checkDocument_stored (d : Diagram) : Audit.checkDocument d.stored.json =
    Audit.check (.list (d.entities.map fun e => e.stored.json))
      (.list (d.relations.map fun r => r.stored.json)) := by
  have models : d.stored.models.map StoredModel.json = d.entities.map fun e => e.stored.json :=
    List.map_map
  have relations : d.stored.relations.map StoredRelation.json =
      d.relations.map fun r => r.stored.json := List.map_map
  rw [← models, ← relations]
  rfl

theorem sound_stored : d.stored.Sound ↔ d.IsStorable := by
  have relations {p : StoredRelation → Prop} :
      (∀ r ∈ d.stored.relations, p r) ↔ ∀ r ∈ d.relations, p r.stored := List.forall_mem_map
  have models {p : StoredModel → Prop} :
      (∀ m ∈ d.stored.models, p m) ↔ ∀ e ∈ d.entities, p e.stored := List.forall_mem_map
  constructor
  · rintro ⟨named, known, resolved⟩
    rw [stored_nodeIds] at resolved
    exact ⟨fun e member => (models.mp named e member).1,
      fun r member => ⟨(relations.mp known r member).1, relations.mp resolved r member⟩⟩
  · rintro ⟨named, joined⟩
    refine ⟨models.mpr fun e member => ⟨named e member, Text.orElse_ne_nil (by decide) e.name⟩,
      relations.mpr fun r member => ⟨(joined r member).1, Text.orElse_ne_nil (by decide) r.type⟩, ?_⟩
    rw [stored_nodeIds]
    exact relations.mpr fun r member => (joined r member).2

theorem report_anonymous (anonymous : ∃ e ∈ d.entities, e.id = []) :
    (Audit.checkDocument d.stored.json).category = some "models".toList ∧
      (Audit.checkDocument d.stored.json).errors = d.entityErrors := by
  have some : Audit.findingsFrom Audit.modelFault? 0 (d.entities.map fun e => e.stored.json) ≠ [] := by
    rw [Ne, Audit.findingsFrom_eq_nil, List.forall_mem_map]
    intro faultless
    obtain ⟨e, member, none⟩ := anonymous
    have fault := faultless e member
    rw [Audit.modelFault_stored, decide_eq_true none] at fault
    exact absurd fault (by decide)
  rw [checkDocument_stored, Audit.check_faultyModels some,
    Audit.findingsFrom_map Audit.modelFault_stored]
  refine ⟨rfl, ?_⟩
  show List.map _ (List.map _ _) = _
  rw [List.map_map]
  rfl

theorem report_named (named : ∀ e ∈ d.entities, e.id ≠ []) (unsound : ¬d.IsStorable) :
    (Audit.checkDocument d.stored.json).category = some "relations".toList ∧
      (Audit.checkDocument d.stored.json).errors = d.relationErrors := by
  have models : Audit.findingsFrom Audit.modelFault? 0 (d.entities.map fun e => e.stored.json) = [] := by
    rw [Audit.findingsFrom_eq_nil, List.forall_mem_map]
    intro e member
    rw [Audit.modelFault_stored, decide_eq_false (named e member)]
    rfl
  have ids : Audit.nodeIds (d.entities.map fun e => e.stored.json) = d.entities.map Entity.id := by
    have known := Audit.nodeIds_json d.stored.models
    rwa [stored_nodeIds, Diagram.stored, List.map_map] at known
  have some : Audit.findingsFrom (Audit.relationFault? (d.entities.map Entity.id)) 0
      (d.relations.map fun r => r.stored.json) ≠ [] := by
    rw [Ne, Audit.findingsFrom_eq_nil, List.forall_mem_map]
    intro faultless
    refine unsound ⟨named, fun r member => ?_⟩
    have fault := faultless r member
    rw [relationFault_stored named] at fault
    simpa using fault
  rw [checkDocument_stored, Audit.check_faultyRelations models (by rwa [ids]), ids,
    Audit.findingsFrom_map (relationFault_stored named)]
  refine ⟨rfl, ?_⟩
  show List.map _ (List.map _ _) = _
  rw [List.map_map]
  rfl

end Diagram

namespace Operation

def complaint (category : Text) (errors : List Text) : List (Text × Json) :=
  [("category", .text category), ("errors", .ofTexts errors)]

theorem details_unsound {report : Audit.Report} {category : Text} {errors : List Text}
    (inCategory : report.category = some category) (found : report.errors = errors) :
    (Refusal.unsound report).details = complaint category errors := by
  rw [complaint, ← found, Refusal.details.eq_def]
  dsimp only
  rw [inCategory]
  rfl

theorem store_refused {payload : Json} {d : Diagram} (accepted : Diagram.accept payload = .ok d)
    {refusal : Refusal} (refused : (store payload).value = .error refusal) :
    ¬d.IsStorable ∧ refusal = .unsound (Audit.checkDocument d.stored.json) := by
  rw [← Diagram.sound_stored, ← Audit.isSound_json]
  rw [store, accepted] at refused
  dsimp only at refused
  split at refused
  · exact absurd refused (by simp)
  · rename_i fails
    exact ⟨fails, (Except.error.inj refused).symm⟩

/-- A diagram is stored if and only if no id is empty and every relation joins two entities. The
refusal of another one has a message for each entity without an id or, if all have one, for each
relation that is at fault. -/
theorem store_verdict {payload : Json} {d : Diagram} (accepted : Diagram.accept payload = .ok d) :
    ((∃ outcome, (store payload).value = .ok outcome) ↔ d.IsStorable) ∧
      ∀ refusal, (store payload).value = .error refusal →
        ((∃ e ∈ d.entities, e.id = []) → refusal.details = complaint "models" d.entityErrors) ∧
        ((∀ e ∈ d.entities, e.id ≠ []) →
          refusal.details = complaint "relations" d.relationErrors) := by
  constructor
  · constructor
    · rintro ⟨outcome, stores⟩
      exact Diagram.sound_stored.mp ((store_ok accepted).mp stores).1
    · intro storable
      exact ⟨_, (store_ok accepted).mpr ⟨Diagram.sound_stored.mpr storable, rfl⟩⟩
  · intro refusal refused
    obtain ⟨unsound, rfl⟩ := store_refused accepted refused
    constructor
    · intro anonymous
      obtain ⟨category, errors⟩ := Diagram.report_anonymous anonymous
      exact details_unsound category errors
    · intro named
      obtain ⟨category, errors⟩ := Diagram.report_named named unsound
      exact details_unsound category errors

def roster : Diagram where
  entities := [ { id := "1" }, { id := "2", name := "team" } ]
  relations :=
    [ { id := "r", source := "1", target := "2", type := [] },
      { id := "s", source := "1", target := "9" },
      { id := [], source := [], target := "2" },
      { id := "t", source := [], target := "1" } ]

theorem roster_refused : Diagram.accept roster.json = .ok roster ∧ ¬roster.IsStorable ∧
    ∃ refusal, (store roster.json).value = .error refusal ∧
      refusal.details = complaint "relations"
        [ "relation 1: targetModelId '9' does not match a model", "relation 2: missing edgeId",
          "relation 3: sourceModelId '' does not match a model" ] := by
  have accepted := Diagram.accept_json roster
  obtain ⟨stores, refuses⟩ := store_verdict accepted
  have unsound : ¬roster.IsStorable := by
    intro storable
    exact absurd (storable.relations { id := "s", source := "1", target := "9" } (by decide)) (by decide)
  have named : ∀ e ∈ roster.entities, e.id ≠ [] := by decide
  cases outcome : (store roster.json).value with
  | ok document => exact absurd (stores.mp ⟨document, outcome⟩) unsound
  | error refusal =>
    refine ⟨accepted, unsound, refusal, rfl, ?_⟩
    rw [(refuses refusal outcome).2 named]
    exact congrArg (complaint "relations") (by decide)

end Operation
end DiagramSchema
