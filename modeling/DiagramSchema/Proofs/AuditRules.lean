import DiagramSchema.Proofs.AuditedDocument
import DiagramSchema.Proofs.StoreVerdict

/-! The audit by its rules. Models and relations are each held against a list of rules on what their
parts have to be, and an item at fault is reported with the first rule that it breaks. Stated apart from
the checks, the rules say of any two values what the audit has to report of them. -/
namespace DiagramSchema

namespace Json

theorem getOrNull_eq_iff {key : Text} {json value : Json} (given : value ≠ .null) :
    json.getOrNull key = value ↔ json.get? key = some value := by
  refine ⟨fun found => get_of_getOrNull found given, fun present => ?_⟩
  rw [getOrNull, present, Option.getD_some]

def IsObject (json : Json) : Prop := ∃ fields, json = .object fields

def HoldsName (key : Text) (json : Json) : Prop :=
  ∃ value, json.get? key = some (.text value) ∧ value ≠ []

/-- The field is a number. A truth value is none. -/
def HoldsNumber (key : Text) (json : Json) : Prop :=
  (∃ value, json.get? key = some (.int value)) ∨ ∃ value, json.get? key = some (.float value)

def HoldsPlace (key : Text) (json : Json) : Prop :=
  ∃ place, json.get? key = some place ∧ place.IsObject ∧ place.HoldsNumber "x" ∧ place.HoldsNumber "y"

def HoldsList (key : Text) (json : Json) : Prop :=
  ∃ items, json.get? key = some (.list items)

def HoldsNodeId (models : List Json) (key : Text) (json : Json) : Prop :=
  ∃ id, json.get? key = some (.text id) ∧ ∃ model ∈ models, model.get? "nodeId" = some (.text id)

end Json

namespace Audit

variable {key : Text} {json : Json} {models : List Json}

theorem isName_getOrNull : isName (json.getOrNull key) = true ↔ json.HoldsName key := by
  simp only [isName_iff, Json.HoldsName]
  exact exists_congr fun value => and_congr_left fun _ => Json.getOrNull_eq_iff (by simp)

theorem isNumber_getOrNull : isNumber (json.getOrNull key) = true ↔ json.HoldsNumber key := by
  have shapes (json : Json) :
      isNumber json = true ↔ (∃ value, json = .int value) ∨ ∃ value, json = .float value := by
    cases json <;> simp [isNumber]
  rw [shapes, Json.HoldsNumber]
  refine or_congr ?_ ?_
  · exact exists_congr fun value => Json.getOrNull_eq_iff (by simp)
  · exact exists_congr fun value => Json.getOrNull_eq_iff (by simp)

theorem isList_getOrNull : isList (json.getOrNull key) = true ↔ json.HoldsList key := by
  rw [isList_iff, Json.HoldsList]
  exact exists_congr fun items => Json.getOrNull_eq_iff (by simp)

theorem isPlace_getOrNull : isPlace (json.getOrNull key) = true ↔ json.HoldsPlace key := by
  have parts (place : Json) : isPlace place = true ↔
      place.IsObject ∧ place.HoldsNumber "x" ∧ place.HoldsNumber "y" := by
    rw [isPlace, Bool.and_eq_true, Bool.and_eq_true, isObject_iff, isNumber_getOrNull,
      isNumber_getOrNull, and_assoc, Json.IsObject]
  rw [Json.HoldsPlace, parts, Json.getOrNull]
  cases json.get? key with
  | some place => simp
  | none => simp [Json.IsObject]

theorem mem_nodeIds {id : Text} :
    id ∈ nodeIds models ↔ ∃ model ∈ models, model.get? "nodeId" = some (.text id) := by
  rw [nodeIds, List.mem_filterMap]
  refine exists_congr fun model => and_congr_right fun _ => ?_
  split
  · rename_i value found
    rw [found, Option.some.injEq, Option.some.injEq, Json.text.injEq]
  · rename_i other
    exact ⟨fun none => absurd none (by simp), fun found => absurd found (other id)⟩

theorem isNodeIdAmong_getOrNull (named : ∀ model ∈ models, model.HoldsName "nodeId") :
    isNodeIdAmong (nodeIds models) (json.getOrNull key) = true ↔ json.HoldsNodeId models key := by
  simp only [isNodeIdAmong_iff, Json.HoldsNodeId, mem_nodeIds]
  refine exists_congr fun id => ?_
  rw [Json.getOrNull_eq_iff (by simp)]
  refine and_congr_right fun _ => and_iff_right_of_imp ?_
  rintro ⟨model, member, found⟩
  obtain ⟨value, present, given⟩ := named model member
  obtain rfl : value = id := Json.text.inj (Option.some.inj (present.symm.trans found))
  exact given

instance : Decidable json.IsObject := decidable_of_iff _ isObject_iff

instance : Decidable (json.HoldsName key) := decidable_of_iff _ isName_getOrNull

instance : Decidable (json.HoldsPlace key) := decidable_of_iff _ isPlace_getOrNull

instance : Decidable (json.HoldsList key) := decidable_of_iff _ isList_getOrNull

instance {id : Text} : Decidable (json = .text id) :=
  match json with
  | .text value => decidable_of_iff (value = id) (by rw [Json.text.injEq])
  | .null | .bool _ | .int _ | .float _ | .list _ | .object _ => isFalse nofun

instance : Decidable (json.HoldsNodeId models key) :=
  decidable_of_iff (∃ id ∈ nodeIds models, json.getOrNull key = .text id) <| by
    simp only [mem_nodeIds, Json.getOrNull_eq_iff (Json.noConfusion : Json.text _ ≠ .null)]
    exact exists_congr fun id => and_comm

/-- What an item has to be, and what is said of one that is not. -/
structure Rule where
  Allows : Json → Prop
  [decides : DecidablePred Allows]
  message : Json → Text

instance (rule : Rule) : DecidablePred rule.Allows := rule.decides

namespace Rule

def ofModels : List Rule :=
  [ ⟨Json.IsObject, fun _ => "not an object"⟩,
    ⟨Json.HoldsName "nodeId", fun _ => "missing nodeId"⟩,
    ⟨Json.HoldsName "name", fun _ => "missing name"⟩,
    ⟨Json.HoldsPlace "position", fun _ => "position must have numeric x and y"⟩,
    ⟨Json.HoldsList "fields", fun _ => "fields must be a list"⟩ ]

def ofRelations (models : List Json) : List Rule :=
  [ ⟨Json.IsObject, fun _ => "not an object"⟩,
    ⟨Json.HoldsName "edgeId", fun _ => "missing edgeId"⟩,
    ⟨Json.HoldsName "relationType", fun _ => "missing relationType"⟩,
    ⟨Json.HoldsNodeId models "sourceModelId", fun relation =>
      "sourceModelId " ++ (relation.getOrNull "sourceModelId").shown ++ " does not match a model"⟩,
    ⟨Json.HoldsNodeId models "targetModelId", fun relation =>
      "targetModelId " ++ (relation.getOrNull "targetModelId").shown ++ " does not match a model"⟩ ]

variable {rules : List Rule} {rule : Rule} {item : Json}

def Keeps (rules : List Rule) (item : Json) : Prop := ∀ rule ∈ rules, rule.Allows item

instance (rules : List Rule) (item : Json) : Decidable (Keeps rules item) :=
  inferInstanceAs (Decidable (∀ rule ∈ rules, rule.Allows item))

/-- What the first rule that the item breaks says of it. -/
def complaint? (rules : List Rule) (item : Json) : Option Text :=
  (rules.find? fun rule => ¬rule.Allows item).map fun rule => rule.message item

/-- An entry for each item that breaks a rule, in the order of the items. -/
def entries (sort : Text) (rules : List Rule) (place : Nat) (items : List Json) : List Text :=
  ((items.zipIdx place).filter fun p => ¬Keeps rules p.1).map fun p =>
    sort ++ " " ++ Text.ofNat p.2 ++ ": " ++ (complaint? rules p.1).getD []

theorem complaint_eq_none : complaint? rules item = none ↔ Keeps rules item := by
  rw [complaint?, Option.map_eq_none_iff, List.find?_eq_none]
  exact forall₂_congr fun rule _ => by simp

theorem entries_eq_nil {sort : Text} {place : Nat} {items : List Json} :
    entries sort rules place items = [] ↔ ∀ item ∈ items, Keeps rules item := by
  induction items generalizing place with
  | nil => simp [entries]
  | cons item rest ih =>
    rw [entries, List.zipIdx_cons, List.filter_cons, List.forall_mem_cons]
    by_cases keeps : Keeps rules item
    · simpa [keeps, entries] using ih
    · simp [keeps]

section
variable {φ : Type} {message : φ → Text}

theorem complaint_check {passes : Bool} {fault : φ} {others : Option φ}
    (agrees : passes = true ↔ rule.Allows item) (text : message fault = rule.message item)
    (later : others.map message = complaint? rules item) :
    (if !passes then some fault else others).map message = complaint? (rule :: rules) item := by
  rw [complaint?, List.find?_cons]
  by_cases allows : rule.Allows item
  · simp [allows, agrees.mpr allows, later, complaint?]
  · have fails : passes = false := Bool.eq_false_iff.mpr (mt agrees.mp allows)
    simp [allows, fails, text]

theorem findings_entries {fault? : Json → Option φ}
    (agrees : ∀ item, (fault? item).map message = complaint? rules item) (sort : Text) (place : Nat)
    (items : List Json) :
    (findingsFrom fault? place items).map
        (fun f => sort ++ " " ++ Text.ofNat f.place ++ ": " ++ message f.fault) =
      entries sort rules place items := by
  induction items generalizing place with
  | nil => rfl
  | cons item rest ih =>
    rw [findingsFrom, entries, List.zipIdx_cons, List.filter_cons]
    have said := agrees item
    cases found : fault? item with
    | none =>
      rw [found] at said
      have keeps : Keeps rules item := complaint_eq_none.mp said.symm
      simpa [keeps, entries] using ih (place + 1)
    | some fault =>
      rw [found] at said
      have breaks : ¬Keeps rules item := fun keeps =>
        absurd (said.trans (complaint_eq_none.mpr keeps)) (by simp)
      rw [if_pos (by simpa using breaks), List.map_cons, List.map_cons, ih, ← said]
      rfl

end
end Rule

theorem modelFault_rules (model : Json) :
    (modelFault? model).map ModelFault.message = Rule.complaint? Rule.ofModels model := by
  refine Rule.complaint_check isObject_iff rfl ?_
  refine Rule.complaint_check isName_getOrNull rfl ?_
  refine Rule.complaint_check isName_getOrNull rfl ?_
  refine Rule.complaint_check isPlace_getOrNull rfl ?_
  exact Rule.complaint_check isList_getOrNull rfl rfl

theorem relationFault_rules (named : ∀ model ∈ models, model.HoldsName "nodeId") (relation : Json) :
    (relationFault? (nodeIds models) relation).map RelationFault.message =
      Rule.complaint? (Rule.ofRelations models) relation := by
  refine Rule.complaint_check isObject_iff rfl ?_
  refine Rule.complaint_check isName_getOrNull rfl ?_
  refine Rule.complaint_check isName_getOrNull rfl ?_
  refine Rule.complaint_check (isNodeIdAmong_getOrNull named) rfl ?_
  exact Rule.complaint_check (isNodeIdAmong_getOrNull named) rfl rfl

/-- What has to be reported of two values: the part that is at fault, if one is, and the errors. The
relations do not count as long as a model is at fault. -/
inductive Specified : Json → Json → Option Text → List Text → Prop
  | sound {models relations : List Json} (proper : ∀ model ∈ models, Rule.Keeps Rule.ofModels model)
      (joined : ∀ relation ∈ relations, Rule.Keeps (Rule.ofRelations models) relation) :
      Specified (.list models) (.list relations) none []
  | notLists {models relations : Json}
      (either : (¬∃ items, models = .list items) ∨ ¬∃ items, relations = .list items) :
      Specified models relations (some "document".toList)
        ["models and relations must both be lists"]
  | faultyModels {models relations : List Json}
      (faulty : ∃ model ∈ models, ¬Rule.Keeps Rule.ofModels model) :
      Specified (.list models) (.list relations) (some "models".toList)
        (Rule.entries "model" Rule.ofModels 0 models)
  | faultyRelations {models relations : List Json}
      (proper : ∀ model ∈ models, Rule.Keeps Rule.ofModels model)
      (faulty : ∃ relation ∈ relations, ¬Rule.Keeps (Rule.ofRelations models) relation) :
      Specified (.list models) (.list relations) (some "relations".toList)
        (Rule.entries "relation" (Rule.ofRelations models) 0 relations)

theorem modelFault_none_iff {model : Json} :
    modelFault? model = none ↔ Rule.Keeps Rule.ofModels model := by
  rw [← Rule.complaint_eq_none, ← modelFault_rules, Option.map_eq_none_iff]

section
variable {relations : List Json}

theorem findings_models (models : List Json) : findingsFrom modelFault? 0 models = [] ↔
    ∀ model ∈ models, Rule.Keeps Rule.ofModels model := by
  rw [findingsFrom_eq_nil]
  exact forall₂_congr fun _ _ => modelFault_none_iff

theorem report_models (faulty : ∃ model ∈ models, ¬Rule.Keeps Rule.ofModels model) :
    check (.list models) (.list relations) = .faultyModels (findingsFrom modelFault? 0 models) := by
  refine check_faultyModels fun none => ?_
  obtain ⟨model, member, breaks⟩ := faulty
  exact breaks ((findings_models models).mp none model member)

variable (proper : ∀ model ∈ models, Rule.Keeps Rule.ofModels model)

include proper

theorem named_of_keeps : ∀ model ∈ models, model.HoldsName "nodeId" := fun model member =>
  proper model member _ (.tail _ (.head _))

theorem findings_relations (relations : List Json) :
    findingsFrom (relationFault? (nodeIds models)) 0 relations = [] ↔
      ∀ relation ∈ relations, Rule.Keeps (Rule.ofRelations models) relation := by
  rw [findingsFrom_eq_nil]
  refine forall₂_congr fun relation _ => ?_
  rw [← Rule.complaint_eq_none, ← relationFault_rules (named_of_keeps proper), Option.map_eq_none_iff]

theorem report_relations
    (faulty : ∃ relation ∈ relations, ¬Rule.Keeps (Rule.ofRelations models) relation) :
    check (.list models) (.list relations) =
      .faultyRelations (findingsFrom (relationFault? (nodeIds models)) 0 relations) := by
  refine check_faultyRelations ((findings_models models).mpr proper) fun none => ?_
  obtain ⟨relation, member, breaks⟩ := faulty
  exact breaks ((findings_relations proper relations).mp none relation member)

theorem report_sound
    (joined : ∀ relation ∈ relations, Rule.Keeps (Rule.ofRelations models) relation) :
    check (.list models) (.list relations) = .sound := by
  rw [check, (findings_models models).mpr proper, (findings_relations proper relations).mpr joined]

end

theorem report_notLists {models relations : Json}
    (either : (¬∃ items, models = .list items) ∨ ¬∃ items, relations = .list items) :
    check models relations = .notLists models relations := by
  unfold check
  split
  · exact either.elim (fun other => absurd ⟨_, rfl⟩ other) fun other => absurd ⟨_, rfl⟩ other
  · rfl

theorem exists_specified (models relations : Json) :
    ∃ category errors, Specified models relations category errors := by
  by_cases either : (¬∃ items, models = .list items) ∨ ¬∃ items, relations = .list items
  · exact ⟨_, _, .notLists either⟩
  obtain ⟨listed, linked⟩ := not_or.mp either
  obtain ⟨models, rfl⟩ := not_not.mp listed
  obtain ⟨relations, rfl⟩ := not_not.mp linked
  by_cases proper : ∀ model ∈ models, Rule.Keeps Rule.ofModels model
  · by_cases joined : ∀ relation ∈ relations, Rule.Keeps (Rule.ofRelations models) relation
    · exact ⟨_, _, .sound proper joined⟩
    · exact ⟨_, _, .faultyRelations proper (by simpa using joined)⟩
  · exact ⟨_, _, .faultyModels (by simpa using proper)⟩

theorem check_of_specified {models relations : Json} {category : Option Text} {errors : List Text}
    (specified : Specified models relations category errors) :
    (check models relations).category = category ∧ (check models relations).errors = errors := by
  cases specified with
  | sound proper joined =>
    rw [report_sound proper joined]
    exact ⟨rfl, rfl⟩
  | notLists either =>
    rw [report_notLists either]
    exact ⟨rfl, rfl⟩
  | faultyModels faulty =>
    rw [report_models faulty]
    exact ⟨rfl, Rule.findings_entries modelFault_rules "model" 0 _⟩
  | faultyRelations proper faulty =>
    rw [report_relations proper faulty]
    exact ⟨rfl, Rule.findings_entries (relationFault_rules (named_of_keeps proper)) "relation" 0 _⟩

theorem Specified.none_iff {models relations : Json} {category : Option Text} {errors : List Text}
    (specified : Specified models relations category errors) : category = none ↔ errors = [] := by
  cases specified with
  | sound => simp
  | notLists => simp
  | faultyModels faulty =>
    rw [Rule.entries_eq_nil]
    simpa using faulty
  | faultyRelations _ faulty =>
    rw [Rule.entries_eq_nil]
    simpa using faulty

theorem Report.isSound_iff {report : Report} : report.isSound = true ↔ report.category = none := by
  cases report <;> simp [Report.isSound, Report.category]

theorem isSound_by_rules {models relations : Json} : (check models relations).isSound = true ↔
    ∃ listed linked, models = .list listed ∧ relations = .list linked ∧
      (∀ model ∈ listed, Rule.Keeps Rule.ofModels model) ∧
      ∀ relation ∈ linked, Rule.Keeps (Rule.ofRelations listed) relation := by
  constructor
  · intro passes
    obtain ⟨category, errors, specified⟩ := exists_specified models relations
    have none : category = none :=
      (check_of_specified specified).1.symm.trans (Report.isSound_iff.mp passes)
    cases specified with
    | sound proper joined => exact ⟨_, _, rfl, rfl, proper, joined⟩
    | _ => exact absurd none (by simp)
  · rintro ⟨listed, linked, rfl, rfl, proper, joined⟩
    rw [report_sound proper joined]
    rfl

/-- The audit passes two values if and only if they are lists whose items keep the rules. It reports
what the rules say of the values; where a model is at fault, the relations make no difference. To pass,
to report no error and to find no part at fault are one and the same. -/
theorem audit_by_rules (models relations : Json) :
    ((check models relations).isSound = true ↔
      ∃ listed linked, models = .list listed ∧ relations = .list linked ∧
        (∀ model ∈ listed, Rule.Keeps Rule.ofModels model) ∧
        ∀ relation ∈ linked, Rule.Keeps (Rule.ofRelations listed) relation) ∧
    (∀ category errors, Specified models relations category errors ↔
      (check models relations).category = category ∧ (check models relations).errors = errors) ∧
    (∀ listed linked others, models = .list listed → relations = .list linked →
      (∃ model ∈ listed, ¬Rule.Keeps Rule.ofModels model) →
        check models (.list others) = check models relations) ∧
    ((check models relations).isSound = true ↔ (check models relations).errors = []) ∧
    ((check models relations).isSound = true ↔ (check models relations).category = none) := by
  obtain ⟨category, errors, specified⟩ := exists_specified models relations
  obtain ⟨atCategory, atErrors⟩ := check_of_specified specified
  refine ⟨isSound_by_rules, fun other texts => ⟨check_of_specified, ?_⟩, ?_, ?_, Report.isSound_iff⟩
  · rintro ⟨rfl, rfl⟩
    rwa [atCategory, atErrors]
  · rintro listed linked others rfl rfl faulty
    rw [report_models faulty, report_models faulty]
  · rw [Report.isSound_iff, atCategory, atErrors]
    exact specified.none_iff

def rubble : List Json :=
  [ .object [("nodeId", .text "1"), ("name", .text "stone"),
      ("position", .object [("x", .int 0), ("y", .int 320)]), ("fields", .list [])],
    .object [("nodeId", .text "2"), ("name", .text []), ("position", .null), ("fields", .list [])],
    .text "brick",
    .object [("nodeId", .text "3"), ("name", .text "sand"),
      ("position", .object [("x", .bool true), ("y", .int 0)]), ("fields", .list [])],
    .object [("nodeId", .text "1"), ("name", .text "lime"),
      ("position", .object [("x", .int 0), ("y", .int 0)])] ]

def links : List Json :=
  [ .object [("edgeId", .text "r"), ("relationType", .text "1-m"),
      ("sourceModelId", .text "1"), ("targetModelId", .text "1")],
    .object [("edgeId", .text "s"), ("relationType", .text "n"),
      ("sourceModelId", .text "1"), ("targetModelId", .int 1)],
    .object [("edgeId", .text "t")] ]

theorem rubble_by_rules :
    (check (.list rubble) (.list links)).errors =
      [ "model 1: missing name", "model 2: not an object",
        "model 3: position must have numeric x and y", "model 4: fields must be a list" ] ∧
    check (.list rubble) (.list []) = check (.list rubble) (.list links) ∧
    Specified (.list (rubble.take 1)) (.list links) (some "relations".toList)
      [ "relation 1: targetModelId 1 does not match a model", "relation 2: missing relationType" ] := by
  have faulty : ∃ model ∈ rubble, ¬Rule.Keeps Rule.ofModels model := by decide
  refine ⟨by decide +kernel, ?_, ?_⟩
  · exact (audit_by_rules (.list rubble) (.list links)).2.2.1 rubble links [] rfl rfl faulty
  · exact ((audit_by_rules (.list (rubble.take 1)) (.list links)).2.1 _ _).mpr
      ⟨by decide, by decide +kernel⟩

end Audit
end DiagramSchema
