import DiagramSchema.Json.Value
import DiagramSchema.Notice

/-! The audit of a document before it is stored or compiled.

It looks at the JSON form and at the outline only: ids, names and places of models, and the ends of
relations. Relations are looked at once all models are sound. Every fault is reported. -/
namespace DiagramSchema.Audit

inductive ModelFault where
  | notObject
  | noNodeId
  | noName
  | noPlace
  | noFields
deriving DecidableEq, Repr

def ModelFault.message : ModelFault → Text
  | .notObject => "not an object"
  | .noNodeId => "missing nodeId"
  | .noName => "missing name"
  | .noPlace => "position must have numeric x and y"
  | .noFields => "fields must be a list"

inductive RelationFault where
  | notObject
  | noEdgeId
  | noType
  | unmatchedSource (found : Json)
  | unmatchedTarget (found : Json)

def RelationFault.message : RelationFault → Text
  | .notObject => "not an object"
  | .noEdgeId => "missing edgeId"
  | .noType => "missing relationType"
  | .unmatchedSource found => "sourceModelId " ++ found.shown ++ " does not match a model"
  | .unmatchedTarget found => "targetModelId " ++ found.shown ++ " does not match a model"

def isName : Json → Bool
  | .text value => !value.isEmpty
  | _ => false

/-- Whether a value is a number. A truth value is none. -/
def isNumber : Json → Bool
  | .int _ | .float _ => true
  | _ => false

def isObject : Json → Bool
  | .object _ => true
  | _ => false

def isList : Json → Bool
  | .list _ => true
  | _ => false

def isPlace (json : Json) : Bool :=
  isObject json && isNumber (json.getOrNull "x") && isNumber (json.getOrNull "y")

def modelFault? (model : Json) : Option ModelFault :=
  if !isObject model then some .notObject
  else if !isName (model.getOrNull "nodeId") then some .noNodeId
  else if !isName (model.getOrNull "name") then some .noName
  else if !isPlace (model.getOrNull "position") then some .noPlace
  else if !isList (model.getOrNull "fields") then some .noFields
  else none

/-- Whether a value is one of the ids, and not empty. -/
def isNodeIdAmong (ids : List Text) : Json → Bool
  | .text value => !value.isEmpty && ids.contains value
  | _ => false

/-- The first fault of a relation, given the ids of the models. -/
def relationFault? (ids : List Text) (relation : Json) : Option RelationFault :=
  let source := relation.getOrNull "sourceModelId"
  let target := relation.getOrNull "targetModelId"
  if !isObject relation then some .notObject
  else if !isName (relation.getOrNull "edgeId") then some .noEdgeId
  else if !isName (relation.getOrNull "relationType") then some .noType
  else if !isNodeIdAmong ids source then some (.unmatchedSource source)
  else if !isNodeIdAmong ids target then some (.unmatchedTarget target)
  else none

/-- A faulty item, and its place in the list. -/
structure Finding (φ : Type) where
  place : Nat
  item : Json
  fault : φ

def findingsFrom {φ : Type} (fault? : Json → Option φ) : Nat → List Json → List (Finding φ)
  | _, [] => []
  | place, item :: rest =>
    let later := findingsFrom fault? (place + 1) rest
    match fault? item with
    | some fault => ⟨place, item, fault⟩ :: later
    | none => later

def nodeIds (models : List Json) : List Text :=
  models.filterMap fun model => match model.get? "nodeId" with
    | some (.text id) => some id
    | _ => none

inductive Report where
  | sound
  | notObject
  | notLists (models relations : Json)
  | faultyModels (findings : List (Finding ModelFault))
  | faultyRelations (findings : List (Finding RelationFault))

/-- Checks the models and the relations of a document. -/
def check (models relations : Json) : Report :=
  match models, relations with
  | .list models, .list relations =>
    match findingsFrom modelFault? 0 models with
    | [] => match findingsFrom (relationFault? (nodeIds models)) 0 relations with
      | [] => .sound
      | findings => .faultyRelations findings
    | findings => .faultyModels findings
  | models, relations => .notLists models relations

/-- Checks a document. Absent parts count as `null`. -/
def checkDocument : Json → Report
  | .object fields =>
    check ((Json.object fields).getOrNull "models") ((Json.object fields).getOrNull "relations")
  | _ => .notObject

namespace Report

def isSound : Report → Bool
  | .sound => true
  | _ => false

def category : Report → Option Text
  | .sound => none
  | .notObject | .notLists .. => some "document"
  | .faultyModels _ => some "models"
  | .faultyRelations _ => some "relations"

def errors : Report → List Text
  | .sound => []
  | .notObject => ["document must be an object"]
  | .notLists .. => ["models and relations must both be lists"]
  | .faultyModels findings => findings.map fun f =>
    "model " ++ Text.ofNat f.place ++ ": " ++ f.fault.message
  | .faultyRelations findings => findings.map fun f =>
    "relation " ++ Text.ofNat f.place ++ ": " ++ f.fault.message

/-- A finding in a notice: its place, the fault, and the item itself. -/
def findingNotice (sort : Text) (place : Nat) (message : Text) (item : Json) : Notice :=
  ⟨.error, .audit, "Invalid " ++ sort ++ " at index " ++ Text.ofNat place ++ ": " ++ message
    ++ " (" ++ item.shown ++ ")"⟩

def notices : Report → List Notice
  | .sound => []
  | .notObject => [⟨.error, .audit, "Invalid schema document: not an object"⟩]
  | .notLists models relations =>
    [⟨.error, .audit, "Invalid schema document: models=" ++ models.typeWord
      ++ " relations=" ++ relations.typeWord⟩]
  | .faultyModels findings => findings.map fun f =>
    findingNotice "model" f.place f.fault.message f.item
  | .faultyRelations findings => findings.map fun f =>
    findingNotice "relation" f.place f.fault.message f.item

def fields (r : Report) : List (Text × Json) :=
  [("valid", .bool r.isSound), ("category", .ofText? r.category), ("errors", .ofTexts r.errors)]

end Report
end DiagramSchema.Audit
