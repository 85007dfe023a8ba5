import DiagramSchema.Schema.Emission
import DiagramSchema.Schema.Recovery
import DiagramSchema.Stored.Audit
import DiagramSchema.Stored.Conversion
import DiagramSchema.Stored.Omission
import DiagramSchema.Stored.References
import DiagramSchema.Console

/-! A workspace: a diagram, a document and a schema text, worked on by one action after the other.
An action that fails leaves the workspace as it is. -/
namespace DiagramSchema

structure Workspace where
  diagram : Diagram := {}
  document : Document := {}
  /-- What the models of the document leave out, if it was given. -/
  omissions : List Omission := []
  schema : Text := []

namespace Workspace

inductive Action where
  | setDiagram (given : Json)
  | setDocument (given : Json)
  | setSchema (text : Text)
  | emit (settings : Settings)
  | emitDocument (settings : Settings)
  | recover
  | store
  | load
  | audit
  | resolve (modelIds : IdMap)
  | restore (entityIds : IdMap)
  | outline

inductive View where
  | diagram (d : Diagram)
  | document (d : Document)
  | schema (text : Text)
  | emission (e : Emission)
  | report (r : Audit.Report)
  | relations (rs : List StoredRelation)
  | outline (text : Text)
  | malformed (cause : Malformed)
  | unreadable (cause : SchemaError)

def takeDiagram (w : Workspace) : Except Malformed Diagram → Workspace × View
  | .ok diagram => ({ w with diagram }, .diagram diagram)
  | .error cause => (w, .malformed cause)

def takeEmission (w : Workspace) (emission : Emission) : Workspace × View :=
  ({ w with schema := emission.schema }, .emission emission)

def takeRelations (w : Workspace) (relations : List StoredRelation) : Workspace × View :=
  ({ w with document := { w.document with relations } }, .relations relations)

/-- The workspace after an action, and what the action shows. -/
def perform (w : Workspace) : Action → Noted (Workspace × View)
  | .setDiagram given => .quiet (w.takeDiagram (Diagram.accept given))
  | .setDocument given => .quiet (match Document.accept given with
    | .ok document =>
      ({ w with document, omissions := Document.omissions given }, .document document)
    | .error cause => (w, .malformed cause))
  | .setSchema text => .quiet ({ w with schema := text }, .schema text)
  | .emit settings => (w.diagram.emit settings).map w.takeEmission
  | .emitDocument settings => match w.document.loaded with
    | .ok diagram => (diagram.emit settings).map w.takeEmission
    | .error cause => .quiet (w, .malformed cause)
  | .recover => (Diagram.recover w.schema).map fun
    | .ok diagram => ({ w with diagram }, .diagram diagram)
    | .error cause => (w, .unreadable cause)
  | .store =>
    let document := w.diagram.stored
    .quiet ({ w with document, omissions := [] }, .document document)
  | .load => .quiet (w.takeDiagram w.document.loaded)
  | .audit =>
    let report := Audit.checkDocument (w.document.audited w.omissions)
    ⟨(w, .report report), report.notices⟩
  | .resolve modelIds =>
    ⟨w.takeRelations (StoredRelation.resolve modelIds w.document.relations),
      StoredRelation.resolveNotices modelIds w.document.relations⟩
  | .restore entityIds =>
    ⟨w.takeRelations (StoredRelation.restore entityIds w.document.relations),
      StoredRelation.restoreNotices entityIds w.document.relations⟩
  | .outline => .quiet (w, .outline w.diagram.outline)

/-- Performs actions one after the other; what each shows, in order. -/
def performAll (w : Workspace) : List Action → Noted (List View)
  | [] => .quiet []
  | action :: rest =>
    let first := w.perform action
    let others := performAll first.value.1 rest
    ⟨first.value.2 :: others.value, first.notices ++ others.notices⟩

end Workspace
end DiagramSchema
