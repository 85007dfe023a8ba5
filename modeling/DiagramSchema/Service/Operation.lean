import DiagramSchema.Assistant.Generation
import DiagramSchema.Schema.Emission
import DiagramSchema.Schema.Recovery
import DiagramSchema.Stored.Audit
import DiagramSchema.Stored.Conversion

/-! The operations that the library offers to its callers. Each takes JSON, and gives a result or
says why there is none. -/
namespace DiagramSchema

inductive Outcome where
  | emission (e : Emission)
  | diagram (d : Diagram)
  | document (d : Document)
  | report (r : Audit.Report)
  | generated (schema : Text) (diagram : Option Diagram)

inductive Refusal where
  | malformedDiagram (cause : Malformed)
  | malformedDocument (cause : Malformed)
  | schemaNotText
  | unreadable (cause : SchemaError)
  | unsound (report : Audit.Report)
  | notGenerated (cause : GenerationError)
  | generatedUnreadable (cause : SchemaError) (schema : Text)

namespace Warning

def json (w : Warning) : Json :=
  .object [("kind", .text w.kind), ("relationId", .text w.relationId), ("message", .text w.message)]

end Warning

namespace Emission

def fields (e : Emission) : List (Text × Json) :=
  [("schema", .text e.schema), ("warnings", .list (e.warnings.map Warning.json))]

end Emission

namespace Outcome

def fields : Outcome → List (Text × Json)
  | .emission e => e.fields
  | .diagram d => d.json.fields
  | .document d => d.json.fields
  | .report r => r.fields
  | .generated schema none => [("schema", .text schema)]
  | .generated schema (some d) => ("schema", .text schema) :: d.json.fields

end Outcome

namespace Refusal

def kind : Refusal → Text
  | .malformedDiagram _ | .malformedDocument _ | .schemaNotText => "malformed"
  | .unreadable _ => "parse"
  | .unsound _ => "validation"
  | .notGenerated _ | .generatedUnreadable .. => "generation"

def message : Refusal → Text
  | .malformedDiagram cause => "Malformed graph: " ++ cause.message
  | .malformedDocument cause => "Malformed storage document: " ++ cause.message
  | .schemaNotText => "schema must be a string"
  | .unreadable cause => cause.message
  | .unsound _ => "Invalid schema structure"
  | .notGenerated cause => cause.message
  | .generatedUnreadable cause _ => cause.message

/-- What a failure has to say beside its message. -/
def details : Refusal → List (Text × Json)
  | .unsound report => [("category", .ofText? report.category), ("errors", .ofTexts report.errors)]
  | .generatedUnreadable _ schema => [("schema", .text schema)]
  | _ => []

def fields (r : Refusal) : List (Text × Json) :=
  ("error", .text r.message) :: ("kind", .text r.kind) :: r.details

end Refusal

/-- The result of an operation, as an answer to its caller. -/
def answerJson : Except Refusal Outcome → Json
  | .ok outcome => .object (("success", .bool true) :: outcome.fields)
  | .error refusal => .object (("success", .bool false) :: refusal.fields)

namespace Operation

def emit (arguments : Json) (s : Settings) : Noted (Except Refusal Outcome) :=
  match Diagram.accept arguments with
  | .ok diagram => (diagram.emit s).map fun emission => .ok (.emission emission)
  | .error cause => .quiet (.error (.malformedDiagram cause))

def recover (arguments : Json) : Noted (Except Refusal Outcome) :=
  match arguments.get? "schema" with
  | some (.text schema) => (Diagram.recover schema).map fun
    | .ok diagram => .ok (.diagram diagram)
    | .error cause => .error (.unreadable cause)
  | _ => .quiet (.error .schemaNotText)

def storedNotice (d : Document) : Notice :=
  ⟨.info, .service, "Serialized schema: " ++ Text.ofNat d.models.length ++ " models, "
    ++ Text.ofNat d.relations.length ++ " relations"⟩

/-- The document that a diagram is stored as, if it passes the audit. -/
def store (arguments : Json) : Noted (Except Refusal Outcome) :=
  match Diagram.accept arguments with
  | .error cause => .quiet (.error (.malformedDiagram cause))
  | .ok diagram =>
    let document := diagram.stored
    let report := Audit.checkDocument document.json
    if report.isSound then ⟨.ok (.document document), [storedNotice document]⟩
    else ⟨.error (.unsound report), report.notices⟩

def load (arguments : Json) : Noted (Except Refusal Outcome) :=
  match (Document.accept arguments).bind Document.loaded with
  | .ok diagram => .quiet (.ok (.diagram diagram))
  | .error cause => .quiet (.error (.malformedDocument cause))

def audit (arguments : Json) : Noted (Except Refusal Outcome) :=
  let report := Audit.checkDocument arguments
  ⟨.ok (.report report), report.notices⟩

/-- The prompt of a request for generation. An absent prompt is empty. -/
def promptOf (arguments : Json) : Text :=
  match arguments.get? "prompt" with
  | some (.text prompt) => prompt
  | _ => []

/-- Schema text from a language model and, if asked for, its diagram. -/
def assist (arguments : Json) (s : Settings) (client : ProviderClient) :
    Noted (Except Refusal Outcome) :=
  match s.generate client (promptOf arguments) with
  | .error cause => ⟨.error (.notGenerated cause), cause.notices⟩
  | .ok schema =>
    if (arguments.getOrNull "visualize").truthy then
      (Diagram.recover schema).map fun
        | .ok diagram => .ok (.generated schema (some diagram))
        | .error cause => .error (.generatedUnreadable cause schema)
    else .quiet (.ok (.generated schema none))

end Operation
end DiagramSchema
