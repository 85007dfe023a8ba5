import DiagramSchema.Stored.Json

/-! Coordinates that were left out of a document as it was given.

Such a coordinate is zero, and a document does not tell it from a zero that was given. Only where an
audit shows a faulty model does it read differently: as an integer, not as a double. -/
namespace DiagramSchema

/-- Which coordinates of a model were left out. -/
structure Omission where
  x : Bool := false
  y : Bool := false
deriving DecidableEq, Repr

namespace Omission

def ofGiven (model : Json) : Omission :=
  let place := model.getOrNull "position"
  ⟨(place.get? "x").isNone, (place.get? "y").isNone⟩

def placeJson (o : Omission) (p : Position) : Json :=
  .object [("x", if o.x then .int 0 else .float p.x), ("y", if o.y then .int 0 else .float p.y)]

end Omission

namespace Document

/-- What the models of a document, as it was given, leave out. -/
def omissions (given : Json) : List Omission :=
  match given.getOrNull "models" with
  | .list models => models.map Omission.ofGiven
  | _ => []

/-- The models as an audit sees them. Nothing is left out of models beyond the list of omissions. -/
def auditedModels : List Omission → List StoredModel → List Json
  | _, [] => []
  | [], m :: rest => m.json :: auditedModels [] rest
  | o :: later, m :: rest => m.jsonWithPlace (o.placeJson m.position) :: auditedModels later rest

def audited (d : Document) (omissions : List Omission) : Json :=
  .object [("models", .list (auditedModels omissions d.models)),
    ("relations", .list (d.relations.map StoredRelation.json))]

end Document
end DiagramSchema
