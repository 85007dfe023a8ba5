import DiagramSchema.Diagram.Grid
import DiagramSchema.Notice
import DiagramSchema.Schema.Source
import DiagramSchema.Text.Quoted

/-! The diagram that schema text stands for.

A model becomes an entity on a grid. Its fields of scalar types become attributes, but for the
identity. Fields whose type is a model become relations: one for each pair of models, given by the
first field that links them. -/
namespace DiagramSchema

namespace Model

def isNameAmong (models : List Model) (type : Text) : Bool := models.any fun m => m.name == type

/-- The fields of a model that are neither its identity nor link it to a model. -/
def plainFields (models : List Model) (m : Model) : List Field :=
  m.fields.filter fun f => !f.isIdentity && !isNameAmong models f.type

def attributes (models : List Model) (m : Model) : List Attribute :=
  (m.plainFields models).filterMap Field.attribute?

def unsupported (models : List Model) (m : Model) : List Field :=
  (m.plainFields models).filter fun f => (ScalarType.ofName? f.type).isNone

/-- The entity that a model stands for. Its name is its id. -/
def entity (models : List Model) (m : Model) (position : Position) : Entity :=
  ⟨m.name, m.name, position, m.attributes models⟩

def relation (m : Model) (f : Field) : Relation :=
  ⟨m.name ++ "-" ++ f.type, m.name, f.type,
    (if f.isList then Cardinality.oneToMany else Cardinality.oneToOne).text⟩

def links (models : List Model) : List Relation :=
  models.flatMap fun m => (m.fields.filter fun f => isNameAmong models f.type).map m.relation

end Model

/-- Whether two relations join the same two entities, in either direction. -/
def Relation.samePair (r s : Relation) : Bool :=
  (r.source == s.source && r.target == s.target) || (r.source == s.target && r.target == s.source)

namespace Model

/-- The relations between models: for each pair the first that a field stands for. -/
def relations (models : List Model) : List Relation :=
  (links models).eraseDupsBy Relation.samePair

def diagram (models : List Model) : Diagram :=
  ⟨List.zipWith (fun m position => m.entity models position) models (Grid.positions models.length),
    relations models⟩

end Model

inductive SchemaError where
  | noModels
deriving DecidableEq, Repr

def SchemaError.message : SchemaError → Text
  | .noModels => "no models found"

namespace Diagram

def ofSchema (text : Text) : Except SchemaError Diagram :=
  match Model.all text with
  | [] => .error .noModels
  | models => .ok (Model.diagram models)

end Diagram

namespace SourceBlock

/-- The notices on a block, given the names of the blocks before it. -/
def noticesAfter (earlier : List Text) (b : SourceBlock) : List Notice :=
  let unclosed : List Notice := if b.closed then []
    else [⟨.warning, .recovery, "Model " ++ b.name ++ " is missing its closing brace"⟩]
  let repeated : List Notice := if earlier.contains b.name then
      [⟨.warning, .recovery,
        "Model " ++ b.name ++ " declared more than once, keeping the last declaration"⟩]
    else []
  let skipped : List Notice := b.unreadable.map fun line =>
    ⟨.debug, .recovery, "Skipping unparsable line: " ++ Text.quoted line⟩
  unclosed ++ repeated ++ skipped

def notices (earlier : List Text) : List SourceBlock → List Notice
  | [] => []
  | b :: rest => b.noticesAfter earlier ++ notices (b.name :: earlier) rest

end SourceBlock

namespace Model

def recover (text : Text) : Noted (List Model) :=
  ⟨all text, SourceBlock.notices [] (SourceBlock.all text)⟩

/-- One notice for each field of a type that attributes cannot have. -/
def notices (models : List Model) : List Notice :=
  models.flatMap fun m => (m.unsupported models).map fun f =>
    ⟨.debug, .recovery,
      "Skipping " ++ m.name ++ "." ++ f.name ++ ": unsupported type " ++ f.type⟩

end Model

def Diagram.recover (text : Text) : Noted (Except SchemaError Diagram) :=
  ⟨ofSchema text, (Model.recover text).notices ++ Model.notices (Model.all text)⟩

end DiagramSchema
