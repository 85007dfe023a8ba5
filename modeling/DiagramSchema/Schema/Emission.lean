import DiagramSchema.Keyed
import DiagramSchema.Notice
import DiagramSchema.Schema.Line
import DiagramSchema.Settings
import DiagramSchema.Text.Quoted

/-! The schema text of a diagram.

Each entity becomes a block: the identity line, a line for each attribute, and the lines that the
relations contribute, each distinct line once. Of several entities with one id the last counts, at
the place of the first. A relation without both ends, or of an unknown type, is reported. -/
namespace DiagramSchema

inductive Warning where
  | missingEnd (relation source target : Text)
  | unknownType (relation type : Text)
deriving DecidableEq, Repr

namespace Warning

def kind : Warning → Text
  | .missingEnd .. => "unresolved_reference"
  | .unknownType .. => "unknown_relation_type"

def relationId : Warning → Text
  | .missingEnd relation .. => relation
  | .unknownType relation _ => relation

def message : Warning → Text
  | .missingEnd relation source target =>
    "Dropping relation " ++ relation ++ ": " ++ source ++ " -> " ++ target
      ++ " has a missing endpoint"
  | .unknownType relation type =>
    "Unknown relation type " ++ Text.quoted type ++ " on " ++ relation

end Warning

def Entity.modelName (e : Entity) : Text := Naming.capitalized e.name

/-- The identity line is fixed, so an attribute called `id` has no line of its own. -/
def Attribute.isIdentity (a : Attribute) : Bool := a.name == "id"

def Entity.attributeLines (e : Entity) : List Line :=
  (e.attributes.filter fun a => !a.isIdentity).map Attribute.line

/-- The word that stands for the type of a relation in remarks and messages. -/
def Relation.typeWord (r : Relation) : Text := Text.orElse r.type "unknown"

/-- The lines that a relation between models of the given names adds to its two ends. -/
def Relation.lines (r : Relation) (source target : Text) : List Line × List Line :=
  match Cardinality.ofText? r.type with
  | some cardinality => cardinality.lines source target
  | none => ([.remark ("relation to " ++ target ++ " (" ++ r.typeWord ++ ")")], [])

namespace Diagram

def modelEntities (d : Diagram) : List Entity := latestByKey Entity.id d.entities

def modelName? (d : Diagram) (id : Text) : Option Text :=
  (d.entities.findRev? fun e => e.id == id).map Entity.modelName

/-- The lines that a relation contributes, each with the id of the entity whose block it goes to. -/
def contributionsOf (d : Diagram) (r : Relation) : List (Text × Line) :=
  match d.modelName? r.source, d.modelName? r.target with
  | some source, some target =>
    let (atSource, atTarget) := r.lines source target
    atSource.map (r.source, ·) ++ atTarget.map (r.target, ·)
  | _, _ => []

def contributedLines (d : Diagram) (id : Text) : List Line :=
  ((d.relations.flatMap d.contributionsOf).filter fun c => c.1 == id).map Prod.snd

def warning? (d : Diagram) (r : Relation) : Option Warning :=
  match d.modelName? r.source, d.modelName? r.target with
  | some _, some _ => match Cardinality.ofText? r.type with
    | some _ => none
    | none => some (.unknownType r.id r.typeWord)
  | _, _ => some (.missingEnd r.id r.source r.target)

def warnings (d : Diagram) : List Warning := d.relations.filterMap d.warning?

end Diagram

structure Block where
  name : Text
  lines : List Text
deriving DecidableEq, Repr

def Block.text (b : Block) : Text :=
  "model " ++ b.name ++ " \x7b\n" ++ List.intercalate "\n" b.lines ++ "\n\x7d"

namespace Diagram

/-- The block of an entity: each distinct line once, at its first place. -/
def block (d : Diagram) (e : Entity) : Block :=
  let lines := Line.identity :: e.attributeLines ++ d.contributedLines e.id
  ⟨e.modelName, (lines.map Line.text).eraseDups⟩

def blocks (d : Diagram) : List Block := d.modelEntities.map d.block

end Diagram

def Settings.header (s : Settings) : Text :=
  "generator client \x7b\n"
    ++ "  provider = \"" ++ s.schemaGenerator ++ "\"\n"
    ++ "\x7d\n"
    ++ "\n"
    ++ "datasource db \x7b\n"
    ++ "  provider = \"" ++ s.schemaDatasource ++ "\"\n"
    ++ "  url      = env(\"" ++ s.schemaUrlVariable ++ "\")\n"
    ++ "\x7d\n"

/-- The schema text of a diagram: the header and the blocks, with an empty line between them. -/
def Diagram.schema (d : Diagram) (s : Settings) : Text :=
  List.intercalate "\n" (s.header :: d.blocks.map fun b => b.text ++ "\n")

structure Emission where
  schema : Text
  warnings : List Warning
deriving DecidableEq, Repr

namespace Diagram

/-- One notice for each attribute that the identity line takes the place of. -/
def identityNotices (d : Diagram) : List Notice :=
  d.entities.flatMap fun e => (e.attributes.filter Attribute.isIdentity).map fun _ =>
    ⟨.debug, .emission, "Ignoring user-defined id attribute on " ++ e.modelName⟩

def emit (d : Diagram) (s : Settings) : Noted Emission :=
  ⟨⟨d.schema s, d.warnings⟩,
    d.identityNotices ++ d.warnings.map fun w => ⟨.warning, .emission, w.message⟩⟩

end Diagram
end DiagramSchema
