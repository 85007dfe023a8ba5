import DiagramSchema.Notice
import DiagramSchema.Stored.Basic

/-! The ends of stored relations: entity ids become model ids when a document is saved, and entity
ids again when it is loaded. A relation with an end that has no counterpart is dropped. -/
namespace DiagramSchema

/-- The id that another id stands for. An empty one counts as none. -/
abbrev IdMap := Text → Option Text

namespace StoredRelation

def counterpart? (ids : IdMap) (id : Text) : Option Text :=
  (ids id).filter fun other => !other.isEmpty

/-- The relation between the counterparts of its ends. -/
def redirect? (ids : IdMap) (r : StoredRelation) : Option StoredRelation :=
  match counterpart? ids r.source, counterpart? ids r.target with
  | some source, some target => some { r with source, target }
  | _, _ => none

def stranded (ids : IdMap) (relations : List StoredRelation) : List StoredRelation :=
  relations.filter fun r => (r.redirect? ids).isNone

/-- Replaces entity ids by model ids. -/
def resolve (modelIds : IdMap) (relations : List StoredRelation) : List StoredRelation :=
  relations.filterMap (redirect? modelIds)

/-- Replaces model ids by entity ids. -/
def restore (entityIds : IdMap) (relations : List StoredRelation) : List StoredRelation :=
  relations.filterMap (redirect? entityIds)

def ends (r : StoredRelation) : Text := r.source ++ " -> " ++ r.target

def resolveNotices (modelIds : IdMap) (relations : List StoredRelation) : List Notice :=
  (stranded modelIds relations).map fun r =>
    ⟨.warning, .storage,
      "Dropping relation " ++ r.edgeId ++ ": missing model id for " ++ r.ends⟩

def restoreNotices (entityIds : IdMap) (relations : List StoredRelation) : List Notice :=
  (stranded entityIds relations).map fun r =>
    ⟨.warning, .storage,
      "Skipping relation " ++ r.edgeId ++ " with missing models: " ++ r.ends⟩

end StoredRelation
end DiagramSchema
