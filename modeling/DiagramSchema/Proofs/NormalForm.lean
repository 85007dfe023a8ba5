import DiagramSchema.Proofs.AuditVerdict
import DiagramSchema.Proofs.Counterparts

/-! The normal form of a diagram: what is left of it when it is stored and loaded again. Of the flags
of an attribute one stays, the first of id, unique, updatedAt and required. -/
namespace DiagramSchema

namespace Constraint

def hasDefault (c : Constraint) : Bool := c.defaultValue.any fun value => !value.isEmpty

/-- The flags that are left: the first one that is set. An attribute with a default and a list are
not required. -/
def normal (c : Constraint) : Constraint where
  required := c.required && !(c.isId || c.unique || c.updatedAt || c.hasDefault || c.list)
  unique := c.unique && !c.isId
  list := c.list
  updatedAt := c.updatedAt && !(c.isId || c.unique)
  isId := c.isId
  defaultValue := c.defaultValue

theorem normal_normal (c : Constraint) : c.normal.normal = c.normal := by
  obtain ⟨required, unique, list, updatedAt, isId, value⟩ := c
  cases isId <;> cases unique <;> cases updatedAt <;> simp [normal, hasDefault]

end Constraint

def Attribute.normal (a : Attribute) : Attribute := { a with constraint := a.constraint.normal }

def Entity.normal (e : Entity) : Entity :=
  { e with name := Text.orElse e.name unnamed, attributes := e.attributes.map Attribute.normal }

def Relation.normal (r : Relation) : Relation :=
  { r with type := Text.orElse r.type Cardinality.oneToMany.text }

def Diagram.normal (d : Diagram) : Diagram :=
  ⟨d.entities.map Entity.normal, d.relations.map Relation.normal⟩

theorem Text.orElse_ne_nil {other : Text} (some : other ≠ []) (s : Text) : orElse s other ≠ [] := by
  cases s with
  | nil => exact some
  | cons c rest => simp [orElse]

theorem Text.orElse_of_ne_nil {s : Text} (some : s ≠ []) (other : Text) : orElse s other = s := by
  cases s with
  | nil => exact absurd rfl some
  | cons c rest => rfl

theorem Text.orElse_orElse (s other : Text) : orElse (orElse s other) other = orElse s other := by
  cases s <;> cases other <;> rfl

theorem Diagram.normal_normal (d : Diagram) : d.normal.normal = d.normal := by
  simp [normal, Entity.normal, Attribute.normal, Relation.normal, Text.orElse_orElse,
    Constraint.normal_normal, Function.comp_def]

namespace Constraint

def storedDefault (c : Constraint) : Option Text := c.defaultValue.filter fun value => !value.isEmpty

theorem hasDefault_iff (c : Constraint) : c.hasDefault = c.storedDefault.isSome := by
  rw [hasDefault, storedDefault, Option.isSome_filter]

theorem defaultValue_of_stored {c : Constraint} {value : Text} (stored : c.storedDefault = some value) :
    c.defaultValue = some value :=
  (Option.filter_eq_some_iff.mp stored).1

theorem contains_stored (c : Constraint) : c.stored.contains .id = c.isId ∧
    c.stored.contains .unique = c.unique ∧ c.stored.contains .updatedAt = c.updatedAt := by
  obtain ⟨required, unique, list, updatedAt, isId, value⟩ := c
  rcases value with _ | _ | ⟨first, rest⟩ <;> cases isId <;> cases unique <;> cases updatedAt <;>
    exact ⟨rfl, rfl, rfl⟩

theorem lastDefault_stored (a : Attribute) :
    a.stored.lastDefault? = a.constraint.storedDefault := by
  obtain ⟨name, type, required, unique, list, updatedAt, isId, value⟩ := a
  rcases value with _ | _ | ⟨first, rest⟩ <;> cases isId <;> cases unique <;> cases updatedAt <;> rfl

end Constraint

namespace Attribute

theorem constraint_stored (a : Attribute) : a.stored.constraint = a.constraint.normal := by
  obtain ⟨hasId, hasUnique, hasUpdatedAt⟩ := a.constraint.contains_stored
  have constraints : a.stored.constraints = a.constraint.stored := rfl
  have isList : a.stored.isList = a.constraint.list := rfl
  have isOptional : a.stored.isOptional = !a.constraint.required := rfl
  have kept : a.stored.defaultValue = a.constraint.defaultValue := rfl
  rw [StoredField.constraint, StoredField.tag, constraints, hasId, hasUnique, hasUpdatedAt,
    Constraint.lastDefault_stored, isList, isOptional, kept, Constraint.normal,
    Constraint.hasDefault_iff]
  cases isId : a.constraint.isId with
  | true => simp [Tag.constraint]
  | false =>
    cases unique : a.constraint.unique with
    | true => simp [Tag.constraint]
    | false =>
      cases updatedAt : a.constraint.updatedAt with
      | true => simp [Tag.constraint]
      | false =>
        cases value : a.constraint.storedDefault with
        | some value =>
          have given := Constraint.defaultValue_of_stored value
          simp [Tag.constraint, given]
        | none =>
          cases a.constraint.list <;> cases a.constraint.required <;> simp [Tag.constraint]

theorem loaded_stored (a : Attribute) : a.stored.loaded = .ok a.normal := by
  have type : Text.orElse a.stored.type "String" = a.type.name := by
    show Text.orElse a.type.name "String" = _
    cases a.type <;> rfl
  rw [StoredField.loaded, type, ScalarType.checked, ScalarType.ofName?_name, constraint_stored]
  rfl

end Attribute

theorem mapM_ok {ε α β γ : Type} {f : β → Except ε γ} {g : α → β} {h : α → γ}
    (each : ∀ a, f (g a) = .ok (h a)) (items : List α) :
    (items.map g).mapM f = .ok (items.map h) := by
  rw [Counterparts.mapM_eq_ok, List.forall₂_map_left_iff, List.forall₂_map_right_iff,
    List.forall₂_same]
  exact fun a _ => each a

theorem Entity.loaded_stored (e : Entity) : e.stored.loaded = .ok e.normal := by
  rw [StoredModel.loaded, stored, mapM_ok Attribute.loaded_stored, Text.orElse_orElse]
  rfl

theorem Relation.loaded_stored (r : Relation) : r.stored.loaded = r.normal := by
  rw [StoredRelation.loaded, stored, Text.orElse_orElse]
  rfl

namespace Diagram

theorem loaded_stored (d : Diagram) : d.stored.loaded = .ok d.normal := by
  rw [Document.loaded, stored, mapM_ok Entity.loaded_stored, List.map_map]
  have relations : StoredRelation.loaded ∘ Relation.stored = Relation.normal :=
    funext Relation.loaded_stored
  rw [relations]
  rfl

end Diagram

namespace Operation

theorem store_ok {payload : Json} {d : Diagram} (accepted : Diagram.accept payload = .ok d)
    {outcome : Outcome} : (store payload).value = .ok outcome ↔
      d.stored.Sound ∧ outcome = .document d.stored := by
  rw [store, accepted, ← Audit.isSound_json]
  dsimp only
  split
  · rename_i passes
    simp [passes, eq_comm]
  · rename_i fails
    simp [fails]

theorem load_ok {arguments : Json} {document : Document} {d : Diagram}
    (accepted : Document.accept arguments = .ok document) (loads : document.loaded = .ok d) :
    (load arguments).value = .ok (.diagram d) := by
  simp only [load, accepted, Except.bind, loads, Noted.quiet]

end Operation

namespace Document

theorem accept_answer (d : Document) : accept (answerJson (.ok (.document d))) = .ok d := by
  have same : accept (answerJson (.ok (.document d))) = accept d.json := rfl
  rw [same, accept_json]

end Document

namespace Diagram

/-- A diagram that is stored and loaded again comes back in its normal form. -/
theorem store_load_normal {payload : Json} {d : Diagram} {outcome : Outcome}
    (accepted : accept payload = .ok d) (stores : (Operation.store payload).value = .ok outcome) :
    (Operation.audit (answerJson (.ok outcome))).value = .ok (.report .sound) ∧
      (Operation.load (answerJson (.ok outcome))).value = .ok (.diagram d.normal) ∧
      ∀ g : Diagram, g.normal.normal = g.normal := by
  obtain ⟨sound, rfl⟩ := (Operation.store_ok accepted).mp stores
  refine ⟨?_, ?_, normal_normal⟩
  · have report : Audit.checkDocument (answerJson (.ok (.document d.stored))) = .sound :=
      Audit.sound_of_isSound (Audit.isSound_json d.stored |>.mpr sound)
    rw [Operation.audit, report]
  · exact Operation.load_ok (Document.accept_answer d.stored) d.loaded_stored

def libraryPayload : Json :=
  .object
    [ ("entities", .list
        [ .object
            [ ("id", .text "1"), ("position", .object [("x", .int 10), ("y", .text " 2.5 ")]),
              ("attributes", .list
                [ .object
                    [ ("name", .text "isbn"),
                      ("constraint", .object
                        [ ("required", .text "yes"), ("unique", .int 1), ("updated_at", .bool true),
                          ("default_value", .text "0") ]) ],
                  .object
                    [ ("name", .text "pages"), ("type", .text "Int"),
                      ("constraint", .object
                        [("required", .bool true), ("defaultValue", .text [])]) ] ]) ],
          .object [("id", .text "2"), ("name", .text "Author")] ]),
      ("relations", .list
        [ .object
            [ ("id", .text "r"), ("source_entity_id", .text "2"), ("targetEntityId", .text "1"),
              ("relationType", .text []) ] ]) ]

def library : Diagram where
  entities :=
    [ { id := "1", position := ⟨.ofNat 10, .ofRatio false 5 2⟩, attributes :=
        [ { name := "isbn", constraint :=
            { required := true, unique := true, updatedAt := true, defaultValue := some "0".toList } },
          { name := "pages", type := .int,
            constraint := { required := true, defaultValue := some [] } } ] },
      { id := "2", name := "Author" } ]
  relations := [ { id := "r", source := "2", target := "1", type := [] } ]

theorem library_normal : accept libraryPayload = .ok library ∧
    (Operation.store libraryPayload).value = .ok (.document library.stored) ∧
    (Operation.audit (answerJson (.ok (.document library.stored)))).value = .ok (.report .sound) ∧
    (Operation.load (answerJson (.ok (.document library.stored)))).value =
      .ok (.diagram library.normal) ∧ ∀ g : Diagram, g.normal.normal = g.normal := by
  have accepted : accept libraryPayload = .ok library := rfl
  have sound : library.stored.Sound := ⟨by decide, by decide, by decide⟩
  have stores := (Operation.store_ok accepted).mpr ⟨sound, rfl⟩
  exact ⟨accepted, stores, store_load_normal accepted stores⟩

example : library.normal.entities.map (fun e => e.attributes.map fun a => a.constraint.required) =
    [[false, true], []] := by decide

end Diagram
end DiagramSchema
