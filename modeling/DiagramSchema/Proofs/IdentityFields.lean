import DiagramSchema.Proofs.Counterparts
import DiagramSchema.Proofs.RecoveredDiagram

/-! Which fields of the models in a text a diagram keeps. A field is the identity of its model if its
name is `id` and the mark `@id` stands among its decorators, outside of literals. But a field is left
out for the mark alone, whatever its name, and also if the mark is a word within a literal. No field is
lost if and only if no other field holds the mark. -/
namespace DiagramSchema
open Text

namespace Field

/-- Whether a literal is open behind a text. A double quote behind a backslash neither opens a literal
nor ends one. -/
def endsQuoted (previous : Option Char) (quoted : Bool) : Text → Bool
  | [] => quoted
  | c :: rest =>
    endsQuoted (some c) (if c == '"' && previous != some '\\' then !quoted else quoted) rest

def unquoted (quoted : Bool) : List Text → List Text
  | [] => []
  | word :: rest =>
    if quoted then unquoted (endsQuoted none quoted word) rest
    else word :: unquoted (endsQuoted none quoted word) rest

def IsIdentityLine (f : Field) : Prop :=
  f.name = "id" ∧ ("@id" : Text) ∈ unquoted false (words f.decorators)

instance (f : Field) : Decidable f.IsIdentityLine :=
  inferInstanceAs (Decidable (f.name = "id" ∧ ("@id" : Text) ∈ unquoted false (words f.decorators)))

theorem unquoted_sublist (quoted : Bool) (ws : List Text) : (unquoted quoted ws).Sublist ws := by
  induction ws generalizing quoted with
  | nil => exact List.Sublist.refl []
  | cons word rest ih =>
    cases quoted with
    | true => exact (ih _).cons word
    | false => exact (ih _).cons_cons word

theorem isIdentity_of_line {f : Field} (line : f.IsIdentityLine) : f.isIdentity = true := by
  rw [isIdentity, isDecoratedWith, List.contains_iff_mem]
  exact (unquoted_sublist false _).subset line.2

end Field

namespace Model

variable {models : List Model} {m : Model}

/-- The fields of scalar types that neither link their model to another nor are its identity. -/
def dueFields (models : List Model) (m : Model) : List Field :=
  m.fields.filter fun f =>
    (ScalarType.ofName? f.type).isSome && !isNameAmong models f.type && !decide f.IsIdentityLine

def dueAttributes (models : List Model) (m : Model) : List Attribute :=
  (m.dueFields models).filterMap Field.attribute?

def lostFields (models : List Model) (m : Model) : List Field :=
  (m.dueFields models).filter Field.isIdentity

theorem attributes_eq (models : List Model) (m : Model) : m.attributes models =
    ((m.dueFields models).filter fun f => !f.isIdentity).filterMap Field.attribute? := by
  rw [attributes, plainFields, dueFields, List.filter_filter, List.filterMap_filter,
    List.filterMap_filter]
  refine List.filterMap_congr fun f _ => ?_
  cases marked : f.isIdentity with
  | true => rfl
  | false =>
    have other : ¬f.IsIdentityLine := fun line => by
      rw [Field.isIdentity_of_line line] at marked
      exact absurd marked (by decide)
    cases scalar : ScalarType.ofName? f.type with
    | none => simp [Field.attribute?, scalar]
    | some type => simp [other]

theorem length_due {fields : List Field} (due : fields ⊆ m.dueFields models) :
    (fields.filterMap Field.attribute?).length = fields.length := by
  rw [List.length_filterMap_eq_countP, List.countP_eq_length]
  intro f member
  have scalar := (List.mem_filter.mp (due member)).2
  simp only [Bool.and_eq_true] at scalar
  rw [Field.attribute?, Option.isSome_map]
  exact scalar.1.1

theorem length_attributes (models : List Model) (m : Model) :
    (m.attributes models).length + (m.lostFields models).length =
      (m.dueAttributes models).length := by
  rw [attributes_eq, length_due (List.filter_subset_self _), dueAttributes, length_due (List.Subset.refl _),
    lostFields, Nat.add_comm]
  exact (List.length_eq_length_filter_add _).symm

theorem attributes_complete_iff :
    m.attributes models = m.dueAttributes models ↔ m.lostFields models = [] := by
  constructor
  · intro same
    have count := length_attributes models m
    rw [same] at count
    exact List.length_eq_zero_iff.mp (by omega)
  · intro none
    have kept : (m.dueFields models).filter (fun f => !f.isIdentity) = m.dueFields models :=
      List.filter_eq_self.mpr fun f member => by
        simpa using List.filter_eq_nil_iff.mp none f member
    rw [attributes_eq, kept, dueAttributes]

/-- What an entity keeps of its model: the attributes of the due fields without the mark, and all of
them if and only if none of the due fields holds it. -/
structure Kept (models : List Model) (m : Model) (e : Entity) : Prop where
  id : e.id = m.name
  attributes :
    e.attributes = ((m.dueFields models).filter fun f => !f.isIdentity).filterMap Field.attribute?
  complete : e.attributes = m.dueAttributes models ↔ m.lostFields models = []

theorem diagram_kept (models : List Model) :
    List.Forall₂ (Kept models) models (diagram models).entities :=
  Counterparts.zipWith (Grid.length_positions models.length).ge fun m _ _ =>
    ⟨rfl, attributes_eq models m, attributes_complete_iff⟩

end Model

namespace Diagram

/-- The entities of a diagram that is read from a text are those of its models, in order, and they
lack the fields that hold the mark without being the identity of their model, and no others. -/
theorem fields_kept {text : Text} {g : Diagram} (found : ofSchema text = .ok g) :
    List.Forall₂ (Model.Kept (Model.all text)) (Model.all text) g.entities := by
  rw [ofSchema_eq found]
  exact Model.diagram_kept (Model.all text)

def diary : Text :=
  "model Day \x7b\n  note String? @default(\"see @id here\")\n  page Int\n\x7d\n" ++
  "model Tag \x7b\n  id String @default(\"\") @id\n  word String @unique\n\x7d\n"

def diaryDiagram : Diagram where
  entities :=
    [ { id := "Day", name := "Day", position := ⟨.ofNat 0, .ofNat 0⟩, attributes :=
        [ { name := "page", type := .int, constraint := { required := true } } ] },
      { id := "Tag", name := "Tag", position := ⟨.ofNat 320, .ofNat 0⟩, attributes :=
        [ { name := "word", type := .string, constraint := { required := true, unique := true } } ] } ]

theorem ofSchema_diary : ofSchema diary = .ok diaryDiagram := by decide +kernel

theorem diary_kept : ofSchema diary = .ok diaryDiagram ∧
    List.Forall₂ (Model.Kept (Model.all diary)) (Model.all diary) diaryDiagram.entities :=
  ⟨ofSchema_diary, fields_kept ofSchema_diary⟩

theorem marked_note_lost : ofSchema diary = .ok diaryDiagram ∧
    ¬ ∀ text g, ofSchema text = .ok g → g.entities.map Entity.attributes =
      (Model.all text).map (Model.dueAttributes (Model.all text)) := by
  refine ⟨ofSchema_diary, fun complete => ?_⟩
  exact absurd (complete diary diaryDiagram ofSchema_diary) (by decide +kernel)

end Diagram
end DiagramSchema
