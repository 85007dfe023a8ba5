import DiagramSchema.Proofs.DefaultPlace

/-! The default of one attribute, whatever its text. As long as the text of the default neither
hides nor shows a decorator, and no block comment begins or ends in it without doing both, it changes
nothing but the default of one attribute in the diagram that comes back. -/
namespace DiagramSchema
open Text

def Entity.DefaultApart (f : Field) (value : Option Text) (x y : Entity) : Prop :=
  ∃ j, y = x.withDefault j value ∧ ∀ a, x.attributes[j]? = some a → f.attribute? = some a

namespace Model

variable {f g : Field} {models others : List Model}

theorem isNameAmong_apart (apart : OneApart (OneFieldApart f g) models others) :
    isNameAmong models = isNameAmong others := by
  funext type
  have names := apart.map_eq fun m n same => (same.1 : m.name = n.name)
  have shown (l : List Model) : isNameAmong l type = (l.map Model.name).any (· == type) := by
    simp [isNameAmong, List.any_map, Function.comp_def]
  rw [shown, shown, names]

theorem relations_apart (same : f.DefaultApart g)
    (apart : OneApart (OneFieldApart f g) models others) :
    relations models = relations others := by
  rw [relations, relations, links, links, isNameAmong_apart apart]
  congr 1
  refine apart.flatMap_eq ?_
  rintro ⟨name, fields⟩ ⟨other, rest⟩ ⟨rfl, fieldsApart⟩
  refine (fieldsApart.filter ?_).map_eq ?_
  · rintro a b ⟨rfl, rfl⟩
    rw [same.type]
  · rintro a b ⟨rfl, rfl⟩
    rw [relation, relation, same.type, same.isList]

theorem attributes_apart (same : f.DefaultApart g) {m n : Model} (fields : OneFieldApart f g m n) :
    OneApart (fun a b => f.attribute? = some a ∧ b = a.withDefault g.defaultValue)
      (m.attributes models) (n.attributes models) := by
  have plain : OneApart (fun a b => a = f ∧ b = g) (m.plainFields models) (n.plainFields models) := by
    refine fields.2.filter ?_
    rintro a b ⟨rfl, rfl⟩
    rw [same.noIdentity.1, same.noIdentity.2, same.type]
  refine plain.filterMap ?_
  rintro a b ⟨rfl, rfl⟩
  cases scalar : ScalarType.ofName? a.type with
  | none =>
    have other : ScalarType.ofName? b.type = none := same.type ▸ scalar
    left
    rw [Field.attribute?, Field.attribute?, scalar, other]
    rfl
  | some type =>
    have other : ScalarType.ofName? b.type = some type := same.type ▸ scalar
    have first : a.attribute? = some ⟨a.name, type, a.constraint⟩ := by
      rw [Field.attribute?, scalar]
      rfl
    have second : b.attribute? = some ⟨b.name, type, b.constraint⟩ := by
      rw [Field.attribute?, other]
      rfl
    refine Or.inr ⟨_, _, first, second, first, ?_⟩
    rw [same.constraint, ← same.name]
    rfl

theorem entity_apart (same : f.DefaultApart g) {m n : Model} (fields : OneFieldApart f g m n)
    (place : Position) :
    (m.entity models place).DefaultApart f g.defaultValue (n.entity models place) := by
  have attributes : OneApart (fun a b => f.attribute? = some a ∧ b = a.withDefault g.defaultValue)
      (m.attributes models) (n.attributes models) := attributes_apart same fields
  obtain ⟨j, _, modified, found⟩ := attributes.modify
    (f := fun (_ : Unit) a => a.withDefault g.defaultValue) (T := fun _ a => f.attribute? = some a)
    fun a b related => ⟨(), related.2, related.1⟩
  refine ⟨j, ?_, found⟩
  rw [entity, modified, ← fields.1]
  rfl

theorem diagram_apart (same : f.DefaultApart g)
    (apart : OneApart (OneFieldApart f g) models others) :
    ∃ i j, diagram others = (diagram models).withDefault i j g.defaultValue ∧
      ∀ a, (diagram models).attribute? i j = some a → f.attribute? = some a := by
  have count : others.length = models.length := by
    have names := congrArg List.length (apart.map_eq fun m n same => (same.1 : m.name = n.name))
    simpa using names.symm
  have entities : (fun (m : Model) place => m.entity others place) =
      fun m place => m.entity models place := by
    funext m place
    rw [entity, entity, attributes, attributes, plainFields, plainFields, isNameAmong_apart apart]
  have rest : OneApart (Entity.DefaultApart f g.defaultValue)
      (List.zipWith (fun m place => m.entity models place) models (Grid.positions models.length))
      (List.zipWith (fun m place => m.entity models place) others (Grid.positions models.length)) :=
    apart.zipWith _ fun m n place fields => entity_apart same fields place
  obtain ⟨i, j, modified, named⟩ := rest.modify
    (f := fun j (x : Entity) => x.withDefault j g.defaultValue)
    (T := fun j x => ∀ a : Attribute, x.attributes[j]? = some a → f.attribute? = some a)
    fun x y related => related
  refine ⟨i, j, ?_, ?_⟩
  · rw [diagram, count, entities, modified, ← relations_apart same apart]
    rfl
  · intro a found
    obtain ⟨x, atEntity, atAttribute⟩ := Option.bind_eq_some_iff.mp found
    exact named x atEntity a atAttribute

end Model

namespace Diagram

/-- Another default for one attribute changes nothing but the default of that attribute in the
diagram that comes back. -/
def HoldsAsData (d : Diagram) (i j : Nat) (value : Text) : Prop :=
  ∃ g, ofSchema ((d.withDefault i j none).schema {}) = .ok g ∧
    ∃ k l back, ofSchema ((d.withDefault i j (some value)).schema {}) = .ok (g.withDefault k l back) ∧
      ∀ b, g.attribute? k l = some b →
        ∃ a, d.attribute? i j = some a ∧ b = (a.withDefault none).recovered

theorem ofSchema_body (d : Diagram) : ofSchema (d.schema {}) = ofSchema (unlines d.sourceLines) := by
  rw [ofSchema, Model.all_body, ofSchema]

theorem ofSchema_nonempty {text : Text} (some : Model.all text ≠ []) :
    ofSchema text = .ok (Model.diagram (Model.all text)) := by
  unfold ofSchema
  cases models : Model.all text with
  | nil => exact absurd models some
  | cons m rest => rfl

/-- The text of a default is data: it reaches no other part of the diagram. -/
theorem default_is_data {d : Diagram} (named : d.Named) {i j : Nat} {e : Entity} {a : Attribute}
    (atEntity : d.entities[i]? = some e) (atAttribute : e.attributes[j]? = some a)
    (distinct : (e.attributes.map Attribute.name).Nodup) (noIdentity : a.isIdentity = false)
    (fresh : ∀ line ∈ d.contributedLines e.id, line.text ≠ (a.withDefault none).line.text)
    {value : Text} (oneLine : IsOneLine value)
    (keeps : (d.withDefault i j (some value)).KeepsComments i (a.withDefault (some value)).line.text)
    (shows : (a.withDefault (some value)).ShowsFlags) : d.HoldsAsData i j value := by
  have known : e ∈ d.entities := List.mem_of_getElem? atEntity
  have apart := named.models_apart atEntity atAttribute distinct noIdentity fresh oneLine keeps
  obtain ⟨k, l, changed, found⟩ := Model.diagram_apart (Attribute.shown_apart shows) apart
  have readable (value : Option Text) : ofSchema ((d.withDefault i j value).schema {}) =
      .ok (Model.diagram (Model.all ((d.withDefault i j value).schema {}))) :=
    ofSchema_nonempty (named.all_withDefault known i j value)
  refine ⟨_, readable none, k, l, (a.withDefault (some value)).shownField.defaultValue, ?_, ?_⟩
  · rw [readable, changed]
  · intro b atPlace
    refine ⟨a, ?_, ?_⟩
    · rw [attribute?, atEntity]
      exact atAttribute
    · have plain := a.withDefault_none_plain
      have shown := found b atPlace
      rw [Attribute.shown_plain plain, (Attribute.attribute_of_field plain).2] at shown
      exact (Option.some.inj shown).symm

def notebook : Diagram where
  entities :=
    [ { id := "1", name := "user" },
      { id := "2", name := "Note", attributes :=
        [ { name := "body", type := .json, constraint := { required := true } },
          { name := "title", constraint := { unique := true, defaultValue := some "/*".toList } } ] } ]
  relations := [ { id := "r", source := "1", target := "2", type := "1-m" } ]

theorem notebook_default : notebook.Named ∧
    notebook.HoldsAsData 1 0 "\"\x7d */5 /* @id */ model Note \x7b @default( // @id" := by
  have named : notebook.Named := by decide
  exact ⟨named, default_is_data named (i := 1) (j := 0) rfl rfl (by decide) (by decide) (by decide)
    (by decide) (by decide +kernel) (by decide +kernel)⟩

def withoutDefaults (d : Diagram) : List (List Attribute) :=
  d.entities.map fun e => e.attributes.map fun a => a.withDefault none

theorem withoutDefaults_withDefault (d : Diagram) (i j : Nat) (value : Option Text) :
    (d.withDefault i j value).withoutDefaults = d.withoutDefaults := by
  refine map_withDefault d i j value fun e => ?_
  have apart := OneApart.of_modify (fun a : Attribute => a.withDefault value) e.attributes j
  refine (apart.map_eq ?_).symm
  rintro a b rfl
  rfl

theorem not_data {d : Diagram} {i j : Nat} {value : Text}
    (differ : (ofSchema (unlines (d.withDefault i j none).sourceLines)).toOption.map withoutDefaults ≠
      (ofSchema (unlines (d.withDefault i j (some value)).sourceLines)).toOption.map withoutDefaults) :
    ¬ d.HoldsAsData i j value := by
  rintro ⟨g, first, k, l, back, second, _⟩
  rw [← ofSchema_body, ← ofSchema_body, first, second] at differ
  exact differ (congrArg some (g.withoutDefaults_withDefault k l back).symm)

def notes (attributes : List Attribute) : Diagram where
  entities := [ { id := "1", name := "Note", attributes } ]

def keyedTasks : Diagram where
  entities :=
    [ { id := "1", name := "User" },
      { id := "2", name := "Task", attributes :=
        [ { name := "userId", constraint := { required := true, isId := true } } ] } ]
  relations := [ { id := "r", source := "1", target := "2", type := "1-m" } ]

/-- Defaults that are more than data, each with a diagram and the place of an attribute in it. The
first keeps the line of the attribute from being the one that a relation contributes; the others
hide a flag, show an identity, and open and close a comment with another default. -/
def hostileDefaults : List (Diagram × Nat × Nat × Text) :=
  [ (keyedTasks, 1, 0, "x"),
    (notes [{ name := "url", constraint := { unique := true } }], 0, 0, "http://x"),
    (notes [{ name := "text" }], 0, 0, "a @id b"),
    (notes [{ name := "text" }, { name := "foot", constraint := { defaultValue := some "*/".toList } }],
      0, 0, "/*"),
    (notes [{ name := "head", constraint := { defaultValue := some "/*".toList } }, { name := "text" }],
      0, 1, "*/") ]

theorem hostile_not_data : hostileDefaults.Forall fun case => case.1.Named ∧
    (∀ e ∈ case.1.entities, (e.attributes.map Attribute.name).Nodup ∧
      ∀ a ∈ e.attributes, a.isIdentity = false) ∧
    (case.1.attribute? case.2.1 case.2.2.1).isSome ∧ IsOneLine case.2.2.2 ∧
    ¬ case.1.HoldsAsData case.2.1 case.2.2.1 case.2.2.2 := by
  simp only [hostileDefaults, List.Forall]
  refine ⟨?_, ?_, ?_, ?_, ?_⟩
  · exact ⟨by decide, by decide, by decide, by decide, not_data (by decide +kernel)⟩
  · exact ⟨by decide, by decide, by decide, by decide, not_data (by decide +kernel)⟩
  · exact ⟨by decide, by decide, by decide, by decide, not_data (by decide +kernel)⟩
  · exact ⟨by decide, by decide, by decide, by decide, not_data (by decide +kernel)⟩
  · exact ⟨by decide, by decide, by decide, by decide, not_data (by decide +kernel)⟩

end Diagram
end DiagramSchema
