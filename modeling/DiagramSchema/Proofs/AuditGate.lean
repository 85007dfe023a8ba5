import DiagramSchema.Proofs.AuditedDocument

/-! What the audit leaves to the loading of a document. The audit looks at the outline of a model:
it does not look into the entries of its fields, and it takes any integer for a coordinate. A
document that passes can be loaded if and only if these are as they have to be. -/
namespace DiagramSchema

namespace Json

/-- A coordinate that is no integer beyond the range of doubles. -/
def InRange : Json → Prop
  | .int value => ∀ negative, Binary64.ofInt value ≠ .infinite negative
  | _ => True

/-- A stored field whose type, unless it is left out or empty, is a scalar type. -/
def IsField (entry : Json) : Prop :=
  ∃ f, StoredField.decode entry = .ok f ∧ (f.type = [] ∨ ∃ type : ScalarType, f.type = type.name)

/-- A model of which the parts that the audit does not look at can be loaded. -/
structure IsLoadable (model : Json) : Prop where
  x : ((model.getOrNull "position").getOrNull "x").InRange
  y : ((model.getOrNull "position").getOrNull "y").InRange
  fields : ∀ entry ∈ (model.getOrNull "fields").items, entry.IsField

theorem number_decoded {json : Json} (number : Audit.isNumber json = true) :
    (∃ value, Decoder.number json = .ok value) ↔ json.InRange := by
  cases json with
  | int value =>
    rw [Decoder.number, InRange]
    generalize Binary64.ofInt value = rounded
    cases rounded with
    | infinite negative => cases negative <;> simp [Checked.fault]
    | _ => simp
  | float value => simp [Decoder.number, InRange]
  | _ => exact absurd number (by simp [Audit.isNumber])

theorem place_decoded {place : Json} (sound : Audit.isPlace place = true) :
    (∃ p, Position.decode place = .ok p) ↔
      (place.getOrNull "x").InRange ∧ (place.getOrNull "y").InRange := by
  simp only [Audit.isPlace, Bool.and_eq_true] at sound
  obtain ⟨⟨isObject, hasX⟩, hasY⟩ := sound
  obtain ⟨parts, rfl⟩ := Audit.isObject_iff.mp isObject
  have given {key : Text} (number : Audit.isNumber ((object parts).getOrNull key) = true) :
      (object parts).get? key = some ((object parts).getOrNull key) := by
    refine get_of_getOrNull rfl fun null => ?_
    rw [null] at number
    exact absurd number (by decide)
  rw [← number_decoded hasX, ← number_decoded hasY, Position.decode, Decoder.record,
    Decoder.fieldOr_of_lookup (.of "x") (given hasX),
    Decoder.fieldOr_of_lookup (.of "y") (given hasY)]
  simp only [Checked.seq_eq_ok, Checked.map_eq_ok, Checked.under_eq_ok]
  constructor
  · rintro ⟨p, _, y, ⟨x, first, rfl⟩, second, -⟩
    exact ⟨⟨x, first⟩, y, second⟩
  · rintro ⟨⟨x, first⟩, y, second⟩
    exact ⟨⟨x, y⟩, _, y, ⟨x, first, rfl⟩, second, rfl⟩

theorem model_loads {model : Json} (faultless : Audit.modelFault? model = none) :
    (∃ m, StoredModel.decode model = .ok m ∧ ∃ e, m.loaded = .ok e) ↔ model.IsLoadable := by
  obtain ⟨nodeId, name, -, -, -, parts⟩ := Audit.decode_model faultless
  obtain ⟨-, -, -, place, -⟩ := Audit.modelFault_eq_none.mp faultless
  constructor
  · rintro ⟨m, decoded, loads⟩
    obtain ⟨-, -, placed, entries⟩ := (parts m).mp decoded
    obtain ⟨x, y⟩ := (place_decoded place).mp ⟨_, placed⟩
    refine ⟨x, y, fun entry member => ?_⟩
    obtain ⟨f, inside, read⟩ := Counterparts.of_mem entries entry member
    exact ⟨f, read, f.loads_iff.mp (m.loads_iff.mp loads f inside)⟩
  · rintro ⟨x, y, fields⟩
    obtain ⟨p, placed⟩ := (place_decoded place).mpr ⟨x, y⟩
    obtain ⟨stored, entries⟩ := Counterparts.exists_iff.mpr fields
    refine ⟨⟨nodeId, name, p, stored⟩, (parts _).mpr ⟨rfl, rfl, placed, ?_⟩, ?_⟩
    · exact entries.imp fun _ _ entry => entry.1
    · refine (StoredModel.loads_iff _).mpr fun f member => ?_
      obtain ⟨_, _, entry⟩ := Counterparts.of_mem entries.flip f member
      exact f.loads_iff.mpr entry.2

end Json

namespace Operation

theorem loads_iff {given : Json} : (∃ d, (load given).value = .ok (.diagram d)) ↔
    ∃ document, Document.accept given = .ok document ∧ ∃ d, document.loaded = .ok d := by
  unfold load
  cases Document.accept given with
  | error cause => simp [Except.bind, Noted.quiet]
  | ok document => cases loads : document.loaded <;> simp [Except.bind, loads, Noted.quiet]

/-- A document that passes the audit can be loaded if and only if the coordinates of its models are
within range and the entries of their fields are fields. -/
theorem load_of_audited {given : Json} (passes : (audit given).value = .ok (.report .sound)) :
    (∃ d, (load given).value = .ok (.diagram d)) ↔
      ∀ model ∈ (given.getOrNull "models").items, model.IsLoadable := by
  have sound : (Audit.checkDocument given).isSound = true := by
    have report : Audit.checkDocument given = .sound := by simpa [audit] using passes
    rw [report]
    rfl
  obtain ⟨models, relations, atModels, -, faultless, -⟩ := Audit.isSound_iff.mp sound
  rw [loads_iff, Document.loads_audited sound, atModels]
  exact forall₂_congr fun model member => Json.model_loads (faultless model member)

def single (x y : Json) (fields : List Json) : Json :=
  .object
    [ ("models", .list
        [ .object
            [ ("nodeId", .text "1"), ("name", .text "book"),
              ("position", .object [("x", x), ("y", y)]), ("fields", .list fields) ] ]),
      ("relations", .list
        [ .object
            [ ("edgeId", .text "r"), ("sourceModelId", .text "1"), ("targetModelId", .text "1"),
              ("relationType", .text "n") ] ]) ]

def isbnField : Json :=
  .object
    [ ("name", .text "isbn"), ("type", .text []), ("is_optional", .text "No"),
      ("constraints", .list
        [.object [("type", .text "unique")],
          .object [("type", .text "default"), ("value", .text "0")]]) ]

def pagesField : Json := .object [("name", .text "pages"), ("type", .text "Int"), ("isList", .int 1)]

def catalog : Json := single (.int (-3)) (.float .nan) [isbnField, pagesField]

theorem catalog_loads : (audit catalog).value = .ok (.report .sound) ∧
    (∀ model ∈ (catalog.getOrNull "models").items, model.IsLoadable) ∧
    ∃ d, (load catalog).value = .ok (.diagram d) := by
  have passes : (audit catalog).value = .ok (.report .sound) := by rfl
  have isbn : isbnField.IsField :=
    ⟨⟨"isbn", [], false, false, [.unique, .default "0"], none⟩, rfl, Or.inl rfl⟩
  have pages : pagesField.IsField :=
    ⟨⟨"pages", "Int", true, true, [], none⟩, rfl, Or.inr ⟨.int, rfl⟩⟩
  have loadable : ∀ model ∈ (catalog.getOrNull "models").items, model.IsLoadable := by
    intro model member
    obtain rfl := List.mem_singleton.mp member
    refine ⟨(by decide : ∀ negative, Binary64.ofInt (-3) ≠ .infinite negative), trivial, ?_⟩
    exact List.forall_mem_cons.mpr ⟨isbn, List.forall_mem_singleton.mpr pages⟩
  exact ⟨passes, loadable, (load_of_audited passes).mpr loadable⟩

def unloadable : List Json :=
  [ single (.int 0) (.int 0) [.object []],
    single (.int 0) (.int 0) [.object [("name", .text "isbn"), ("type", .text "Text")]],
    single (.int (Binary64.twoTo 1024)) (.int 0) [] ]

theorem unloadable_audited : unloadable.Forall fun given =>
    (audit given).value = .ok (.report .sound) ∧ (load given).value.isOk = false := by
  simp only [unloadable, List.Forall]
  exact ⟨⟨rfl, rfl⟩, ⟨rfl, rfl⟩, rfl, by decide +kernel⟩

end Operation
end DiagramSchema
