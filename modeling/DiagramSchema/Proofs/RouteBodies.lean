import DiagramSchema.Proofs.Counterparts
import DiagramSchema.Proofs.DecodedParts
import DiagramSchema.Service.Route

/-! Bodies of requests, and what routes hand on of them. The check of a body refuses only what the
operation behind the route would refuse, and what is handed on is the same to the operation as the body
itself; but a document with a part left out is not. -/
namespace DiagramSchema

def Route.post (route : Route) (body : Json) : HttpRequest := ⟨"POST", route.path, some body⟩

theorem Service.respond_post (service : Service) {route : Route} (posted : route.method = "POST")
    (body : Json) : service.respond (route.post body) = service.respondAt (some body) route := by
  have reached : Route.ofPath? (Target.path route.path) = some route := by
    cases route <;> decide
  have method : ("POST".toList : Text).map Char.toUpper = "POST" := by decide
  unfold respond
  dsimp only [Route.post]
  rw [method, if_neg (by decide), respondTo, reached]
  dsimp only
  rw [if_pos posted.symm]

theorem Service.run_object (decode : Decoder Json) (fields : List (Text × Json))
    (operation : Json → Noted (Except Refusal Outcome)) :
    (run decode (some (.object fields)) operation).value =
      match decode (.object fields) with
      | .ok arguments => .ofResult (operation arguments).value
      | .refused problems => .detail 422
        (.list ((problems.map fun p => ⟨.key "body" :: p.path, p.fault⟩).map Problem.json)) := by
  have check : Body.check decode (some (.object fields)) =
      (decode (.object fields)).under (.key "body") := rfl
  rw [run, check]
  cases decode (.object fields) with
  | ok arguments => rfl
  | refused problems => rfl

namespace Body

theorem list_object_eq_ok {items values : List Json} :
    Decoder.list object (.list items) = .ok values ↔
      (∀ item ∈ items, ∃ fields, item = .object fields) ∧ items = values := by
  have object_eq_ok {json value : Json} : object json = .ok value ↔
      (∃ fields, json = .object fields) ∧ json = value := by
    cases json <;> simp [object, Checked.fault]
  rw [Decoder.list_eq_ok]
  simp only [object_eq_ok]
  rw [List.forall₂_and_left, List.forall₂_eq_eq_eq]

theorem part_read {fields : List (Text × Json)} {key : Text} {items : List Json}
    (read : Decoder.fieldOr fields (.of key) [] (Decoder.list object) = .ok items) :
    Json.isListField fields key = true ∧ ∀ {α : Type} (item : Decoder α),
      Decoder.fieldOr fields (.of key) [] (Decoder.list item) =
        (Decoder.list item (.list items)).under (.key key) := by
  rw [Decoder.fieldOr_of] at read
  rw [Json.isListField]
  cases found : fields.lookup key with
  | none =>
    rw [found] at read
    obtain rfl := Checked.ok.inj read
    exact ⟨rfl, fun item => by rw [Decoder.fieldOr_of, found]; rfl⟩
  | some json =>
    rw [found] at read
    cases json with
    | list given =>
      obtain ⟨-, rfl⟩ := list_object_eq_ok.mp (Checked.under_eq_ok.mp read)
      exact ⟨rfl, fun item => by rw [Decoder.fieldOr_of, found]⟩
    | _ => exact absurd (Checked.under_eq_ok.mp read) (by simp [Decoder.list, Checked.fault])

theorem part_refused {fields : List (Text × Json)} {key : Text} {problems : List Problem}
    (refused : Decoder.fieldOr fields (.of key) [] (Decoder.list object) = .refused problems)
    (isList : Json.isListField fields key = true) {α : Type} {item : Decoder α}
    (onObjects : ∀ json value, item json = .ok value → ∃ parts, json = .object parts)
    (values : List α) : Decoder.fieldOr fields (.of key) [] (Decoder.list item) ≠ .ok values := by
  rw [Decoder.fieldOr_of] at refused ⊢
  rw [Json.isListField] at isList
  intro read
  cases found : fields.lookup key with
  | none =>
    rw [found] at refused
    exact absurd refused (by simp)
  | some json =>
    rw [found] at refused isList read
    cases json with
    | list given =>
      have each := Decoder.list_eq_ok.mp (Checked.under_eq_ok.mp read)
      have objects : Decoder.list object (.list given) = .ok given := by
        refine list_object_eq_ok.mpr ⟨fun json member => ?_, rfl⟩
        obtain ⟨value, -, decoded⟩ := Counterparts.of_mem each json member
        exact onObjects json value decoded
      dsimp only at refused
      rw [objects] at refused
      exact absurd refused (by simp)
    | _ => exact absurd isList (by simp)

theorem accept_parts {fields : List (Text × Json)} {d : Diagram}
    (accepted : Diagram.accept (.object fields) = .ok d) :
    (Json.isListField fields "entities" = true ∧
      Decoder.fieldOr fields (.of "entities") [] (Decoder.list Entity.decode) = .ok d.entities) ∧
    (Json.isListField fields "relations" = true ∧
      Decoder.fieldOr fields (.of "relations") [] (Decoder.list Relation.decode) =
        .ok d.relations) := by
  rw [Diagram.accept] at accepted
  split at accepted
  · rename_i lists
    obtain ⟨entities, relations⟩ := Bool.and_eq_true_iff.mp lists
    split at accepted
    · rename_i decoded
      obtain rfl := Except.ok.inj accepted
      obtain ⟨_, _, first, second, rfl⟩ := Checked.seq_eq_ok.mp decoded
      obtain ⟨_, third, rfl⟩ := Checked.map_eq_ok.mp first
      exact ⟨⟨entities, third⟩, relations, second⟩
    · exact absurd accepted (by simp)
  · exact absurd accepted (by simp)

theorem diagram_cases (fields : List (Text × Json)) :
    (∃ arguments, diagram (.object fields) = .ok arguments ∧
      Diagram.accept arguments = Diagram.accept (.object fields)) ∨
    ∃ problems cause, diagram (.object fields) = .refused problems ∧
      Diagram.accept (.object fields) = .error cause := by
  have onEntities (json : Json) (e : Entity) : Entity.decode json = .ok e →
      ∃ parts, json = .object parts := Decoder.isObject_of_record
  have onRelations (json : Json) (r : Relation) : Relation.decode json = .ok r →
      ∃ parts, json = .object parts := Decoder.isObject_of_record
  have refuses (problem : ∀ d, Diagram.accept (.object fields) ≠ .ok d) :
      ∃ cause, Diagram.accept (.object fields) = .error cause := by
    cases outcome : Diagram.accept (.object fields) with
    | error cause => exact ⟨cause, rfl⟩
    | ok d => exact absurd outcome (problem d)
  have body : diagram (.object fields) =
      (fun entities relations =>
        Json.object [("entities", .list entities), ("relations", .list relations)])
        <$> Decoder.fieldOr fields (.of "entities") [] (Decoder.list object)
        <*> Decoder.fieldOr fields (.of "relations") [] (Decoder.list object) := rfl
  rw [body]
  cases atEntities : Decoder.fieldOr fields (.of "entities") [] (Decoder.list object) with
  | refused problems =>
    obtain ⟨cause, fails⟩ := refuses fun d accepted =>
      part_refused atEntities (accept_parts accepted).1.1 onEntities _ (accept_parts accepted).1.2
    refine Or.inr ?_
    cases Decoder.fieldOr fields (.of "relations") [] (Decoder.list object) with
    | refused more => exact ⟨_, cause, rfl, fails⟩
    | ok relations => exact ⟨_, cause, rfl, fails⟩
  | ok entities =>
    cases atRelations : Decoder.fieldOr fields (.of "relations") [] (Decoder.list object) with
    | refused problems =>
      obtain ⟨cause, fails⟩ := refuses fun d accepted =>
        part_refused atRelations (accept_parts accepted).2.1 onRelations _ (accept_parts accepted).2.2
      exact Or.inr ⟨_, cause, rfl, fails⟩
    | ok relations =>
      obtain ⟨entitiesListed, sameEntities⟩ := part_read atEntities
      obtain ⟨relationsListed, sameRelations⟩ := part_read atRelations
      refine Or.inl ⟨_, rfl, ?_⟩
      have decoded : Diagram.decode (.object fields) = Diagram.decode
          (.object [("entities", .list entities), ("relations", .list relations)]) := by
        show Diagram.mk
          <$> Decoder.fieldOr fields (.of "entities") [] (Decoder.list Entity.decode)
          <*> Decoder.fieldOr fields (.of "relations") [] (Decoder.list Relation.decode) = _
        rw [sameEntities, sameRelations]
        rfl
      rw [Diagram.accept, Diagram.accept, entitiesListed, relationsListed, decoded]
      rfl

/-- What a body is read as is the same to an operation as the body, and a body that is refused is
refused by the operation too. -/
def StandsFor (decode : Decoder Json) (operation : Json → Noted (Except Refusal Outcome))
    (fields : List (Text × Json)) : Prop :=
  (∃ arguments, decode (.object fields) = .ok arguments ∧
    (operation arguments).value = (operation (.object fields)).value) ∨
  ∃ problems refusal, decode (.object fields) = .refused problems ∧
    (operation (.object fields)).value = .error refusal

variable {fields : List (Text × Json)}

theorem emit_standsFor : StandsFor diagram (fun arguments => Operation.emit arguments {}) fields := by
  rcases diagram_cases fields with ⟨arguments, read, same⟩ | ⟨problems, cause, refused, fails⟩
  · refine Or.inl ⟨arguments, read, ?_⟩
    dsimp only
    rw [Operation.emit, Operation.emit, same]
  · refine Or.inr ⟨problems, .malformedDiagram cause, refused, ?_⟩
    dsimp only
    rw [Operation.emit, fails]
    rfl

theorem store_standsFor : StandsFor diagram Operation.store fields := by
  rcases diagram_cases fields with ⟨arguments, read, same⟩ | ⟨problems, cause, refused, fails⟩
  · exact Or.inl ⟨arguments, read, by rw [Operation.store, Operation.store, same]⟩
  · refine Or.inr ⟨problems, .malformedDiagram cause, refused, ?_⟩
    rw [Operation.store, fails]
    rfl

theorem recover_standsFor : StandsFor schema Operation.recover fields := by
  have body : schema (.object fields) = (fun schema => Json.object [("schema", .text schema)])
    <$> Decoder.field fields (.of "schema") Decoder.text := rfl
  have given : (Json.object fields).get? "schema" = fields.lookup "schema".toList := rfl
  rw [StandsFor, body, Decoder.field, Decoder.FieldName.find?, Decoder.FieldName.of, Operation.recover,
    given]
  cases fields.lookup "schema".toList with
  | none => exact Or.inr ⟨_, .schemaNotText, rfl, rfl⟩
  | some json =>
    cases json with
    | text schema => exact Or.inl ⟨.object [("schema", .text schema)], rfl, rfl⟩
    | _ => exact Or.inr ⟨_, .schemaNotText, rfl, rfl⟩

theorem document_read (fields : List (Text × Json)) : document (.object fields) =
    .ok (.object [("models", (Json.object fields).getOrNull "models"),
      ("relations", (Json.object fields).getOrNull "relations")]) := by
  have body : document (.object fields) =
      (fun models relations => Json.object [("models", models), ("relations", relations)])
        <$> Decoder.fieldOr fields (.of "models") .null .ok
        <*> Decoder.fieldOr fields (.of "relations") .null .ok := rfl
  have given (key : Text) : Decoder.fieldOr fields (.of key) .null .ok =
      .ok ((Json.object fields).getOrNull key) := by
    have looked : (Json.object fields).getOrNull key = (fields.lookup key).getD .null := rfl
    rw [Decoder.fieldOr_of, looked]
    cases fields.lookup key <;> rfl
  rw [body, given, given]
  rfl

theorem audit_standsFor : StandsFor document Operation.audit fields :=
  Or.inl ⟨_, document_read fields, rfl⟩

def IsWhole (fields : List (Text × Json)) : Prop :=
  fields.lookup "models".toList ≠ none ∧ fields.lookup "relations".toList ≠ none

theorem accept_whole (whole : IsWhole fields) : Document.accept
    (.object [("models", (Json.object fields).getOrNull "models"),
      ("relations", (Json.object fields).getOrNull "relations")]) = Document.accept (.object fields) := by
  obtain ⟨models, atModels⟩ := Option.ne_none_iff_exists'.mp whole.1
  obtain ⟨relations, atRelations⟩ := Option.ne_none_iff_exists'.mp whole.2
  have inModels : (Json.object fields).getOrNull "models" = models := congrArg (·.getD .null) atModels
  have inRelations : (Json.object fields).getOrNull "relations" = relations :=
    congrArg (·.getD .null) atRelations
  have isModels : Json.isListField fields "models" =
      Json.isListField [("models", models), ("relations", relations)] "models" := by
    rw [Json.isListField, Json.isListField, atModels]
    rfl
  have isRelations : Json.isListField fields "relations" =
      Json.isListField [("models", models), ("relations", relations)] "relations" := by
    rw [Json.isListField, Json.isListField, atRelations]
    rfl
  have decoded : Document.decode (.object fields) =
      Document.decode (.object [("models", models), ("relations", relations)]) := by
    rw [Document.decode, Decoder.record, Decoder.record, Decoder.fieldOr_of_lookup _ atModels,
      Decoder.fieldOr_of_lookup _ atRelations]
    rfl
  rw [inModels, inRelations, Document.accept, Document.accept, isModels, isRelations, decoded]

theorem load_standsFor (whole : IsWhole fields) : StandsFor document Operation.load fields := by
  refine Or.inl ⟨_, document_read fields, ?_⟩
  rw [Operation.load, Operation.load, accept_whole whole]

theorem load_leftOut (leftOut : ¬IsWhole fields) : ∃ cause, Document.accept
    (.object [("models", (Json.object fields).getOrNull "models"),
      ("relations", (Json.object fields).getOrNull "relations")]) = .error cause := by
  have absent : fields.lookup "models".toList = none ∨ fields.lookup "relations".toList = none := by
    by_contra present
    exact leftOut (not_or.mp present)
  refine ⟨.notLists "models and relations", ?_⟩
  rw [Document.accept, if_neg]
  rw [Bool.and_eq_true_iff]
  rintro ⟨models, relations⟩
  rcases absent with away | away
  · have null : (Json.object fields).getOrNull "models" = .null := congrArg (·.getD .null) away
    rw [null] at models
    exact Bool.false_ne_true models
  · have null : (Json.object fields).getOrNull "relations" = .null := congrArg (·.getD .null) away
    rw [null] at relations
    exact Bool.false_ne_true relations

end Body

end DiagramSchema
