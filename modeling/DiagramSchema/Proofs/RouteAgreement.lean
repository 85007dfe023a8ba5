import DiagramSchema.Proofs.RouteBodies
import DiagramSchema.Proofs.WritableAnswers

/-! Routes beside the operations behind them. A route answers with the result that its operation has on
the body itself, and every failure of the operation is the caller's fault. -/
namespace DiagramSchema

namespace Operation

variable {arguments : Json} {refusal : Refusal} {outcome : Outcome}

theorem emit_error {s : Settings} (refused : (emit arguments s).value = .error refusal) :
    ∃ cause, refusal = .malformedDiagram cause := by
  rw [emit] at refused
  split at refused
  · exact absurd refused (by simp [Noted.map])
  · exact ⟨_, (Except.error.inj refused).symm⟩

theorem recover_error (refused : (recover arguments).value = .error refusal) :
    refusal = .schemaNotText ∨ ∃ cause, refusal = .unreadable cause := by
  rw [recover] at refused
  split at refused
  · rw [Noted.map] at refused
    dsimp only at refused
    split at refused
    · exact absurd refused (by simp)
    · exact Or.inr ⟨_, (Except.error.inj refused).symm⟩
  · exact Or.inl (Except.error.inj refused).symm

theorem store_error (refused : (store arguments).value = .error refusal) :
    (∃ cause, refusal = .malformedDiagram cause) ∨ ∃ report, refusal = .unsound report := by
  rw [store] at refused
  split at refused
  · exact Or.inl ⟨_, (Except.error.inj refused).symm⟩
  · dsimp only at refused
    split at refused
    · exact absurd refused (by simp)
    · exact Or.inr ⟨_, (Except.error.inj refused).symm⟩

theorem load_error (refused : (load arguments).value = .error refusal) :
    ∃ cause, refusal = .malformedDocument cause := by
  rw [load] at refused
  split at refused
  · exact absurd refused (by simp [Noted.quiet])
  · exact ⟨_, (Except.error.inj refused).symm⟩

theorem emit_found {s : Settings} (found : (emit arguments s).value = .ok outcome) :
    ∃ emission, outcome = .emission emission := by
  rw [emit] at found
  split at found
  · exact ⟨_, (Except.ok.inj found).symm⟩
  · exact absurd found (by simp [Noted.quiet])

theorem recover_found (found : (recover arguments).value = .ok outcome) : ∃ schema d,
    arguments.get? "schema" = some (.text schema) ∧ Diagram.ofSchema schema = .ok d ∧
      outcome = .diagram d := by
  rw [recover] at found
  split at found
  · rename_i schema given
    rw [Noted.map, Diagram.recover] at found
    dsimp only at found
    split at found
    · rename_i d read
      exact ⟨schema, d, given, read, (Except.ok.inj found).symm⟩
    · exact absurd found (by simp)
  · exact absurd found (by simp [Noted.quiet])

end Operation

def Route.operation? : Route → Option (Json → Noted (Except Refusal Outcome))
  | .emit => some fun arguments => Operation.emit arguments {}
  | .recover => some Operation.recover
  | .store => some Operation.store
  | .load => some Operation.load
  | .audit => some Operation.audit
  | .assist | .health => none

theorem Route.status_of_refused {route : Route} {operation : Json → Noted (Except Refusal Outcome)}
    (offered : route.operation? = some operation) {arguments : Json} {refusal : Refusal}
    (refused : (operation arguments).value = .error refusal) : refusal.status = 400 := by
  cases route with
  | emit =>
    obtain rfl := Option.some.inj offered
    obtain ⟨_, rfl⟩ := Operation.emit_error refused
    rfl
  | recover =>
    obtain rfl := Option.some.inj offered
    rcases Operation.recover_error refused with rfl | ⟨_, rfl⟩ <;> rfl
  | store =>
    obtain rfl := Option.some.inj offered
    rcases Operation.store_error refused with ⟨_, rfl⟩ | ⟨_, rfl⟩ <;> rfl
  | load =>
    obtain rfl := Option.some.inj offered
    obtain ⟨_, rfl⟩ := Operation.load_error refused
    rfl
  | audit =>
    obtain rfl := Option.some.inj offered
    exact absurd refused (by simp [Operation.audit])
  | assist => exact absurd offered (by simp [operation?])
  | health => exact absurd offered (by simp [operation?])

/-- What counts as success. A report that finds faults is a result, but not a success of the route. -/
def Outcome.passes : Outcome → Bool
  | .report r => r.isSound
  | _ => true

namespace HttpResponse

theorem ofResult_success {outcome : Outcome} (passes : outcome.passes = true)
    (placed : outcome.IsPlaced) :
    ofResult (.ok outcome) = ⟨200, answerJson (.ok outcome)⟩ := by
  have written : success (answerJson (.ok outcome)) = ⟨200, answerJson (.ok outcome)⟩ :=
    if_pos (outcome.isWritable_iff.mpr placed)
  cases outcome with
  | report r =>
    have sound : r.isSound = true := passes
    rw [ofResult, if_pos sound]
    exact written
  | _ => exact written

theorem ofResult_faulty {outcome : Outcome} (faulty : outcome.passes = false) :
    (ofResult (.ok outcome)).status = 400 := by
  cases outcome with
  | report r =>
    have unsound : ¬r.isSound = true := Bool.eq_false_iff.mp faulty
    rw [ofResult, if_neg unsound]
    rfl
  | _ => exact absurd faulty (by simp [Outcome.passes])

/-- A success is answered as it is, if it can be written, and anything else is the caller's fault. -/
structure AgreesWith (result : Except Refusal Outcome) (response : HttpResponse) : Prop where
  success : ∀ outcome, result = .ok outcome → outcome.passes = true → outcome.IsPlaced →
    response = ⟨200, answerJson result⟩
  failure : (∀ outcome, result = .ok outcome → outcome.passes = false) →
    400 ≤ response.status ∧ response.status < 500

theorem agreesWith_ofResult {result : Except Refusal Outcome}
    (atFault : ∀ refusal, result = .error refusal → refusal.status = 400) :
    (ofResult result).AgreesWith result where
  success := by
    rintro outcome rfl passes placed
    exact ofResult_success passes placed
  failure fails := by
    have status : (ofResult result).status = 400 := by
      cases found : result with
      | ok outcome => exact ofResult_faulty (fails outcome found)
      | error refusal => exact atFault refusal found
    omega

end HttpResponse

theorem Service.run_agrees {decode : Decoder Json} {fields : List (Text × Json)}
    {operation : Json → Noted (Except Refusal Outcome)}
    (stands : Body.StandsFor decode operation fields)
    (atFault : ∀ refusal, (operation (.object fields)).value = .error refusal →
      refusal.status = 400) :
    (run decode (some (.object fields)) operation).value.AgreesWith
      (operation (.object fields)).value := by
  rw [run_object]
  rcases stands with ⟨arguments, read, same⟩ | ⟨problems, refusal, refused, fails⟩
  · rw [read]
    dsimp only
    rw [same]
    exact HttpResponse.agreesWith_ofResult atFault
  · rw [refused, fails]
    exact ⟨fun outcome succeeds => absurd succeeds (by simp), fun _ => by simp [HttpResponse.detail]⟩

/-- The schema text of a body has no more characters than a grid has finite places. -/
def Body.IsShort (fields : List (Text × Json)) : Prop :=
  ∀ schema, fields.lookup "schema".toList = some (.text schema) → schema.length ≤ Grid.capacity

/-- The routes agree with the operations behind them. Only a document may not have a part left out, and
coordinates that are not finite come from diagrams and documents alone. -/
theorem Service.routes_agree (service : Service) {route : Route}
    {operation : Json → Noted (Except Refusal Outcome)} (offered : route.operation? = some operation)
    (fields : List (Text × Json)) :
    ((route = .load → Body.IsWhole fields) →
      (service.respond (route.post (.object fields))).value.AgreesWith
        (operation (.object fields)).value) ∧
    (route = .load → ¬Body.IsWhole fields →
      (service.respond (route.post (.object fields))).value.status = 400) ∧
    (route ≠ .store → route ≠ .load → Body.IsShort fields → ∀ outcome,
      (operation (.object fields)).value = .ok outcome → outcome.IsPlaced) := by
  have atFault (refusal : Refusal) : (operation (.object fields)).value = .error refusal →
      refusal.status = 400 := Route.status_of_refused offered
  have posted : route.method = "POST" := by
    cases route with
    | health => exact absurd offered (by simp [Route.operation?])
    | _ => rfl
  rw [service.respond_post posted]
  cases route with
  | emit =>
    obtain rfl := Option.some.inj offered
    refine ⟨fun _ => run_agrees Body.emit_standsFor atFault, by simp, fun _ _ _ outcome found => ?_⟩
    obtain ⟨emission, rfl⟩ := Operation.emit_found found
    exact Outcome.isPlaced_of_nil rfl
  | recover =>
    obtain rfl := Option.some.inj offered
    refine ⟨fun _ => run_agrees Body.recover_standsFor atFault, by simp,
      fun _ _ short outcome found => ?_⟩
    obtain ⟨schema, d, given, read, rfl⟩ := Operation.recover_found found
    exact List.forall_mem_map.mpr (Diagram.isFinite_ofSchema read (short schema given))
  | store =>
    obtain rfl := Option.some.inj offered
    exact ⟨fun _ => run_agrees Body.store_standsFor atFault, by simp, by simp⟩
  | load =>
    obtain rfl := Option.some.inj offered
    refine ⟨fun whole => run_agrees (Body.load_standsFor (whole rfl)) atFault, ?_, by simp⟩
    intro _ leftOut
    obtain ⟨cause, refused⟩ := Body.load_leftOut leftOut
    rw [respondAt, run_object, Body.document_read]
    dsimp only
    rw [Operation.load, refused]
    rfl
  | audit =>
    obtain rfl := Option.some.inj offered
    refine ⟨fun _ => run_agrees Body.audit_standsFor atFault, by simp, fun _ _ _ outcome found => ?_⟩
    obtain rfl := Except.ok.inj found
    exact Outcome.isPlaced_of_nil rfl
  | assist => exact absurd offered (by simp [Route.operation?])
  | health => exact absurd offered (by simp [Route.operation?])

def boxAt (x : Json) : List (Text × Json) :=
  [("entities", .list [.object [("id", .text "1"), ("position", .object [("x", x), ("y", .int 0)])]]),
    ("relations", .list [])]

def Service.unspoken : Service := ⟨{}, fun _ => .replied none⟩

theorem Service.box_agrees :
    Route.store.operation? = some Operation.store ∧
    (unspoken.respond (Route.store.post (.object (boxAt (.int 3))))).value =
      ⟨200, answerJson (Operation.store (.object (boxAt (.int 3)))).value⟩ := by
  have offered : Route.store.operation? = some Operation.store := rfl
  have agrees := (unspoken.routes_agree offered (boxAt (.int 3))).1 (by simp)
  exact ⟨offered, agrees.success _ rfl rfl (by decide)⟩

/-- An operation can succeed where the route does not: a document without its parts is loaded as one of
no models, but not by the route, and a box without end to its right is stored, but not answered with. -/
theorem Service.partless_disagrees :
    (Operation.load (.object [])).value = .ok (.diagram ⟨[], []⟩) ∧
    (unspoken.respond (Route.load.post (.object []))).value.status = 400 ∧
    (Operation.store (.object (boxAt (.text "inf")))).value =
      .ok (.document ⟨[⟨"1", "Unnamed", ⟨.infinite false, .zero⟩, []⟩], []⟩) ∧
    (unspoken.respond (Route.store.post (.object (boxAt (.text "inf"))))).value.status = 500 :=
  ⟨rfl, rfl, rfl, rfl⟩

end DiagramSchema
