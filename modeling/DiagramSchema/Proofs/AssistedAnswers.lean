import DiagramSchema.Proofs.CodeFences
import DiagramSchema.Proofs.ModelHeaders
import DiagramSchema.Proofs.RouteAgreement

/-! Schema text on request. The work on a prompt is a consultation: it asks the provider or does not,
and goes on with what the provider says. So the requests that are made stand in the work itself, and
the response is determined by what comes back. -/
namespace DiagramSchema
open Text

theorem Text.exists_solid_iff {s : Text} :
    (∃ c ∈ s, isBlank c = false) ↔ ¬∀ c ∈ s, isBlank c = true := by
  simp

namespace Reply

theorem infix_of_unfenced {s body : Text} (found : unfenced? s = some body) : body <:+: s := by
  obtain ⟨info, gap, rfl, -⟩ := isFenced_of_unfenced found
  exact ⟨fence ++ (info ++ gap), fence, by simp⟩

theorem cleaned_infix (reply : Text) : cleaned reply <:+: reply := by
  rw [cleaned]
  cases found : unfenced? (trim reply) with
  | some body =>
    exact (infix_of_infix_trim List.infix_rfl).trans
      (infix_of_infix_trim (infix_of_unfenced found))
  | none => exact infix_of_infix_trim List.infix_rfl

theorem trim_cleaned (reply : Text) : trim (cleaned reply) = cleaned reply := by
  rw [cleaned]
  cases unfenced? (trim reply) with
  | some body => exact trim_trim body
  | none => exact trim_trim reply

end Reply

namespace Settings

variable {s : Settings} {client : ProviderClient} {prompt : Text}

theorem run_blank (blank : ∀ c ∈ prompt, isBlank c = true) :
    (s.consultation prompt).run client = (.error .emptyPrompt, []) := by
  have empty : (trim prompt).isEmpty = true := List.isEmpty_iff.mpr (trim_eq_nil_iff.mpr blank)
  rw [consultation, if_pos empty, Consultation.run]

theorem run_prompted {request : Request} (prompted : ∃ c ∈ prompt, isBlank c = false)
    (asks : s.request? (trim prompt) = some request) :
    (s.consultation prompt).run client = (s.schemaOf (client request), [request]) := by
  have solid : ¬(trim prompt).isEmpty = true := fun empty =>
    exists_solid_iff.mp prompted (trim_eq_nil_iff.mp (List.isEmpty_iff.mp empty))
  rw [consultation, if_neg solid, asks]
  rfl

end Settings

def Route.prompting (prompt : Text) (visualize : Bool) : HttpRequest :=
  Route.assist.post (.object [("prompt", .text prompt), ("visualize", .bool visualize)])

def Operation.assisted (visualize : Bool) :
    Except GenerationError Text → Noted (Except Refusal Outcome)
  | .error cause => ⟨.error (.notGenerated cause), cause.notices⟩
  | .ok schema =>
    if visualize then
      (Diagram.recover schema).map fun
        | .ok diagram => .ok (.generated schema (some diagram))
        | .error cause => .error (.generatedUnreadable cause schema)
    else .quiet (.ok (.generated schema none))

theorem Operation.assist_eq (s : Settings) (client : ProviderClient) (prompt : Text)
    (visualize : Bool) :
    assist (.object [("prompt", .text prompt), ("visualize", .bool visualize)]) s client =
      assisted visualize (s.generate client prompt) := by
  have prompted : promptOf (.object [("prompt", .text prompt), ("visualize", .bool visualize)]) =
      prompt := rfl
  have wanted : ((Json.object [("prompt", .text prompt), ("visualize", .bool visualize)]).getOrNull
      "visualize").truthy = visualize := rfl
  rw [assist, prompted, wanted]
  cases s.generate client prompt <;> rfl

def Service.consultation (s : Settings) (prompt : Text) (visualize : Bool) :
    Consultation (Noted HttpResponse) :=
  (s.consultation prompt).map fun generated =>
    (Operation.assisted visualize generated).map HttpResponse.ofResult

theorem Service.respond_prompting (service : Service) (prompt : Text) (visualize : Bool) :
    service.respond (Route.prompting prompt visualize) =
      (Operation.assisted visualize (service.settings.generate service.client prompt)).map
        HttpResponse.ofResult := by
  rw [Route.prompting, service.respond_post rfl, ← Operation.assist_eq]
  rfl

/-- What the service does on a request for schema text is the work on it: the response is its result,
and the requests for the prompt are those that the work makes. -/
theorem Service.run_consultation (service : Service) (prompt : Text) (visualize : Bool) :
    (consultation service.settings prompt visualize).run service.client =
      (service.respond (Route.prompting prompt visualize), service.settings.requests prompt) := by
  rw [consultation, Consultation.run_map, Settings.run_consultation, respond_prompting]

namespace HttpResponse

variable {visualize : Bool} {schema : Text}

theorem ofResult_generated (short : visualize = true → schema.length ≤ Grid.capacity)
    (drawn : visualize = true → HasModel schema) : ∃ diagram : Option Diagram,
      ofResult (Operation.assisted visualize (.ok schema)).value =
        ⟨200, answerJson (.ok (.generated schema diagram))⟩ := by
  cases visualize with
  | false => exact ⟨none, ofResult_success rfl (Outcome.isPlaced_of_nil rfl)⟩
  | true =>
    have found := Diagram.ofSchema_of_hasModel (drawn rfl)
    have placed : (Outcome.generated schema (some (Model.diagram (Model.all schema)))).IsPlaced :=
      List.forall_mem_map.mpr (Diagram.isFinite_ofSchema found (short rfl))
    refine ⟨some (Model.diagram (Model.all schema)), ?_⟩
    rw [← ofResult_success rfl placed, Operation.assisted, if_pos rfl, Noted.map, Diagram.recover,
      found]

theorem ofResult_undrawn (undrawn : ¬HasModel schema) :
    ofResult (Operation.assisted true (.ok schema)).value =
      .detail 502 (.object (Refusal.generatedUnreadable .noModels schema).fields) := by
  rw [Operation.assisted, if_pos rfl, Noted.map, Diagram.recover,
    Diagram.ofSchema_of_not_hasModel undrawn]
  rfl

theorem status_of_notGenerated (cause : GenerationError) :
    (ofResult (Operation.assisted visualize (.error cause)).value).status = 502 := rfl

end HttpResponse

def Settings.NamesProvider (s : Settings) : Prop :=
  lower s.provider = "groq" ∨ lower s.provider = "gemini"

def Request.prompt : Request → Text
  | .groq _ prompt | .gemini _ prompt => prompt

theorem Settings.NamesProvider.asks {s : Settings} (known : s.NamesProvider) (prompt : Text) :
    ∃ request, s.request? prompt = some request ∧ request.prompt = prompt := by
  rcases known with groq | gemini
  · exact ⟨.groq s.groqModel prompt, by rw [request?, groq]; rfl, rfl⟩
  · exact ⟨.gemini s.geminiModel prompt, by rw [request?, gemini]; rfl, rfl⟩

/-- A completion that can be answered with: it leaves schema text when it is cleaned, and models in it if
a diagram is wanted. -/
def Completion.Serves (visualize : Bool) (completion : Completion) : Prop :=
  ∃ reply, completion = .replied reply ∧ Reply.cleaned (reply.getD []) ≠ [] ∧
    (visualize = true → HasModel (Reply.cleaned (reply.getD [])))

/-- The response to a prompt, and the requests made for it, beside what the provider says. -/
structure HttpResponse.Answers (prompt : Text) (visualize : Bool) (request : Request)
    (completion : Completion) (response : HttpResponse) (calls : List Request) : Prop where
  success : response.status = 200 ↔
    (∃ c ∈ prompt, isBlank c = false) ∧ completion.Serves visualize
  failure : response.status ≠ 200 → response.status = 502
  asked : (∃ c ∈ prompt, isBlank c = false) → calls = [request]
  unasked : (∀ c ∈ prompt, isBlank c = true) → calls = []
  schema : response.status = 200 → ∃ schema, response.body.get? "schema" = some (.text schema) ∧
    schema ≠ [] ∧ trim schema = schema
  undrawn : ∀ reply, completion = .replied reply → (∃ c ∈ prompt, isBlank c = false) →
    Reply.cleaned (reply.getD []) ≠ [] → visualize = true →
    ¬HasModel (Reply.cleaned (reply.getD [])) →
    response.status = 502 ∧ ∃ detail, response.body.get? "detail" = some detail ∧
      detail.get? "schema" = some (.text (Reply.cleaned (reply.getD [])))

namespace HttpResponse

variable {prompt : Text} {visualize : Bool} {request : Request} {completion : Completion}

theorem answers_blank (blank : ∀ c ∈ prompt, isBlank c = true) : Answers prompt visualize request
    completion (ofResult (Operation.assisted visualize (.error .emptyPrompt)).value) [] := by
  have empty : ¬∃ c ∈ prompt, isBlank c = false := fun prompted =>
    exists_solid_iff.mp prompted blank
  have status : (ofResult (Operation.assisted visualize (.error .emptyPrompt)).value).status = 502 :=
    status_of_notGenerated .emptyPrompt
  exact {
    success := ⟨fun done => absurd (status.symm.trans done) (by decide),
      fun ⟨prompted, _⟩ => absurd prompted empty⟩
    failure := fun _ => status
    asked := fun prompted => absurd prompted empty
    unasked := fun _ => rfl
    schema := fun done => absurd (status.symm.trans done) (by decide)
    undrawn := fun _ _ prompted => absurd prompted empty }

theorem answers_refused {response : HttpResponse} (prompted : ∃ c ∈ prompt, isBlank c = false)
    (status : response.status = 502) (unserved : ¬completion.Serves visualize)
    (undrawn : ∀ reply, completion = .replied reply → Reply.cleaned (reply.getD []) ≠ [] →
      ∃ detail, response.body.get? "detail" = some detail ∧
        detail.get? "schema" = some (.text (Reply.cleaned (reply.getD [])))) :
    Answers prompt visualize request completion response [request] where
  success := ⟨fun done => absurd (status.symm.trans done) (by decide),
    fun ⟨_, serves⟩ => absurd serves unserved⟩
  failure _ := status
  asked _ := rfl
  unasked blank := absurd blank (exists_solid_iff.mp prompted)
  schema done := absurd (status.symm.trans done) (by decide)
  undrawn reply replied _ nonempty _ _ := ⟨status, undrawn reply replied nonempty⟩

theorem answers_served {schema : Text} {diagram : Option Diagram}
    (prompted : ∃ c ∈ prompt, isBlank c = false) (serves : completion.Serves visualize)
    (nonempty : schema ≠ []) (trimmed : trim schema = schema) :
    Answers prompt visualize request completion
      ⟨200, answerJson (.ok (.generated schema diagram))⟩ [request] where
  success := ⟨fun _ => ⟨prompted, serves⟩, fun _ => rfl⟩
  failure fails := absurd rfl fails
  asked _ := rfl
  unasked blank := absurd blank (exists_solid_iff.mp prompted)
  schema _ := by
    refine ⟨schema, ?_, nonempty, trimmed⟩
    cases diagram <;> rfl
  undrawn := by
    rintro reply replied _ _ wanted without
    obtain ⟨_, served, _, drawn⟩ := serves
    obtain rfl := Completion.replied.inj (replied.symm.trans served)
    exact absurd (drawn wanted) without

theorem answers_prompted (s : Settings) (prompted : ∃ c ∈ prompt, isBlank c = false)
    (short : visualize = true → ∀ text, completion = .replied (some text) →
      text.length ≤ Grid.capacity) :
    Answers prompt visualize request completion
      (ofResult (Operation.assisted visualize (s.schemaOf completion)).value) [request] := by
  cases completion with
  | failed cause =>
    refine answers_refused prompted rfl ?_ (fun reply replied => absurd replied (by simp))
    rintro ⟨reply, replied, _⟩
    exact absurd replied (by simp)
  | replied reply =>
    have within (wanted : visualize = true) :
        (Reply.cleaned (reply.getD [])).length ≤ Grid.capacity := by
      cases reply with
      | none => exact Nat.zero_le _
      | some text => exact (Reply.cleaned_infix text).length_le.trans (short wanted text rfl)
    rw [Settings.schemaOf]
    by_cases empty : Reply.cleaned (reply.getD []) = []
    · rw [if_pos (List.isEmpty_iff.mpr empty)]
      refine answers_refused prompted rfl ?_ ?_
      · rintro ⟨_, replied, nonempty, _⟩
        obtain rfl := Completion.replied.inj replied
        exact nonempty empty
      · intro _ replied nonempty
        obtain rfl := Completion.replied.inj replied
        exact absurd empty nonempty
    · rw [if_neg (by simpa using empty)]
      by_cases drawn : visualize = true → HasModel (Reply.cleaned (reply.getD []))
      · obtain ⟨diagram, answer⟩ := ofResult_generated within drawn
        rw [answer]
        exact answers_served prompted ⟨reply, rfl, empty, drawn⟩ empty (Reply.trim_cleaned _)
      · obtain ⟨rfl, undrawn⟩ := Classical.not_imp.mp drawn
        rw [ofResult_undrawn undrawn]
        refine answers_refused prompted rfl ?_ ?_
        · rintro ⟨_, replied, _, has⟩
          obtain rfl := Completion.replied.inj replied
          exact undrawn (has rfl)
        · intro _ replied _
          obtain rfl := Completion.replied.inj replied
          exact ⟨_, rfl, rfl⟩

end HttpResponse

/-- The service answers with schema text exactly when a provider that there is gives it some for a prompt
that is not blank, and models to draw if they are wanted. It asks once, with the trimmed prompt. A reply
that is drawn has no more characters than a grid has finite places, which no memory could hold. -/
theorem Service.assist_answers (service : Service) (known : service.settings.NamesProvider)
    (prompt : Text) (visualize : Bool) (short : visualize = true → ∀ request text,
      service.client request = .replied (some text) → text.length ≤ Grid.capacity) :
    ∃ request response calls,
      service.settings.request? (trim prompt) = some request ∧ request.prompt = trim prompt ∧
      (consultation service.settings prompt visualize).run service.client = (response, calls) ∧
      service.respond (Route.prompting prompt visualize) = response ∧
      HttpResponse.Answers prompt visualize request (service.client request) response.value calls := by
  obtain ⟨request, asks, carries⟩ := known.asks (trim prompt)
  refine ⟨request, _, _, asks, carries, service.run_consultation prompt visualize, rfl, ?_⟩
  have work := service.settings.run_consultation service.client prompt
  rw [respond_prompting]
  dsimp only [Noted.map]
  by_cases blank : ∀ c ∈ prompt, isBlank c = true
  · rw [Settings.run_blank blank] at work
    obtain ⟨made, asked⟩ := Prod.mk.inj work
    rw [← made, ← asked]
    exact HttpResponse.answers_blank blank
  · have prompted : ∃ c ∈ prompt, isBlank c = false := exists_solid_iff.mpr blank
    rw [Settings.run_prompted prompted asks] at work
    obtain ⟨made, asked⟩ := Prod.mk.inj work
    rw [← made, ← asked]
    exact HttpResponse.answers_prompted service.settings prompted fun wanted => short wanted request

def Service.notetaker : Service :=
  ⟨{}, fun _ => .replied (some "\x60\x60\x60prisma\nmodel Note \x7b\n  text String\n\x7d\n\x60\x60\x60")⟩

theorem Service.notetaker_answers : notetaker.settings.NamesProvider ∧
    (∃ request response, request.prompt = trim " notes\n" ∧
      (consultation notetaker.settings " notes\n" true).run notetaker.client =
        (response, [request]) ∧
      (notetaker.respond (Route.prompting " notes\n" true)).value = response.value ∧
      response.value.status = 200 ∧ ∃ schema,
        response.value.body.get? "schema" = some (.text schema) ∧ schema ≠ [] ∧
        trim schema = schema) := by
  have known : notetaker.settings.NamesProvider := Or.inl (by decide)
  have short (request : Request) (text : Text)
      (replied : notetaker.client request = .replied (some text)) :
      text.length ≤ Grid.capacity := by
    obtain rfl := Option.some.inj (Completion.replied.inj replied)
    calc _ ≤ Binary64.twoTo 6 := by decide
      _ ≤ Grid.capacity := Binary64.twoTo_mono (by decide)
  obtain ⟨request, response, calls, _, carries, ran, same, answers⟩ :=
    notetaker.assist_answers known " notes\n" true fun _ => short
  have prompted : ∃ c ∈ (" notes\n" : Text), isBlank c = false := ⟨'n', by decide, by decide⟩
  have serves : (notetaker.client request).Serves true := by
    have cleaned : Reply.cleaned
        "\x60\x60\x60prisma\nmodel Note \x7b\n  text String\n\x7d\n\x60\x60\x60" =
        ("model Note \x7b\n  text String\n\x7d" : Text) := by decide
    have header : SourceBlock.IsHeader "model Note \x7b" :=
      ⟨" ", "Note", " ", [], rfl, by decide, by decide, by decide⟩
    refine ⟨_, rfl, ?_, fun _ => ?_⟩
    · exact ne_of_eq_of_ne cleaned (by decide)
    · exact cleaned ▸ ⟨"model Note \x7b", by decide, header⟩
  have status : response.value.status = 200 := answers.success.mpr ⟨prompted, serves⟩
  rw [answers.asked prompted] at ran
  exact ⟨known, request, response, carries, ran, congrArg Noted.value same, status,
    answers.schema status⟩

end DiagramSchema
