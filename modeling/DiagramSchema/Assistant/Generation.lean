import DiagramSchema.Assistant.Reply
import DiagramSchema.Notice
import DiagramSchema.Settings
import DiagramSchema.Text.Case

/-! Schema text from a language model.

A prompt that is not blank is sent once to the provider that the settings name. The work on a prompt is
data: it ends, or asks the provider and goes on with what the provider says. What is asked and what is
made of the answers are both read off its run. -/
namespace DiagramSchema

/-- A request to a provider: the model and the prompt. The instructions go with it, to one provider
as a message before the prompt, to the other beside it. -/
inductive Request where
  | groq (model prompt : Text)
  | gemini (model prompt : Text)
deriving DecidableEq, Repr

/-- What becomes of a request: it fails, or there is a completion, with or without a text. -/
inductive Completion where
  | failed (cause : Text)
  | replied (text : Option Text)
deriving DecidableEq, Repr

abbrev ProviderClient := Request → Completion

/-- Work that may ask a provider: it is done, or it makes a request and goes on with the completion. -/
inductive Consultation (α : Type) where
  | done (result : α)
  | ask (request : Request) (next : Completion → Consultation α)

namespace Consultation

variable {α β : Type}

/-- The result of the work with a provider, and the requests that are made, in their order. -/
def run (client : ProviderClient) : Consultation α → α × List Request
  | done result => (result, [])
  | ask request next =>
    let (result, later) := (next (client request)).run client
    (result, request :: later)

def map (f : α → β) : Consultation α → Consultation β
  | done result => done (f result)
  | ask request next => ask request fun completion => (next completion).map f

theorem run_map (f : α → β) (client : ProviderClient) (work : Consultation α) :
    (work.map f).run client = (f (work.run client).1, (work.run client).2) := by
  induction work with
  | done result => rfl
  | ask request next ih => rw [map, run, ih, run]

end Consultation

inductive GenerationError where
  | emptyPrompt
  | unknownProvider (name : Text)
  | requestFailed (provider cause : Text)
  | emptySchema
deriving DecidableEq, Repr

def GenerationError.message : GenerationError → Text
  | .emptyPrompt => "prompt is empty"
  | .unknownProvider name => "Unknown LLM provider: " ++ name
  | .requestFailed provider cause => provider ++ " API error: " ++ cause
  | .emptySchema => "provider returned an empty schema"

/-- The notice on an error: only a failed request has one. -/
def GenerationError.notices : GenerationError → List Notice
  | .requestFailed provider cause =>
    [⟨.error, .generation, provider ++ " request failed: " ++ cause⟩]
  | _ => []

namespace Settings

/-- The request for a prompt, if the settings name a provider. Case does not matter. -/
def request? (s : Settings) (prompt : Text) : Option Request :=
  let name := Text.lower s.provider
  if name = "groq" then some (.groq s.groqModel prompt)
  else if name = "gemini" then some (.gemini s.geminiModel prompt)
  else none

def schemaOf (s : Settings) : Completion → Except GenerationError Text
  | .failed cause => .error (.requestFailed s.provider cause)
  | .replied text =>
    let schema := Reply.cleaned (text.getD [])
    if schema.isEmpty then .error .emptySchema else .ok schema

def consultation (s : Settings) (prompt : Text) : Consultation (Except GenerationError Text) :=
  let trimmed := Text.trim prompt
  if trimmed.isEmpty then .done (.error .emptyPrompt)
  else match s.request? trimmed with
    | none => .done (.error (.unknownProvider s.provider))
    | some request => .ask request fun completion => .done (s.schemaOf completion)

def generate (s : Settings) (client : ProviderClient) (prompt : Text) :
    Except GenerationError Text :=
  ((s.consultation prompt).run client).1

/-- The requests that are made for a prompt. They do not depend on what the provider says. -/
def requests (s : Settings) (prompt : Text) : List Request :=
  ((s.consultation prompt).run fun _ => .replied none).2

theorem run_consultation (s : Settings) (client : ProviderClient) (prompt : Text) :
    (s.consultation prompt).run client = (s.generate client prompt, s.requests prompt) := by
  refine Prod.ext rfl ?_
  -- no request follows on what the first one brings
  rw [requests, consultation]
  dsimp only
  split
  · rfl
  · cases s.request? (Text.trim prompt) <;> rfl

end Settings
end DiagramSchema
