import DiagramSchema.Json.Decoder
import DiagramSchema.Service.Operation
import DiagramSchema.Service.Target

/-! The operations behind HTTP routes.

A route checks the body of a request, hands it to its operation, and gives the result the status
that belongs to it. -/
namespace DiagramSchema

structure HttpRequest where
  method : Text
  target : Text
  body : Option Json

structure HttpResponse where
  status : Nat
  body : Json

/-- The places that requests can go to. -/
inductive Route where
  | emit
  | recover
  | store
  | load
  | audit
  | assist
  | health
deriving DecidableEq, Repr

namespace Route

def all : List Route :=
  [.emit, .recover, .store, .load, .audit, .assist, .health]

def path : Route → Text
  | .emit => "/generate-schema"
  | .recover => "/visualize-schema"
  | .store => "/schemas/serialize"
  | .load => "/schemas/deserialize"
  | .audit => "/schemas/validate"
  | .assist => "/ai/schema"
  | .health => "/health"

/-- The one method of a route. Requests may write it in small letters. -/
def method : Route → Text
  | .health => "GET"
  | _ => "POST"

/-- The route at a path. A line feed at the end of the path does not count. -/
def withPath? (path : Text) : Option Route :=
  all.find? fun route => path == route.path || path == route.path ++ ['\n']

/-- The route that a path leads to. Slashes at its end do not count. -/
def ofPath? (path : Text) : Option Route :=
  (withPath? path).or (withPath? (path.reverse.dropWhile (· == '/')).reverse)

end Route

namespace Body

def object : Decoder Json
  | .object fields => .ok (.object fields)
  | _ => .fault .notObject

def record {α : Type} (build : List (Text × Json) → Checked α) : Decoder α
  | .object fields => build fields
  | _ => .fault .nothingToExtract

/-- A body with a diagram: two lists of objects, each empty if absent. -/
def diagram : Decoder Json := record fun fields =>
  (fun entities relations => .object [("entities", .list entities), ("relations", .list relations)])
    <$> Decoder.fieldOr fields (.of "entities") [] (Decoder.list object)
    <*> Decoder.fieldOr fields (.of "relations") [] (Decoder.list object)

/-- A body with a document: any two values, each `null` if absent. -/
def document : Decoder Json := record fun fields =>
  (fun models relations => .object [("models", models), ("relations", relations)])
    <$> Decoder.fieldOr fields (.of "models") .null .ok
    <*> Decoder.fieldOr fields (.of "relations") .null .ok

def schema : Decoder Json := record fun fields =>
  (fun schema => .object [("schema", .text schema)])
    <$> Decoder.field fields (.of "schema") Decoder.text

def prompt : Decoder Json := record fun fields =>
  (fun prompt visualize => .object [("prompt", .text prompt), ("visualize", .bool visualize)])
    <$> Decoder.field fields (.of "prompt") Decoder.text
    <*> Decoder.fieldOr fields (.of "visualize") false Decoder.boolean

/-- The body of a request, checked. No body and `null` are missing; problems are found under the
word `body`. -/
def check (decode : Decoder Json) : Option Json → Checked Json
  | none | some .null => .refused [⟨[.key "body"], .missing⟩]
  | some json => (decode json).under (.key "body")

end Body

namespace HttpResponse

def detail (status : Nat) (detail : Json) : HttpResponse := ⟨status, .object [("detail", detail)]⟩

/-- The response of which only the head is sent. -/
def headOnly (response : HttpResponse) : HttpResponse := ⟨response.status, .text []⟩

end HttpResponse

def Refusal.status : Refusal → Nat
  | .notGenerated _ | .generatedUnreadable .. => 502
  | _ => 400

mutual
/-- Whether all numbers in a value are finite. Others have no JSON form. -/
def Json.isWritable : Json → Bool
  | .float value => value.isFinite
  | .list items => Json.areWritable items
  | .object fields => Json.areFieldsWritable fields
  | _ => true

def Json.areWritable : List Json → Bool
  | [] => true
  | item :: rest => item.isWritable && Json.areWritable rest

def Json.areFieldsWritable : List (Text × Json) → Bool
  | [] => true
  | (_, value) :: rest => value.isWritable && Json.areFieldsWritable rest
end

namespace HttpResponse

/-- A successful response, unless its body cannot be written. -/
def success (body : Json) : HttpResponse :=
  if body.isWritable then ⟨200, body⟩ else ⟨500, .text "Internal Server Error"⟩

/-- The response to the result of an operation. A report that finds faults is a failure here. -/
def ofResult : Except Refusal Outcome → HttpResponse
  | .ok (.report report) =>
    if report.isSound then success (answerJson (.ok (.report report)))
    else detail 400 (.object report.fields)
  | .ok outcome => success (answerJson (.ok outcome))
  | .error refusal => detail refusal.status (.object refusal.fields)

end HttpResponse

/-- The service: its settings, and the client of the provider that it asks for schema text. -/
structure Service where
  settings : Settings
  client : ProviderClient

namespace Service

def run (decode : Decoder Json) (body : Option Json)
    (operation : Json → Noted (Except Refusal Outcome)) : Noted HttpResponse :=
  match Body.check decode body with
  | .ok arguments => (operation arguments).map HttpResponse.ofResult
  | .refused problems => .quiet (.detail 422 (.list (problems.map Problem.json)))

def respondAt (service : Service) (body : Option Json) : Route → Noted HttpResponse
  | .emit => run Body.diagram body (Operation.emit · {})
  | .recover => run Body.schema body Operation.recover
  | .store => run Body.diagram body Operation.store
  | .load => run Body.document body Operation.load
  | .audit => run Body.document body Operation.audit
  | .assist => run Body.prompt body
    (Operation.assist · service.settings service.client)
  | .health => .quiet (.success
    (.object [("status", .text "ok"), ("provider", .text service.settings.provider)]))

/-- The response to a method, given in capitals, at a target. -/
def respondTo (service : Service) (method target : Text) (body : Option Json) :
    Noted HttpResponse :=
  match Route.ofPath? (Target.path target) with
  | none => .quiet (.detail 404 (.text "Not Found"))
  | some route =>
    if method = route.method then service.respondAt body route
    else .quiet (.detail 405 (.text "Method Not Allowed"))

/-- The response to a request. The method `HEAD` asks for the head of a response only. -/
def respond (service : Service) (request : HttpRequest) : Noted HttpResponse :=
  let method := request.method.map Char.toUpper
  let response := service.respondTo method request.target request.body
  if method = "HEAD" then response.map HttpResponse.headOnly else response

end Service
end DiagramSchema
