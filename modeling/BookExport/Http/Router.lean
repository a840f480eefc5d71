import BookExport.Http.Error
import BookExport.Http.MediaType
import BookExport.Job.Codec
import BookExport.Request.Codec
import BookExport.Service
import BookExport.Text.Form

/-! The HTTP interface: jobs are enqueued and cancelled by POST, everything else is read by GET. A request
that fails leaves the service as it was. -/

namespace BookExport.Http
open Json Record

structure HttpRequest where
  method : String
  path : String
  query : String
  contentType : Option String
  body : List UInt8
  deriving Repr, Inhabited

inductive Body where
  | empty
  | json (j : Json)
  | text (s : String)
  deriving Repr, Inhabited

structure HttpResponse where
  status : Nat
  contentType : Option String := none
  /-- The methods that a route takes, where another one was used. -/
  allow : Option String := none
  body : Body := .empty
  deriving Repr, Inhabited

/-- A response, and the subscription behind it if it is a stream. -/
structure Reply where
  response : HttpResponse
  stream : Option Subscription := none
  deriving Repr, Inhabited

/-- What the service is asked for. -/
inductive Route where
  | enqueue
  | cancel
  | progress
  | progressStream
  | formats
  | queue
  | health
  deriving DecidableEq, Repr

namespace Route

def ofPath? : String → Option Route
  | "/enqueue" => some .enqueue
  | "/cancel" => some .cancel
  | "/progress" => some .progress
  | "/progress/stream" => some .progressStream
  | "/formats" => some .formats
  | "/queue" => some .queue
  | "/health" => some .health
  | _ => none

/-- Whether a route changes the service and so takes POST; the others are read. -/
def isCommand : Route → Bool
  | .enqueue | .cancel => true
  | _ => false

def allowed (r : Route) : List String := if r.isCommand then ["POST"] else ["GET", "HEAD"]

end Route

namespace HttpRequest

def isSchemeChar (c : Char) : Bool := c.isAlphanum || c == '+' || c == '-' || c == '.'

def endsAuthority (c : Char) : Bool := c == '/' || c == '?' || c == '#'

/-- What an address asks a server for: all of it, or what stands behind the server's name in an address that
begins with a scheme. -/
def target (cs : List Char) : List Char :=
  match cs.dropWhile isSchemeChar with
  | ':' :: '/' :: '/' :: rest =>
    let target := rest.dropWhile fun c => !endsAuthority c
    if target.head? = some '/' then target else '/' :: target
  | _ => cs

/-- The path and the query of an address, without its fragment. -/
def splitAddress (address : String) : String × String :=
  let cs := (target address.toList).takeWhile (· != '#')
  (String.ofList (cs.takeWhile (· != '?')), String.ofList ((cs.dropWhile (· != '?')).drop 1))

def isHead (r : HttpRequest) : Bool := r.method == "HEAD"

end HttpRequest

def jsonType : String := "application/json"

def jsonResponse (status : Nat) (j : Json) : HttpResponse :=
  { status, contentType := some jsonType, body := .json j }

def textResponse (status : Nat) (text : String) : HttpResponse :=
  { status, contentType := some "text/plain; charset=utf-8", body := .text text }

def errorResponse (e : ApiError) : HttpResponse := jsonResponse e.status e.body.toJson

/-- A job id that a client gave, unless it is blank. -/
def givenId (text : Option String) : Option JobId := (text.bind Text.nonBlank?).map JobId.mk

/-- The job that a query asks for. Asking for two is a fault. -/
def queryJob (query : String) : Except HttpResponse (Option JobId) :=
  match (Text.Form.decode query).filter (·.1 == "job_id") with
  | [] => .ok none
  | [(_, id)] => .ok (givenId (some id))
  | _ => .error (textResponse 400 "Failed to deserialize query string: duplicate field")

/-- The most bytes that a body may have. -/
def bodyLimit : Nat := 2097152

def tooLong : String := "Failed to buffer the request body: length limit exceeded"

/-- Reads the body of an enqueue request, which has to be declared as JSON. -/
def readRequest (r : HttpRequest) : Except ApiError Request :=
  if !(r.contentType.bind MediaType.read?).any MediaType.isJson then
    .error (.invalidPayload "Expected request with `Content-Type: application/json`")
  else if bodyLimit < r.body.length then .error (.invalidPayload tooLong)
  else
    match (readSymbols (Text.Utf8.symbols r.body)).decode Request.decode with
    | .ok request => .ok request
    | .error .malformed => .error (.invalidPayload "Failed to parse the request body as JSON")
    | .error .mismatch => .error (.invalidPayload "Failed to deserialize the JSON body into the target type")

def isAsciiBlank (b : UInt8) : Bool := b == 0x20 || b == 0x09 || b == 0x0A || b == 0x0C || b == 0x0D

/-- Reads the job that a cancel request names. A blank body names none. -/
def readCancel (body : List UInt8) : Except ApiError (Option JobId) :=
  if body.all isAsciiBlank then .ok none
  else
    let record : Record (Option String) := optional "job_id" Doc.text
    match (readSymbols (Text.Utf8.symbols body)).decode record.decode with
    | .ok id => .ok (givenId id)
    | .error _ => .error (.invalidPayload "invalid JSON")

def formatsJson : Json :=
  let names (formats : List Format) : Json := .arr (formats.map Format.toJson)
  .obj [("formats", names Format.all), ("book_only", names (Format.all.filter Format.isBookOnly)),
    ("descriptions", .obj (Format.all.map fun f => (f.name, .str f.description)))]

def queueEntry (job : Job) : Json :=
  .obj [("job_id", job.id.toJson), ("target_id", .str job.spec.targetId),
    ("formats", .arr (job.spec.formats.map Format.toJson)), ("status", job.status.toJson),
    ("queue_position", Json.nat job.queuePosition), ("cancel_requested", .bool job.cancelRequested),
    ("created_at", job.createdAt.toJson)]

def queueJson (v : QueueView) : Json :=
  .obj (Json.member? "active" (v.active.map queueEntry) ++ [("pending", .arr (v.pending.map queueEntry))])

def version : String := "0.1.0"

/-- Health tells how many seconds the service has been up. -/
def healthJson (uptime : Nat) : Json :=
  .obj [("status", .str "ok"), ("uptime_seconds", Json.nat uptime), ("version", .str version)]

/-- What a request is answered with: a fresh id for a new job, the time, the seconds since the start, and
which paths are no directories. -/
structure Context where
  freshId : JobId
  now : Timestamp
  uptime : Nat
  isBlocked : String → Bool

def unchanged (s : Service) (r : HttpResponse) : Outcome Service Reply := ⟨s, ⟨r, none⟩, []⟩

def enqueue (s : Service) (r : HttpRequest) (c : Context) : Outcome Service Reply :=
  match readRequest r with
  | .error e => unchanged s (errorResponse e)
  | .ok request =>
    let done := s.enqueue c.freshId request c.isBlocked c.now
    let response :=
      match done.answer with
      | .error fault => errorResponse (.failed fault.toError)
      | .ok admission =>
        jsonResponse 201 (.obj [("job_id", admission.job.id.toJson),
          ("queue_position", Json.nat admission.position), ("status", Status.queued.toJson)])
    ⟨done.state, ⟨response, none⟩, done.published⟩

def cancel (s : Service) (r : HttpRequest) (c : Context) : Outcome Service Reply :=
  if bodyLimit < r.body.length then unchanged s (textResponse 413 tooLong)
  else
    match readCancel r.body with
    | .error e => unchanged s (errorResponse e)
    | .ok id =>
      let done := s.cancel id c.now
      let response :=
        match done.answer with
        | .error fault => errorResponse (.failed fault.toError)
        | .ok ack => jsonResponse 200 (.obj [("success", .bool true), ("message", .str ack.message)])
      ⟨done.state, ⟨response, none⟩, done.published⟩

def progress (s : Service) (r : HttpRequest) : HttpResponse :=
  match queryJob r.query with
  | .error response => response
  | .ok id =>
    match s.poll id with
    | some snapshot => jsonResponse 200 snapshot.toJson
    | none =>
      errorResponse (.noProgress (match id with
        | some id => "No progress recorded for job " ++ id.text
        | none => "No export has started yet"))

def progressStream (s : Service) (r : HttpRequest) : Outcome Service Reply :=
  match queryJob r.query with
  | .error response => unchanged s response
  | .ok id =>
    let response : HttpResponse := { status := 200, contentType := some "text/event-stream" }
    if r.isHead then unchanged s response
    else
      let (subscription, s) := s.subscribe (.ofJob id)
      ⟨s, ⟨response, some subscription⟩, []⟩

def serve (s : Service) (r : HttpRequest) (c : Context) : Route → Outcome Service Reply
  | .enqueue => enqueue s r c
  | .cancel => cancel s r c
  | .progress => unchanged s (progress s r)
  | .progressStream => progressStream s r
  | .formats => unchanged s (jsonResponse 200 formatsJson)
  | .queue => unchanged s (jsonResponse 200 (queueJson s.view))
  | .health => unchanged s (jsonResponse 200 (healthJson c.uptime))

/-- The answer to HEAD is the answer to GET without its body. -/
def withoutBody (o : Outcome Service Reply) : Outcome Service Reply :=
  { o with answer := { o.answer with response := { o.answer.response with body := .empty } } }

def handle (s : Service) (r : HttpRequest) (c : Context) : Outcome Service Reply :=
  match Route.ofPath? r.path with
  | none => unchanged s { status := 404 }
  | some route =>
    if r.method ∈ route.allowed then
      if r.isHead then withoutBody (serve s r c route) else serve s r c route
    else unchanged s { status := 405, allow := some (String.intercalate "," route.allowed) }

end BookExport.Http
