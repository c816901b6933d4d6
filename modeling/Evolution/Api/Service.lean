import Evolution.Address.Percent
import Evolution.Api.Failure
import Evolution.Api.Route
import Evolution.Api.Submission
import Evolution.Http.Cors
import Evolution.Http.Encoding
import Evolution.Http.MediaType
import Evolution.Lifecycle.Manager
import Evolution.Text.Character

/-! The service over HTTP. A request is first read as a whole, which changes nothing; only then is
it carried out. -/
namespace Evolution.Api

open Http Json

/-- Why a request cannot be read. -/
inductive Rejection where
  | path
  | query
  | mediaType
  | tooLong
  | syntaxError
  | shape
  deriving DecidableEq, Repr

def Rejection.response : Rejection → Response
  | path => .ofText 400 "The path holds no changeset id"
  | query => .ofText 400 "The query cannot be read"
  | mediaType => .ofText 415 "The content type has to be JSON"
  | tooLong => .ofText 413 "The body is too long"
  | syntaxError => .ofText 400 "The body is no JSON"
  | shape => .ofText 422 "The body is JSON of another shape"

/-- What is to be done, with all that it needs. -/
inductive Command where
  | health
  | preview (s : Submission)
  | create (s : Submission)
  | saveDraft (s : Submission)
  | list (f : Filter)
  | get (id : Uuid)
  | validate (id : Uuid)
  | apply (id : Uuid)
  | revert (id : Uuid)
  | abandon (id : Uuid) (a : Abandonment)

/-! ## Reading -/

/-- A body of two mebibytes is the longest. -/
def maxBodySize : Nat := 2 * 1024 * 1024

def readBody {α : Type} (decode : Decoder α) (r : Request) : Except Rejection α :=
  if !((r.header? "content-type").bind MediaType.ofText?).any MediaType.isJson then
    .error .mediaType
  else if maxBodySize < r.body.size then .error .tooLong
  else
    match decodeBytes decode r.body with
    | .ok a => .ok a
    | .error .malformed => .error .syntaxError
    | .error .mismatched => .error .shape

def readId (id : String) : Except Rejection Uuid :=
  match (Address.decode? id.toList).bind Uuid.ofText? with
  | some id => .ok id
  | none => .error .path

/-- The value of a name that may come once. -/
def single? (pairs : List (String × String)) (name : String) : Option (Option String) :=
  match pairs.filter (·.1 == name) with
  | [] => some none
  | [(_, value)] => some (some value)
  | _ => none

/-- Reads a value if there is one. -/
def readSingle? {α : Type} (pairs : List (String × String)) (name : String)
    (read? : String → Option α) : Option (Option α) :=
  match single? pairs name with
  | none => none
  | some none => some none
  | some (some value) => (read? value).map some

/-- Reads a filter; other names may come as they like. -/
def filter? (query : String) : Option Filter := do
  let pairs := Address.formPairs query
  let moduleName ← readSingle? pairs "module" some
  let status ← readSingle? pairs "status" Status.named?
  let tenantId ← readSingle? pairs "tenantId" Uuid.ofText?
  let limit ← readSingle? pairs "limit" (Text.unsigned? 0xFFFFFFFFFFFFFFFF)
  pure { moduleName, status, tenantId, limit }

/-- No list is longer than this. -/
def maxListLimit : Nat := 500

def cappedFilter (f : Filter) : Filter :=
  { f with limit := some (min (f.limit.getD maxListLimit) maxListLimit) }

def readFilter (r : Request) : Except Rejection Filter :=
  match filter? (r.target.query.getD "") with
  | some f => .ok (cappedFilter f)
  | none => .error .query

def Command.read (r : Request) : Operation → Except Rejection Command
  | .health => .ok health
  | .preview => (readBody Submission.decode r).map preview
  | .create => (readBody Submission.decode r).map create
  | .saveDraft => (readBody Submission.decode r).map saveDraft
  | .list => (readFilter r).map list
  | .get id => (readId id).map get
  | .step .validate id => (readId id).map validate
  | .step .apply id => (readId id).map apply
  | .step .revert id => (readId id).map revert
  | .step .abandon id => do
    let id ← readId id
    let a ← readBody Abandonment.decode r
    pure (abandon id a)

/-! ## Carrying out -/

def success (message : String) (data : Value) : Value :=
  .object [("success", .bool true), ("message", .string message), ("data", data)]

def check (errors : List FieldError) : Except Fault Unit :=
  if errors.isEmpty then .ok () else .error (.validation (FieldError.report errors))

def healthJson (store version : String) (now : Time.Instant) : Value :=
  .object [("success", .bool true), ("message", .string "Server is running fine."),
    ("store", .string store), ("timestamp", .string now.text), ("version", .string version)]

def previewJson (p : Preview) : Value :=
  success
    (if p.errors.isEmpty then "Changeset compiled." else "Changeset compiled with model errors.")
    (.object [("changeset", p.changeset.json),
      ("errors", .strings (p.errors.map ModelError.message))])

/-- What the service needs to know besides the changesets. -/
structure Service (σ : Type) where
  backend : Backend σ
  storeName : String
  cors : CorsPolicy

def version : String := "0.1.0"

variable {σ : Type} (s : Service σ)

/-- Carries out a command; `stamp` is the identity of a record to be made. -/
def Command.run (stamp : Stamp) : Command → Action (Manager σ) Value
  | health => pure (healthJson s.storeName version stamp.now)
  | preview p => do
    ExceptT.mk (pure (check p.errors))
    pure (previewJson p.request.preview)
  | create p => do
    ExceptT.mk (pure (check p.errors))
    let r ← Manager.createDraft s.backend p.request p.createdBy stamp
    pure (success s!"Changeset created with status '{r.status}'." r.json)
  | saveDraft p => do
    ExceptT.mk (pure (check p.errors))
    let r ← Manager.saveDraft s.backend p.request p.createdBy stamp
    pure (success "Draft saved." r.json)
  | list f => do
    let rs ← Manager.list s.backend f
    pure (success s!"{rs.length} changeset(s) found." (.array (rs.map Record.json)))
  | get id => do
    let r ← Manager.get s.backend id
    pure (success "Changeset found." r.json)
  | validate id => do
    let r ← Manager.validate s.backend id stamp.now
    pure (success s!"Changeset is now '{r.status}'." r.json)
  | apply id => do
    let r ← Manager.apply s.backend id stamp.now
    pure (success "Changeset applied." r.json)
  | revert id => do
    let r ← Manager.revert s.backend id stamp.now
    pure (success "Changeset reverted." r.json)
  | abandon id a => do
    ExceptT.mk (pure (check a.errors))
    let r ← Manager.abandon s.backend id a.reason stamp.now
    pure (success "Changeset abandoned." r.json)

def answered : Except Fault Value → Response
  | .ok v => .ofJson 200 v
  | .error f => .ofJson f.failure.status f.failure.json

/-- The answer to a request for a resource there is, by a method that may not be there. -/
def answerResource (stamp : Stamp) (request : Request) (resource : Resource) (m : Manager σ) :
    Response × Manager σ :=
  match resource.operation? request.method with
  | none => (⟨405, [("allow", resource.allowedMethods)], .empty⟩, m)
  | some operation =>
    match Command.read request operation with
    | .error rejection => (rejection.response, m)
    | .ok command =>
      let (result, m) := (command.run s stamp).run.run m
      (answered result, m)

/-- The methods of a resource, for whoever asks by a method that is not one of them. -/
def allowHeader (path : String) : List (String × String) :=
  ((Resource.ofPath? path).map fun resource => ("allow", resource.allowedMethods)).toList

/-- Answers one request. The response repeats the identifier that the request has, unless it asks
for permission only. -/
def Service.serve (stamp : Stamp) (request : Request) (m : Manager σ) : Response × Manager σ :=
  if request.method == "OPTIONS" then
    ((s.cors.preflight request).withHeaders (allowHeader request.target.path), m)
  else
    let (response, m) : Response × Manager σ :=
      match Resource.ofPath? request.target.path with
      | none => (⟨404, [], .empty⟩, m)
      | some resource => answerResource s stamp request resource m
    let response := if request.method == "HEAD" then response.withoutBody else response
    let response :=
      match Encoding.preferred (request.headersNamed "accept-encoding") with
      | .gzip => response.compress
      | .identity => response
    let identifier := ((request.header? "x-request-id").map fun id => ("x-request-id", id)).toList
    (response.withHeaders (s.cors.originHeaders request ++ identifier), m)

end Evolution.Api
