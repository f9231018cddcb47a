import PromptForm.Hosting.Service
import PromptForm.Json.Bytes
import PromptForm.Json.Writer
import PromptForm.Web.Log
import PromptForm.Web.Route

/-! # The web interface

Requests are read and checked, handed to the service and answered in JSON. Whatever the service
cannot do becomes an answer with the status of an error; what nobody expected becomes one with
status 500.
-/

namespace PromptForm.Web

open Hosting

/-- A request to the web interface. -/
structure ApiRequest where
  /-- The method, in any case. -/
  method : String
  path : String
  headers : List (String × String)
  body : String

/-- An answer of the web interface. -/
structure ApiResponse where
  status : Nat
  body : Json
  /-- The path to go on to, as it is written in an address. -/
  location : Option String
  /-- What nobody expected. -/
  crash : Option Obstacle

namespace ApiResponse

/-- An answer in JSON, which has no place for numbers that are not finite. -/
def json (status : Nat) (body : Json) : ApiResponse := ⟨status, body.finite, none, none⟩

def detail (status : Nat) (message : String) : ApiResponse :=
  json status (.object [("detail", .text message)])

def refusal (status : Nat) (error message idPrefix stamp : String)
    (members : List (String × Json)) : ApiResponse :=
  json status (.object ([("ok", .bool false), ("error", .text error), ("message", .text message),
    ("requestId", .text (idPrefix ++ "_" ++ stamp))] ++ members))

/-- The answer to what nobody expected. -/
def crashed (e : Obstacle) (stamp : String) : ApiResponse :=
  { refusal 500 "internal_error" "Internal server error." "err" stamp [] with crash := some e }

/-- A good answer, unless one of its members has too many levels. -/
def good (stamp : String) (members : Entries) : ApiResponse :=
  if members.all fun (_, v) => v.fitsUnder 0 then json 200 (.object (("ok", .bool true) :: members))
  else crashed .answerTooDeep stamp

/-- The answer when the service cannot do something. -/
def ofObstacle (e : Obstacle) (stamp : String) : ApiResponse :=
  match e with
  | .host err => refusal (err.status.getD 502) "tally_api_error" err.message "tally" stamp []
  | .notConfigured => refusal 400 "not_configured" e.message "cfg" stamp []
  | .noWorkspace => refusal 400 "no_workspace" e.message "ws" stamp []
  | e => crashed e stamp

end ApiResponse

def stepJson : PathStep → Json
  | .key name => .text name
  | .index i => .int i

def issueJson (issue : Issue) : Json :=
  .object [("type", .text issue.problem.code),
    ("loc", .array (.text "body" :: issue.path.map stepJson))]

/-- The part of a value at the end of a path. -/
def partAt (v : Json) : List PathStep → Json
  | [] => v
  | .key name :: rest => partAt ((v.get? name).getD .null) rest
  | .index i :: rest => partAt (((v.items?).bind (·[i]?)).getD .null) rest

/-- The part of a body that an issue is about. -/
def issuePart (body : Json) (issue : Issue) : Json :=
  partAt body (if issue.problem = .missing then issue.path.dropLast else issue.path)

/-- The answer to a body that does not have the right shape. It shows the parts in question, so it
cannot be given when one of them cannot be written. -/
def unfitBody (body : Json) (issues : List Issue) (stamp : String) : ApiResponse :=
  match issues.findSome? fun issue => (issuePart body issue).unwritable? with
  | some reason => .crashed (.notWritable reason) stamp
  | none =>
    .refusal 422 "validation_error" "Request body did not match expected schema." "val" stamp
      [("details", .array (issues.map issueJson))]

/-- The body of a request, with the value that it writes if it is said to be JSON. -/
inductive RequestBody where
  | absent
  | json (v : Json)
  /-- A body that is not said to be JSON. -/
  | raw

/-- Is a content type one of JSON? Anything but two names with a slash between is not. -/
def isJsonType (contentType : String) : Bool :=
  let essence := Text.lower (Text.trim (contentType.toList.takeWhile (· != ';')))
  match Text.splitOn '/' essence with
  | [main, sub] =>
    main == "application".toList && (sub == "json".toList || "+json".toList.isSuffixOf sub)
  | _ => false

def headerValue? (headers : List (String × String)) (name : String) : Option String :=
  (headers.find? fun h => lowered h.1 == name).map (·.2)

def readBody (r : ApiRequest) (stamp : String) : Except ApiResponse RequestBody :=
  if r.body.isEmpty then .ok .absent
  else if !(headerValue? r.headers "content-type").any isJsonType then .ok .raw
  else
    match Json.readBytes? r.body with
    | some (.ok .null) => .ok .absent
    | some (.ok v) => .ok (.json v)
    | some (.error (.malformed _ position)) =>
      .error (unfitBody .null [⟨.notJson, [.index position]⟩] stamp)
    | some (.error _) | none =>
      .error (.detail 400 "There was an error parsing the body")

/-- Check the value of a body. -/
def checkBody (check : Entries → Checked α) (v : Json) (stamp : String) : Except ApiResponse α :=
  let outcome := match v with
    | .object entries => check entries
    | _ => .refuse .notReadable
  match outcome with
  | .ok a => .ok a
  | .bad issues => .error (unfitBody v issues stamp)
  | .overflow => .error (.crashed (.failure (.notFinite .infinity)) stamp)

def requireBody (check : Entries → Checked α) (body : RequestBody) (stamp : String) :
    Except ApiResponse α :=
  match body with
  | .absent => .error (unfitBody .null [⟨.missing, []⟩] stamp)
  | .json v => checkBody check v stamp
  | .raw => .error (.crashed .bytesNotWritable stamp)

def optionalBody (check : Entries → Checked α) (body : RequestBody) (stamp : String) :
    Except ApiResponse (Option α) :=
  match body with
  | .absent => .ok none
  | body => (requireBody check body stamp).map some

def checkPrompt (entries : Entries) : Checked String :=
  Entries.require entries (.plain "prompt") Check.nonEmptyText

/-- What is asked for when a form is made from a prompt. -/
structure PromptOrder where
  prompt : String
  options : FormOptions
  status : FormStatus

def checkOptions : Json → Checked FormOptions
  | .object entries => FormOptions.ofEntries entries
  | _ => .refuse .notReadable

def PromptOrder.check (entries : Entries) : Checked PromptOrder :=
  pure PromptOrder.mk
    <*> checkPrompt entries
    <*> Entries.optional entries (.plain "options") FormOptions.none checkOptions
    <*> Entries.optional entries (.plain "status") FormStatus.draft FormStatus.checkNew

/-- What is asked for when a contact form is made. -/
structure ContactOrder where
  title : String
  withPhone : Bool
  withCompany : Bool

def ContactOrder.default : ContactOrder := ⟨ContactForm.defaultTitle, false, false⟩

def ContactOrder.check (entries : Entries) : Checked ContactOrder :=
  pure ContactOrder.mk
    <*> Entries.optional entries (.plain "title") ContactForm.defaultTitle Check.text
    <*> Entries.optional entries ⟨"includePhone", "include_phone"⟩ false Check.flag
    <*> Entries.optional entries ⟨"includeCompany", "include_company"⟩ false Check.flag

def checkKey (entries : Entries) : Checked (Option String) :=
  Entries.maybe entries ⟨"apiKey", "api_key"⟩ Check.text

/-- Where the web interface runs. -/
structure Api where
  env : Environment
  /-- When requests come in. -/
  time : String
  /-- What tells the ids of requests apart. -/
  stamp : String

namespace Api

/-- The service for a request. A key in the headers comes before the one in the environment. -/
def service (api : Api) (r : ApiRequest) : Session Service :=
  Session.ofOutcome (Service.ofKey api.env
    ((headerValue? r.headers "x-tally-api-key").bind trimmed?) none none api.time)

/-- A good answer. -/
def good (api : Api) (members : Entries) : Session ApiResponse :=
  pure (ApiResponse.good api.stamp members)

def run (api : Api) (x : Session ApiResponse) : Session ApiResponse := fun world state =>
  match x world state with
  | (.ok response, state) => (.ok response, state)
  | (.error e, state) => (.ok (.ofObstacle e api.stamp), state)

/-- Go on with a body that has been read. -/
def withBody (body : Except ApiResponse α) (f : α → Session ApiResponse) : Session ApiResponse :=
  match body with
  | .error response => pure response
  | .ok a => f a

/-- The answer at a route with a body. -/
def atBodyRoute (api : Api) (s : Service) (body : RequestBody) : Route → Session ApiResponse
  | .compileForm => withBody (requireBody checkPrompt body api.stamp) fun prompt => do
    let compiled ← s.preview prompt
    api.good [("requestId", .text compiled.requestId),
      ("form", ← Session.ofExcept compiled.written)]
  | .createForm => withBody (requireBody PromptOrder.check body api.stamp) fun order => do
    api.good [("form",
      ← s.createFromPrompt order.prompt order.options (.text order.status.name))]
  | .createContactForm => withBody (optionalBody ContactOrder.check body api.stamp) fun order => do
    let order := order.getD .default
    api.good [("form",
      ← s.createContactForm (.text order.title) order.withPhone order.withCompany)]
  | .updateForm form => withBody (requireBody FormChange.ofEntries body api.stamp) fun change => do
    api.good [("form", ← s.withAccount fun a => a.changeForm form change)]
  | .validateKey => withBody (optionalBody checkKey body api.stamp) fun key => do
    let s ← match key.join.bind nonEmpty? with
      | some key => Session.ofOutcome (s.withKey key)
      | none => pure s
    api.good (← s.withAccount Account.validateKey)
  | _ => pure (.detail 404 "Not Found")

/-- Does a route read the body of the request? -/
def readsBody : Route → Bool
  | .compileForm | .createForm | .createContactForm | .updateForm _ | .validateKey => true
  | _ => false

/-- The answer at a route. The service is set up once the body has been read. -/
def atRoute (api : Api) (r : ApiRequest) : Route → Session ApiResponse
  | .health => api.good [("service", .text "respira-form-service"),
      ("ts", .int ((api.time.toNat?).getD 0))]
  | .listForms => do
    api.good [("forms", .array (← (← api.service r).withAccount Account.listForms))]
  | .getForm form => do
    api.good [("form", ← (← api.service r).withAccount fun a => a.getForm form)]
  | .deleteForm form => do
    api.good [("deleted", .bool (← (← api.service r).withAccount fun a => a.deleteForm form))]
  | .listSubmissions form => do
    api.good [("submissions",
      .array (← (← api.service r).withAccount fun a => a.listSubmissions form))]
  | .listWorkspaces => do
    api.good [("workspaces", .array (← (← api.service r).withAccount Account.listWorkspaces))]
  | route => withBody (readBody r api.stamp) fun body => do
    api.atBodyRoute (← api.service r) body route

def destinationOf (r : ApiRequest) : Destination := destination (uppered r.method) r.path

def answer (api : Api) (r : ApiRequest) : Session ApiResponse :=
  match destinationOf r with
  | .found route => api.run (api.atRoute r route)
  | .wrongMethod => pure (.detail 405 "Method Not Allowed")
  | .moved path => pure ⟨307, .null, some (Address.reference path), none⟩
  | .unknown => pure (.detail 404 "Not Found")

/-- The bytes of the body that are read to answer a request. -/
def bytesRead (r : ApiRequest) : List UInt8 :=
  match destinationOf r with
  | .found route => if readsBody route then Text.utf8Bytes r.body else []
  | _ => []

/-- The exchange of a request and its answer. An answer to what nobody expected is given only after
the exchange has been logged. -/
def traffic (r : ApiRequest) (response : ApiResponse) (error : Option ErrorNote) : Traffic where
  kind := "http"
  method := r.method
  path := r.path
  request := ⟨r.headers, [bytesRead r]⟩
  status := if response.crash.isSome then none else some response.status
  response := ⟨[("content-type", "application/json")],
    if response.crash.isSome || response.location.isSome then []
    else [Text.utf8Bytes response.body.compact]⟩
  error := error

end Api

end PromptForm.Web
