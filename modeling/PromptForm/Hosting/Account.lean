import PromptForm.Environment
import PromptForm.Hosting.Creation
import PromptForm.Hosting.Exchange
import PromptForm.Json.Bytes
import PromptForm.Json.Strict
import PromptForm.Number.Number
import PromptForm.Text.Base64

/-! # Accounts

With a key, the forms of an account can be listed, read, made, changed and deleted, and so can its
submissions and workspaces. Every answer with a status from 400 to 599 is an error.
-/

namespace PromptForm.Hosting

/-- What can be done with an account. -/
inductive Operation where
  | getUser
  | listForms
  | getForm (form : String)
  | createForm
  | updateForm (form : String)
  | deleteForm (form : String)
  | listSubmissions (form : String)
  | getSubmission (form submission : String)
  | deleteSubmission (form submission : String)
  | listWorkspaces
  | createWorkspace
  deriving DecidableEq, Repr

namespace Operation

def method : Operation → String
  | getUser | listForms | getForm _ | listSubmissions _ | getSubmission _ _ | listWorkspaces =>
    "GET"
  | createForm | createWorkspace => "POST"
  | updateForm _ => "PATCH"
  | deleteForm _ | deleteSubmission _ _ => "DELETE"

def path : Operation → String
  | getUser => "/user"
  | listForms | createForm => "/forms"
  | getForm form | updateForm form | deleteForm form => "/forms/" ++ form
  | listSubmissions form => "/forms/" ++ form ++ "/submissions"
  | getSubmission form submission | deleteSubmission form submission =>
    "/forms/" ++ form ++ "/submissions/" ++ submission
  | listWorkspaces | createWorkspace => "/workspaces"

def name : Operation → String
  | getUser => "get user"
  | listForms => "list forms"
  | getForm form => "get form " ++ form
  | createForm => "create form"
  | updateForm form => "update form " ++ form
  | deleteForm form => "delete form " ++ form
  | listSubmissions form => "list submissions for form " ++ form
  | getSubmission _ submission => "get submission " ++ submission
  | deleteSubmission _ submission => "delete submission " ++ submission
  | listWorkspaces => "list workspaces"
  | createWorkspace => "create workspace"

end Operation

/-- The usual phrases for statuses that are errors. -/
def reasonPhrases : List (Nat × String) := [
  (400, "Bad Request"), (401, "Unauthorized"), (402, "Payment Required"), (403, "Forbidden"),
  (404, "Not Found"), (405, "Method Not Allowed"), (406, "Not Acceptable"),
  (407, "Proxy Authentication Required"), (408, "Request Timeout"), (409, "Conflict"),
  (410, "Gone"), (411, "Length Required"), (412, "Precondition Failed"),
  (413, "Request Entity Too Large"), (414, "Request-URI Too Long"),
  (415, "Unsupported Media Type"), (416, "Requested Range Not Satisfiable"),
  (417, "Expectation Failed"), (418, "I'm a teapot"), (421, "Misdirected Request"),
  (422, "Unprocessable Entity"), (423, "Locked"), (424, "Failed Dependency"), (425, "Too Early"),
  (426, "Upgrade Required"), (428, "Precondition Required"), (429, "Too Many Requests"),
  (431, "Request Header Fields Too Large"), (451, "Unavailable For Legal Reasons"),
  (500, "Internal Server Error"), (501, "Not Implemented"), (502, "Bad Gateway"),
  (503, "Service Unavailable"), (504, "Gateway Timeout"), (505, "HTTP Version Not Supported"),
  (506, "Variant Also Negotiates"), (507, "Insufficient Storage"), (508, "Loop Detected"),
  (510, "Not Extended"), (511, "Network Authentication Required")]

def reasonPhrase (status : Nat) : String :=
  ((reasonPhrases.find? (·.1 == status)).map (·.2)).getD "Unknown error"

def isError (status : Nat) : Bool := 400 ≤ status && status ≤ 599

/-- The value in the bytes of an answer, if they are JSON text. -/
def bodyValue? (body : String) : Except TooNested (Option Json) :=
  ((Json.readBytes? body).map Json.orNone).getD (.ok none)

/-- How much of a text is reported. -/
def reportedLength : Nat := 300

/-- What an answer with an error says: a message in its object, else its text, else what is usual
for its status. -/
def errorText (status : Nat) (body : String) : Except TooNested String := do
  let entries := ((← bodyValue? body).bind Json.entries?).getD []
  let said := ["message", "error", "detail"].findSome? fun key =>
    ((Entries.get? entries key).bind Json.text?).bind trimmed?
  let text := (trimmed? body).map (onText (·.take reportedLength))
  return (said <|> text).getD (reasonPhrase status)

/-- The value of an answer. Without a readable text there is none. -/
def answerValue (status : Nat) (body : String) : Except TooNested Json := do
  if status = 204 then return .null else return (← bodyValue? body).getD .null

/-- The items of an answer: a list, or the list in the member `items`. -/
def itemsOf : Json → List Json
  | .array items => items
  | .object entries =>
    match Entries.get? entries "items" with
    | some (.array items) => items
    | _ => []
  | _ => []

/-- A value that counts as something, or the empty object. -/
def orEmpty (v : Json) : Json := if v.truthy then v else .object []

/-- An account at the host. -/
structure Account where
  key : String
  /-- Where the host is found, as it was given. -/
  baseUrl : String
  /-- The address below which requests are made. -/
  base : Address
  /-- How long to wait for an answer, in seconds. -/
  timeout : Double
  deriving Repr

namespace Account

def defaultBaseUrl : String := "https://api.tally.so"

/-- How long to wait for an answer, unless the caller says how long. -/
def defaultTimeout (env : Environment) : Double :=
  ((env.get? "TALLY_HTTP_TIMEOUT_SEC").bind fun s => Numeral.readDouble? s.toList).getD
    (.ofDecimal false 30 0)

/-- The account of a key. The address and the waiting time come from the caller, from the
environment or from what is usual, in this order. There is no account if the address is none or the
key cannot be sent. -/
def ofKey (env : Environment) (key : String) (baseUrl : Option String) (timeout : Option Number) :
    Except Obstacle Account := do
  let baseUrl := onText (Text.dropEndWhile (· == '/'))
    ((baseUrl.bind nonEmpty? <|> (env.get? "TALLY_API_BASE_URL").bind nonEmpty?).getD
      defaultBaseUrl)
  let base ← (Address.parse baseUrl.toList >>= Address.asBase).mapError .badAddress
  if key.toList.any (128 ≤ ·.toNat) then throw (.badKey key)
  let timeout :=
    match timeout with
    | some (.double x) => x
    | some (.int n) => .ofInt n
    | none => defaultTimeout env
  return ⟨key, baseUrl, base, timeout⟩

/-- How the account shows itself at an address. A user in the address comes before the key. -/
def authorization (a : Account) (address : Address) : String :=
  match address.credentials? with
  | some credentials => "Basic " ++ String.ofList (Text.base64 (Text.utf8Bytes credentials))
  | none => bearer a.key

/-- The request of an operation, unless its address or its body cannot be written. A null is no
body. -/
def request (a : Account) (op : Operation) (body : Option Json) : Except Obstacle Request :=
  match a.base.below op.path with
  | .error fault => .error (.badAddress fault)
  | .ok address =>
    let body := body.filter (!·.isNull)
    match body.bind Json.unwritable? with
    | some reason => .error (.notWritable reason)
    | none => .ok ⟨op.method, address, a.authorization address, body⟩

def outcome (op : Operation) : Answer → Except Obstacle Json
  | .unreachable =>
    .error (.host ⟨"Network Error: Unable to connect to Tally API", none, op.name⟩)
  | .reply status body => do
    if isError status then
      let said ← (errorText status body).mapError Obstacle.tooNested
      throw (.host ⟨"Tally API Error: " ++ toString status ++ " - " ++ said, some status, op.name⟩)
    else (answerValue status body).mapError Obstacle.tooNested

/-- Carry out an operation. An answer from an address that does not say how it is reached is of no
use. -/
def perform (a : Account) (op : Operation) (body : Option Json) : Session Json := do
  match a.request op body with
  | .error e => Session.fail e
  | .ok r =>
    let answer ← Session.send r
    if answer != .unreachable && !r.address.hasKind then
      Session.fail (.unknownKind r.address.text)
    else
      Session.ofOutcome (outcome op answer)

def getUser (a : Account) : Session Json := do return orEmpty (← a.perform .getUser none)

/-- Is the key valid? Host errors are part of the answer. -/
def validateKey (a : Account) : Session Entries :=
  Session.catchHost
    (do return [("isValid", .bool true), ("user", ← a.getUser)])
    fun e => [("isValid", .bool false), ("error", .text e.message)]

def listForms (a : Account) : Session (List Json) := do
  return itemsOf (← a.perform .listForms none)

def getForm (a : Account) (form : String) : Session Json := do
  return orEmpty (← a.perform (.getForm form) none)

def createForm (a : Account) (body : Json) : Session Json := do
  return orEmpty (← a.perform .createForm (some body))

def updateForm (a : Account) (form : String) (body : Json) : Session Json := do
  return orEmpty (← a.perform (.updateForm form) (some body))

def makeForm (a : Account) (r : FormCreation) : Session Json := do
  a.createForm (← Session.ofExcept r.written)

def changeForm (a : Account) (form : String) (change : FormChange) : Session Json := do
  a.updateForm form (← Session.ofExcept change.written)

def deleteForm (a : Account) (form : String) : Session Bool := do
  let _ ← a.perform (.deleteForm form) none
  return true

def listSubmissions (a : Account) (form : String) : Session (List Json) := do
  return itemsOf (← a.perform (.listSubmissions form) none)

def getSubmission (a : Account) (form submission : String) : Session Json := do
  return orEmpty (← a.perform (.getSubmission form submission) none)

def deleteSubmission (a : Account) (form submission : String) : Session Bool := do
  let _ ← a.perform (.deleteSubmission form submission) none
  return true

def listWorkspaces (a : Account) : Session (List Json) := do
  return itemsOf (← a.perform .listWorkspaces none)

/-- Make a workspace. A slug that does not count as anything is left out. -/
def createWorkspace (a : Account) (name slug : Json) : Session Json := do
  let entries := [("name", name)] ++ (if slug.truthy then [("slug", slug)] else [])
  return orEmpty (← a.perform .createWorkspace (some (.object entries)))

end Account

end PromptForm.Hosting
