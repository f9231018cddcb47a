import PromptForm.Environment
import PromptForm.Json.Reader
import PromptForm.Text.Search
import PromptForm.Text.Utf8
import PromptForm.Web.Secret

/-! # The log of exchanges

Every exchange leaves one record. Of a body only the first bytes are kept, as many as the settings
say; JSON is logged with its secrets masked, other text as it is, and bytes only by name.
-/

namespace PromptForm.Web

/-- The first bytes of a body. -/
structure Capture where
  bytes : List UInt8
  /-- Was something cut off? -/
  truncated : Bool
  deriving DecidableEq, Repr

namespace Capture

def empty : Capture := ⟨[], false⟩

/-- Take in a chunk of a body, up to `cap` bytes altogether. A cap of zero captures nothing and
cuts nothing off. -/
def add (cap : Nat) (c : Capture) (chunk : List UInt8) : Capture :=
  if cap = 0 then c
  else
    let room := cap - c.bytes.length
    ⟨c.bytes ++ chunk.take room, decide (room < chunk.length) || c.truncated⟩

/-- The capture of a body that comes in chunks. -/
def ofChunks (cap : Nat) (chunks : List (List UInt8)) : Capture := chunks.foldl (add cap) empty

end Capture

abbrev Headers := List (String × String)

namespace Headers

def set (name value : String) : Headers → Headers
  | [] => [(name, value)]
  | (n, v) :: rest => if n == name then (n, value) :: rest else (n, v) :: set name value rest

/-- Headers as they are logged: names in lowercase, secrets masked, the last of equal names. -/
def forLog (raw : List (String × String)) : Headers :=
  raw.foldl (fun headers (name, value) =>
    set (lowered name) (if isSecretKey name then mask else value) headers) []

def value (headers : Headers) (name : String) : String :=
  ((headers.find? (·.1 == name)).map (·.2)).getD ""

def toJson (headers : Headers) : Json := .object (headers.map fun (n, v) => (n, .text v))

end Headers

/-- What is logged of a body that has some content type. JSON may have too many levels to be read;
that it may also have too many to be masked is left out. -/
def bodyForLog (contentType : String) (body : List UInt8) : Except TooNested Json := do
  let type := lowered contentType
  if body.isEmpty then return .text ""
  let content := Text.decodeUtf8 body
  if containsText "application/json" type then
    match ← Json.read? content with
    | some v => return redact v
    | none => return .text (String.ofList content)
  else if "text/".toList.isPrefixOf type.toList then return .text (String.ofList content)
  else return .text "<binary>"

/-- How exchanges are logged. -/
structure LogSettings where
  headers : Bool
  /-- The most bytes that are kept of a body. -/
  maxBytes : Nat
  deriving DecidableEq, Repr

/-- How the environment asks for a log, if it does. -/
def LogSettings.ofEnvironment? (env : Environment) : Option LogSettings :=
  if env.flag "RESPIRA_HTTP_LOG" false then
    some ⟨env.flag "RESPIRA_HTTP_LOG_HEADERS" false,
      (env.whole "RESPIRA_HTTP_LOG_BODY_MAX_BYTES" 4096).toNat⟩
  else none

/-- What goes one way in an exchange. -/
structure Message where
  headers : List (String × String)
  chunks : List (List UInt8)

/-- The error that ends an exchange. -/
structure ErrorNote where
  name : String
  message : String
  deriving DecidableEq, Repr

/-- An exchange. -/
structure Traffic where
  /-- The kind of connection. Only those of kind `http` are logged. -/
  kind : String
  method : String
  path : String
  request : Message
  /-- The status of the response, once it has begun. -/
  status : Option Int
  response : Message
  error : Option ErrorNote

/-- One way of an exchange as it is logged. -/
structure Side where
  headers : Headers
  body : Json
  truncated : Bool
  deriving Repr

def Side.ofMessage (cap : Nat) (m : Message) : Except TooNested Side := do
  let headers := Headers.forLog m.headers
  let capture := Capture.ofChunks cap m.chunks
  return ⟨headers, ← bodyForLog (headers.value "content-type") capture.bytes, capture.truncated⟩

/-- A side as a JSON object. -/
def Side.toJson (s : Side) (withHeaders : Bool) : Json :=
  .object ([("body", s.body), ("body_truncated", .bool s.truncated)] ++
    if withHeaders then [("headers", s.headers.toJson)] else [])

/-- The record of an exchange, the time that it took apart. -/
structure Record where
  id : String
  method : String
  path : String
  status : Option Int
  request : Side
  response : Side
  error : Option ErrorNote
  deriving Repr

namespace Record

/-- The record of an exchange. An id that comes with the request is kept. Before a response has
begun it has no headers. -/
def ofTraffic (settings : LogSettings) (freshId : String) (t : Traffic) :
    Except TooNested Record := do
  let request ← Side.ofMessage settings.maxBytes t.request
  let response := if t.status.isSome then t.response else { t.response with headers := [] }
  return {
    id := (nonEmpty? (request.headers.value "x-request-id")).getD freshId
    method := uppered t.method
    path := t.path
    status := t.status
    request := request
    response := ← Side.ofMessage settings.maxBytes response
    error := t.error }

def toJson (r : Record) (withHeaders : Bool) : Json :=
  .object ([("id", .text r.id), ("method", .text r.method), ("path", .text r.path),
    ("status", .ofInt? r.status), ("request", r.request.toJson withHeaders),
    ("response", r.response.toJson withHeaders)] ++
    match r.error with
    | some e => [("error", .object [("type", .text e.name), ("message", .text e.message)])]
    | none => [])

end Record

/-- The records that an exchange leaves, unless a body has too many levels to be read. -/
def records (settings : LogSettings) (freshId : String) (t : Traffic) :
    Except TooNested (List Record) := do
  if t.kind = "http" then return [← Record.ofTraffic settings freshId t] else return []

end PromptForm.Web
