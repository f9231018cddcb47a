import PromptForm.Hosting.Address
import PromptForm.Json.Strict
import PromptForm.Lowering.Draw

/-! # Requests and answers

The host of the forms is reached by requests, each of which has one answer. What it answers may
depend on the requests before. A session counts the ids that are drawn and records the requests
that are sent and the lines that are traced.
-/

namespace PromptForm

namespace Hosting

/-- A request. -/
structure Request where
  method : String
  address : Address
  authorization : String
  body : Option Json
  deriving Repr

/-- What comes of a request. -/
inductive Answer where
  /-- The host answers with a status and a text. -/
  | reply (status : Nat) (body : String)
  /-- There is no answer. -/
  | unreachable
  deriving DecidableEq, Repr

/-- What the host answers to a request after some others. -/
abbrev Transport := List Request → Request → Answer

/-- An error that the host reports, or that it cannot be reached. -/
structure HostError where
  message : String
  status : Option Nat
  /-- What was being done. -/
  operation : String
  deriving DecidableEq, Repr

/-- Why something cannot be done. -/
inductive Obstacle where
  | host (e : HostError)
  /-- There is no key for the host. -/
  | notConfigured
  /-- There is no workspace for the form. -/
  | noWorkspace
  /-- The first workspace is no object but a value of another type. -/
  | oddWorkspace (type : String)
  /-- A form cannot be compiled or a value does not have the right shape. -/
  | failure (e : Failure)
  /-- The address of the host or of a request cannot be written. -/
  | badAddress (fault : AddressFault)
  /-- The address of a request does not say how the host is reached. -/
  | unknownKind (address : String)
  /-- The key has characters that cannot be sent. -/
  | badKey (key : String)
  /-- A value cannot be written. -/
  | notWritable (reason : Unwritable)
  /-- Bytes cannot be written. -/
  | bytesNotWritable
  /-- An answer has too many levels to be written. -/
  | answerTooDeep
  deriving DecidableEq, Repr

/-- An answer of the host has too many levels to be read. -/
def Obstacle.tooNested (e : TooNested) : Obstacle := failure (.tooNested e)

def bearer (key : String) : String := "Bearer " ++ key

/-- What is said about the first characters of a text that are not basic ones. -/
def nonBasicMessage (cs : List Char) : String :=
  let isBasic (c : Char) : Bool := c.toNat < 128
  let start := (cs.takeWhile isBasic).length
  let run := (cs.drop start).takeWhile fun c => !isBasic c
  let what :=
    match run with
    | [c] => " '" ++ String.ofList (Text.escapeCode c) ++ "' in position " ++ toString start
    | _ => "s in position " ++ toString start ++ "-" ++ toString (start + run.length - 1)
  "'ascii' codec can't encode character" ++ what ++ ": ordinal not in range(128)"

def Obstacle.message : Obstacle → String
  | host e => e.message
  | notConfigured => "Not initialized. Please provide a Tally API key."
  | noWorkspace => "No workspaces found. Please create a workspace in Tally first."
  | oddWorkspace type => "'" ++ type ++ "' object has no attribute 'get'"
  | failure e => e.message
  | badAddress fault => fault.message
  | unknownKind address => "unknown url type: " ++ onText Text.quote address
  | badKey key => nonBasicMessage (bearer key).toList
  | notWritable reason => reason.message
  | bytesNotWritable => "Object of type bytes is not JSON serializable"
  | answerTooDeep => "Error serializing to JSON: ValueError: " ++ Failure.tooDeep.message

/-- What a session can reach. -/
structure World where
  transport : Transport
  ids : IdSource

/-- What a session remembers. -/
structure State where
  /-- The requests that were sent, in order. -/
  sent : List Request
  /-- The number of ids that were drawn. -/
  drawn : Nat
  /-- The lines that were traced, in order. -/
  traced : List String

def State.empty : State := ⟨[], 0, []⟩

end Hosting

open Hosting

/-- A computation in a session. -/
def Session (α : Type) : Type := World → State → Except Obstacle α × State

namespace Session

def pure (a : α) : Session α := fun _ s => (.ok a, s)

def bind (x : Session α) (f : α → Session β) : Session β := fun world s =>
  match x world s with
  | (.ok a, s) => f a world s
  | (.error e, s) => (.error e, s)

instance : Monad Session where
  pure := Session.pure
  bind := Session.bind

def fail (e : Obstacle) : Session α := fun _ s => (.error e, s)

def ofOutcome (x : Except Obstacle α) : Session α := fun _ s => (x, s)

def ofExcept (x : Except Failure α) : Session α := fun _ s => (x.mapError .failure, s)

def draw (x : Draw α) : Session α := fun world s =>
  match x world.ids s.drawn with
  | (outcome, drawn) => (outcome.mapError .failure, { s with drawn := drawn })

def send (r : Request) : Session Answer := fun world s =>
  (.ok (world.transport s.sent r), { s with sent := s.sent ++ [r] })

/-- Do something that may meet a host error, and go on with the error instead. -/
def catchHost (x : Session α) (handle : HostError → α) : Session α := fun world s =>
  match x world s with
  | (.error (.host e), s) => (.ok (handle e), s)
  | outcome => outcome

end Session

end PromptForm
