import PromptForm.Failure
import PromptForm.Form.Basic
import PromptForm.Oracle.Guide
import PromptForm.Text.Fence

/-! # Oracles

An oracle turns instructions and a prompt into text, which should hold a form in JSON. It is called
once; whatever it does instead of answering is a fault, and so is an answer that holds no form. A
number that is too large to be a whole one is no fault of the oracle, nor are too many levels of
lists and objects: they break off the compiling.
-/

namespace PromptForm

namespace Oracle

/-- What keeps an answer from being a form. -/
inductive Unfit where
  | notObject
  | noTitle
  | noSections
  | sectionsNoList
  /-- So many values do not have the right shape. -/
  | invalid (count : Nat)
  deriving DecidableEq, Repr

def Unfit.message : Unfit → String
  | notObject => "response is not a JSON object"
  | noTitle => "missing title"
  | noSections => "missing sections"
  | sectionsNoList => "sections is not a list"
  | invalid count => "invalid form: " ++ toString count ++ " validation error(s)"

/-- Why an oracle gives no form. -/
inductive Fault where
  /-- There is no oracle to ask, or it says so itself. -/
  | unavailable (message : String)
  /-- The oracle did not answer. -/
  | failed (message : String)
  /-- The answer is of no use. -/
  | unusable (message : String)
  deriving DecidableEq, Repr

namespace Fault

def message : Fault → String
  | unavailable message => message
  | failed message => message
  | unusable message => message

def notConfigured : Fault := unavailable "form parser oracle is not configured"

def broken (name message : String) : Fault :=
  failed ("oracle call failed: " ++ name ++ ": " ++ message)

def noContent : Fault := unusable "oracle returned no content"

/-- The answer holds no JSON. -/
def notJson : Fault := unusable "oracle response is not JSON"

/-- The answer is JSON but no form. -/
def unfit (reason : Unfit) : Fault :=
  unusable ("invalid form structure from oracle: " ++ reason.message)

end Fault

/-- A call of an oracle. -/
structure Call where
  instructions : String
  prompt : String
  deriving DecidableEq, Repr

def Call.ofPrompt (prompt : String) : Call := ⟨Oracle.instructions, prompt⟩

/-- How a call ends. -/
inductive Reply where
  | text (s : String)
  | nothing
  /-- The oracle reports a fault itself. -/
  | fault (f : Fault)
  /-- The oracle breaks for another cause, which has a name. -/
  | broken (name message : String)
  deriving DecidableEq, Repr

/-- Why the text of an answer gives no form. -/
inductive Breakdown where
  | fault (f : Fault)
  | failure (e : Failure)
  deriving DecidableEq, Repr

end Oracle

abbrev Oracle := Oracle.Call → Oracle.Reply

namespace Oracle

def title? (entries : Entries) : Option String :=
  ((Entries.get? entries "title").bind Json.text?).bind trimmed?

/-- The object that is read as a form: the title is trimmed, and sections that are no objects are
left out. -/
def formObject (entries : Entries) : Except Unfit Json :=
  match title? entries, Entries.get? entries "sections" with
  | none, _ => .error .noTitle
  | some _, none => .error .noSections
  | some title, some (.array sections) =>
    let kept := sections.filter fun v => v.entries?.isSome
    .ok (.object (Entries.put "sections" (.array kept) (Entries.put "title" (.text title) entries)))
  | some _, some _ => .error .sectionsNoList

def formOfJson (v : Json) : Except Breakdown Form :=
  match v with
  | .object entries =>
    match formObject entries with
    | .error reason => .error (.fault (.unfit reason))
    | .ok object =>
      match Form.check object with
      | .ok form => .ok form
      | .bad issues => .error (.fault (.unfit (.invalid issues.length)))
      | .overflow => .error (.failure (.notFinite .infinity))
  | _ => .error (.fault (.unfit .notObject))

def formOfText (s : String) : Except Breakdown Form :=
  if isBlankText s then .error (.fault .noContent)
  else
    match Json.within? s.toList with
    | .error e => .error (.failure (.tooNested e))
    | .ok none => .error (.fault .notJson)
    | .ok (some v) => formOfJson v

def formOfReply : Reply → Except Breakdown Form
  | .text s => formOfText s
  | .nothing => .error (.fault .noContent)
  | .fault f => .error (.fault f)
  | .broken name message => .error (.fault (.broken name message))

/-- The form that an oracle gives for a prompt. -/
def formOfPrompt (oracle? : Option Oracle) (prompt : String) : Except Breakdown Form :=
  match oracle? with
  | none => .error (.fault .notConfigured)
  | some oracle => formOfReply (oracle (.ofPrompt prompt))

end Oracle

/-- Does a form have enough fields? -/
def Form.hasFields (form : Form) (least : Int) : Bool := least ≤ form.fieldCount

end PromptForm
