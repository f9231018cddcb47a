import PromptForm.Block.Basic
import PromptForm.Lowering.Choice
import PromptForm.Lowering.Draw

/-! # Building blocks

Single blocks, and the groups of blocks that make up one question: a title first, then the blocks
that take the answer. Payloads are checked when they are built.
-/

namespace PromptForm

/-- The text of the closing block of a form. -/
def defaultAttribution : String := "Made with Respira ✨"

namespace Build

def payload (shape : Shape) (members : List (String × Json)) : Draw Payload :=
  Draw.ofExcept (Payload.check shape (.object members)).toExcept

/-- A block, in a group of its own unless a group is given. -/
def block (kind : BlockKind) (payload : Payload) (group groupType : Option String) :
    Draw Block := do
  let uuid ← Draw.fresh
  let groupUuid ←
    match group.bind nonEmpty? with
    | some group => pure group
    | none => Draw.fresh
  if payload.body.shape = kind.shape then
    return ⟨uuid, kind, groupUuid, (groupType.bind nonEmpty?).getD kind.name, payload⟩
  else Draw.fail (.invalid [⟨.unfit, []⟩])

def rich (v : Json) : Json := .array [.array [v]]

def single (kind : BlockKind) (members : List (String × Json)) : Draw Block := do
  let p ← payload kind.shape members
  block kind p none none

def inGroup (kind : BlockKind) (group : String) (members : List (String × Json)) : Draw Block := do
  let p ← payload kind.shape members
  block kind p (some group) none

def formTitle (title : Json) : Draw Block := do
  let p ← payload .formTitle [("title", title), ("safe_html_schema", rich title)]
  block .formTitle p none (some "TEXT")

def text (text : Json) : Draw Block :=
  single .text [("text", text), ("safe_html_schema", rich text)]

def headingKind (level : Int) : BlockKind :=
  if level = 1 then .heading1 else if level = 3 then .heading3 else .heading2

def heading (title : Json) (level : Int) : Draw Block :=
  single (headingKind level) [("title", title), ("safe_html_schema", rich title)]

def divider : Draw Block := single .divider []

def attribution (wording : Option String) : Draw Block :=
  text (.text ((wording.bind nonEmpty?).getD defaultAttribution))

def questionTitle (label : Json) (group : String) (description : Json) : Draw Block := do
  let p ← payload .questionTitle [("title", label), ("safe_html_schema", rich label),
    ("description", .ofText? description.usableText?)]
  block .title p (some group) (some "QUESTION")

/-- A question that is answered in one input. -/
def question (label : Json) (kind : BlockKind) (required : Bool) (placeholder description : Json) :
    Draw (List Block) := do
  let group ← Draw.fresh
  let title ← questionTitle label group description
  let input ← inGroup kind group [("is_required", .bool required),
    ("placeholder", .ofText? placeholder.usableText?)]
  return [title, input]

/-- The blocks of the options from number `i` on, out of `total` ones. Only the first block of a
dropdown has a placeholder. -/
def choicesFrom (kind : BlockKind) (group groupType : String) (required : Bool) (placeholder : Json)
    (total i : Nat) : List Choice → Draw (List Block)
  | [] => pure []
  | c :: rest => do
    let p ← payload kind.shape [("index", .int i), ("is_required", .bool required),
      ("is_first", .bool (i == 0)), ("is_last", .bool (i + 1 == total)), ("text", .text c.text),
      ("value", .text c.value), ("is_default", if c.isDefault then .bool true else .null),
      ("description", .ofText? c.description),
      ("placeholder", if i == 0 && kind == .dropdownOption then placeholder else .null)]
    let first ← block kind p (some group) (some groupType)
    let others ← choicesFrom kind group groupType required placeholder total (i + 1) rest
    return first :: others

/-- A question whose answer is picked from options. -/
def choiceQuestion (label : Json) (kind : BlockKind) (groupType : String) (choices : List Choice)
    (required : Bool) (description placeholder : Json) : Draw (List Block) := do
  let group ← Draw.fresh
  let title ← questionTitle label group description
  let options ← choicesFrom kind group groupType required placeholder choices.length 0 choices
  return title :: options

end Build

end PromptForm
