import PromptForm.Schema.Member

/-! # Visibility rules

A block may be shown only under a condition: another block's answer compares with a value in some
way.
-/

namespace PromptForm

/-- How an answer compares with a value. -/
inductive Operator where
  | equal
  | lessThan
  | lessOrEqual
  | greaterThan
  | greaterOrEqual
  deriving DecidableEq, Repr

namespace Operator

def all : List Operator := [.equal, .lessThan, .lessOrEqual, .greaterThan, .greaterOrEqual]

def name : Operator → String
  | equal => "EQUAL"
  | lessThan => "LESS_THAN"
  | lessOrEqual => "LESS_OR_EQUAL"
  | greaterThan => "GREATER_THAN"
  | greaterOrEqual => "GREATER_OR_EQUAL"

def ofName? (s : String) : Option Operator := all.find? fun op => op.name == s

def check : Json → Checked Operator
  | .text s =>
    match ofName? s with
    | some op => .ok op
    | none => .refuse .notNamed
  | _ => .refuse .notNamed

end Operator

/-- A number or a text. -/
inductive Scalar where
  | number (n : Number)
  | text (s : String)
  deriving DecidableEq, Repr

namespace Scalar

def toJson : Scalar → Json
  | number n => n.toJson
  | text s => .text s

/-- Read a scalar. A text stays a text. -/
def check : Json → Checked Scalar
  | .text s => .ok (.text s)
  | v =>
    match Check.number v with
    | .ok n => .ok (.number n)
    | .bad issues => .bad (issues ++ [⟨.notText, [.key "str"]⟩])
    | .overflow => .overflow

end Scalar

/-- A comparison of the answer in a block with a value. -/
structure Condition where
  target : String
  operator : Operator
  value : Scalar
  deriving DecidableEq, Repr

/-- The conditions under which a block is shown. -/
structure Rule where
  conditions : List Condition
  deriving DecidableEq, Repr

namespace Condition

def toJson (c : Condition) : Json :=
  .object [("targetFieldId", .text c.target), ("operator", .text c.operator.name),
    ("value", c.value.toJson)]

def check : Json → Checked Condition :=
  Check.object fun entries =>
    pure Condition.mk
      <*> Entries.require entries ⟨"targetFieldId", "target_field_id"⟩ Check.text
      <*> Entries.require entries (.plain "operator") Operator.check
      <*> Entries.require entries (.plain "value") Scalar.check

end Condition

namespace Rule

/-- What a rule does to its block. -/
def action : String := "SHOW"

def toJson (r : Rule) : Json :=
  .object [("action", .text action), ("conditions", .array (r.conditions.map Condition.toJson))]

def check : Json → Checked Rule :=
  Check.object fun entries =>
    pure (fun _ conditions => Rule.mk conditions)
      <*> Entries.optional entries (.plain "action") action (Check.oneOf [action])
      <*> Entries.optional entries (.plain "conditions") [] (Check.list Condition.check)

end Rule

end PromptForm
