import PromptForm.Condition.Expression
import PromptForm.Text.Slug

/-! # References to fields

A field is referred to by its label, regardless of case and of the amount of white space, or by the
slug of its label. The label map says which block stands for the field that was labelled so last.
-/

namespace PromptForm

/-- The keys under which a label is found, the better one first. -/
def referenceKeys (label : String) : List String :=
  let base := onText (fun cs => Text.collapseBlanks (Text.lower (Text.trim cs))) label
  if base.isEmpty then []
  else
    let slug := slugged base
    if slug.isEmpty || slug == base then [base] else [base, slug]

/-- Blocks by reference key, in the order in which the keys first came. -/
abbrev LabelMap := List (String × String)

namespace LabelMap

def get? (labels : LabelMap) (key : String) : Option String :=
  (labels.find? fun entry => entry.1 == key).map (·.2)

def put (key block : String) : LabelMap → LabelMap
  | [] => [(key, block)]
  | (k, b) :: rest => if k == key then (k, block) :: rest else (k, b) :: put key block rest

/-- Let a label stand for a block. -/
def register (labels : LabelMap) (label block : String) : LabelMap :=
  (referenceKeys label).foldl (fun labels key => put key block labels) labels

/-- The block that a reference stands for: that of its first key that has one. -/
def lookup (labels : LabelMap) (reference : String) : Option String :=
  (referenceKeys reference).findSome? fun key => (get? labels key).bind nonEmpty?

/-- The rule that an expression stands for, if it can be read and its reference is known. -/
def resolve (labels : LabelMap) (expr : String) : Except Failure (Option Rule) :=
  match Expression.parse? expr.toList with
  | .error e => .error e
  | .ok none => .ok none
  | .ok (some e) =>
    .ok ((lookup labels e.reference).map fun target => ⟨[⟨target, e.operator, e.value⟩]⟩)

def toJson (labels : LabelMap) : Json := .object (labels.map fun entry => (entry.1, .text entry.2))

end LabelMap

end PromptForm
