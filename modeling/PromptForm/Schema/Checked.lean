/-! # Checked values

A value of the right shape, or everything that is wrong with it. Checks of the parts of a value are
combined so that all their issues are reported, in order.
-/

namespace PromptForm

/-- What is wrong with a value or a member of it. -/
inductive Problem where
  /-- A member is not there. -/
  | missing
  /-- A member has no place. -/
  | unexpected
  /-- Not an object. -/
  | notObject
  /-- Not an object whose members may be read. -/
  | notReadable
  /-- Not a mapping of names to values. -/
  | notMapping
  /-- Not a list. -/
  | notList
  /-- Not a text. -/
  | notText
  /-- A text below its least length. -/
  | tooShort
  /-- Not a truth value, nor anything that could stand for one. -/
  | notFlag
  /-- Stands for no truth value. -/
  | unclearFlag
  /-- Not a whole number, nor anything that could stand for one. -/
  | notWhole
  /-- Stands for no whole number. -/
  | unclearWhole
  /-- A number with a fraction where a whole number is needed. -/
  | fractional
  /-- A whole number out of range. -/
  | tooLarge
  /-- A number that is not finite where a whole number is needed. -/
  | notFinite
  /-- Not a number, nor anything that could stand for one. -/
  | notNumber
  /-- Stands for no number. -/
  | unclearNumber
  /-- Not one of the values that are listed. -/
  | notListed
  /-- Not one of the names of an enumeration. -/
  | notNamed
  /-- The parts do not fit together. -/
  | unfit
  /-- The text is not JSON. -/
  | notJson
  deriving DecidableEq, Repr

def Problem.code : Problem → String
  | .missing => "missing"
  | .unexpected => "extra_forbidden"
  | .notObject => "model_type"
  | .notReadable => "model_attributes_type"
  | .notMapping => "dict_type"
  | .notList => "list_type"
  | .notText => "string_type"
  | .tooShort => "string_too_short"
  | .notFlag => "bool_type"
  | .unclearFlag => "bool_parsing"
  | .notWhole => "int_type"
  | .unclearWhole => "int_parsing"
  | .fractional => "int_from_float"
  | .tooLarge => "int_parsing_size"
  | .notFinite => "finite_number"
  | .notNumber => "float_type"
  | .unclearNumber => "float_parsing"
  | .notListed => "literal_error"
  | .notNamed => "enum"
  | .unfit => "value_error"
  | .notJson => "json_invalid"

/-- One step on the way from a value to a part of it. -/
inductive PathStep where
  | key (name : String)
  | index (i : Nat)
  deriving DecidableEq, Repr

/-- A problem and the place where it is. -/
structure Issue where
  problem : Problem
  path : List PathStep
  deriving DecidableEq, Repr

/-- The issue seen from the value that holds the part under `step`. -/
def Issue.under (step : PathStep) (issue : Issue) : Issue :=
  { issue with path := step :: issue.path }

/-- The outcome of a check. -/
inductive Checked (α : Type) where
  /-- A value of the right shape. -/
  | ok (a : α)
  /-- What is wrong. -/
  | bad (issues : List Issue)
  /-- The check broke off at an infinite number where a whole number is needed. -/
  | overflow
  deriving Repr

namespace Checked

variable {α β : Type}

/-- One problem with the value itself. -/
def refuse (problem : Problem) : Checked α := .bad [⟨problem, []⟩]

def map (f : α → β) : Checked α → Checked β
  | ok a => ok (f a)
  | bad issues => bad issues
  | overflow => overflow

/-- Combine two checks. Issues add up; nothing is checked after an overflow. -/
def combine (f : Checked (α → β)) (a : Checked α) : Checked β :=
  match f, a with
  | overflow, _ => overflow
  | _, overflow => overflow
  | ok f, ok a => ok (f a)
  | ok _, bad issues => bad issues
  | bad issues, ok _ => bad issues
  | bad first, bad second => bad (first ++ second)

instance : Applicative Checked where
  pure := ok
  map := map
  seq f a := combine f (a ())

/-- See the issues from the value that holds the part under `step`. -/
def under (step : PathStep) : Checked α → Checked α
  | bad issues => bad (issues.map (Issue.under step))
  | a => a

/-- Check the items of a list, the first one being number `i`. -/
def itemsFrom (check : β → Checked α) (i : Nat) : List β → Checked (List α)
  | [] => ok []
  | b :: rest => combine (map List.cons (under (.index i) (check b))) (itemsFrom check (i + 1) rest)

def items (check : β → Checked α) (list : List β) : Checked (List α) := itemsFrom check 0 list

/-- Reject every name. -/
def noneOf (names : List String) : Checked Unit :=
  if names.isEmpty then ok () else bad (names.map fun name => ⟨.unexpected, [.key name]⟩)

end Checked

end PromptForm
