import PromptForm.Json.Basic

/-! # Depth of JSON values

How many levels a value has. What is kept of a form without being understood is written down only
up to a greatest number of levels.
-/

namespace PromptForm.Json

mutual

/-- The number of levels of a value. A value that holds no others has one. -/
def depth : Json → Nat
  | .array items => 1 + depthOfItems items
  | .object entries => 1 + depthOfEntries entries
  | _ => 1

def depthOfItems : List Json → Nat
  | [] => 0
  | v :: rest => max (depth v) (depthOfItems rest)

def depthOfEntries : List (String × Json) → Nat
  | [] => 0
  | (_, v) :: rest => max (depth v) (depthOfEntries rest)

end

/-- The most levels of a value that is written down. -/
def maxDepth : Nat := 255

/-- Can a value be written down inside of `levels` others? -/
def fitsUnder (levels : Nat) (v : Json) : Bool := levels + v.depth ≤ maxDepth

end PromptForm.Json
