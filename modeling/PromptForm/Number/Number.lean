import PromptForm.Json.Basic

/-! # Numbers

A number is whole or floating-point, and stays what it is: `5` and `5.0` are different.
-/

namespace PromptForm

/-- A whole or a floating-point number. -/
inductive Number where
  | int (n : Int)
  | double (x : Double)
  deriving DecidableEq, Repr

namespace Number

def toJson : Number → Json
  | int n => .int n
  | double x => .double x

def isZero : Number → Bool
  | int n => n == 0
  | double x => x.isZero

end Number

def Json.ofNumber? : Option Number → Json
  | some n => n.toJson
  | none => .null

mutual

/-- A value with null for every infinity and every floating-point value that is no number. -/
def Json.finite : Json → Json
  | .double .nan => .null
  | .double (.infinite _) => .null
  | .array items => .array (Json.finiteItems items)
  | .object entries => .object (Json.finiteEntries entries)
  | v => v

/-- `Json.finite` on the items of a list. -/
def Json.finiteItems : List Json → List Json
  | [] => []
  | v :: rest => Json.finite v :: Json.finiteItems rest

/-- `Json.finite` on the values of an object. -/
def Json.finiteEntries : List (String × Json) → List (String × Json)
  | [] => []
  | (key, v) :: rest => (key, Json.finite v) :: Json.finiteEntries rest

end

end PromptForm
