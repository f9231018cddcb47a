import PromptForm.Number.Double

/-! # JSON values

Values as they are read from JSON text. Whole and floating-point numbers stay apart, and an object
keeps its entries in the order in which their keys first came.
-/

namespace PromptForm

/-- A JSON value. -/
inductive Json where
  | null
  | bool (b : Bool)
  | int (n : Int)
  | double (x : Double)
  | text (s : String)
  | array (items : List Json)
  | object (entries : List (String × Json))
  deriving Inhabited, Repr

abbrev Entries := List (String × Json)

namespace Entries

def get? (entries : Entries) (key : String) : Option Json :=
  (entries.find? (·.1 == key)).map (·.2)

/-- The value under a key that is there and not null. -/
def present? (entries : Entries) (key : String) : Option Json :=
  match Entries.get? entries key with
  | none => none
  | some .null => none
  | some v => some v

/-- The first value under one of the keys that is there and not null. -/
def firstPresent? (entries : Entries) (keys : List String) : Option Json :=
  keys.findSome? (present? entries)

def has (entries : Entries) (key : String) : Bool := entries.any (·.1 == key)

/-- Write a value under a key: in place if the key is there, otherwise at the end. -/
def put (key : String) (value : Json) : Entries → Entries
  | [] => [(key, value)]
  | (k, v) :: rest => if k == key then (k, value) :: rest else (k, v) :: put key value rest

/-- The entries of an object whose members are written one after the other. -/
def ofMembers (members : List (String × Json)) : Entries :=
  members.foldl (fun entries (key, value) => put key value entries) []

end Entries

namespace Json

/-- Does the value count as something? Null, false, zeros and empty texts, lists and objects do
not. -/
def truthy : Json → Bool
  | null => false
  | bool b => b
  | int n => n != 0
  | double x => !x.isZero
  | text s => !s.isEmpty
  | array items => !items.isEmpty
  | object entries => !entries.isEmpty

def isNull : Json → Bool
  | null => true
  | _ => false

def get? (v : Json) (key : String) : Option Json :=
  match v with
  | object entries => Entries.get? entries key
  | _ => none

def text? : Json → Option String
  | text s => some s
  | _ => none

def items? : Json → Option (List Json)
  | array items => some items
  | _ => none

def entries? : Json → Option Entries
  | object entries => some entries
  | _ => none

def ofText? : Option String → Json
  | some s => text s
  | none => null

def ofBool? : Option Bool → Json
  | some b => bool b
  | none => null

def ofInt? : Option Int → Json
  | some n => int n
  | none => null

def ofTexts (texts : List String) : Json := array (texts.map text)

end Json

end PromptForm
