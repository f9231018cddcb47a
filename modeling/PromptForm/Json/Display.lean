import PromptForm.Json.Basic
import PromptForm.Number.Shortest
import PromptForm.Text.Blank
import PromptForm.Text.Quote

/-! # The text of a value

How a value reads when it is used as text. A text stands for itself; inside a list or an object
it is quoted.
-/

namespace PromptForm

namespace Json

def typeName : Json → String
  | null => "NoneType"
  | bool _ => "bool"
  | int _ => "int"
  | double _ => "float"
  | text _ => "str"
  | array _ => "list"
  | object _ => "dict"

def scalarText : Json → List Char
  | null => "None".toList
  | bool true => "True".toList
  | bool false => "False".toList
  | int n => intText n
  | double x => x.text
  | _ => []

mutual

/-- The text of a value inside a list or an object. -/
def quoted : Json → List Char
  | text s => Text.quote s.toList
  | array items => '[' :: quotedItems items ++ [']']
  | object entries => '\x7b' :: quotedEntries entries ++ ['\x7d']
  | v => scalarText v

def quotedItems : List Json → List Char
  | [] => []
  | [v] => quoted v
  | v :: rest => quoted v ++ [',', ' '] ++ quotedItems rest

def quotedEntries : List (String × Json) → List Char
  | [] => []
  | [(key, v)] => Text.quote key.toList ++ [':', ' '] ++ quoted v
  | (key, v) :: rest =>
    Text.quote key.toList ++ [':', ' '] ++ quoted v ++ [',', ' '] ++ quotedEntries rest

end

def display : Json → String
  | text s => s
  | v => String.ofList v.quoted

/-- The trimmed text of a value that counts as something, else nothing. -/
def usableText (v : Json) : String := if v.truthy then trimmed v.display else ""

/-- The trimmed text of a value, unless it is blank or the value does not count as something. -/
def usableText? (v : Json) : Option String := nonEmpty? v.usableText

end Json

end PromptForm
