import PromptForm.Text.Blank
import PromptForm.Text.Case

/-! # Slugs

The lowercase basic letters and digits of a text, with one underscore for every run of anything
else between two of them.
-/

namespace PromptForm.Text

/-- A basic lowercase letter or digit. -/
def isSlugChar (c : Char) : Bool := ('a' ≤ c && c ≤ 'z') || ('0' ≤ c && c ≤ '9')

/-- The slug of a lowercased text. `started` once a character has been kept, `pending` when
something has been skipped since the last one kept. -/
def slugFrom (started pending : Bool) : List Char → List Char
  | [] => []
  | c :: rest =>
    if isSlugChar c then
      if started && pending then '_' :: c :: slugFrom true false rest
      else c :: slugFrom true false rest
    else slugFrom started true rest

def slug (cs : List Char) : List Char := slugFrom false false (lower (trim cs))

end PromptForm.Text

namespace PromptForm

/-- The slug of a text, such as `multiple_choice` for `Multiple Choice`. -/
def slugged (s : String) : String := onText Text.slug s

end PromptForm
