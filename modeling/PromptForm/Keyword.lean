import PromptForm.Lowering.Question
import PromptForm.Text.Search
import PromptForm.Title

/-! # Forms from keywords

When nothing else is understood, the words of a prompt say which of a few stock questions to ask.
Without such words the form asks for a name, an email address and a message.
-/

namespace PromptForm.Keyword

/-- A stock question, with the words that bring it up. -/
structure Question where
  words : List String
  kind : BlockKind
  label : String
  required : Bool
  deriving DecidableEq, Repr

/-- The stock questions, in the order in which they are shown. -/
def questions : List Question := [
  ⟨["name", "full name", "first name", "last name"], .inputText, "Name", true⟩,
  ⟨["email", "e-mail", "email address"], .inputEmail, "Email", true⟩,
  ⟨["phone", "telephone", "mobile", "cell", "phone number"], .inputPhoneNumber, "Phone Number",
    false⟩,
  ⟨["message", "comment", "feedback", "suggestion", "inquiry", "question", "note", "description"],
    .textarea, "Message", true⟩,
  ⟨["company", "organization", "business", "firm", "corporation"], .inputText, "Company", false⟩,
  ⟨["address", "location", "street", "city", "zip", "postal"], .textarea, "Address", false⟩,
  ⟨["website", "url", "link", "web"], .inputLink, "Website", false⟩,
  ⟨["age", "number", "quantity", "amount", "count"], .inputNumber, "Number", false⟩,
  ⟨["date", "birthday", "birth", "appointment", "schedule"], .inputDate, "Date", false⟩]

/-- The questions that are asked when no word brings one up. -/
def basicQuestions : List Question := [
  ⟨[], .inputText, "Name", true⟩, ⟨[], .inputEmail, "Email", true⟩,
  ⟨[], .textarea, "Message", true⟩]

/-- Does a word of a lowercased text bring the question up? -/
def Question.isAskedIn (q : Question) (lower : List Char) : Bool :=
  q.words.any fun word => Text.hasPhrase word.toList lower

/-- Ask a question after others, unless one of them has its label, in whatever case. -/
def askAfter (before : List Question) (q : Question) : List Question :=
  if before.any fun k => lowered k.label == lowered q.label then before else before ++ [q]

/-- The questions that a lowercased text brings up, or else the basic ones. -/
def asked (lower : List Char) : List Question :=
  match (questions.filter fun q => q.isAskedIn lower).foldl askAfter [] with
  | [] => basicQuestions
  | found => found

def Question.blocks (q : Question) : Draw (List Block) :=
  Build.question (.text q.label) q.kind q.required (.text ("Enter " ++ lowered q.label)) .null

def blocks (prompt title : String) (attribution : Option String) : Draw (List Block) := do
  let heading ← Build.formTitle (.text (if title.isEmpty then Title.default else title))
  let groups ← Draw.each Question.blocks (asked (Text.lower prompt.toList))
  let closing ← Build.attribution attribution
  return heading :: groups.flatten ++ [closing]

end PromptForm.Keyword
