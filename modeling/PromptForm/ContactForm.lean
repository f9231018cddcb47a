import PromptForm.Lowering.Question

/-! # The contact form

A stock form that asks for a name, an email address and a message.
-/

namespace PromptForm.ContactForm

def defaultTitle : String := "Contact Form"

def confirmation : String := "Thank you for your message! We'll get back to you soon."

def ask (label : String) (kind : BlockKind) (required : Bool) (placeholder : String) :
    Draw (List Block) :=
  Build.question (.text label) kind required (.text placeholder) .null

/-- A question that is only asked for on demand. -/
def askIf (wanted : Bool) (question : Draw (List Block)) : Draw (List Block) :=
  if wanted then question else pure []

def blocks (title : Json) (withPhone withCompany : Bool) (attribution : Option String) :
    Draw (List Block) := do
  let heading ← Build.formTitle title
  let name ← ask "Name" .inputText true "Enter your full name"
  let email ← ask "Email" .inputEmail true "Enter your email address"
  let phone ← askIf withPhone
    (ask "Phone Number" .inputPhoneNumber false "Enter your phone number")
  let company ← askIf withCompany (ask "Company" .inputText false "Enter your company name")
  let message ← ask "Message" .textarea true "Enter your message"
  let closing ← Build.attribution attribution
  return heading :: (name ++ email ++ phone ++ company ++ message) ++ [closing]

end PromptForm.ContactForm
