import PromptForm.Json.Display
import PromptForm.Text.Slug

/-! # Kinds of fields

The kinds of questions and structural elements that a form is made of, the names under which they
are written, and the alternate names that are understood as well.
-/

namespace PromptForm

/-- A kind of question or structural element. -/
inductive Kind where
  | text
  | email
  | phone
  | textarea
  | dropdown
  | multipleChoice
  | checkboxes
  | rating
  | linearScale
  | nps
  | likert
  | date
  | fileUpload
  | signature
  | number
  | url
  | countrySelect
  | consentCheckbox
  | matrix
  | heading
  | textBlock
  | divider
  | pageBreak
  | thankYouPage
  | media
  | hiddenFields
  | calculatedFields
  | conditionalLogic
  | captcha
  | payment
  | walletConnect
  | respondentCountry
  deriving DecidableEq, Repr

namespace Kind

def all : List Kind := [
  .text, .email, .phone, .textarea, .dropdown, .multipleChoice, .checkboxes, .rating,
  .linearScale, .nps, .likert, .date, .fileUpload, .signature, .number, .url, .countrySelect,
  .consentCheckbox, .matrix, .heading, .textBlock, .divider, .pageBreak, .thankYouPage, .media,
  .hiddenFields, .calculatedFields, .conditionalLogic, .captcha, .payment, .walletConnect,
  .respondentCountry]

def name : Kind → String
  | text => "text"
  | email => "email"
  | phone => "phone"
  | textarea => "textarea"
  | dropdown => "dropdown"
  | multipleChoice => "multiple_choice"
  | checkboxes => "checkboxes"
  | rating => "rating"
  | linearScale => "linear_scale"
  | nps => "nps"
  | likert => "likert"
  | date => "date"
  | fileUpload => "file_upload"
  | signature => "signature"
  | number => "number"
  | url => "url"
  | countrySelect => "country_select"
  | consentCheckbox => "consent_checkbox"
  | matrix => "matrix"
  | heading => "heading"
  | textBlock => "text_block"
  | divider => "divider"
  | pageBreak => "page_break"
  | thankYouPage => "thank_you_page"
  | media => "media"
  | hiddenFields => "hidden_fields"
  | calculatedFields => "calculated_fields"
  | conditionalLogic => "conditional_logic"
  | captcha => "captcha"
  | payment => "payment"
  | walletConnect => "wallet_connect"
  | respondentCountry => "respondent_country"

def ofName? (s : String) : Option Kind := all.find? fun kind => kind.name == s

/-- Alternate names, as they come from models and hand-written definitions. -/
def aliases : List (String × Kind) := [
  ("short_text", .text),
  ("input_text", .text),
  ("string", .text),
  ("input_email", .email),
  ("email_address", .email),
  ("phone_number", .phone),
  ("input_phone_number", .phone),
  ("tel", .phone),
  ("long_text", .textarea),
  ("paragraph_text", .textarea),
  ("select", .dropdown),
  ("single_select", .dropdown),
  ("dropdown_field", .dropdown),
  ("radio", .multipleChoice),
  ("choice", .multipleChoice),
  ("single_choice", .multipleChoice),
  ("binary_choice", .multipleChoice),
  ("yes_no", .multipleChoice),
  ("checkbox", .checkboxes),
  ("multi_select", .checkboxes),
  ("multiple_select", .checkboxes),
  ("consent", .consentCheckbox),
  ("star_rating", .rating),
  ("scale", .linearScale),
  ("opinion_scale", .linearScale),
  ("net_promoter_score", .nps),
  ("likert_scale", .likert),
  ("input_date", .date),
  ("file", .fileUpload),
  ("upload", .fileUpload),
  ("attachment", .fileUpload),
  ("input_file_upload", .fileUpload),
  ("sign", .signature),
  ("input_number", .number),
  ("integer", .number),
  ("website", .url),
  ("link", .url),
  ("input_link", .url),
  ("country", .countrySelect),
  ("grid", .matrix),
  ("header", .heading),
  ("text_block", .textBlock),
  ("statement", .textBlock),
  ("separator", .divider),
  ("pagebreak", .pageBreak),
  ("new_page", .pageBreak),
  ("thank_you", .thankYouPage),
  ("thankyou_page", .thankYouPage),
  ("image", .media),
  ("video", .media),
  ("audio", .media),
  ("embed", .media),
  ("media_embed", .media),
  ("hidden", .hiddenFields),
  ("hidden_field", .hiddenFields),
  ("calculated", .calculatedFields),
  ("calculated_field", .calculatedFields),
  ("conditional", .conditionalLogic),
  ("recaptcha", .captcha),
  ("wallet", .walletConnect)]

/-- The kinds whose answer is picked from options. -/
def isChoice : Kind → Bool
  | dropdown | multipleChoice | checkboxes | countrySelect | consentCheckbox => true
  | _ => false

/-- A written kind as a slug; one that does not count as anything has the empty slug. -/
def slugOf (raw : Json) : String := if raw.truthy then slugged raw.display else ""

def resolve? (raw : Json) : Option Kind :=
  let slug := slugOf raw
  if slug.isEmpty then none
  else
    match ofName? slug with
    | some kind => some kind
    | none => (aliases.find? fun entry => entry.1 == slug).map (·.2)

/-- The name under which a field of a written kind is kept: that of its kind, else the slug of an
unknown kind, and `text` if there is none. -/
def nameOf (raw : Json) : String :=
  match resolve? raw with
  | some kind => kind.name
  | none => if (slugOf raw).isEmpty then text.name else slugOf raw

end Kind

end PromptForm
