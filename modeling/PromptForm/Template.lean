import PromptForm.Form.Basic
import PromptForm.Text.Digest

/-! # Stock forms

Prompts that ask for a bug report or for customer feedback, without describing sections, get a form
that is made in advance and adapted to the words of the prompt.
-/

namespace PromptForm.Template

def bugReportTitles : List String := [
  "Bug Busters Unite! 🐛", "Squash That Bug 🪲", "Houston, We Have a Problem 🚀",
  "Glitch in the Matrix? 🕶️", "Report a Gremlin 👾"]

/-- One of several choices, picked by the digest of a text. -/
def stableChoice (prompt : String) (choices : List String) : String :=
  choices.getD (Digest.ofText prompt % choices.length) ""

def isBugReport (lower : String) : Bool :=
  containsText "bug report" lower ||
    (containsText "bug" lower && (containsText "report" lower || containsText "issue" lower))

def isFeedback (lower : String) : Bool :=
  (containsText "feedback" lower || containsText "satisfaction" lower) &&
    (containsText "rating" lower || containsText "scale" lower || containsText "satisf" lower)

/-- The areas that only some prompts offer, with the words that bring them up. -/
def extraAreas : List (List String × String) := [
  (["analytics"], "Dashboard & Analytics"),
  (["payment", "billing"], "Payments & Billing"),
  (["mobile"], "Mobile App"),
  (["api", "integration"], "API & Integrations")]

/-- The areas that a bug may affect. -/
def areas (lower : String) : List String :=
  let mentioned := extraAreas.filter fun row =>
    row.1.any fun word => Text.hasPhraseStart word.toList lower.toList
  ["UI", "Login & Authentication", "Performance", "Data & Sync"] ++ mentioned.map (·.2) ++ ["Other"]

def contactMethods (lower : String) : List String :=
  ["Email", "Phone"] ++ (if containsText "slack" lower then ["Slack"] else []) ++
    ["No follow-up needed"]

def severityField : Field :=
  { Field.plain .dropdown "Severity" with
    required := true
    placeholder := some "Select severity"
    options := ["Critical", "High", "Medium", "Low"].map .text }

/-- A field with a placeholder, which is required or not. -/
def prompting (kind : Kind) (label placeholder : String) (required : Bool) : Field :=
  { Field.plain kind label with required := required, placeholder := some placeholder }

def needed (kind : Kind) (label : String) : Field :=
  { Field.plain kind label with required := true }

def part (title description : String) (fields : List Field) : Section :=
  ⟨title, some description, fields, []⟩

def bugReport (prompt : String) : Form where
  title := stableChoice prompt bugReportTitles
  description := some "Found something broken? Walk us through it and we'll get squashing."
  sections := [
    part "Reporter Details" "Tell us who you are so we can follow up." [
      prompting .text "Your Name" "Enter your name" true,
      prompting .email "Email" "you@example.com" true,
      { Field.plain .multipleChoice "Preferred contact method" with
        options := (contactMethods (lowered prompt)).map .text }],
    part "Bug Summary" "A short description of what went wrong." [
      prompting .text "Bug title" "One-line summary" true,
      severityField,
      { Field.plain .checkboxes "Affected area" with
        options := (areas (lowered prompt)).map .text },
      { Field.plain .text "Please specify the affected area" with
        showIf := some "Affected area = Other" }],
    part "Reproduction" "Help us see the bug for ourselves." [
      prompting .textarea "Steps to reproduce" "1. Go to...\n2. Click on..." true,
      Field.plain .textarea "Expected behavior",
      needed .textarea "Actual behavior"],
    part "Environment & Attachments" "Where did it happen, and do you have proof?" [
      prompting .text "Browser / OS / App version" "e.g. Chrome 120 on macOS" false,
      { Field.plain .fileUpload "Screenshots or recordings" with
        maxFileSize := some (.int 10)
        allowedFileTypes := ["png", "jpg", "gif", "mp4"]
        allowMultiple := some true }]]
  settings := some { Settings.none with
    confirmationMessage := some "Thanks! Our team is on the case." }
  extras := []

def satisfactionLabel : String := "How satisfied are you with our service?"

def recommendLabel : String := "Would you recommend us to a friend?"

def feedback : Form where
  title := "Customer Feedback"
  description := none
  sections := [
    part "Information" "Please provide your details" [
      needed .text "Full Name",
      needed .email "Email",
      needed .text "Country",
      { needed .rating satisfactionLabel with maxRating := some (.int 5) },
      { Field.plain .textarea "Please tell us what went wrong" with
        showIf := some (lowered satisfactionLabel ++ " <= 3") },
      { Field.plain .multipleChoice "What did you like the most?" with
        options := ["Speed", "Quality", "Support", "Price"].map .text
        showIf := some (lowered satisfactionLabel ++ " >= 4") },
      { needed .multipleChoice recommendLabel with options := ["Yes", "No"].map .text },
      { Field.plain .email "Friend's email for referral" with
        showIf := some (lowered recommendLabel ++ " = Yes") }]]
  settings := none
  extras := []

/-- The stock form that a prompt asks for. -/
def match? (prompt : String) : Option Form :=
  let lower := lowered prompt
  if isBugReport lower then some (bugReport prompt)
  else if isFeedback lower then some feedback
  else none

end PromptForm.Template
