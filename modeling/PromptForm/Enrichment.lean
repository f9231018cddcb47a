import PromptForm.Outline.Line
import PromptForm.Template

/-! # Enrichment

A prompt that mentions one of a few common questions gets it, even if the form found in the prompt
does not have it. The question goes to the section that fits best.
-/

namespace PromptForm

/-- A question that is added when a prompt mentions it. -/
structure Enrichment where
  /-- What the prompt has to mention. -/
  trigger : String
  /-- The parts of labels that show that a form has the question. -/
  present : List String
  /-- The parts of titles of the sections that the question fits into. -/
  places : List String
  field : Field
  /-- Does the question go to the last section if it fits into none? Else it goes to the first. -/
  defaultLast : Bool
  /-- The kind that shows, whatever the label, that a form has the question. -/
  presentKind : Option Kind

namespace Enrichment

def all : List Enrichment := [
  { trigger := "severity"
    present := ["severity"]
    places := ["summary", "bug", "issue", "problem", "details"]
    field := Template.severityField
    defaultLast := false
    presentKind := none },
  { trigger := "preferred method"
    present := ["preferred method", "preferred contact", "contact method"]
    places := ["contact", "personal", "about", "info", "details", "reporter"]
    field := { Field.plain .multipleChoice "Preferred contact method" with
      options := Outline.contactMethods.map .text }
    defaultLast := false
    presentKind := none },
  { trigger := "time of day"
    present := ["time of day"]
    places := ["contact", "availability", "schedule", "personal", "about"]
    field := { Field.plain .dropdown "Best time of day to reach you" with
      placeholder := some "Select a time"
      options := Outline.timesOfDay.map .text }
    defaultLast := false
    presentKind := none },
  { trigger := "consent"
    present := ["consent", "i agree"]
    places := ["consent", "legal", "agreement", "final", "submit"]
    field := Outline.consentField []
    defaultLast := true
    presentKind := some .consentCheckbox }]

def isIn (e : Enrichment) (form : Form) : Bool :=
  form.hasFieldLabeled e.present ||
    e.presentKind.any fun kind => form.fields.any fun f => f.kind? == some kind

/-- The number of the section that the question goes to. -/
def place (e : Enrichment) (titles : List String) : Nat :=
  (titles.findIdx? fun title => e.places.any fun word => containsText word (lowered title)).getD
    (if e.defaultLast then titles.length - 1 else 0)

/-- Add a field to the section with a number. -/
def addTo (f : Field) (sections : List Section) (i : Nat) : List Section :=
  sections.modify i fun s => { s with fields := s.fields ++ [f] }

/-- Add the question to a form that does not have it, if a lowercased prompt mentions it. -/
def apply (lower : String) (form : Form) (e : Enrichment) : Form :=
  if containsText e.trigger lower && !e.isIn form then
    { form with sections := addTo e.field form.sections (e.place (form.sections.map (·.title))) }
  else form

end Enrichment

/-- Add the questions that a prompt mentions to a form with sections. -/
def Form.enrich (form : Form) (prompt : String) : Form :=
  if form.sections.isEmpty then form
  else Enrichment.all.foldl (Enrichment.apply (lowered prompt)) form

end PromptForm
