/-! # What an oracle is told

The fixed instructions that go with every prompt: the kinds of fields, the grammar of conditions,
the shape of the answer and advice on titles and structure.
-/

namespace PromptForm.Oracle

def task : List String := [
  "You are an expert form designer with deep knowledge of Tally.so capabilities. Parse the " ++
    "user's request and create a comprehensive form structure."]

def kindGuide : List String := [
  "Available field types (use ALL of these as appropriate):",
  "- text: Single line text input",
  "- email: Email address input with validation",
  "- phone: Phone number input",
  "- textarea: Multi-line text input",
  "- number: Numeric input",
  "- url: URL input with validation",
  "- date: Date picker",
  "- dropdown: Dropdown selection (use instead of \"select\")",
  "- multiple_choice: Single choice from options (use instead of \"radio\")",
  "- checkboxes: Multiple choice from options (use instead of \"checkbox\")",
  "- country_select: Country dropdown (options optional)",
  "- consent_checkbox: A single required agreement checkbox; put the statement in \x60label\x60",
  "- rating: Star rating (\x60maxRating\x60, 1-5 or 1-10)",
  "- linear_scale: Numeric scale (\x60minValue\x60, \x60maxValue\x60, \x60minLabel\x60, " ++
    "\x60maxLabel\x60, \x60step\x60)",
  "- nps: Net Promoter Score (0-10)",
  "- likert: Agreement scale (1-5, Strongly Disagree to Strongly Agree)",
  "- file_upload: File upload (\x60maxFileSize\x60 in MB, \x60allowedFileTypes\x60, " ++
    "\x60allowMultiple\x60, \x60maxFiles\x60)",
  "- signature: Digital signature capture",
  "- matrix: Grid question (\x60rows\x60, \x60columns\x60)",
  "- heading / text_block / divider / page_break: Layout (\x60content\x60 holds the text)",
  "- media: Image, video or embed (\x60url\x60 is required)",
  "- thank_you_page: Closing page (\x60content\x60 holds the message)",
  "- hidden_fields, calculated_fields, captcha, payment (\x60amount\x60, \x60currency\x60), " ++
    "wallet_connect, respondent_country"]

def conditionGuide : List String := [
  "CONDITIONAL LOGIC SUPPORT:",
  "- When the prompt mentions \"if\", \"when\", \"show only if\", or conditional behavior, " ++
    "add a \x60showIf\x60 property to the dependent field.",
  "- Grammar: \"<earlier field label> <operator> <value>\", operator one of <=, >=, <, >, " ++
    "=, equals.",
  "- The referenced field MUST appear earlier in the form than the dependent field.",
  "- Example: \"If rating <= 3, show textarea\" -> \x7b\"type\": \"textarea\", \"label\": " ++
    "\"What went wrong?\", \"showIf\": \"How would you rate us? <= 3\"\x7d"]

def answerShape : List String := [
  "Return ONLY a valid JSON object with this structure (no prose, no markdown, no code fences):",
  "\x7b",
  "  \"title\": \"Form Title\",",
  "  \"description\": \"Brief form description\",",
  "  \"sections\": [",
  "    \x7b",
  "      \"title\": \"Section Title\",",
  "      \"description\": \"Section introduction text\",",
  "      \"fields\": [",
  "        \x7b",
  "          \"type\": \"field_type\",",
  "          \"label\": \"Field Label\",",
  "          \"required\": true,",
  "          \"placeholder\": \"Optional placeholder\",",
  "          \"description\": \"Optional field description\",",
  "          \"options\": [\"Option 1\", \"Option 2\"],",
  "          \"maxRating\": 5,",
  "          \"maxFileSize\": 10,",
  "          \"allowedFileTypes\": [\"pdf\", \"doc\", \"docx\"],",
  "          \"showIf\": \"field label operator value\"",
  "        \x7d",
  "      ]",
  "    \x7d",
  "  ],",
  "  \"settings\": \x7b",
  "    \"confirmationMessage\": \"Thank you for your submission!\",",
  "    \"redirectUrl\": \"https://example.com/thank-you\",",
  "    \"hasProgressBar\": true,",
  "    \"hasPartialSubmissions\": true,",
  "    \"saveForLater\": true",
  "  \x7d",
  "\x7d"]

def titleGuide : List String := [
  "WITTY TITLE GENERATION:",
  "- Create creative, engaging, and memorable form titles.",
  "- Use puns, alliteration, or clever wordplay when appropriate.",
  "- Match the tone to the form's purpose (professional, casual, fun).",
  "- Examples:",
  "  * Job Application -> \"Your Dream Job Awaits!\"",
  "  * Customer Feedback -> \"Spill the Tea ☕️\"",
  "  * Event Registration -> \"Party Time! 🎉\"",
  "  * Survey -> \"Your Voice Matters 🎤\"",
  "  * Contact Form -> \"Let's Chat! 💬\""]

def structureGuide : List String := [
  "FORM STRUCTURE:",
  "- Create multiple sections for complex forms (e.g. \"Personal Information\", \"Work " ++
    "Experience\", \"Additional Details\") with short introductions.",
  "- Group related fields logically; use progress bars and partial submissions for long forms.",
  "- Field type selection: comments/feedback -> textarea, resume -> file_upload, " ++
    "age/quantity -> number,",
  "  experience level -> dropdown, single choice -> multiple_choice, pick several -> " ++
    "checkboxes, birthday -> date.",
  "- Include at least 4 fields unless the request is explicitly tiny."]

/-- The instructions: their parts with a blank line between neighbours. -/
def instructions : String :=
  "\n\n".intercalate
    ([task, kindGuide, conditionGuide, answerShape, titleGuide, structureGuide].map fun part =>
      "\n".intercalate part)

end PromptForm.Oracle
