import PromptForm.Lowering.Question
import PromptForm.Lowering.Reading

/-! # Lowering fields

Every kind of field becomes its own sequence of blocks. A field of an unknown kind, and one whose
attributes fit no payload, becomes a question that is answered with text.
-/

namespace PromptForm

namespace RawField

open Reading

def isRequired (f : RawField) : Bool := (f.get .required).truthy

def lowerInput (f : RawField) (kind : BlockKind) : Draw (List Block) := do
  let label ← Draw.ofExcept (label f)
  Build.question label kind f.isRequired (f.get .placeholder) (f.get .description)

def lowerTitle (f : RawField) (group : String) : Draw Block := do
  let label ← Draw.ofExcept (label f)
  Build.questionTitle label group (f.get .description)

/-- The countries to choose from when a field lists none. -/
def countries : List String := [
  "United States", "Canada", "Mexico", "Brazil", "Argentina", "United Kingdom", "Ireland",
  "France", "Germany", "Spain", "Italy", "Portugal", "Netherlands", "Belgium", "Switzerland",
  "Sweden", "Norway", "Denmark", "Poland", "Turkey", "India", "China", "Japan", "South Korea",
  "Singapore", "Australia", "New Zealand", "South Africa", "Nigeria", "Other"]

/-- The statement of a consent question that has no label. -/
def consentStatement : String := "I agree to the terms and conditions"

/-- The options of a field of a choice kind. -/
def choices (f : RawField) (kind : Kind) : List Choice :=
  match Choice.normalize (f.get .options), kind with
  | [], .countrySelect => countries.map Choice.plain
  | [], .consentCheckbox =>
    Choice.normalize (.array [orDefault (f.get .label) (.text consentStatement)])
  | options, _ => options

/-- The kind and the group type of the option blocks of a choice kind. -/
def optionKind : Kind → BlockKind × String
  | .dropdown | .countrySelect => (.dropdownOption, "DROPDOWN")
  | .checkboxes | .consentCheckbox => (.checkbox, "CHECKBOXES")
  | _ => (.multipleChoiceOption, "MULTIPLE_CHOICE")

/-- A question whose answer is picked from options. Without options it is answered with text. -/
def lowerChoice (f : RawField) (kind : Kind) : Draw (List Block) := do
  match f.choices kind with
  | [] => f.lowerInput .inputText
  | options =>
    let label ← Draw.ofExcept (label f)
    Build.choiceQuestion label (optionKind kind).1 (optionKind kind).2 options
      (f.isRequired || kind == .consentCheckbox) (f.get .description) (f.get .placeholder)

def ratingShape (v : Json) : String :=
  ((nonEmpty? (uppered (orDefault v (.text "STAR")).usableText))).getD "STAR"

def lowerRating (f : RawField) : Draw (List Block) := do
  let group ← Draw.fresh
  let most ← Draw.ofExcept (whole? (f.get .maxRating))
  let p ← Build.payload .rating [("is_required", f.get .required),
    ("max_rating", .int (match most with | some n => if n = 0 then 5 else n | none => 5)),
    ("shape", .text (ratingShape (f.get .shape)))]
  let title ← f.lowerTitle group
  let rating ← Build.block .rating p (some group) none
  return [title, rating]

/-- The ends and the end labels of a scale. -/
def scaleDefaults : Kind → Int × Int × String × String
  | .nps => (0, 10, "Not likely", "Very likely")
  | .likert => (1, 5, "Strongly Disagree", "Strongly Agree")
  | _ => (1, 5, "Lowest", "Highest")

def lowerScale (f : RawField) (kind : Kind) : Draw (List Block) := do
  let (low, high, lowLabel, highLabel) := scaleDefaults kind
  let group ← Draw.fresh
  let p ← Build.payload .linearScale [("is_required", f.get .required),
    ("min_value", unlessNull (f.get .minValue) (.int low)),
    ("max_value", unlessNull (f.get .maxValue) (.int high)),
    ("min_label", orDefault (f.get .minLabel) (.text lowLabel)),
    ("max_label", orDefault (f.get .maxLabel) (.text highLabel)),
    ("step", orDefault (f.get .step) (.int 1))]
  let title ← f.lowerTitle group
  let scale ← Build.block .linearScale p (some group) none
  return [title, scale]

def uploadTypes (f : RawField) : Except Failure (List String) := do
  let listed ← (← elements (f.get .allowedFileTypes)) |> fileTypes
  return if listed.isEmpty then
    (texts (extra f ["acceptedFileTypes", "acceptedTypes", "fileTypes"])).map fileType
  else listed

def lowerFileUpload (f : RawField) : Draw (List Block) := do
  let group ← Draw.fresh
  let types ← Draw.ofExcept f.uploadTypes
  let size ← Draw.ofExcept (bytes? (f.get .maxFileSize))
  let p ← Build.payload .fileUpload [("is_required", f.get .required),
    ("max_file_size", .ofInt? size),
    ("accepted_file_types", if types.isEmpty then .null else .ofTexts types),
    ("allow_multiple", f.get .allowMultiple), ("max_files", f.get .maxFiles)]
  let title ← f.lowerTitle group
  let upload ← Build.block .fileUpload p (some group) none
  return [title, upload]

def lowerSignature (f : RawField) : Draw (List Block) := do
  let group ← Draw.fresh
  let title ← f.lowerTitle group
  let signature ← Build.inGroup .signature group
    [("is_required", f.get .required), ("stroke_width", f.get .strokeWidth)]
  return [title, signature]

/-- The rows or columns of a grid from number `i` on. -/
def gridItemsFrom (kind : BlockKind) (group : String) (i : Nat) : List String → Draw (List Block)
  | [] => pure []
  | s :: rest => do
    let p ← Build.payload .matrixItem [("order", .int i), ("text", .text s)]
    let item ← Build.block kind p (some group) (some "MATRIX")
    let others ← gridItemsFrom kind group (i + 1) rest
    return item :: others

/-- A grid question. Options serve as columns when it lists none. -/
def lowerMatrix (f : RawField) : Draw (List Block) := do
  let group ← Draw.fresh
  let listed := texts (f.get .columns)
  let columns := if listed.isEmpty then texts (f.get .options) else listed
  let title ← f.lowerTitle group
  let grid ← Build.inGroup .matrix group
    [("is_required", f.get .required), ("allow_multiple", f.get .allowMultiple)]
  let rowBlocks ← gridItemsFrom .matrixRow group 0 (texts (f.get .rows))
  let columnBlocks ← gridItemsFrom .matrixColumn group 0 columns
  return title :: grid :: (rowBlocks ++ columnBlocks)

/-- The text of a heading or a paragraph. -/
def contentText (f : RawField) : String :=
  firstText [f.get .content, extra f ["text"], f.get .label, f.get .description]

/-- A heading, unless there is no text. -/
def lowerHeading (f : RawField) : Draw (List Block) := do
  if f.contentText.isEmpty then return []
  let level ← Draw.ofExcept (whole (orDefault (f.get .level) (.int 2)))
  let block ← Build.heading (.text f.contentText) level
  return [block]

/-- A paragraph, unless there is no text. -/
def lowerTextBlock (f : RawField) : Draw (List Block) := do
  if f.contentText.isEmpty then return []
  let block ← Build.text (.text f.contentText)
  return [block]

def lowerSingle (kind : BlockKind) (members : List (String × Json)) : Draw (List Block) := do
  let block ← Build.single kind members
  return [block]

def lowerPageBreak (f : RawField) : Draw (List Block) :=
  let label := extra f ["buttonLabel", "button_label"]
  lowerSingle .pageBreak
    [("button_label", if label.truthy then .text label.display else .null)]

def lowerThankYouPage (f : RawField) : Draw (List Block) :=
  let message := nonEmpty? (firstText [f.get .content, extra f ["message", "text"],
    f.get .description])
  lowerSingle .thankYouPage [("title", orDefault (f.get .label) .null),
    ("text", .ofText? message),
    ("safe_html_schema", match message with | some s => Build.rich (.text s) | none => .null)]

/-- The kinds of media that can be asked for by name. -/
def mediaKinds : List BlockKind := [.image, .video, .audio, .embed]

def mediaEndings : List (BlockKind × List String) := [
  (.image, [".png", ".jpg", ".jpeg", ".gif", ".webp", ".svg"]),
  (.video, [".mp4", ".mov", ".webm"]),
  (.audio, [".mp3", ".wav", ".ogg", ".m4a"])]

def videoHosts : List String := ["youtube.com", "youtu.be", "vimeo.com"]

/-- The kind of media that a link leads to, judged by the part before a question mark. -/
def mediaKindOf (url : String) : BlockKind :=
  let path := (Text.lower url.toList).takeWhile (· != '?')
  match mediaEndings.find? fun entry => entry.2.any fun ending => ending.toList.isSuffixOf path with
  | some (kind, _) => kind
  | none => if videoHosts.any fun host => Text.contains host.toList path then .video else .embed

/-- Media, unless there is no link. -/
def lowerMedia (f : RawField) : Draw (List Block) := do
  let url := firstText [f.get .url, extra f ["src", "mediaUrl", "media_url", "embedUrl"]]
  if url.isEmpty then return []
  let hint := uppered (extra f ["mediaType", "media_type", "kind"]).usableText
  let kind := (mediaKinds.find? fun kind => kind.name == hint).getD (mediaKindOf url)
  lowerSingle kind [("url", .text url),
    ("caption", .ofText? (nonEmpty? (firstText [f.get .description, f.get .label]))),
    ("alt", .ofText? (extra f ["alt"]).usableText?)]

/-- Hidden values with fresh ids. The names have to be texts. -/
def hiddenValues (names : List Json) : Draw (List Json) :=
  Draw.each (fun name => do
    let uuid ← Draw.fresh
    let v ← Draw.ofExcept
      (HiddenValue.check (.object [("uuid", .text uuid), ("name", name)])).toExcept
    return v.toJson) names

/-- Hidden values. Options, and last the label, serve as names when none are listed. -/
def lowerHiddenFields (f : RawField) : Draw (List Block) := do
  let listed := texts (extra f ["hiddenFields", "hidden_fields", "fields", "names"])
  let names := (if listed.isEmpty then texts (f.get .options) else listed).map Json.text
  let names := if names.isEmpty && (f.get .label).truthy then [f.get .label] else names
  let values ← hiddenValues names
  lowerSingle .hiddenFields [("hidden_fields", .array values)]

/-- The members of a calculated value, its id apart: an object with a name, or a name alone. The
value has to be a number or a text; anything else stands for zero or the empty text. -/
def calculatedMembers? : Json → Option (List (String × Json))
  | .object entries =>
    let get (key : String) := (Entries.get? entries key).getD .null
    let name := firstText [get "name", get "label"]
    let type := uppered (orDefault (get "type") (.text "NUMBER")).usableText
    let value :=
      match get "value" with
      | .int n => .int n
      | .double x => .double x
      | .text s => .text s
      | _ => if type == "NUMBER" then .int 0 else .text ""
    if name.isEmpty then none
    else some [("name", .text name), ("type", .text type), ("value", value)]
  | v => (v.usableText?).map fun name => [("name", .text name)]

/-- A calculated value with a fresh id. -/
def calculatedValue (members : List (String × Json)) : Draw Json := do
  let uuid ← Draw.fresh
  let v ← Draw.ofExcept
    (CalculatedValue.check (.object (("uuid", .text uuid) :: members))).toExcept
  return v.toJson

/-- Calculated values. The label serves as a name when none are listed. -/
def lowerCalculatedFields (f : RawField) : Draw (List Block) := do
  let listed :=
    match extra f ["calculatedFields", "calculated_fields", "variables"] with
    | .array items => items.filterMap calculatedMembers?
    | _ => []
  let members :=
    if listed.isEmpty && (f.get .label).truthy then [[("name", f.get .label)]] else listed
  let values ← Draw.each calculatedValue members
  lowerSingle .calculatedFields [("calculated_fields", .array values)]

def objects : Json → Json
  | .array items => .array (items.filter fun v => v.entries?.isSome)
  | _ => .array []

/-- Conditional logic that is passed on as it is. -/
def lowerConditionalLogic (f : RawField) : Draw (List Block) :=
  let operator := orDefault (extra f ["logicalOperator", "logical_operator"]) (.text "AND")
  lowerSingle .conditionalLogic [("logical_operator", .text (uppered operator.display)),
    ("conditionals", objects (extra f ["conditionals", "conditions"])),
    ("actions", objects (extra f ["actions"]))]

/-- A payment, which is required unless the field says otherwise. -/
def lowerPayment (f : RawField) : Draw (List Block) :=
  let currency := uppered (orDefault (f.get .currency) (.text "USD")).usableText
  lowerSingle .payment [
    ("is_required", if f.requiredGiven then f.get .required else .bool true),
    ("amount", f.get .amount), ("currency", .text ((nonEmpty? currency).getD "USD")),
    ("description", .ofText? (nonEmpty? (firstText [f.get .description, f.get .label])))]

def lowerAs (f : RawField) : Kind → Draw (List Block)
  | .text => f.lowerInput .inputText
  | .email => f.lowerInput .inputEmail
  | .phone => f.lowerInput .inputPhoneNumber
  | .textarea => f.lowerInput .textarea
  | .date => f.lowerInput .inputDate
  | .number => f.lowerInput .inputNumber
  | .url => f.lowerInput .inputLink
  | .dropdown => f.lowerChoice .dropdown
  | .multipleChoice => f.lowerChoice .multipleChoice
  | .checkboxes => f.lowerChoice .checkboxes
  | .countrySelect => f.lowerChoice .countrySelect
  | .consentCheckbox => f.lowerChoice .consentCheckbox
  | .rating => f.lowerRating
  | .linearScale => f.lowerScale .linearScale
  | .nps => f.lowerScale .nps
  | .likert => f.lowerScale .likert
  | .fileUpload => f.lowerFileUpload
  | .signature => f.lowerSignature
  | .matrix => f.lowerMatrix
  | .heading => f.lowerHeading
  | .textBlock => f.lowerTextBlock
  | .divider => lowerSingle .divider []
  | .pageBreak => f.lowerPageBreak
  | .thankYouPage => f.lowerThankYouPage
  | .media => f.lowerMedia
  | .hiddenFields => f.lowerHiddenFields
  | .calculatedFields => f.lowerCalculatedFields
  | .conditionalLogic => f.lowerConditionalLogic
  | .captcha => lowerSingle .captcha []
  | .payment => f.lowerPayment
  | .walletConnect => lowerSingle .walletConnect [("is_required", f.get .required)]
  | .respondentCountry => lowerSingle .respondentCountry []

def lower (f : RawField) : Draw (List Block) :=
  match f.kind? with
  | none => f.lowerInput .inputText
  | some kind => Draw.orIfInvalid (f.lowerAs kind) (f.lowerInput .inputText)

end RawField

def Field.lower (f : Field) : Draw (List Block) := f.raw.lower

end PromptForm
