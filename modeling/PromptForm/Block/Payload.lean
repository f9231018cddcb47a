import PromptForm.Block.Kind
import PromptForm.Condition.Rule

/-! # Payloads of blocks

What a block shows, in one of the shapes that blocks can have. A payload is built from named
members, which are checked, and sent without the members that are null.
-/

namespace PromptForm

/-- Text with markup: a list of runs, each a list of texts. -/
abbrev RichText := List (List String)

/-- A value that is sent along with an answer without being asked for. -/
structure HiddenValue where
  uuid : String
  name : String
  deriving DecidableEq, Repr

/-- A value that is worked out from answers. -/
structure CalculatedValue where
  uuid : String
  name : String
  type : String
  value : Scalar
  deriving DecidableEq, Repr

/-- What a payload says, by shape. -/
inductive Body where
  | formTitle (title : String) (rich : RichText)
  | text (text : String) (rich : RichText)
  | heading (title : String) (rich : RichText)
  | questionTitle (title : String) (rich : RichText) (description : Option String)
  | input (required : Bool) (placeholder : Option String)
  | choiceOption (index : Int) (required first last : Bool) (text : String)
      (value : Option String) (isDefault : Option Bool) (description placeholder : Option String)
  | rating (required : Bool) (maxRating : Int) (shape : String)
  | linearScale (required : Bool) (low high : Number) (lowLabel highLabel : Option String)
      (step : Number)
  | fileUpload (required : Bool) (maxFileSize : Option Int) (types : Option (List String))
      (multiple : Option Bool) (maxFiles : Option Int)
  | signature (required : Bool) (strokeWidth : Option Number)
  | matrix (required : Bool) (multiple : Option Bool)
  | matrixItem (order : Int) (text : String)
  | empty
  | pageBreak (buttonLabel : Option String)
  | thankYouPage (title text : Option String) (rich : Option RichText)
  | media (url : String) (caption alt : Option String)
  | hiddenFields (values : List HiddenValue)
  | calculatedFields (values : List CalculatedValue)
  | conditionalLogic (logicalOperator : String) (conditionals actions : List Entries)
  | payment (required : Bool) (amount : Option Number) (currency : String)
      (description : Option String)
  | walletConnect (required : Bool)
  deriving Repr

/-- The payload of a block: what it says, and the rule under which the block is shown. -/
structure Payload where
  rule : Option Rule
  body : Body
  deriving Repr

namespace HiddenValue

def toJson (v : HiddenValue) : Json := .object [("uuid", .text v.uuid), ("name", .text v.name)]

def check : Json → Checked HiddenValue :=
  Check.object fun entries =>
    pure HiddenValue.mk
      <*> Entries.require entries (.plain "uuid") Check.text
      <*> Entries.require entries (.plain "name") Check.text

end HiddenValue

namespace CalculatedValue

def toJson (v : CalculatedValue) : Json :=
  .object [("uuid", .text v.uuid), ("name", .text v.name), ("type", .text v.type),
    ("value", v.value.toJson)]

def check : Json → Checked CalculatedValue :=
  Check.object fun entries =>
    pure CalculatedValue.mk
      <*> Entries.require entries (.plain "uuid") Check.text
      <*> Entries.require entries (.plain "name") Check.text
      <*> Entries.optional entries (.plain "type") "NUMBER" Check.text
      <*> Entries.optional entries (.plain "value") (.number (.int 0)) Scalar.check

end CalculatedValue

namespace RichText

def plain (s : String) : RichText := [[s]]

def toJson (rich : RichText) : Json := .array (rich.map Json.ofTexts)

def check : Json → Checked RichText := Check.list (Check.list Check.text)

end RichText

namespace Shape

/-- The spellings of the rule among the members of every payload. -/
def ruleKey : MemberKey := ⟨"conditionalLogic", "conditional_logic"⟩

/-- The spellings of the member that says whether an answer is needed. -/
def requiredKey : MemberKey := ⟨"isRequired", "is_required"⟩

/-- The spellings of the member that holds text with markup. -/
def richKey : MemberKey := ⟨"safeHTMLSchema", "safe_html_schema"⟩

/-- The members of a shape, the rule apart. -/
def keys : Shape → List MemberKey
  | formTitle | heading => [.plain "title", richKey]
  | text => [.plain "text", richKey]
  | questionTitle => [.plain "title", richKey, .plain "description"]
  | input => [requiredKey, .plain "placeholder"]
  | choiceOption => [.plain "index", requiredKey, ⟨"isFirst", "is_first"⟩, ⟨"isLast", "is_last"⟩,
      .plain "text", .plain "value", ⟨"isDefault", "is_default"⟩, .plain "description",
      .plain "placeholder"]
  | rating => [requiredKey, ⟨"maxRating", "max_rating"⟩, .plain "shape"]
  | linearScale => [requiredKey, ⟨"minValue", "min_value"⟩, ⟨"maxValue", "max_value"⟩,
      ⟨"minLabel", "min_label"⟩, ⟨"maxLabel", "max_label"⟩, .plain "step"]
  | fileUpload => [requiredKey, ⟨"maxFileSize", "max_file_size"⟩,
      ⟨"acceptedFileTypes", "accepted_file_types"⟩, ⟨"allowMultiple", "allow_multiple"⟩,
      ⟨"maxFiles", "max_files"⟩]
  | signature => [requiredKey, ⟨"strokeWidth", "stroke_width"⟩]
  | matrix => [requiredKey, ⟨"allowMultiple", "allow_multiple"⟩]
  | matrixItem => [.plain "order", .plain "text"]
  | empty => []
  | pageBreak => [⟨"buttonLabel", "button_label"⟩]
  | thankYouPage => [.plain "title", .plain "text", richKey]
  | media => [.plain "url", .plain "caption", .plain "alt"]
  | hiddenFields => [⟨"hiddenFields", "hidden_fields"⟩]
  | calculatedFields => [⟨"calculatedFields", "calculated_fields"⟩]
  | conditionalLogic => [⟨"logicalOperator", "logical_operator"⟩, .plain "conditionals",
      .plain "actions"]
  | payment => [requiredKey, .plain "amount", .plain "currency", .plain "description"]
  | walletConnect => [requiredKey]

end Shape

namespace Body

def shape : Body → Shape
  | formTitle .. => .formTitle
  | text .. => .text
  | heading .. => .heading
  | questionTitle .. => .questionTitle
  | input .. => .input
  | choiceOption .. => .choiceOption
  | rating .. => .rating
  | linearScale .. => .linearScale
  | fileUpload .. => .fileUpload
  | signature .. => .signature
  | matrix .. => .matrix
  | matrixItem .. => .matrixItem
  | empty => .empty
  | pageBreak .. => .pageBreak
  | thankYouPage .. => .thankYouPage
  | media .. => .media
  | hiddenFields .. => .hiddenFields
  | calculatedFields .. => .calculatedFields
  | conditionalLogic .. => .conditionalLogic
  | payment .. => .payment
  | walletConnect .. => .walletConnect

/-- Read the member that says whether an answer is needed. -/
def required (entries : Entries) (default : Bool) : Checked Bool :=
  Entries.optional entries Shape.requiredKey default Check.flag

def check (entries : Entries) : Shape → Checked Body
  | .formTitle =>
    pure Body.formTitle
      <*> Entries.require entries (.plain "title") Check.text
      <*> Entries.require entries Shape.richKey RichText.check
  | .text =>
    pure Body.text
      <*> Entries.require entries (.plain "text") Check.text
      <*> Entries.require entries Shape.richKey RichText.check
  | .heading =>
    pure Body.heading
      <*> Entries.require entries (.plain "title") Check.text
      <*> Entries.require entries Shape.richKey RichText.check
  | .questionTitle =>
    pure Body.questionTitle
      <*> Entries.require entries (.plain "title") Check.text
      <*> Entries.require entries Shape.richKey RichText.check
      <*> Entries.maybe entries (.plain "description") Check.text
  | .input =>
    pure Body.input
      <*> required entries false
      <*> Entries.maybe entries (.plain "placeholder") Check.text
  | .choiceOption =>
    pure Body.choiceOption
      <*> Entries.require entries (.plain "index") Check.whole
      <*> required entries false
      <*> Entries.require entries ⟨"isFirst", "is_first"⟩ Check.flag
      <*> Entries.require entries ⟨"isLast", "is_last"⟩ Check.flag
      <*> Entries.require entries (.plain "text") Check.text
      <*> Entries.maybe entries (.plain "value") Check.text
      <*> Entries.maybe entries ⟨"isDefault", "is_default"⟩ Check.flag
      <*> Entries.maybe entries (.plain "description") Check.text
      <*> Entries.maybe entries (.plain "placeholder") Check.text
  | .rating =>
    pure Body.rating
      <*> required entries false
      <*> Entries.optional entries ⟨"maxRating", "max_rating"⟩ 5 Check.whole
      <*> Entries.optional entries (.plain "shape") "STAR" Check.text
  | .linearScale =>
    pure Body.linearScale
      <*> required entries false
      <*> Entries.require entries ⟨"minValue", "min_value"⟩ Check.number
      <*> Entries.require entries ⟨"maxValue", "max_value"⟩ Check.number
      <*> Entries.maybe entries ⟨"minLabel", "min_label"⟩ Check.text
      <*> Entries.maybe entries ⟨"maxLabel", "max_label"⟩ Check.text
      <*> Entries.optional entries (.plain "step") (.int 1) Check.number
  | .fileUpload =>
    pure Body.fileUpload
      <*> required entries false
      <*> Entries.maybe entries ⟨"maxFileSize", "max_file_size"⟩ Check.whole
      <*> Entries.maybe entries ⟨"acceptedFileTypes", "accepted_file_types"⟩
            (Check.list Check.text)
      <*> Entries.maybe entries ⟨"allowMultiple", "allow_multiple"⟩ Check.flag
      <*> Entries.maybe entries ⟨"maxFiles", "max_files"⟩ Check.whole
  | .signature =>
    pure Body.signature
      <*> required entries false
      <*> Entries.maybe entries ⟨"strokeWidth", "stroke_width"⟩ Check.number
  | .matrix =>
    pure Body.matrix
      <*> required entries false
      <*> Entries.maybe entries ⟨"allowMultiple", "allow_multiple"⟩ Check.flag
  | .matrixItem =>
    pure Body.matrixItem
      <*> Entries.require entries (.plain "order") Check.whole
      <*> Entries.require entries (.plain "text") Check.text
  | .empty => pure Body.empty
  | .pageBreak =>
    pure Body.pageBreak
      <*> Entries.maybe entries ⟨"buttonLabel", "button_label"⟩ Check.text
  | .thankYouPage =>
    pure Body.thankYouPage
      <*> Entries.maybe entries (.plain "title") Check.text
      <*> Entries.maybe entries (.plain "text") Check.text
      <*> Entries.maybe entries Shape.richKey RichText.check
  | .media =>
    pure Body.media
      <*> Entries.require entries (.plain "url") Check.text
      <*> Entries.maybe entries (.plain "caption") Check.text
      <*> Entries.maybe entries (.plain "alt") Check.text
  | .hiddenFields =>
    pure Body.hiddenFields
      <*> Entries.optional entries ⟨"hiddenFields", "hidden_fields"⟩ []
            (Check.list HiddenValue.check)
  | .calculatedFields =>
    pure Body.calculatedFields
      <*> Entries.optional entries ⟨"calculatedFields", "calculated_fields"⟩ []
            (Check.list CalculatedValue.check)
  | .conditionalLogic =>
    pure Body.conditionalLogic
      <*> Entries.optional entries ⟨"logicalOperator", "logical_operator"⟩ "AND" Check.text
      <*> Entries.optional entries (.plain "conditionals") [] (Check.list Check.mapping)
      <*> Entries.optional entries (.plain "actions") [] (Check.list Check.mapping)
  | .payment =>
    pure Body.payment
      <*> required entries true
      <*> Entries.maybe entries (.plain "amount") Check.number
      <*> Entries.optional entries (.plain "currency") "USD" Check.text
      <*> Entries.maybe entries (.plain "description") Check.text
  | .walletConnect => pure Body.walletConnect <*> required entries false

/-- The members of a body, nulls included. -/
def entries : Body → Entries
  | formTitle title rich => [("title", .text title), ("safeHTMLSchema", rich.toJson)]
  | text s rich => [("text", .text s), ("safeHTMLSchema", rich.toJson)]
  | heading title rich => [("title", .text title), ("safeHTMLSchema", rich.toJson)]
  | questionTitle title rich description =>
    [("title", .text title), ("safeHTMLSchema", rich.toJson),
      ("description", .ofText? description)]
  | input required placeholder =>
    [("isRequired", .bool required), ("placeholder", .ofText? placeholder)]
  | choiceOption index required first last label value isDefault description placeholder =>
    [("index", .int index), ("isRequired", .bool required), ("isFirst", .bool first),
      ("isLast", .bool last), ("text", .text label), ("value", .ofText? value),
      ("isDefault", .ofBool? isDefault), ("description", .ofText? description),
      ("placeholder", .ofText? placeholder)]
  | rating required maxRating shape =>
    [("isRequired", .bool required), ("maxRating", .int maxRating), ("shape", .text shape)]
  | linearScale required low high lowLabel highLabel step =>
    [("isRequired", .bool required), ("minValue", low.toJson), ("maxValue", high.toJson),
      ("minLabel", .ofText? lowLabel), ("maxLabel", .ofText? highLabel), ("step", step.toJson)]
  | fileUpload required maxFileSize types multiple maxFiles =>
    [("isRequired", .bool required), ("maxFileSize", .ofInt? maxFileSize),
      ("acceptedFileTypes", (types.map Json.ofTexts).getD .null),
      ("allowMultiple", .ofBool? multiple), ("maxFiles", .ofInt? maxFiles)]
  | signature required strokeWidth =>
    [("isRequired", .bool required), ("strokeWidth", .ofNumber? strokeWidth)]
  | matrix required multiple =>
    [("isRequired", .bool required), ("allowMultiple", .ofBool? multiple)]
  | matrixItem order label => [("order", .int order), ("text", .text label)]
  | empty => []
  | pageBreak buttonLabel => [("buttonLabel", .ofText? buttonLabel)]
  | thankYouPage title message rich =>
    [("title", .ofText? title), ("text", .ofText? message),
      ("safeHTMLSchema", (rich.map RichText.toJson).getD .null)]
  | media url caption alt =>
    [("url", .text url), ("caption", .ofText? caption), ("alt", .ofText? alt)]
  | hiddenFields values => [("hiddenFields", .array (values.map HiddenValue.toJson))]
  | calculatedFields values => [("calculatedFields", .array (values.map CalculatedValue.toJson))]
  | conditionalLogic logicalOperator conditionals actions =>
    [("logicalOperator", .text logicalOperator),
      ("conditionals", .array (conditionals.map fun e => Json.object (Json.finiteEntries e))),
      ("actions", .array (actions.map fun e => Json.object (Json.finiteEntries e)))]
  | payment required amount currency description =>
    [("isRequired", .bool required), ("amount", .ofNumber? amount), ("currency", .text currency),
      ("description", .ofText? description)]
  | walletConnect required => [("isRequired", .bool required)]

def loose : Body → List Json
  | conditionalLogic _ conditionals actions => (conditionals ++ actions).flatten.map (·.2)
  | _ => []

/-- The title that a body shows, or its text when it has no title. -/
def titleText : Body → String
  | formTitle title _ | heading title _ | questionTitle title _ _ => title
  | text s _ | matrixItem _ s => s
  | choiceOption _ _ _ _ s _ _ _ _ => s
  | thankYouPage (some title) _ _ => title
  | thankYouPage none (some s) _ => s
  | _ => ""

end Body

namespace Payload

/-- Read the members of a payload of some shape. Members of other shapes are rejected. -/
def check (shape : Shape) : Json → Checked Payload :=
  Check.object fun entries =>
    pure (fun rule body _ => Payload.mk rule body)
      <*> Entries.maybe entries Shape.ruleKey Rule.check
      <*> Body.check entries shape
      <*> Entries.closed entries (Shape.ruleKey :: shape.keys)

def toJson (p : Payload) : Json :=
  .object (Entries.withoutNulls
    (("conditionalLogic", (p.rule.map Rule.toJson).getD .null) :: p.body.entries))

end Payload

end PromptForm
