import PromptForm.Failure
import PromptForm.Field.Coercion
import PromptForm.Field.Kind

/-! # Fields

A field is one question or structural element of a form. It is read from a JSON object with loose
values; entries that are no attribute are kept as extras. A raw field holds the attributes as any
JSON values; every field is one.
-/

namespace PromptForm

/-- A field of a form. -/
structure Field where
  /-- The name of the kind, or the slug of an unknown one. -/
  type : String
  label : String
  required : Bool
  placeholder : Option String
  description : Option String
  options : List Json
  maxRating : Option Number
  shape : Option String
  minValue : Option Number
  maxValue : Option Number
  minLabel : Option String
  maxLabel : Option String
  step : Option Number
  /-- In megabytes. -/
  maxFileSize : Option Number
  allowedFileTypes : List String
  allowMultiple : Option Bool
  maxFiles : Option Int
  strokeWidth : Option Number
  rows : List Json
  columns : List Json
  level : Option Int
  content : Option String
  url : Option String
  amount : Option Number
  currency : Option String
  /-- The condition under which the field is shown. -/
  showIf : Option String
  /-- The entries that are no attribute. -/
  extras : Entries
  /-- The attributes that were given a value. -/
  given : List Attribute
  deriving Repr

/-- A field as it was written: every attribute may hold any value. -/
structure RawField where
  get : Attribute → Json
  extras : Entries
  /-- Was the field said to be required or not? -/
  requiredGiven : Bool

namespace Field

def keys : List MemberKey := Attribute.all.map Attribute.key

def givenBy (entries : Entries) : List Attribute :=
  Attribute.all.filter fun a => (Entries.member? entries a.key).isSome

/-- The attribute `a` as a member that may be null or not be there. -/
def maybe (entries : Entries) (a : Attribute) (check : Json → Checked α) : Checked (Option α) :=
  Entries.maybe entries a.key check

/-- The list attribute `a`, which is empty when it is not there. -/
def listed (entries : Entries) (a : Attribute) (check : Json → Checked α) : Checked (List α) :=
  Entries.optional entries a.key [] (Check.list check)

/-- Check the entries of a field whose values have been brought into form. -/
def ofEntries (entries : Entries) : Checked Field :=
  pure Field.mk
    <*> Entries.optional entries Attribute.type.key Kind.text.name (fun v => .ok (Kind.nameOf v))
    <*> Entries.optional entries Attribute.label.key "" (fun v => (Check.text v).map trimmed)
    <*> Entries.optional entries Attribute.required.key false Check.flag
    <*> maybe entries .placeholder Check.text
    <*> maybe entries .description Check.text
    <*> listed entries .options Check.any
    <*> maybe entries .maxRating Check.number
    <*> maybe entries .shape Check.text
    <*> maybe entries .minValue Check.number
    <*> maybe entries .maxValue Check.number
    <*> maybe entries .minLabel Check.text
    <*> maybe entries .maxLabel Check.text
    <*> maybe entries .step Check.number
    <*> maybe entries .maxFileSize Check.number
    <*> listed entries .allowedFileTypes Check.text
    <*> maybe entries .allowMultiple Check.flag
    <*> maybe entries .maxFiles Check.whole
    <*> maybe entries .strokeWidth Check.number
    <*> listed entries .rows Check.any
    <*> listed entries .columns Check.any
    <*> maybe entries .level Check.whole
    <*> maybe entries .content Check.text
    <*> maybe entries .url Check.text
    <*> maybe entries .amount Check.number
    <*> maybe entries .currency Check.text
    <*> maybe entries .showIf Check.text
    <*> pure (Entries.rest entries keys)
    <*> pure (givenBy entries)

def check : Json → Checked Field :=
  Check.object fun entries =>
    match Coercion.fault? entries with
    | some .infinity => .overflow
    | some .nan => .refuse .unfit
    | none => ofEntries (Coercion.entries entries)

/-- A field with nothing but a kind and a label. -/
def plain (kind : Kind) (label : String) : Field where
  type := kind.name
  label := label
  required := false
  placeholder := none
  description := none
  options := []
  maxRating := none
  shape := none
  minValue := none
  maxValue := none
  minLabel := none
  maxLabel := none
  step := none
  maxFileSize := none
  allowedFileTypes := []
  allowMultiple := none
  maxFiles := none
  strokeWidth := none
  rows := []
  columns := []
  level := none
  content := none
  url := none
  amount := none
  currency := none
  showIf := none
  extras := []
  given := [.type, .label]

def kind? (f : Field) : Option Kind := Kind.ofName? f.type

def isChoice (f : Field) : Bool := f.kind?.any Kind.isChoice

def get (f : Field) : Attribute → Json
  | .type => .text f.type
  | .label => .text f.label
  | .required => .bool f.required
  | .placeholder => .ofText? f.placeholder
  | .description => .ofText? f.description
  | .options => .array f.options
  | .maxRating => .ofNumber? f.maxRating
  | .shape => .ofText? f.shape
  | .minValue => .ofNumber? f.minValue
  | .maxValue => .ofNumber? f.maxValue
  | .minLabel => .ofText? f.minLabel
  | .maxLabel => .ofText? f.maxLabel
  | .step => .ofNumber? f.step
  | .maxFileSize => .ofNumber? f.maxFileSize
  | .allowedFileTypes => .ofTexts f.allowedFileTypes
  | .allowMultiple => .ofBool? f.allowMultiple
  | .maxFiles => .ofInt? f.maxFiles
  | .strokeWidth => .ofNumber? f.strokeWidth
  | .rows => .array f.rows
  | .columns => .array f.columns
  | .level => .ofInt? f.level
  | .content => .ofText? f.content
  | .url => .ofText? f.url
  | .amount => .ofNumber? f.amount
  | .currency => .ofText? f.currency
  | .showIf => .ofText? f.showIf

def raw (f : Field) : RawField := ⟨f.get, f.extras, f.given.contains .required⟩

/-- The value of an attribute as it is sent. Lists of any values have no place for numbers that are
not finite. -/
def sent (f : Field) (a : Attribute) : Json :=
  if a.form == .list then (f.get a).finite else f.get a

def attributeEntries (f : Field) : Entries := Attribute.all.map fun a => (a.key.key, f.sent a)

def entries (f : Field) : Entries := f.attributeEntries ++ Json.finiteEntries f.extras

/-- The names of everything that was given a value, once each, attributes in their second
spelling. -/
def givenNames (f : Field) : List String :=
  (f.given.map (·.key.second) ++ f.extras.map (·.1)).eraseDups

def toJson (f : Field) : Json :=
  .object (Entries.withoutNulls f.attributeEntries ++ Entries.sent f.extras)

def loose (f : Field) : List Json := f.options ++ f.rows ++ f.columns ++ f.extras.map (·.2)

def written (f : Field) : Except Failure Json := f.toJson.holding 0 f.loose

/-- A field written down with nulls. -/
def writtenInFull (f : Field) : Except Failure Json := (Json.object f.entries).holding 0 f.loose

end Field

namespace RawField

def default : Attribute → Json
  | .type => .text Kind.text.name
  | .label => .text ""
  | .required => .bool false
  | .options | .allowedFileTypes | .rows | .columns => .array []
  | _ => .null

/-- The entries of an object as attributes and extras, with nothing checked or changed. -/
def ofEntries (entries : Entries) : RawField where
  get a := ((Entries.member? entries a.key).map (·.2)).getD (default a)
  extras := Entries.rest entries Field.keys
  requiredGiven := (Entries.member? entries Attribute.required.key).isSome

def kind? (f : RawField) : Option Kind := (f.get .type).text?.bind Kind.ofName?

/-- The first extra with one of the names that is neither null nor a blank text. -/
def extra? (f : RawField) (names : List String) : Option Json :=
  names.findSome? fun name =>
    match Entries.present? f.extras name with
    | some (.text s) => if isBlankText s then none else some (.text s)
    | v => v

end RawField

/-- The first extra with one of the names that is neither null nor a blank text. -/
def Field.extra? (f : Field) (names : List String) : Option Json := f.raw.extra? names

end PromptForm
