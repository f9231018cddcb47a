import PromptForm.Schema.Member

/-! # Attributes of fields

The attributes that a field may have, with both spellings of their names and what kind of value
they hold. The list of all attributes is in the order in which they are checked.
-/

namespace PromptForm

/-- An attribute of a field. -/
inductive Attribute where
  | type
  | label
  | required
  | placeholder
  | description
  | options
  | maxRating
  | shape
  | minValue
  | maxValue
  | minLabel
  | maxLabel
  | step
  | maxFileSize
  | allowedFileTypes
  | allowMultiple
  | maxFiles
  | strokeWidth
  | rows
  | columns
  | level
  | content
  | url
  | amount
  | currency
  | showIf
  deriving DecidableEq, Repr

/-- What an attribute holds. -/
inductive AttributeForm where
  /-- The kind of the field. -/
  | kind
  /-- The label. -/
  | label
  /-- A truth value that anything can be taken for. -/
  | looseFlag
  /-- A truth value. -/
  | flag
  /-- A text. -/
  | text
  /-- A number. -/
  | number
  /-- A whole number. -/
  | whole
  /-- A list of values. -/
  | list
  /-- A list of texts. -/
  | texts
  deriving DecidableEq, Repr

namespace Attribute

def all : List Attribute := [
  .type, .label, .required, .placeholder, .description, .options, .maxRating, .shape, .minValue,
  .maxValue, .minLabel, .maxLabel, .step, .maxFileSize, .allowedFileTypes, .allowMultiple,
  .maxFiles, .strokeWidth, .rows, .columns, .level, .content, .url, .amount, .currency, .showIf]

def key : Attribute → MemberKey
  | type => .plain "type"
  | label => .plain "label"
  | required => .plain "required"
  | placeholder => .plain "placeholder"
  | description => .plain "description"
  | options => .plain "options"
  | maxRating => ⟨"maxRating", "max_rating"⟩
  | shape => .plain "shape"
  | minValue => ⟨"minValue", "min_value"⟩
  | maxValue => ⟨"maxValue", "max_value"⟩
  | minLabel => ⟨"minLabel", "min_label"⟩
  | maxLabel => ⟨"maxLabel", "max_label"⟩
  | step => .plain "step"
  | maxFileSize => ⟨"maxFileSize", "max_file_size"⟩
  | allowedFileTypes => ⟨"allowedFileTypes", "allowed_file_types"⟩
  | allowMultiple => ⟨"allowMultiple", "allow_multiple"⟩
  | maxFiles => ⟨"maxFiles", "max_files"⟩
  | strokeWidth => ⟨"strokeWidth", "stroke_width"⟩
  | rows => .plain "rows"
  | columns => .plain "columns"
  | level => .plain "level"
  | content => .plain "content"
  | url => .plain "url"
  | amount => .plain "amount"
  | currency => .plain "currency"
  | showIf => ⟨"showIf", "show_if"⟩

def form : Attribute → AttributeForm
  | type => .kind
  | label => .label
  | required => .looseFlag
  | allowMultiple => .flag
  | maxRating | minValue | maxValue | step | maxFileSize | strokeWidth | amount => .number
  | maxFiles | level => .whole
  | options | rows | columns => .list
  | allowedFileTypes => .texts
  | placeholder | description | shape | minLabel | maxLabel | content | url | currency
  | showIf => .text

def ofName? (name : String) : Option Attribute :=
  all.find? fun a => a.key.key == name || a.key.second == name

end Attribute

end PromptForm
