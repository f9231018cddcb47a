/-! # Kinds of blocks

A hosted form is a list of blocks. The kind of a block says how it is shown, and fixes the shape
of its payload.
-/

namespace PromptForm

/-- The shape of a payload. -/
inductive Shape where
  | formTitle
  | text
  | heading
  | questionTitle
  | input
  | choiceOption
  | rating
  | linearScale
  | fileUpload
  | signature
  | matrix
  | matrixItem
  | empty
  | pageBreak
  | thankYouPage
  | media
  | hiddenFields
  | calculatedFields
  | conditionalLogic
  | payment
  | walletConnect
  deriving DecidableEq, Repr

/-- A kind of block. -/
inductive BlockKind where
  | formTitle
  | text
  | heading1
  | heading2
  | heading3
  | title
  | inputText
  | inputEmail
  | inputPhoneNumber
  | inputNumber
  | inputLink
  | inputDate
  | textarea
  | dropdownOption
  | multipleChoiceOption
  | checkbox
  | rating
  | linearScale
  | fileUpload
  | signature
  | matrix
  | matrixRow
  | matrixColumn
  | divider
  | pageBreak
  | thankYouPage
  | image
  | video
  | audio
  | embed
  | hiddenFields
  | calculatedFields
  | conditionalLogic
  | captcha
  | payment
  | walletConnect
  | respondentCountry
  deriving DecidableEq, Repr

namespace BlockKind

def all : List BlockKind := [
  .formTitle, .text, .heading1, .heading2, .heading3, .title, .inputText, .inputEmail,
  .inputPhoneNumber, .inputNumber, .inputLink, .inputDate, .textarea, .dropdownOption,
  .multipleChoiceOption, .checkbox, .rating, .linearScale, .fileUpload, .signature, .matrix,
  .matrixRow, .matrixColumn, .divider, .pageBreak, .thankYouPage, .image, .video, .audio, .embed,
  .hiddenFields, .calculatedFields, .conditionalLogic, .captcha, .payment, .walletConnect,
  .respondentCountry]

def name : BlockKind → String
  | formTitle => "FORM_TITLE"
  | text => "TEXT"
  | heading1 => "HEADING_1"
  | heading2 => "HEADING_2"
  | heading3 => "HEADING_3"
  | title => "TITLE"
  | inputText => "INPUT_TEXT"
  | inputEmail => "INPUT_EMAIL"
  | inputPhoneNumber => "INPUT_PHONE_NUMBER"
  | inputNumber => "INPUT_NUMBER"
  | inputLink => "INPUT_LINK"
  | inputDate => "INPUT_DATE"
  | textarea => "TEXTAREA"
  | dropdownOption => "DROPDOWN_OPTION"
  | multipleChoiceOption => "MULTIPLE_CHOICE_OPTION"
  | checkbox => "CHECKBOX"
  | rating => "RATING"
  | linearScale => "LINEAR_SCALE"
  | fileUpload => "FILE_UPLOAD"
  | signature => "SIGNATURE"
  | matrix => "MATRIX"
  | matrixRow => "MATRIX_ROW"
  | matrixColumn => "MATRIX_COLUMN"
  | divider => "DIVIDER"
  | pageBreak => "PAGE_BREAK"
  | thankYouPage => "THANK_YOU_PAGE"
  | image => "IMAGE"
  | video => "VIDEO"
  | audio => "AUDIO"
  | embed => "EMBED"
  | hiddenFields => "HIDDEN_FIELDS"
  | calculatedFields => "CALCULATED_FIELDS"
  | conditionalLogic => "CONDITIONAL_LOGIC"
  | captcha => "CAPTCHA"
  | payment => "PAYMENT"
  | walletConnect => "WALLET_CONNECT"
  | respondentCountry => "RESPONDENT_COUNTRY"

def ofName? (s : String) : Option BlockKind := all.find? fun kind => kind.name == s

/-- The shape that the payload of a block has. -/
def shape : BlockKind → Shape
  | formTitle => .formTitle
  | text => .text
  | heading1 | heading2 | heading3 => .heading
  | title => .questionTitle
  | inputText | inputEmail | inputPhoneNumber | inputNumber | inputLink | inputDate | textarea =>
    .input
  | dropdownOption | multipleChoiceOption | checkbox => .choiceOption
  | rating => .rating
  | linearScale => .linearScale
  | fileUpload => .fileUpload
  | signature => .signature
  | matrix => .matrix
  | matrixRow | matrixColumn => .matrixItem
  | divider | captcha | respondentCountry => .empty
  | pageBreak => .pageBreak
  | thankYouPage => .thankYouPage
  | image | video | audio | embed => .media
  | hiddenFields => .hiddenFields
  | calculatedFields => .calculatedFields
  | conditionalLogic => .conditionalLogic
  | payment => .payment
  | walletConnect => .walletConnect

end BlockKind

end PromptForm
