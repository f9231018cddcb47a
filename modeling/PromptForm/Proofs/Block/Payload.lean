import PromptForm.Lowering.Question
import PromptForm.Proofs.Lowering.Draw

/-! # Payloads that pass their checks

Members that hold what their names ask for make up a payload of every shape, without a rule. Texts,
numbers and truth values may be left out where the shape allows it.
-/

namespace PromptForm.Build

variable (required : Bool)

@[simp] theorem payload_formTitle (title : String) :
    payload .formTitle [("title", .text title), ("safe_html_schema", rich (.text title))] =
      pure ⟨none, .formTitle title (.plain title)⟩ := rfl

@[simp] theorem payload_text (s : String) :
    payload .text [("text", .text s), ("safe_html_schema", rich (.text s))] =
      pure ⟨none, .text s (.plain s)⟩ := rfl

@[simp] theorem payload_heading (title : String) :
    payload .heading [("title", .text title), ("safe_html_schema", rich (.text title))] =
      pure ⟨none, .heading title (.plain title)⟩ := rfl

@[simp] theorem payload_questionTitle (label : String) (description : Option String) :
    payload .questionTitle [("title", .text label), ("safe_html_schema", rich (.text label)),
        ("description", .ofText? description)] =
      pure ⟨none, .questionTitle label (.plain label) description⟩ := by
  cases description <;> rfl

@[simp] theorem payload_input (placeholder : Option String) :
    payload .input [("is_required", .bool required), ("placeholder", .ofText? placeholder)] =
      pure ⟨none, .input required placeholder⟩ := by
  cases placeholder <;> rfl

@[simp] theorem payload_choiceOption (index : Int) (first last : Bool) (label value : String)
    (isDefault : Option Bool) (description placeholder : Option String) :
    payload .choiceOption [("index", .int index), ("is_required", .bool required),
        ("is_first", .bool first), ("is_last", .bool last), ("text", .text label),
        ("value", .text value), ("is_default", .ofBool? isDefault),
        ("description", .ofText? description), ("placeholder", .ofText? placeholder)] =
      pure ⟨none, .choiceOption index required first last label (some value) isDefault description
        placeholder⟩ := by
  cases isDefault <;> cases description <;> cases placeholder <;> rfl

@[simp] theorem payload_rating (maxRating : Int) (shape : String) :
    payload .rating [("is_required", .bool required), ("max_rating", .int maxRating),
        ("shape", .text shape)] =
      pure ⟨none, .rating required maxRating shape⟩ := rfl

@[simp] theorem payload_linearScale (low high step : Number) (lowLabel highLabel : String) :
    payload .linearScale [("is_required", .bool required), ("min_value", low.toJson),
        ("max_value", high.toJson), ("min_label", .text lowLabel), ("max_label", .text highLabel),
        ("step", step.toJson)] =
      pure ⟨none, .linearScale required low high (some lowLabel) (some highLabel) step⟩ := by
  cases low <;> cases high <;> cases step <;> rfl

@[simp] theorem payload_signature (strokeWidth : Option Number) :
    payload .signature [("is_required", .bool required), ("stroke_width", .ofNumber? strokeWidth)] =
      pure ⟨none, .signature required strokeWidth⟩ := by
  rcases strokeWidth with _ | _ | _ <;> rfl

@[simp] theorem payload_matrix (multiple : Option Bool) :
    payload .matrix [("is_required", .bool required), ("allow_multiple", .ofBool? multiple)] =
      pure ⟨none, .matrix required multiple⟩ := by
  cases multiple <;> rfl

@[simp] theorem payload_matrixItem (order : Int) (s : String) :
    payload .matrixItem [("order", .int order), ("text", .text s)] =
      pure ⟨none, .matrixItem order s⟩ := rfl

@[simp] theorem payload_empty : payload .empty [] = pure ⟨none, .empty⟩ := rfl

@[simp] theorem payload_pageBreak (buttonLabel : Option String) :
    payload .pageBreak [("button_label", .ofText? buttonLabel)] =
      pure ⟨none, .pageBreak buttonLabel⟩ := by
  cases buttonLabel <;> rfl

@[simp] theorem payload_thankYouPage (title message : Option String) :
    payload .thankYouPage [("title", .ofText? title), ("text", .ofText? message),
        ("safe_html_schema", match message with | some s => rich (.text s) | none => .null)] =
      pure ⟨none, .thankYouPage title message (message.map RichText.plain)⟩ := by
  cases title <;> cases message <;> rfl

@[simp] theorem payload_media (url : String) (caption alt : Option String) :
    payload .media [("url", .text url), ("caption", .ofText? caption), ("alt", .ofText? alt)] =
      pure ⟨none, .media url caption alt⟩ := by
  cases caption <;> cases alt <;> rfl

@[simp] theorem payload_payment (amount : Option Number) (currency : String)
    (description : Option String) :
    payload .payment [("is_required", .bool required), ("amount", .ofNumber? amount),
        ("currency", .text currency), ("description", .ofText? description)] =
      pure ⟨none, .payment required amount currency description⟩ := by
  rcases amount with _ | _ | _ <;> cases description <;> rfl

@[simp] theorem payload_walletConnect :
    payload .walletConnect [("is_required", .bool required)] =
      pure ⟨none, .walletConnect required⟩ := rfl

/-! ## Payloads that hold lists -/

theorem payload_of_check {shape members p} (h : Payload.check shape (.object members) = .ok p) :
    payload shape members = pure p := by
  simp only [payload, h]
  rfl

theorem list_map {α β : Type} {check : Json → Checked α} {write : β → Json} {read : β → α}
    (h : ∀ b, check (write b) = .ok (read b)) (bs : List β) :
    Check.list check (.array (bs.map write)) = .ok (bs.map read) := by
  suffices ∀ i, Checked.itemsFrom check i (bs.map write) = .ok (bs.map read) from this 0
  induction bs with
  | nil => exact fun _ => rfl
  | cons b bs ih =>
      intro i
      simp only [List.map_cons, Checked.itemsFrom, h, ih]
      rfl

theorem list_ofTexts (texts : List String) :
    Check.list Check.text (.ofTexts texts) = .ok texts := by
  have each : ∀ s, Check.text (.text s) = .ok (id s) := fun _ => rfl
  have read := list_map each texts
  rw [List.map_id] at read
  exact read

@[simp] theorem payload_fileUpload (maxFileSize maxFiles : Option Int) (types : List String)
    (multiple : Option Bool) :
    payload .fileUpload [("is_required", .bool required), ("max_file_size", .ofInt? maxFileSize),
        ("accepted_file_types", if types.isEmpty then .null else .ofTexts types),
        ("allow_multiple", .ofBool? multiple), ("max_files", .ofInt? maxFiles)] =
      pure ⟨none, .fileUpload required maxFileSize (if types.isEmpty then none else some types)
        multiple maxFiles⟩ := by
  have accepted : Check.nullable (Check.list Check.text)
      (if types.isEmpty then .null else .ofTexts types) =
        .ok (if types.isEmpty then none else some types) := by
    cases types with
    | nil => rfl
    | cons s rest => exact congrArg (Checked.map some) (list_ofTexts (s :: rest))
  revert accepted
  generalize (if types.isEmpty then Json.null else .ofTexts types) = v
  generalize (if types.isEmpty then none else some types) = kept
  intro accepted
  apply payload_of_check
  simp [Payload.check, Check.object, Body.check, Body.required, Entries.maybe, Entries.optional,
    Entries.member?, Entries.closed, Entries.rest, Checked.noneOf, Shape.keys, Shape.ruleKey,
    Shape.requiredKey, accepted]
  cases maxFileSize <;> cases multiple <;> cases maxFiles <;> rfl

theorem check_hiddenValue (v : HiddenValue) : HiddenValue.check v.toJson = .ok (id v) := rfl

@[simp] theorem payload_hiddenFields (values : List HiddenValue) :
    payload .hiddenFields [("hidden_fields", .array (values.map HiddenValue.toJson))] =
      pure ⟨none, .hiddenFields values⟩ := by
  have read := list_map check_hiddenValue values
  rw [List.map_id] at read
  apply payload_of_check
  simp [Payload.check, Check.object, Body.check, Entries.maybe, Entries.optional,
    Entries.member?, Entries.closed, Entries.rest, Checked.noneOf, Shape.keys, Shape.ruleKey, read]
  rfl

theorem check_calculatedValue (v : CalculatedValue) :
    CalculatedValue.check v.toJson = .ok (id v) := by
  obtain ⟨uuid, name, type, value⟩ := v
  rcases value with (_ | _) | _ <;> rfl

@[simp] theorem payload_calculatedFields (values : List CalculatedValue) :
    payload .calculatedFields
        [("calculated_fields", .array (values.map CalculatedValue.toJson))] =
      pure ⟨none, .calculatedFields values⟩ := by
  have read := list_map check_calculatedValue values
  rw [List.map_id] at read
  apply payload_of_check
  simp [Payload.check, Check.object, Body.check, Entries.maybe, Entries.optional,
    Entries.member?, Entries.closed, Entries.rest, Checked.noneOf, Shape.keys, Shape.ruleKey, read]
  rfl

/-- Conditional logic is passed on whatever its objects hold. -/
theorem payload_conditionalLogic (operator : String) {conditionals actions : Json}
    {cs as : List Entries} (hc : Check.list Check.mapping conditionals = .ok cs)
    (ha : Check.list Check.mapping actions = .ok as) :
    payload .conditionalLogic [("logical_operator", .text operator),
        ("conditionals", conditionals), ("actions", actions)] =
      pure ⟨none, .conditionalLogic operator cs as⟩ := by
  apply payload_of_check
  simp [Payload.check, Check.object, Body.check, Entries.maybe, Entries.optional,
    Entries.member?, Entries.closed, Entries.rest, Checked.noneOf, MemberKey.plain, Shape.keys,
    Shape.ruleKey, hc, ha]
  rfl

end PromptForm.Build
