import PromptForm.Proofs.Lowering.Question
import PromptForm.Proofs.Lowering.Reading

/-! # Fields as clusters

What each field becomes: at most one cluster. Lowering a field draws the ids of its cluster, unless
a number of the field is too large for the whole number that its blocks need.
-/

namespace PromptForm

namespace Field

open Reading

def asking (f : Field) (answers : List Sketch) : Cluster :=
  .question f.shownLabel (f.description.bind trimmed?) answers

def inputCluster (f : Field) (kind : BlockKind) : Cluster :=
  f.asking [.ofKind kind (.input f.required (f.placeholder.bind trimmed?))]

/-- A question whose answer is picked from options. Without options it is answered with text. -/
def choiceCluster (f : Field) (kind : Kind) : Cluster :=
  let options := f.raw.choices kind
  if options.isEmpty then f.inputCluster .inputText
  else
    f.asking (options.zipIdx.map fun c =>
      c.1.sketch (RawField.optionKind kind).1 (RawField.optionKind kind).2
        (f.required || kind == .consentCheckbox) f.placeholder options.length c.2)

/-- The best rating: five when the field gives none, or nothing that is a number. -/
def bestRating (f : Field) : Int :=
  match f.maxRating.map Number.toInt with
  | some (.ok n) => if n = 0 then 5 else n
  | _ => 5

def ratingCluster (f : Field) : Cluster :=
  f.asking [.ofKind .rating (.rating f.required f.bestRating
    (RawField.ratingShape (.ofText? f.shape)))]

def scaleCluster (f : Field) (kind : Kind) : Cluster :=
  let (low, high, lowLabel, highLabel) := RawField.scaleDefaults kind
  f.asking [.ofKind .linearScale (.linearScale f.required
    (f.minValue.getD (.int low)) (f.maxValue.getD (.int high))
    (some ((f.minLabel.bind nonEmpty?).getD lowLabel))
    (some ((f.maxLabel.bind nonEmpty?).getD highLabel)) (nonZero f.step (.int 1)))]

def fileTypes (f : Field) : List String :=
  let listed := (f.allowedFileTypes.filter (!isBlankText ·)).map fun s => fileType (trimmed s)
  if listed.isEmpty then
    (texts (extra f.raw ["acceptedFileTypes", "acceptedTypes", "fileTypes"])).map fileType
  else listed

/-- The size of an uploaded file in bytes. -/
def fileSize (f : Field) : Except NotFinite (Option Int) :=
  match f.maxFileSize with
  | some n => n.bytes?
  | none => .ok none

def uploadCluster (f : Field) (size : Option Int) : Cluster :=
  f.asking [.ofKind .fileUpload (.fileUpload f.required size
    (if f.fileTypes.isEmpty then none else some f.fileTypes) f.allowMultiple f.maxFiles)]

def gridSketches (kind : BlockKind) (names : List String) : List Sketch :=
  names.zipIdx.map fun s => ⟨kind, "MATRIX", .matrixItem s.2 s.1⟩

def matrixCluster (f : Field) : Cluster :=
  let listed := texts (.array f.columns)
  let columns := if listed.isEmpty then texts (.array f.options) else listed
  f.asking (.ofKind .matrix (.matrix f.required f.allowMultiple) ::
    (gridSketches .matrixRow (texts (.array f.rows)) ++ gridSketches .matrixColumn columns))

def headingLevel (f : Field) : Int := if f.level.getD 0 = 0 then 2 else f.level.getD 0

def thankYouSketch (f : Field) : Sketch :=
  let message := nonEmpty? (firstText [.ofText? f.content, extra f.raw ["message", "text"],
    .ofText? f.description])
  .ofKind .thankYouPage (.thankYouPage (nonEmpty? f.label) message (message.map .plain))

def mediaUrl (f : Field) : String :=
  firstText [.ofText? f.url, extra f.raw ["src", "mediaUrl", "media_url", "embedUrl"]]

def mediaKind (f : Field) : BlockKind :=
  let hint := uppered (extra f.raw ["mediaType", "media_type", "kind"]).usableText
  (RawField.mediaKinds.find? fun kind => kind.name == hint).getD (RawField.mediaKindOf f.mediaUrl)

def hiddenNames (f : Field) : List String :=
  let listed := texts (extra f.raw ["hiddenFields", "hidden_fields", "fields", "names"])
  let names := if listed.isEmpty then texts (.array f.options) else listed
  if names.isEmpty && !f.label.isEmpty then [f.label] else names

/-- The members of calculated values, ids apart. -/
def calculatedMembers (f : Field) : List (List (String × Json)) :=
  let listed :=
    match extra f.raw ["calculatedFields", "calculated_fields", "variables"] with
    | .array items => items.filterMap RawField.calculatedMembers?
    | _ => []
  if listed.isEmpty && !f.label.isEmpty then [[("name", .text f.label)]] else listed

/-- The objects among the items of a list. -/
def objectEntries : Json → List Entries
  | .array items => items.filterMap Json.entries?
  | _ => []

def conditionalSketch (f : Field) : Sketch :=
  .ofKind .conditionalLogic (.conditionalLogic
    (uppered (orDefault (extra f.raw ["logicalOperator", "logical_operator"]) (.text "AND")).display)
    (objectEntries (extra f.raw ["conditionals", "conditions"]))
    (objectEntries (extra f.raw ["actions"])))

def paymentSketch (f : Field) : Sketch :=
  let currency := uppered (orDefault (.ofText? f.currency) (.text "USD")).usableText
  .ofKind .payment (.payment (if f.given.contains .required then f.required else true) f.amount
    ((nonEmpty? currency).getD "USD")
    (nonEmpty? (firstText [.ofText? f.description, .text f.label])))

end Field

/-- A calculated value with some members, its id apart. -/
def CalculatedValue.ofMembers (members : List (String × Json)) : CalculatedValue :=
  match CalculatedValue.check (.object (("uuid", .text "") :: members)) with
  | .ok v => v
  | _ => ⟨"", "", "", .text ""⟩

namespace Field

open Reading

def clusterAs (f : Field) : Kind → Option Cluster
  | .text => some (f.inputCluster .inputText)
  | .email => some (f.inputCluster .inputEmail)
  | .phone => some (f.inputCluster .inputPhoneNumber)
  | .textarea => some (f.inputCluster .textarea)
  | .date => some (f.inputCluster .inputDate)
  | .number => some (f.inputCluster .inputNumber)
  | .url => some (f.inputCluster .inputLink)
  | .dropdown => some (f.choiceCluster .dropdown)
  | .multipleChoice => some (f.choiceCluster .multipleChoice)
  | .checkboxes => some (f.choiceCluster .checkboxes)
  | .countrySelect => some (f.choiceCluster .countrySelect)
  | .consentCheckbox => some (f.choiceCluster .consentCheckbox)
  | .rating => some f.ratingCluster
  | .linearScale => some (f.scaleCluster .linearScale)
  | .nps => some (f.scaleCluster .nps)
  | .likert => some (f.scaleCluster .likert)
  | .fileUpload => some (f.uploadCluster (f.fileSize.toOption.getD none))
  | .signature => some (f.asking [.ofKind .signature (.signature f.required f.strokeWidth)])
  | .matrix => some f.matrixCluster
  | .heading =>
    if f.raw.contentText.isEmpty then none
    else some (.alone (.heading f.raw.contentText f.headingLevel))
  | .textBlock =>
    if f.raw.contentText.isEmpty then none
    else some (.alone (.text f.raw.contentText))
  | .divider => some (.alone (.ofKind .divider .empty))
  | .pageBreak =>
    let label := extra f.raw ["buttonLabel", "button_label"]
    some (.alone (.ofKind .pageBreak
      (.pageBreak (if label.truthy then some label.display else none))))
  | .thankYouPage => some (.alone f.thankYouSketch)
  | .media =>
    if f.mediaUrl.isEmpty then none
    else some (.alone (.ofKind f.mediaKind (.media f.mediaUrl
      (nonEmpty? (firstText [.ofText? f.description, .text f.label]))
      (extra f.raw ["alt"]).usableText?)))
  | .hiddenFields => some (.hidden (f.hiddenNames.map fun name => ⟨"", name⟩))
  | .calculatedFields =>
    some (.calculated (f.calculatedMembers.map CalculatedValue.ofMembers))
  | .conditionalLogic => some (.alone f.conditionalSketch)
  | .captcha => some (.alone (.ofKind .captcha .empty))
  | .payment => some (.alone f.paymentSketch)
  | .walletConnect => some (.alone (.ofKind .walletConnect (.walletConnect f.required)))
  | .respondentCountry => some (.alone (.ofKind .respondentCountry .empty))

def cluster? (f : Field) : Option Cluster :=
  match f.kind? with
  | some kind => f.clusterAs kind
  | none => some (f.inputCluster .inputText)

/-- Why a number of a field has no whole number that its blocks need. -/
def fault? (f : Field) : Option NotFinite :=
  match f.kind? with
  | some .rating =>
    match f.maxRating.map Number.toInt with
    | some (.error .infinity) => some .infinity
    | _ => none
  | some .fileUpload =>
    match f.fileSize with
    | .error e => some e
    | .ok _ => none
  | _ => none

end Field

def Cluster.drawAll : Option Cluster → Draw (List Block)
  | some c => c.draw
  | none => pure []

namespace RawField

open PromptForm.Field Reading

variable (f : Field)

theorem lowerTitle_eq (group : String) :
    f.raw.lowerTitle group =
      (Sketch.title f.shownLabel (f.description.bind trimmed?)).draw (some group) := by
  have usable : (f.raw.get .description).usableText? = f.description.bind trimmed? :=
    usableText?_ofText? f.description
  simp only [lowerTitle, label_raw, Draw.ofExcept_ok, pure_bind, Build.questionTitle_eq, usable]

theorem lowerInput_eq {kind : BlockKind} (input : kind.shape = .input) :
    f.raw.lowerInput kind = (f.inputCluster kind).draw := by
  have description : (f.raw.get .description).usableText? = f.description.bind trimmed? :=
    usableText?_ofText? f.description
  have placeholder : (f.raw.get .placeholder).usableText? = f.placeholder.bind trimmed? :=
    usableText?_ofText? f.placeholder
  have required : f.raw.isRequired = f.required := rfl
  simp only [lowerInput, label_raw, Draw.ofExcept_ok, pure_bind, Build.question_eq _ input,
    description, placeholder, required, inputCluster, asking]

theorem lowerChoice_eq (kind : Kind) :
    f.raw.lowerChoice kind = (f.choiceCluster kind).draw := by
  have usable : (f.raw.get .description).usableText? = f.description.bind trimmed? :=
    usableText?_ofText? f.description
  have required : f.raw.isRequired = f.required := rfl
  have placeholder : f.raw.get .placeholder = .ofText? f.placeholder := rfl
  have choice : (optionKind kind).1.shape = .choiceOption := by cases kind <;> rfl
  have named : (optionKind kind).2.isEmpty = false := by cases kind <;> rfl
  cases h : f.raw.choices kind with
  | nil =>
      simp only [lowerChoice, choiceCluster, h, List.isEmpty_nil, if_true]
      exact lowerInput_eq f rfl
  | cons c rest =>
      simp only [lowerChoice, choiceCluster, h, label_raw, Draw.ofExcept_ok, pure_bind, placeholder,
        Build.choiceQuestion_eq _ choice named, usable, required, List.isEmpty_cons,
        Bool.false_eq_true, if_false, asking]

theorem asking_one {kind : BlockKind} {body : Body} (fits : body.shape = kind.shape) :
    (do
      let group ← Draw.fresh
      let title ← f.raw.lowerTitle group
      let answer ← Build.block kind ⟨none, body⟩ (some group) none
      return [title, answer]) = (f.asking [.ofKind kind body]).draw := by
  simp only [lowerTitle_eq, Build.block_eq fits, asking, Cluster.draw, Draw.each_cons,
    Draw.each_nil, bind_assoc, pure_bind]
  rfl

theorem lowerRating_eq (sane : f.maxRating.map Number.toInt ≠ some (.error .infinity)) :
    f.raw.lowerRating = f.ratingCluster.draw := by
  have best : ∃ most, whole? (f.raw.get .maxRating) = .ok most ∧
      (most.elim 5 fun n => if n = 0 then 5 else n) = f.bestRating := by
    have read : f.raw.get .maxRating = .ofNumber? f.maxRating := rfl
    cases h : f.maxRating with
    | none => exact ⟨none, by rw [read, h]; rfl, by simp [bestRating, h]⟩
    | some n =>
        have whole := whole?_toJson n
        cases m : n.toInt with
        | ok m' => exact ⟨some m', by simp [read, h, Json.ofNumber?, whole, m], by
            simp [bestRating, h, m]⟩
        | error e =>
            cases e with
            | infinity => simp [h, m] at sane
            | nan => exact ⟨none, by simp [read, h, Json.ofNumber?, whole, m], by
                simp [bestRating, h, m]⟩
  obtain ⟨most, whole, best⟩ := best
  have required : f.raw.get .required = .bool f.required := rfl
  have shape : f.raw.get .shape = .ofText? f.shape := rfl
  rw [ratingCluster, ← asking_one f (by rfl), ← best]
  cases most with
  | none | some n =>
      simp only [lowerRating, whole, Draw.ofExcept_ok, pure_bind, required, shape,
        Build.payload_rating, Option.elim]

theorem lowerScale_eq (kind : Kind) :
    f.raw.lowerScale kind = (f.scaleCluster kind).draw := by
  rcases h : scaleDefaults kind with ⟨low, high, lowLabel, highLabel⟩
  have required : f.raw.get .required = .bool f.required := rfl
  have lowest : unlessNull (f.raw.get .minValue) (.int low) =
      (f.minValue.getD (.int low)).toJson := unlessNull_ofNumber? f.minValue (.int low)
  have highest : unlessNull (f.raw.get .maxValue) (.int high) =
      (f.maxValue.getD (.int high)).toJson := unlessNull_ofNumber? f.maxValue (.int high)
  have lowest_label := orDefault_ofText? f.minLabel lowLabel
  have highest_label := orDefault_ofText? f.maxLabel highLabel
  have step : orDefault (f.raw.get .step) (.int 1) = (nonZero f.step (.int 1)).toJson :=
    orDefault_ofNumber? f.step (.int 1)
  rw [scaleCluster, h, ← asking_one f (by rfl), lowerScale, h]
  simp only [required, lowest, highest, step, show f.raw.get .minLabel = .ofText? f.minLabel from rfl,
    show f.raw.get .maxLabel = .ofText? f.maxLabel from rfl, lowest_label, highest_label,
    Build.payload_linearScale, pure_bind]

theorem uploadTypes_eq : f.raw.uploadTypes = .ok f.fileTypes := by
  have listed : f.raw.get .allowedFileTypes = .ofTexts f.allowedFileTypes := rfl
  simp only [uploadTypes, listed, elements_ofTexts, fileTypes_map_text, bind, Except.bind, pure,
    Except.pure, Field.fileTypes]

theorem lowerFileUpload_eq {size : Option Int} (sane : f.fileSize = .ok size) :
    f.raw.lowerFileUpload = (f.uploadCluster size).draw := by
  have read : bytes? (f.raw.get .maxFileSize) = .ok size := by
    have given : f.raw.get .maxFileSize = .ofNumber? f.maxFileSize := rfl
    rw [given]
    cases h : f.maxFileSize with
    | none =>
        simp only [Field.fileSize, h, Except.ok.injEq] at sane
        subst sane
        rfl
    | some n =>
        simp only [Field.fileSize, h] at sane
        simp only [Json.ofNumber?, bytes?_toJson, sane, mapError_ok]
  have required : f.raw.get .required = .bool f.required := rfl
  have multiple : f.raw.get .allowMultiple = .ofBool? f.allowMultiple := rfl
  have most : f.raw.get .maxFiles = .ofInt? f.maxFiles := rfl
  rw [uploadCluster, ← asking_one f (by rfl)]
  simp only [lowerFileUpload, uploadTypes_eq, read, Draw.ofExcept_ok, pure_bind, required,
    multiple, most, Build.payload_fileUpload]

theorem lowerSignature_eq :
    f.raw.lowerSignature =
      (f.asking [.ofKind .signature (.signature f.required f.strokeWidth)]).draw := by
  rw [← asking_one f (by rfl)]
  have required : f.raw.get .required = .bool f.required := rfl
  have width : f.raw.get .strokeWidth = .ofNumber? f.strokeWidth := rfl
  simp only [lowerSignature, Build.inGroup, BlockKind.shape, required, width,
    Build.payload_signature, pure_bind]

theorem gridItemsFrom_eq {kind : BlockKind} (item : kind.shape = .matrixItem) (group : String)
    (names : List String) (i : Nat) :
    gridItemsFrom kind group i names =
      Draw.each (Sketch.draw · (some group))
        ((names.zipIdx i).map fun s => ⟨kind, "MATRIX", .matrixItem s.2 s.1⟩) := by
  induction names generalizing i with
  | nil => rfl
  | cons s rest ih =>
      have fits : (Body.matrixItem i s).shape = kind.shape := item.symm
      simp only [gridItemsFrom, Build.payload_matrixItem, pure_bind, Build.block_eq fits, ih,
        List.zipIdx_cons, List.map_cons, Draw.each_cons]
      rfl

theorem lowerMatrix_eq : f.raw.lowerMatrix = f.matrixCluster.draw := by
  have required : f.raw.get .required = .bool f.required := rfl
  have multiple : f.raw.get .allowMultiple = .ofBool? f.allowMultiple := rfl
  have columns : f.raw.get .columns = .array f.columns := rfl
  have options : f.raw.get .options = .array f.options := rfl
  have rows : f.raw.get .rows = .array f.rows := rfl
  have grid (group : String) : Build.inGroup .matrix group [("is_required", .bool f.required),
      ("allow_multiple", .ofBool? f.allowMultiple)] =
        (Sketch.ofKind .matrix (.matrix f.required f.allowMultiple)).draw (some group) :=
    Build.inGroup_eq group (Build.payload_matrix f.required f.allowMultiple) rfl
  have row_items := gridItemsFrom_eq (show BlockKind.matrixRow.shape = .matrixItem from rfl)
  have column_items := gridItemsFrom_eq (show BlockKind.matrixColumn.shape = .matrixItem from rfl)
  simp only [lowerMatrix, required, multiple, columns, options, rows, lowerTitle_eq, grid,
    row_items, column_items, matrixCluster, gridSketches, asking, Cluster.draw, Draw.each_cons,
    Draw.each_append, bind_assoc, pure_bind]

theorem lowerSingle_eq {kind : BlockKind} {members : List (String × Json)} {body : Body}
    (h : Build.payload kind.shape members = pure ⟨none, body⟩) (fits : body.shape = kind.shape) :
    lowerSingle kind members = (Cluster.alone (.ofKind kind body)).draw := by
  rw [lowerSingle, Build.single_eq h fits]
  rfl

theorem lowerHeading_eq :
    f.raw.lowerHeading = Cluster.drawAll (f.clusterAs .heading) := by
  have given : f.raw.get .level = .ofInt? f.level := rfl
  have level := whole_orDefault_ofInt? f.level 2
  simp only [lowerHeading, clusterAs]
  cases f.raw.contentText.isEmpty with
  | true => rfl
  | false =>
      simp only [Bool.false_eq_true, if_false, given, level, Draw.ofExcept_ok, pure_bind,
        Build.heading_eq]
      rfl

theorem lowerTextBlock_eq :
    f.raw.lowerTextBlock = Cluster.drawAll (f.clusterAs .textBlock) := by
  simp only [lowerTextBlock, clusterAs]
  cases f.raw.contentText.isEmpty with
  | true => rfl
  | false =>
      simp only [Bool.false_eq_true, if_false, Build.text_eq]
      rfl

theorem lowerPageBreak_eq :
    f.raw.lowerPageBreak = Cluster.drawAll (f.clusterAs .pageBreak) := by
  simp only [lowerPageBreak, clusterAs, Cluster.drawAll]
  split
  · exact lowerSingle_eq (Build.payload_pageBreak (some _)) rfl
  · exact lowerSingle_eq (Build.payload_pageBreak none) rfl

theorem lowerThankYouPage_eq :
    f.raw.lowerThankYouPage = (Cluster.alone f.thankYouSketch).draw := by
  have title : orDefault (f.raw.get .label) .null = .ofText? (nonEmpty? f.label) := by
    have given : f.raw.get .label = .text f.label := rfl
    cases h : f.label.isEmpty <;> simp [orDefault, given, Json.truthy, nonEmpty?, Json.ofText?, h]
  have content : f.raw.get .content = .ofText? f.content := rfl
  have description : f.raw.get .description = .ofText? f.description := rfl
  simp only [lowerThankYouPage, title, content, description, thankYouSketch]
  exact lowerSingle_eq (Build.payload_thankYouPage _ _) rfl

theorem mediaKindOf_shape (url : String) : (mediaKindOf url).shape = .media := by
  simp only [mediaKindOf]
  split
  · rename_i kind endings found
    have listed := List.mem_of_find?_eq_some found
    simp only [mediaEndings, List.mem_cons, Prod.mk.injEq, List.not_mem_nil, or_false] at listed
    rcases listed with ⟨rfl, _⟩ | ⟨rfl, _⟩ | ⟨rfl, _⟩ <;> rfl
  · split <;> rfl

theorem mediaKind_shape : f.mediaKind.shape = .media := by
  simp only [mediaKind]
  cases h : mediaKinds.find? _ with
  | none => exact mediaKindOf_shape _
  | some kind =>
      have listed := List.mem_of_find?_eq_some h
      simp only [mediaKinds, List.mem_cons, List.not_mem_nil, or_false] at listed
      rcases listed with rfl | rfl | rfl | rfl <;> rfl

theorem lowerMedia_eq : f.raw.lowerMedia = Cluster.drawAll (f.clusterAs .media) := by
  have payload_eq := Build.payload_media f.mediaUrl
    (nonEmpty? (firstText [.ofText? f.description, .text f.label]))
    (extra f.raw ["alt"]).usableText?
  rw [← mediaKind_shape f] at payload_eq
  have single := lowerSingle_eq payload_eq (mediaKind_shape f).symm
  simp only [clusterAs]
  cases h : f.mediaUrl.isEmpty with
  | true => exact if_pos h
  | false => exact (if_neg (ne_true_of_eq_false h)).trans single

theorem hiddenValues_eq (names : List String) :
    hiddenValues (names.map Json.text) = do
      let values ← Draw.each (fun v : HiddenValue => do return { v with uuid := ← Draw.fresh })
        (names.map fun name => ⟨"", name⟩)
      return values.map HiddenValue.toJson := by
  rw [hiddenValues, Draw.each_map, Draw.each_map]
  exact Draw.each_map_result fun name _ => rfl

theorem lowerHiddenFields_eq :
    f.raw.lowerHiddenFields =
      (Cluster.hidden (f.hiddenNames.map fun name => ⟨"", name⟩)).draw := by
  have names_eq : f.raw.lowerHiddenFields = (do
      let values ← hiddenValues (f.hiddenNames.map Json.text)
      lowerSingle .hiddenFields [("hidden_fields", .array values)]) := by
    have label : f.raw.get .label = .text f.label := rfl
    have options : f.raw.get .options = .array f.options := rfl
    simp only [lowerHiddenFields, hiddenNames, label, options, Json.truthy, List.isEmpty_map]
    split <;> rw [apply_ite (List.map Json.text)] <;> rfl
  have single (values : List HiddenValue) : lowerSingle .hiddenFields
      [("hidden_fields", .array (values.map HiddenValue.toJson))] =
        (Cluster.alone (Cluster.hiddenSketch values)).draw :=
    lowerSingle_eq (Build.payload_hiddenFields values) rfl
  simp only [names_eq, hiddenValues_eq, bind_assoc, pure_bind, single, Cluster.draw]

/-- Members of a calculated value pass the check with any id. -/
theorem check_calculatedMembers {v : Json} {members : List (String × Json)}
    (h : calculatedMembers? v = some members) :
    ∃ draft : CalculatedValue, ∀ uuid,
      CalculatedValue.check (.object (("uuid", .text uuid) :: members)) =
        .ok { draft with uuid := uuid } := by
  have full (name type : String) (value : Scalar) :
      ∃ draft : CalculatedValue, ∀ uuid,
        CalculatedValue.check (.object [("uuid", .text uuid), ("name", .text name),
          ("type", .text type), ("value", value.toJson)]) = .ok { draft with uuid := uuid } :=
    ⟨⟨"", name, type, value⟩, fun uuid => Build.check_calculatedValue ⟨uuid, name, type, value⟩⟩
  have bare (name : String) :
      ∃ draft : CalculatedValue, ∀ uuid,
        CalculatedValue.check (.object [("uuid", .text uuid), ("name", .text name)]) =
          .ok { draft with uuid := uuid } :=
    ⟨⟨"", name, "NUMBER", .number (.int 0)⟩, fun _ => rfl⟩
  cases v with
  | object entries =>
      simp only [calculatedMembers?] at h
      split at h
      · cases h
      · cases h
        split
        · exact full _ _ (.number (.int _))
        · exact full _ _ (.number (.double _))
        · exact full _ _ (.text _)
        · split
          · exact full _ _ (.number (.int 0))
          · exact full _ _ (.text "")
  | null | bool | int | double | text | array =>
      simp only [calculatedMembers?, Option.map_eq_some_iff] at h
      obtain ⟨name, _, rfl⟩ := h
      exact bare name

theorem check_ofMembers {members : List (String × Json)} (h : members ∈ f.calculatedMembers)
    (uuid : String) :
    CalculatedValue.check (.object (("uuid", .text uuid) :: members)) =
      .ok { CalculatedValue.ofMembers members with uuid := uuid } := by
  have draft : ∃ draft : CalculatedValue, ∀ uuid,
      CalculatedValue.check (.object (("uuid", .text uuid) :: members)) =
        .ok { draft with uuid := uuid } := by
    have listed (listed : List (List (String × Json))) (h' : ∀ m ∈ listed, ∃ v,
        calculatedMembers? v = some m) (h : members ∈
          if listed.isEmpty && !f.label.isEmpty then [[("name", .text f.label)]] else listed) :
        ∃ draft : CalculatedValue, ∀ uuid,
          CalculatedValue.check (.object (("uuid", .text uuid) :: members)) =
            .ok { draft with uuid := uuid } := by
      split at h
      · rw [List.mem_singleton] at h
        subst h
        exact ⟨⟨"", f.label, "NUMBER", .number (.int 0)⟩, fun _ => rfl⟩
      · obtain ⟨v, hv⟩ := h' members h
        exact check_calculatedMembers hv
    refine listed _ (fun m hm => ?_) h
    split at hm
    · obtain ⟨v, _, hv⟩ := List.mem_filterMap.mp hm
      exact ⟨v, hv⟩
    · cases hm
  obtain ⟨draft, checked⟩ := draft
  simp only [CalculatedValue.ofMembers, checked]

theorem lowerCalculatedFields_eq :
    f.raw.lowerCalculatedFields =
      (Cluster.calculated (f.calculatedMembers.map CalculatedValue.ofMembers)).draw := by
  have members_eq : f.raw.lowerCalculatedFields = (do
      let values ← Draw.each calculatedValue f.calculatedMembers
      lowerSingle .calculatedFields [("calculated_fields", .array values)]) := rfl
  have values_eq : Draw.each calculatedValue f.calculatedMembers = (do
      let values ← Draw.each (fun v : CalculatedValue => do return { v with uuid := ← Draw.fresh })
        (f.calculatedMembers.map CalculatedValue.ofMembers)
      return values.map CalculatedValue.toJson) := by
    rw [Draw.each_map]
    refine Draw.each_map_result fun members h => ?_
    simp only [calculatedValue, check_ofMembers f h, Checked.toExcept, Draw.ofExcept_ok, bind_assoc,
      pure_bind]
  have single (values : List CalculatedValue) : lowerSingle .calculatedFields
      [("calculated_fields", .array (values.map CalculatedValue.toJson))] =
        (Cluster.alone (Cluster.calculatedSketch values)).draw :=
    lowerSingle_eq (Build.payload_calculatedFields values) rfl
  simp only [members_eq, values_eq, bind_assoc, pure_bind, single, Cluster.draw]

theorem objects_check (v : Json) :
    Check.list Check.mapping (objects v) = .ok (objectEntries v) := by
  have checked (items : List Json) (i : Nat) :
      Checked.itemsFrom Check.mapping i (items.filter fun v => v.entries?.isSome) =
        .ok (items.filterMap Json.entries?) := by
    induction items generalizing i with
    | nil => rfl
    | cons v rest ih =>
        cases v with
        | object entries =>
            rw [List.filter_cons_of_pos rfl, Checked.itemsFrom, ih,
              List.filterMap_cons_some (f := Json.entries?) rfl]
            rfl
        | null | bool | int | double | text | array =>
            rw [List.filter_cons_of_neg Bool.false_ne_true, ih,
              List.filterMap_cons_none (f := Json.entries?) rfl]
  cases v with
  | array items => exact checked items 0
  | null | bool | int | double | text | object => rfl

theorem lowerConditionalLogic_eq :
    f.raw.lowerConditionalLogic = (Cluster.alone f.conditionalSketch).draw := by
  have payload_eq := Build.payload_conditionalLogic
    (uppered (orDefault (extra f.raw ["logicalOperator", "logical_operator"]) (.text "AND")).display)
    (objects_check (extra f.raw ["conditionals", "conditions"]))
    (objects_check (extra f.raw ["actions"]))
  exact lowerSingle_eq payload_eq rfl

theorem lowerPayment_eq : f.raw.lowerPayment = (Cluster.alone f.paymentSketch).draw := by
  have required : (if f.raw.requiredGiven then f.raw.get .required else .bool true) =
      .bool (if f.given.contains .required then f.required else true) := by
    have given : f.raw.requiredGiven = f.given.contains .required := rfl
    rw [given]
    split <;> rfl
  have amount : f.raw.get .amount = .ofNumber? f.amount := rfl
  simp only [lowerPayment, required, amount]
  exact lowerSingle_eq (Build.payload_payment _ _ _ _) rfl

theorem lowerAs_eq {f : Field} (sane : f.fault? = none) {kind : Kind}
    (known : f.kind? = some kind) : f.raw.lowerAs kind = Cluster.drawAll (f.clusterAs kind) := by
  cases kind with
  | text | email | phone | textarea | date | number | url => exact lowerInput_eq f rfl
  | dropdown => exact lowerChoice_eq f .dropdown
  | multipleChoice => exact lowerChoice_eq f .multipleChoice
  | checkboxes => exact lowerChoice_eq f .checkboxes
  | countrySelect => exact lowerChoice_eq f .countrySelect
  | consentCheckbox => exact lowerChoice_eq f .consentCheckbox
  | rating =>
      refine lowerRating_eq f fun h => ?_
      simp [fault?, known, h] at sane
  | linearScale => exact lowerScale_eq f .linearScale
  | nps => exact lowerScale_eq f .nps
  | likert => exact lowerScale_eq f .likert
  | fileUpload =>
      cases h : f.fileSize with
      | error e => simp [fault?, known, h] at sane
      | ok size =>
          simp only [lowerAs, clusterAs, h, lowerFileUpload_eq f h]
          rfl
  | signature => exact lowerSignature_eq f
  | matrix => exact lowerMatrix_eq f
  | heading => exact lowerHeading_eq f
  | textBlock => exact lowerTextBlock_eq f
  | divider | captcha | respondentCountry => exact lowerSingle_eq Build.payload_empty rfl
  | pageBreak => exact lowerPageBreak_eq f
  | thankYouPage => exact lowerThankYouPage_eq f
  | media => exact lowerMedia_eq f
  | hiddenFields => exact lowerHiddenFields_eq f
  | calculatedFields => exact lowerCalculatedFields_eq f
  | conditionalLogic => exact lowerConditionalLogic_eq f
  | payment => exact lowerPayment_eq f
  | walletConnect => exact lowerSingle_eq (Build.payload_walletConnect f.required) rfl

end RawField

theorem Cluster.drawAll_total (c : Option Cluster) : (drawAll c).Total := by
  cases c with
  | none => exact Draw.Total.pure []
  | some c => exact c.draw_total

namespace Field

/-- A field without a fault draws the ids of its cluster. -/
theorem lower_eq {f : Field} (sane : f.fault? = none) : f.lower = Cluster.drawAll f.cluster? := by
  have kind : f.raw.kind? = f.kind? := rfl
  rw [lower, RawField.lower, kind, cluster?]
  cases h : f.kind? with
  | none => exact RawField.lowerInput_eq f rfl
  | some kind =>
      simp only [RawField.lowerAs_eq sane h]
      exact (Cluster.drawAll_total _).orIfInvalid _

theorem kind_of_fault {f : Field} {e : NotFinite} (faulty : f.fault? = some e) :
    f.kind? = some .rating ∨ f.kind? = some .fileUpload := by
  simp only [fault?] at faulty
  split at faulty
  · exact .inl ‹_›
  · exact .inr ‹_›
  · cases faulty

theorem rating_of_fault {f : Field} {e : NotFinite} (known : f.kind? = some .rating)
    (faulty : f.fault? = some e) :
    Reading.whole? (f.raw.get .maxRating) = .error (.notFinite e) := by
  have read : f.raw.get .maxRating = .ofNumber? f.maxRating := rfl
  simp only [fault?, known] at faulty
  cases h : f.maxRating with
  | none => simp [h] at faulty
  | some n =>
      have whole := Reading.whole?_toJson n
      cases m : n.toInt with
      | ok m' => simp [h, m] at faulty
      | error cause =>
          cases cause with
          | nan => simp [h, m] at faulty
          | infinity =>
              simp only [h, m, Option.map_some, Option.some.injEq] at faulty
              rw [read, h, Json.ofNumber?, whole, m, ← faulty]

theorem upload_of_fault {f : Field} {e : NotFinite} (known : f.kind? = some .fileUpload)
    (faulty : f.fault? = some e) :
    Reading.bytes? (f.raw.get .maxFileSize) = .error (.notFinite e) := by
  have read : f.raw.get .maxFileSize = .ofNumber? f.maxFileSize := rfl
  simp only [fault?, known] at faulty
  cases h : f.maxFileSize with
  | none => simp [fileSize, h] at faulty
  | some n =>
      simp only [fileSize, h] at faulty
      cases m : n.bytes? with
      | ok m' => simp [m] at faulty
      | error cause =>
          simp only [m, Option.some.injEq] at faulty
          rw [read, h, Json.ofNumber?, Reading.bytes?_toJson, m, faulty]
          rfl

theorem lower_error {f : Field} {e : NotFinite} (faulty : f.fault? = some e) (ids : IdSource)
    (n : Nat) : f.lower ids n = (.error (.notFinite e), n + 1) := by
  have kind : f.raw.kind? = f.kind? := rfl
  have group : Draw.fresh ids n = (.ok (ids n), n + 1) := rfl
  have failing {α : Type} {x : Except Failure α} (h : x = .error (.notFinite e)) :
      Draw.ofExcept x ids (n + 1) = (.error (.notFinite e), n + 1) := by
    rw [h]
    rfl
  rw [lower, RawField.lower, kind]
  rcases kind_of_fault faulty with known | known
  · rw [known]
    refine Draw.orIfInvalid_notFinite ?_ _
    rw [RawField.lowerAs, RawField.lowerRating, Draw.bind_ok group,
      Draw.bind_error (failing (rating_of_fault known faulty))]
  · have types : Draw.ofExcept f.raw.uploadTypes ids (n + 1) = (.ok f.fileTypes, n + 1) := by
      rw [RawField.uploadTypes_eq]
      rfl
    rw [known]
    refine Draw.orIfInvalid_notFinite ?_ _
    rw [RawField.lowerAs, RawField.lowerFileUpload, Draw.bind_ok group, Draw.bind_ok types,
      Draw.bind_error (failing (upload_of_fault known faulty))]

/-- Lowering a field gives the blocks of its cluster, when it gives any. -/
theorem lower_ok {f : Field} {ids : IdSource} (filled : ids.Nonempty) {n m : Nat}
    {blocks : List Block} (h : f.lower ids n = (.ok blocks, m)) :
    (blocks, m) = match f.cluster? with
      | some c => (c.blocks ids n, n + c.size)
      | none => ([], n) := by
  cases faulty : f.fault? with
  | some e => simp [lower_error faulty] at h
  | none =>
      rw [lower_eq faulty] at h
      cases found : f.cluster? with
      | none =>
          rw [found] at h
          cases h
          rfl
      | some c =>
          rw [found, Cluster.drawAll, c.draw_eq filled] at h
          cases h
          rfl

end Field

end PromptForm
