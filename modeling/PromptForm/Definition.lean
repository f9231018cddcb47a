import PromptForm.Failure
import PromptForm.Form.Basic
import PromptForm.Text.Fence
import PromptForm.Title

/-! # Form definitions in JSON

A prompt that is a JSON definition, bare or in a code fence, lists the items of a form. Items of
unknown types, and items without what their type needs, are left out; a definition of which nothing
is left is none.
-/

namespace PromptForm.Definition

/-- The JSON text of a prompt: what stands in a fence at its beginning, or all of it if it begins
like JSON. -/
def jsonText? (cs : List Char) : Option (List Char) :=
  let t := Text.trim cs
  match (Text.fenced? t).filter (!·.isEmpty) with
  | some inner => some inner
  | none =>
    match t with
    | c :: _ => if c == '\x7b' || c == '[' then some t else none
    | [] => none

def cleanText? : Option Json → Option String
  | some (.text s) => trimmed? s
  | _ => none

/-- The first of the values under the keys that is a truth value. -/
def firstFlag? (entries : Entries) (keys : List String) : Option Bool :=
  keys.findSome? fun key =>
    match Entries.get? entries key with
    | some (.bool b) => some b
    | _ => none

def textList : Option Json → List String
  | some (.text s) =>
    (Text.splitOn ',' s.toList).filterMap fun part => trimmed? (String.ofList part)
  | some (.array items) => items.filterMap Json.usableText?
  | _ => []

/-- The names of types, with the kind that each stands for and the level of a heading. -/
def types : List (String × Kind × Option Int) := [
  ("text", .text, none), ("short_text", .text, none), ("input_text", .text, none),
  ("email", .email, none), ("phone", .phone, none), ("phone_number", .phone, none),
  ("textarea", .textarea, none), ("long_text", .textarea, none), ("message", .textarea, none),
  ("date", .date, none), ("url", .url, none), ("website", .url, none), ("link", .url, none),
  ("number", .number, none), ("select", .dropdown, none), ("dropdown", .dropdown, none),
  ("choice", .multipleChoice, none), ("radio", .multipleChoice, none),
  ("checkbox", .checkboxes, none), ("multi_select", .checkboxes, none), ("rating", .rating, none),
  ("file", .fileUpload, none), ("upload", .fileUpload, none), ("file_upload", .fileUpload, none),
  ("input_file_upload", .fileUpload, none), ("signature", .signature, none),
  ("sign", .signature, none), ("heading", .heading, some 2), ("heading_1", .heading, some 1),
  ("heading1", .heading, some 1), ("h1", .heading, some 1), ("heading_2", .heading, some 2),
  ("heading2", .heading, some 2), ("h2", .heading, some 2), ("heading_3", .heading, some 3),
  ("heading3", .heading, some 3), ("h3", .heading, some 3), ("text_block", .textBlock, none),
  ("paragraph", .textBlock, none), ("content", .textBlock, none),
  ("description", .textBlock, none), ("divider", .divider, none), ("separator", .divider, none)]

/-- The types of items that give the form its title. -/
def titleTypes : List String := ["title", "form_title"]

def typeSlug (item : Entries) : String := Kind.slugOf ((Entries.get? item "type").getD .null)

/-- The kind and the level that the type of an item stands for. -/
def kindOf? (item : Entries) : Option (Kind × Option Int) :=
  match types.find? fun row => row.1 == typeSlug item with
  | some (_, kind, level) => some (kind, level)
  | none => (Kind.ofName? (typeSlug item)).map fun kind => (kind, none)

/-- The kinds that always get a placeholder. -/
def hasPlaceholder : Kind → Bool
  | .text | .email | .phone | .textarea | .date | .number | .url => true
  | _ => false

/-- The members of the field for an item of a kind that come from every item. -/
def commonMembers (item : Entries) (kind : Kind) (label : String) : List (String × Json) :=
  let required :=
    match Entries.get? item "required" with
    | some (.bool b) => b
    | _ => false
  let resolved := if label.isEmpty then
    kind.name.toList.map (fun c => if c == '_' then ' ' else c) else label.toList
  let placeholder := (cleanText? (Entries.get? item "placeholder")).getD
    ("Enter " ++ String.ofList (Text.lower resolved))
  [("type", .text kind.name), ("label", .text label), ("required", .bool required),
    ("description", .ofText? (cleanText? (Entries.get? item "description"))),
    ("showIf", .ofText? (cleanText? (Entries.firstPresent? item ["showIf", "show_if"]))),
    ("placeholder", if hasPlaceholder kind then .text placeholder else .null)]

/-- The first value under one of the keys that is there and not null, or null. -/
def first (item : Entries) (keys : List String) : Json :=
  (Entries.firstPresent? item keys).getD .null

/-- Entries that are taken over from an item unless they have been set. -/
def passedOn (item : Entries) (set : List (String × Json)) : List (String × Json) :=
  item.filter fun entry => !(Entries.has set entry.1)

/-- The members of the field for an item of a kind, unless something is missing. -/
def members? (item : Entries) (kind : Kind) (level : Option Int) : Option (List (String × Json)) :=
  let label := (cleanText? (Entries.get? item "label")).getD ""
  let common := (commonMembers item kind label).filter fun entry => !entry.2.isNull
  match kind with
  | .dropdown | .multipleChoice | .checkboxes | .countrySelect | .consentCheckbox =>
    match first item ["options", "choices"] with
    | .array [] => none
    | .array options => some (common ++ [("options", .array options)])
    | _ => none
  | .rating =>
    some (common ++ [("maxRating", first item ["max", "maxRating", "scale"]),
      ("shape", .ofText? ((cleanText? (Entries.get? item "shape")).map uppered))])
  | .fileUpload =>
    some (common ++ [
      ("allowMultiple", .ofBool? (firstFlag? item ["allowMultiple", "multiple"])),
      ("maxFiles", first item ["maxFiles", "maximumFiles"]),
      ("maxFileSize", first item ["maxFileSize", "sizeLimit", "maxSize"]),
      ("allowedFileTypes", .ofTexts (textList (Entries.firstPresent? item
        ["acceptedTypes", "fileTypes", "accept", "allowedFileTypes"])))])
  | .signature => some (common ++ [("strokeWidth", first item ["strokeWidth", "penWidth"])])
  | .heading | .textBlock =>
    let content := (cleanText? (Entries.firstPresent? item ["content", "text"])).getD label
    if content.isEmpty then none
    else some (common ++ [("content", .text content), ("level", .ofInt? level)])
  | .linearScale | .nps | .likert | .matrix | .media | .payment =>
    some (common ++ passedOn item common)
  | _ => some common

/-- The field that an item describes. An item that is left out gives none; an infinite number
where a whole one is needed breaks off. -/
def fieldOf? (item : Entries) : Except Failure (Option Field) :=
  match kindOf? item with
  | none => .ok none
  | some (kind, level) =>
    match members? item kind level with
    | none => .ok none
    | some members =>
      match Field.check (.object (Entries.withoutNulls members)) with
      | .ok f => .ok (some f)
      | .bad _ => .ok none
      | .overflow => .error (.notFinite .infinity)

/-- What the items of a definition have given so far. -/
structure Items where
  title : Option String
  fields : List Field
  deriving Repr

/-- Take in items. Items that give the form its title count only until there is one. -/
def Items.addAll (s : Items) : List Json → Except Failure Items
  | [] => .ok s
  | .object item :: rest =>
    if titleTypes.contains (typeSlug item) then
      let title := cleanText? (Entries.firstPresent? item ["label", "title", "content", "text"])
      ({ s with title := s.title <|> title } : Items).addAll rest
    else
      match fieldOf? item with
      | .error e => .error e
      | .ok field => ({ s with fields := s.fields ++ field.toList } : Items).addAll rest
  | _ :: rest => s.addAll rest

def itemsOf (definition : Entries) : List Json :=
  match Entries.firstPresent? definition ["fields", "blocks"] with
  | some (.array items) => items
  | _ => []

def formOf? (definition : Entries) : Except Failure (Option Form) := do
  let clean (key : String) := cleanText? (Entries.get? definition key)
  let items ← (⟨clean "title", []⟩ : Items).addAll (itemsOf definition)
  if items.fields.isEmpty then return none
  return some {
    title := items.title.getD Title.default
    description := clean "description"
    sections := [⟨"", none, items.fields, []⟩]
    settings := some { Settings.none with
      confirmationMessage := clean "confirmationMessage"
      redirectUrl := clean "redirectUrl" }
    extras := [] }

/-- The form that a prompt defines in JSON. -/
def formOfPrompt? (prompt : String) : Except Failure (Option Form) :=
  match jsonText? prompt.toList with
  | none => .ok none
  | some text => do
    match ← (Json.read? text).mapError .tooNested with
    | some (.object definition) => formOf? definition
    | _ => return none

end PromptForm.Definition
