import Mathlib.Data.List.Forall2
import PromptForm.Proofs.Field.Held
import PromptForm.Proofs.Json.Display
import PromptForm.Proofs.Lowering.Field

/-! # Options as blocks

An option is kept when it is worded with something that can be shown; the options keep their order.
A question whose answer is picked becomes a title and one block for each of its options. Every block
is numbered and says whether it is the first or the last one. A question with nothing to pick from
is answered with text.
-/

namespace PromptForm

namespace Choice

open Entries

/-- What an option is worded with: texts and numbers with themselves, objects with their label, or
with their value if they have no label. -/
def wording? : Json → Option String
  | .object entries => (present? entries "label" <|> present? entries "value").map Json.display
  | .text s => some s
  | .int n => some (Json.int n).display
  | .double x => some (Json.double x).display
  | _ => none

/-- Is there anything to show of an option? -/
def isUsable (v : Json) : Bool := (wording? v).any fun s => !isBlankText s

/-- The option can be shown and sent as it is. -/
structure Shown (c : Choice) : Prop where
  text : Neat c.text
  value : Neat c.value

theorem shown_plain {s : String} (h : Neat s) : (plain s).Shown := ⟨h, h⟩

/-- An option has the text of its wording, and there is none without such a text. -/
theorem text_ofJson? (v : Json) : (ofJson? v).map text = (wording? v).bind trimmed? := by
  cases v with
  | null | bool | array => rfl
  | text s =>
      simp only [ofJson?, wording?, Option.map_map, Option.bind_some]
      cases trimmed? s <;> rfl
  | int n =>
      simp only [ofJson?, wording?, Option.bind_some, Json.trimmed?_display_int, Option.map_some,
        plain]
  | double x =>
      simp only [ofJson?, wording?, Option.bind_some, Json.trimmed?_display_double, Option.map_some,
        plain]
  | object entries =>
      have words (label value : Option Json) :
          nonEmpty? ((label.map (fun v => trimmed v.display) <|>
              value.map fun v => trimmed v.display).getD "") =
            ((label <|> value).map Json.display).bind trimmed? := by
        cases label with
        | some v => simp [trimmed?]
        | none => cases value <;> simp [trimmed?, nonEmpty?]
      simp only [ofJson?, ofEntries?, words, wording?]
      generalize Option.bind _ trimmed? = kept
      cases kept <;> simp

theorem exists_wording {v : Json} {c : Choice} (h : ofJson? v = some c) :
    ∃ s, wording? v = some s ∧ trimmed? s = some c.text := by
  have worded := text_ofJson? v
  rw [h] at worded
  exact Option.bind_eq_some_iff.mp worded.symm

theorem isSome_ofJson? (v : Json) : (ofJson? v).isSome = isUsable v := by
  have worded := congrArg Option.isSome (text_ofJson? v)
  rw [Option.isSome_map] at worded
  rw [worded, isUsable]
  cases wording? v with
  | none => rfl
  | some s => rw [Option.bind_some, trimmed?_isSome, Option.any_some]

theorem shown_ofJson? {v : Json} {c : Choice} (h : ofJson? v = some c) : c.Shown := by
  obtain ⟨_, -, worded⟩ := exists_wording h
  have text : Neat c.text := .of_trimmed? worded
  refine ⟨text, ?_⟩
  cases v with
  | null | bool | array => cases h
  | text s =>
      obtain ⟨t, _, rfl⟩ := Option.map_eq_some_iff.mp h
      exact text
  | int n => cases h; exact text
  | double x => cases h; exact text
  | object entries =>
      obtain ⟨t, _, made⟩ := Option.bind_eq_some_iff.mp h
      cases made
      -- The value, unless it is blank.
      simp only
      cases kept : ((present? entries "value").map fun v => trimmed v.display).bind nonEmpty? with
      | none => exact text
      | some s =>
          obtain ⟨_, found, filled⟩ := Option.bind_eq_some_iff.mp kept
          obtain ⟨v, _, rfl⟩ := Option.map_eq_some_iff.mp found
          exact .of_trimmed? filled

/-- The option that a value is kept as. -/
structure KeptAs (v : Json) (c : Choice) : Prop where
  made : ofJson? v = some c
  text : (wording? v).map trimmed = some c.text

/-- Just the options of which there is nothing to show are dropped. -/
theorem normalize_kept (items : List Json) :
    List.Forall₂ KeptAs (items.filter isUsable) (normalize (.array items)) := by
  simp only [normalize]
  induction items with
  | nil => exact .nil
  | cons v rest ih =>
      have usable := isSome_ofJson? v
      cases made : ofJson? v with
      | none =>
          rw [made] at usable
          rw [List.filter_cons_of_neg (by simp [← usable]), List.filterMap_cons_none made]
          exact ih
      | some c =>
          rw [made] at usable
          rw [List.filter_cons_of_pos usable.symm, List.filterMap_cons_some made]
          obtain ⟨s, found, kept⟩ := exists_wording made
          refine .cons ⟨made, ?_⟩ ih
          rw [found, trimmed?_eq_some kept]
          rfl

/-- Nothing is left of options of which there is nothing to show. -/
theorem normalize_eq_nil {items : List Json} :
    normalize (.array items) = [] ↔ ¬ ∃ v ∈ items, isUsable v = true := by
  simp only [normalize, List.filterMap_eq_nil_iff, ← isSome_ofJson?, not_exists, not_and,
    Option.not_isSome_iff_eq_none]

theorem shown_normalize {v : Json} {c : Choice} (h : c ∈ normalize v) : c.Shown := by
  cases v with
  | array items =>
      obtain ⟨item, _, made⟩ := List.mem_filterMap.mp h
      exact shown_ofJson? made
  | null | bool | int | double | text | object => cases h

end Choice

/-! ## Questions with options -/

namespace Draw

variable {α β : Type} {R : α → β → Prop}

/-- What is drawn for the members of a list is like them, in their order. -/
theorem Yields.each_forall₂ {f : α → Draw β} {as : List α} (hf : ∀ a ∈ as, (f a).Yields (R a)) :
    (Draw.each f as).Yields (List.Forall₂ R as) := by
  induction as with
  | nil => exact .pure .nil
  | cons a as ih =>
      obtain ⟨first, others⟩ := List.forall_mem_cons.mp hf
      rw [each_cons]
      exact first.bind_of fun b hb => (ih others).bind_of fun bs hbs => .pure (.cons hb hbs)

end Draw

/-- A question becomes its title and one block for every sketch. -/
theorem Cluster.question_yields (label : String) (description : Option String)
    (answers : List Sketch) :
    (Cluster.question label description answers).draw.Yields fun blocks =>
      ∃ title rest, blocks = title :: rest ∧ title.kind = .title ∧
        List.Forall₂ (fun s b => ∃ uuid group, b = s.block uuid group) answers rest := by
  refine .bind fun group => ?_
  have titled : ((Sketch.title label description).draw (some group)).Yields (·.kind = .title) :=
    Sketch.draw_yields (fun _ _ => rfl) _
  refine titled.bind_of fun title kind => ?_
  have drawn : (Draw.each (Sketch.draw · (some group)) answers).Yields
      (List.Forall₂ (fun s b => ∃ uuid group, b = s.block uuid group) answers) :=
    .each_forall₂ fun s _ => Sketch.draw_yields (fun uuid group => ⟨uuid, group, rfl⟩) _
  exact drawn.bind_of fun rest made => .pure ⟨title, rest, rfl, kind, made⟩

/-- The block shows the option with number `i` out of `total` ones, which a question of some kind
asks for. -/
structure Choice.ShownBy (c : Choice) (asked : Kind) (required : Bool) (total i : Nat) (b : Block) :
    Prop where
  kind : b.kind = (RawField.optionKind asked).1
  groupType : b.groupType = (RawField.optionKind asked).2
  body : ∃ isDefault description placeholder, b.payload = ⟨none, .choiceOption i required
    (decide (i = 0)) (decide (i + 1 = total)) c.text (some c.value) isDefault description
    placeholder⟩

theorem Choice.shownBy_sketch (c : Choice) (kind : Kind) (required : Bool)
    (placeholder : Option String) (total i : Nat) (uuid group : String) :
    c.ShownBy kind required total i ((c.sketch (RawField.optionKind kind).1
      (RawField.optionKind kind).2 required placeholder total i).block uuid group) :=
  ⟨rfl, rfl, _, _, _, rfl⟩

namespace Field

open Choice

/-- The statement that a consent question asks to agree to. -/
def statement (f : Field) : String :=
  if f.label.isEmpty then RawField.consentStatement else f.label

/-- The options that a field of a choice kind offers. When it lists none that can be shown, they are
the countries or the statement to agree to, if it asks for that. -/
def offer (f : Field) (kind : Kind) : List Choice :=
  let listed := Choice.normalize (.array f.options)
  if listed.isEmpty then
    match kind with
    | .countrySelect => RawField.countries.map Choice.plain
    | .consentCheckbox => [Choice.plain f.statement]
    | _ => []
  else listed

theorem neat_countries : ∀ s ∈ RawField.countries, Neat s := by
  have tight : ∀ s ∈ RawField.countries, trimmed? s = some s := by decide
  exact fun s hs => .of_trimmed? (tight s hs)

theorem neat_statement {f : Field} (tight : trimmed f.label = f.label) : Neat f.statement := by
  rw [statement]
  split
  · exact .of_trimmed? (s := RawField.consentStatement) (by decide)
  · exact .of_tight tight (eq_false_of_ne_true ‹_›)

theorem shown_offer {f : Field} (tight : trimmed f.label = f.label) (kind : Kind) :
    ∀ c ∈ f.offer kind, c.Shown := by
  intro c hc
  simp only [offer] at hc
  split at hc
  · split at hc
    · obtain ⟨s, hs, rfl⟩ := List.mem_map.mp hc
      exact shown_plain (neat_countries s hs)
    · cases List.mem_singleton.mp hc
      exact shown_plain (neat_statement tight)
    · cases hc
  · exact shown_normalize hc

theorem choices_raw {f : Field} (tight : trimmed f.label = f.label) (kind : Kind) :
    f.raw.choices kind = f.offer kind := by
  have options : f.raw.get .options = .array f.options := rfl
  have label : f.raw.get .label = .text f.label := rfl
  have consent : Choice.normalize (.array [Reading.orDefault (.text f.label)
      (.text RawField.consentStatement)]) = [Choice.plain f.statement] := by
    have worded : Reading.orDefault (.text f.label) (.text RawField.consentStatement) =
        .text f.statement := by
      cases empty : f.label.isEmpty <;>
        simp [Reading.orDefault, Json.truthy, statement, empty]
    simp only [worded, Choice.normalize, List.filterMap_cons, ofJson?,
      (neat_statement tight).trimmed?_eq, Option.map_some, List.filterMap_nil]
  simp only [RawField.choices, offer, options, label, consent]
  cases Choice.normalize (.array f.options) with
  | nil => cases kind <;> rfl
  | cons c rest => rfl

theorem cluster?_of_choice {f : Field} {kind : Kind} (known : f.kind? = some kind)
    (picked : kind.isChoice = true) : f.cluster? = some (f.choiceCluster kind) := by
  rw [cluster?, known]
  cases kind <;> first | rfl | cases picked

theorem fault?_of_choice {f : Field} {kind : Kind} (known : f.kind? = some kind)
    (picked : kind.isChoice = true) : f.fault? = none := by
  rw [fault?, known]
  cases kind <;> first | rfl | cases picked

/-- What a field of a choice kind with the options `offered` becomes. -/
structure Picked (f : Field) (kind : Kind) (offered : List Choice) (blocks : List Block) :
    Prop where
  /-- With nothing to pick from, a title and an input of text. -/
  degraded : offered = [] → blocks.map Block.kind = [.title, .inputText]
  /-- Else a title and the options. -/
  shown : offered ≠ [] → ∃ title answers, blocks = title :: answers ∧ title.kind = .title ∧
    List.Forall₂ (fun c b => c.1.ShownBy kind (f.required || kind == .consentCheckbox)
      offered.length c.2 b) offered.zipIdx answers

theorem choiceCluster_yields {f : Field} (tight : trimmed f.label = f.label) (kind : Kind) :
    (f.choiceCluster kind).draw.Yields (f.Picked kind (f.offer kind)) := by
  rw [choiceCluster, choices_raw tight]
  intro ids n blocks m made
  cases offered : f.offer kind with
  | nil =>
      rw [offered] at made
      obtain ⟨title, rest, rfl, titled, drawn⟩ :=
        Cluster.question_yields _ _ _ ids n blocks m made
      refine ⟨fun _ => ?_, fun filled => absurd rfl filled⟩
      cases drawn with
      | cons one none =>
          cases none
          obtain ⟨uuid, group, rfl⟩ := one
          rw [List.map_cons, titled]
          rfl
  | cons c others =>
      rw [offered] at made
      obtain ⟨title, rest, rfl, titled, drawn⟩ :=
        Cluster.question_yields _ _ _ ids n blocks m made
      refine ⟨fun none => absurd none (List.cons_ne_nil c others),
        fun _ => ⟨title, rest, rfl, titled, ?_⟩⟩
      refine (List.forall₂_map_left_iff.mp drawn).imp ?_
      rintro c b ⟨uuid, group, rfl⟩
      exact c.1.shownBy_sketch kind _ f.placeholder _ c.2 uuid group

theorem lower_picked {f : Field} {kind : Kind} (tight : trimmed f.label = f.label)
    (known : f.kind? = some kind) (picked : kind.isChoice = true) (ids : IdSource) (n : Nat) :
    ∃ blocks m, f.lower ids n = (.ok blocks, m) ∧ f.Picked kind (f.offer kind) blocks := by
  have lowered := lower_eq (fault?_of_choice known picked)
  rw [cluster?_of_choice known picked, Cluster.drawAll] at lowered
  obtain ⟨blocks, m, drawn⟩ := (f.choiceCluster kind).draw_total ids n
  exact ⟨blocks, m, lowered ▸ drawn, choiceCluster_yields tight kind ids n blocks m drawn⟩

theorem isChoice_iff {f : Field} :
    f.isChoice = true ↔ ∃ kind, f.kind? = some kind ∧ kind.isChoice = true :=
  Option.any_eq_true _ _

/-- The answer to the question is picked, but the field is lowered to an input of text. -/
def Degrades (f : Field) : Prop :=
  f.isChoice = true ∧ ∃ ids n blocks m, f.lower ids n = (.ok blocks, m) ∧
    blocks.map Block.kind = [.title, .inputText]

theorem degrades_iff {f : Field} {kind : Kind} (tight : trimmed f.label = f.label)
    (known : f.kind? = some kind) (picked : kind.isChoice = true) :
    f.Degrades ↔ f.offer kind = [] := by
  constructor
  · rintro ⟨-, ids, n, blocks, m, lowered, kinds⟩
    obtain ⟨blocks', m', lowered', made⟩ := lower_picked tight known picked ids n
    obtain ⟨rfl, rfl⟩ : blocks = blocks' ∧ m = m' := by simpa [lowered] using lowered'
    by_contra filled
    obtain ⟨title, answers, rfl, -, shown⟩ := made.shown filled
    obtain ⟨-, rest⟩ := List.cons.inj kinds
    obtain ⟨input, rfl, typed⟩ := List.map_eq_singleton_iff.mp rest
    -- The only answer is a block of an option.
    obtain ⟨c, _, option, _⟩ := List.forall₂_cons_right_iff.mp shown
    rw [option.kind] at typed
    cases kind <;> cases typed
  · intro nothing
    obtain ⟨blocks, m, lowered, made⟩ := lower_picked tight known picked (fun _ => "") 0
    exact ⟨isChoice_iff.mpr ⟨kind, known, picked⟩, _, _, blocks, m, lowered, made.degraded nothing⟩

theorem offer_eq_nil {f : Field} {kind : Kind} :
    f.offer kind = [] ↔ kind ≠ .countrySelect ∧ kind ≠ .consentCheckbox ∧
      Choice.normalize (.array f.options) = [] := by
  simp only [offer]
  cases Choice.normalize (.array f.options) with
  | nil =>
      simp only [List.isEmpty_nil, if_true]
      cases kind <;> simp [RawField.countries]
  | cons c rest => simp

/-- A checked field of a choice kind is lowered to a title with one block for every option that it
offers, all of which can be shown; its own options count when there is something to show of them. -/
theorem lower_choice {v : Json} {f : Field} {kind : Kind} (checked : check v = .ok f)
    (known : f.kind? = some kind) (picked : kind.isChoice = true) (ids : IdSource) (n : Nat) :
    ∃ blocks m, f.lower ids n = (.ok blocks, m) ∧ f.Picked kind (f.offer kind) blocks ∧
      (∀ c ∈ f.offer kind, c.Shown) ∧
      ∀ items, List.Forall₂ KeptAs (items.filter isUsable) (Choice.normalize (.array items)) := by
  have tight := label_tight checked
  obtain ⟨blocks, m, lowered, made⟩ := lower_picked tight known picked ids n
  exact ⟨blocks, m, lowered, made, shown_offer tight kind, normalize_kept⟩

/-- Of five options that a question about a size lists, two can be picked. -/
theorem lower_choice_sizes : ∃ f, check (.object [("type", .text "select"), ("label", .text "Size"),
      ("options", .array [.text "S", .null, .object [("value", .int 3)], .text " ",
        .bool true])]) = .ok f ∧
    f.offer .dropdown = [Choice.plain "S", Choice.plain "3"] ∧
    ∃ blocks m, f.lower (fun _ => "id") 0 = (.ok blocks, m) ∧
      f.Picked .dropdown (f.offer .dropdown) blocks := by
  let f : Field := { plain .dropdown "Size" with
    options := [.text "S", .null, .object [("value", .int 3)], .text " ", .bool true]
    given := [.type, .label, .options] }
  have checked : check (.object [("type", .text "select"), ("label", .text "Size"),
      ("options", .array f.options)]) = .ok f := rfl
  have offered : f.offer .dropdown = [Choice.plain "S", Choice.plain "3"] := by decide +kernel
  obtain ⟨blocks, m, lowered, picked, -⟩ := lower_choice checked rfl rfl (fun _ => "id") 0
  exact ⟨f, checked, offered, blocks, m, lowered, picked⟩

end Field

end PromptForm
