import PromptForm.ContactForm
import PromptForm.Hosting.Creation
import PromptForm.Proofs.Definition
import PromptForm.Proofs.Lowering.Conditions
import PromptForm.Proofs.Outline.Document

/-! # Groups of all forms

Whatever builds a list of blocks draws the ids of clusters, one after the other, and ends with a
block that stands alone. A captcha that comes in between has drawn ids of its own. So every list of
blocks falls into groups, and each group comes from one field or one stock question.
-/

namespace PromptForm

namespace Piece

/-- The pieces draw their ids one after the other, from number `n` up to number `m`. -/
def Ordered (n : Nat) : List Piece → Nat → Prop
  | [], m => n ≤ m
  | p :: rest, m => n ≤ p.start ∧ Ordered p.stop rest m

variable {pieces : List Piece} {n m : Nat}

theorem Ordered.mem (h : Ordered n pieces m) : ∀ p ∈ pieces, n ≤ p.start ∧ p.stop ≤ m := by
  induction pieces generalizing n with
  | nil => exact List.forall_mem_nil _
  | cons p rest ih =>
      have le : p.stop ≤ m := by
        cases rest with
        | nil => exact h.2
        | cons q rest =>
            have next := ih h.2 q List.mem_cons_self
            have stop : q.start ≤ q.stop := Nat.le_add_right _ _
            omega
      intro q hq
      rcases List.mem_cons.mp hq with rfl | hq
      · exact ⟨h.1, le⟩
      · have later := ih h.2 q hq
        have stop : p.start ≤ p.stop := Nat.le_add_right _ _
        exact ⟨by have := h.1; omega, later.2⟩

theorem Ordered.apart (h : Ordered n pieces m) : pieces.Pairwise Apart := by
  induction pieces generalizing n with
  | nil => exact .nil
  | cons p rest ih => exact .cons (fun q hq => .inl (h.2.mem q hq).1) (ih h.2)

end Piece

/-- Where a group of blocks comes from, rules apart: from one field, from one stock question, or
from a block that stands alone. -/
inductive Origin (ids : IdSource) (fields : List Field) (group : List Block) : Prop
  | field {f : Field} {n m : Nat} : f ∈ fields → f.lower ids n = (.ok (group.map Block.bare), m) →
      Origin ids fields group
  | question {label placeholder : String} {kind : BlockKind} {required : Bool} {n m : Nat} :
      Build.question (.text label) kind required (.text placeholder) .null ids n = (.ok group, m) →
      Origin ids fields group
  | alone {b : Block} : group = [b] → Origin ids fields group

/-- Blocks that are made of pieces, the last of which is one block. -/
structure Laid (ids : IdSource) (fields : List Field) (blocks : List Block) (stop : Nat)
    (front : List Piece) (last : Piece) : Prop where
  layout : Layout ids blocks stop (front ++ [last])
  origin : ∀ p ∈ front ++ [last], Origin ids fields p.blocks
  closing : ∃ b, last.blocks = [b]

/-! ## Forms that are lowered -/

namespace Part

def Sound : Part → Prop
  | filler s => s.Plain
  | field f => f.Titled

theorem cluster?_sound {p : Part} (sound : p.Sound) {c : Cluster} (h : p.cluster? = some c) :
    c.Sound := by
  cases p with
  | filler s =>
      cases h
      exact sound
  | field f => exact Field.cluster?_sound sound h

theorem sound_ofForm {form : Form} (titled : ∀ f ∈ form.fields, f.Titled)
    (attribution : Option String) : ∀ p ∈ ofForm form attribution, p.Sound := by
  intro p hp
  cases p with
  | filler s => exact plain_ofForm form attribution _ hp
  | field f =>
      refine titled f ?_
      rw [← fields_ofForm form attribution]
      exact List.mem_filterMap.mpr ⟨_, hp, rfl⟩

end Part

namespace Run

variable {ids : IdSource} {r : Run} {runs : List Run} {n m : Nat}

/-- The piece that a run became, unless it gave no blocks. -/
def piece? (r : Run) : Option Piece := r.part.cluster?.map fun c => ⟨c, r.start, r.blocks⟩

theorem made (filled : ids.Nonempty) (h : r.part.lower ids r.start = (.ok r.bare, r.stop)) :
    r.part.cluster? = none ∧ r.bare = [] ∧ r.stop = r.start ∨
      ∃ c, r.part.cluster? = some c ∧ r.bare = c.blocks ids r.start ∧
        r.stop = r.start + c.size := by
  have made := Part.lower_ok filled h
  cases found : r.part.cluster? with
  | none =>
      rw [found, Prod.mk.injEq] at made
      exact .inl ⟨rfl, made⟩
  | some c =>
      rw [found, Prod.mk.injEq] at made
      exact .inr ⟨c, rfl, made⟩

theorem bare_blocks (free : ∀ b ∈ r.bare, b.payload.rule = none) :
    r.blocks.map Block.bare = r.bare := by
  have unruled : r.bare.map Block.bare = r.bare := Block.map_bare_of_free free
  unfold blocks
  split
  · rename_i first others rule bare _
    rw [bare] at unruled
    exact bare ▸ unruled
  · exact unruled

theorem blocks_pieces (filled : ids.Nonempty)
    (lowered : ∀ r ∈ runs, r.part.lower ids r.start = (.ok r.bare, r.stop)) :
    (runs.filterMap piece?).flatMap Piece.blocks = runs.flatMap blocks := by
  induction runs with
  | nil => rfl
  | cons r rest ih =>
      have others := ih fun s hs => lowered s (List.mem_cons_of_mem _ hs)
      rcases made filled (lowered r List.mem_cons_self) with ⟨lone, bare, _⟩ | ⟨c, found, _⟩
      · have none_left : r.piece? = none := by rw [piece?, lone, Option.map_none]
        have free : ∀ b ∈ r.bare, b.payload.rule = none := bare ▸ List.forall_mem_nil _
        have empty : r.blocks = [] := List.map_eq_nil_iff.mp ((bare_blocks free).trans bare)
        rw [List.filterMap_cons_none none_left, List.flatMap_cons, empty, List.nil_append, others]
      · have piece : r.piece? = some ⟨c, r.start, r.blocks⟩ := by
          rw [piece?, found, Option.map_some]
        rw [List.filterMap_cons_some piece, List.flatMap_cons, List.flatMap_cons, others]

theorem ordered_pieces (filled : ids.Nonempty)
    (lowered : ∀ r ∈ runs, r.part.lower ids r.start = (.ok r.bare, r.stop))
    (chain : Chain n runs m) : Piece.Ordered n (runs.filterMap piece?) m := by
  induction runs generalizing n with
  | nil => exact Nat.le_of_eq chain
  | cons r rest ih =>
      obtain ⟨rfl, chain⟩ := chain
      have others := ih (fun s hs => lowered s (List.mem_cons_of_mem _ hs)) chain
      rcases made filled (lowered r List.mem_cons_self) with ⟨lone, _, stop⟩ | ⟨c, found, _, stop⟩
      · have none_left : r.piece? = none := by rw [piece?, lone, Option.map_none]
        rw [List.filterMap_cons_none none_left, ← stop]
        exact others
      · have piece : r.piece? = some ⟨c, r.start, r.blocks⟩ := by
          rw [piece?, found, Option.map_some]
        rw [List.filterMap_cons_some piece]
        refine ⟨Nat.le_refl _, ?_⟩
        rw [stop] at others
        exact others

theorem free (filled : ids.Nonempty)
    (lowered : r.part.lower ids r.start = (.ok r.bare, r.stop)) :
    ∀ b ∈ r.bare, b.payload.rule = none :=
  fun _ hb => (Part.mem_lower filled lowered hb).1

theorem fits_piece (filled : ids.Nonempty) (sound : r.part.Sound)
    (lowered : r.part.lower ids r.start = (.ok r.bare, r.stop)) {p : Piece}
    (h : r.piece? = some p) : p.Fits ids := by
  obtain ⟨c, found, rfl⟩ := Option.map_eq_some_iff.mp h
  rcases made filled lowered with ⟨lone, _⟩ | ⟨c', same, bare, _⟩
  · rw [found] at lone
    cases lone
  · rw [found] at same
    cases same
    exact ⟨Part.cluster?_sound sound found, (bare_blocks (free filled lowered)).trans bare⟩

/-- A run that comes from no field has one block. -/
theorem single_of_filler (filled : ids.Nonempty) {s : Sketch} (part : r.part = .filler s)
    (lowered : r.part.lower ids r.start = (.ok r.bare, r.stop)) : ∃ b, r.blocks = [b] := by
  have bare := bare_blocks (free filled lowered)
  rw [part] at lowered
  have single : r.bare = [s.block (ids r.start) (ids (r.start + 1))] :=
    (Except.ok.inj (Prod.mk.inj lowered).1).symm
  rw [single, List.map_eq_singleton_iff] at bare
  obtain ⟨b, blocks, _⟩ := bare
  exact ⟨b, blocks⟩

/-- The blocks of a run come from one field, or there is one of them. -/
theorem origin (filled : ids.Nonempty) {fields : List Field}
    (listed : ∀ f, r.part = .field f → f ∈ fields)
    (lowered : r.part.lower ids r.start = (.ok r.bare, r.stop)) : Origin ids fields r.blocks := by
  cases part : r.part with
  | field f =>
      have bare := bare_blocks (free filled lowered)
      rw [part] at lowered
      exact .field (listed f part) (bare.symm ▸ lowered)
  | filler s =>
      obtain ⟨b, blocks⟩ := single_of_filler filled part lowered
      exact .alone blocks

end Run

/-- A form whose fields have titles is laid out when it is lowered. -/
theorem Form.lower_laid {ids : IdSource} (filled : ids.Nonempty) {form : Form}
    (titled : ∀ f ∈ form.fields, f.Titled) {attribution : Option String} {n m : Nat}
    {lowered : Lowered} (h : form.lower attribution ids n = (.ok lowered, m)) :
    ∃ front last, Laid ids form.fields lowered.blocks m front last := by
  obtain ⟨runs, parts, chain, account⟩ := Form.lower_account filled h
  have sound : ∀ r ∈ runs, r.part.Sound := fun r hr =>
    Part.sound_ofForm titled attribution r.part (parts ▸ List.mem_map_of_mem hr)
  have listed : ∀ r ∈ runs, ∀ f, r.part = .field f → f ∈ form.fields := by
    intro r hr f part
    rw [← Part.fields_ofForm form attribution, ← parts, List.mem_filterMap]
    exact ⟨.field f, part ▸ List.mem_map_of_mem hr, rfl⟩
  have ordered := Run.ordered_pieces filled account.lowered chain
  have blocks := Run.blocks_pieces filled account.lowered
  have piece_of {p : Piece} (hp : p ∈ runs.filterMap Run.piece?) :
      p.Fits ids ∧ Origin ids form.fields p.blocks := by
    obtain ⟨r, hr, found⟩ := List.mem_filterMap.mp hp
    refine ⟨Run.fits_piece filled (sound r hr) (account.lowered r hr) found, ?_⟩
    obtain ⟨c, _, rfl⟩ := Option.map_eq_some_iff.mp found
    exact Run.origin filled (listed r hr) (account.lowered r hr)
  -- The last part of a form is the closing block.
  obtain ⟨init, closing, rfl, _, closed⟩ := List.map_eq_append_iff.mp parts
  obtain ⟨last, rest, rfl, part, none_left⟩ := List.map_eq_cons_iff.mp closed
  rw [List.map_eq_nil_iff] at none_left
  subst none_left
  obtain ⟨p, piece, single⟩ : ∃ p, last.piece? = some p ∧ p.blocks = last.blocks := by
    rw [Run.piece?, part]
    exact ⟨_, rfl, rfl⟩
  have split : (init ++ [last]).filterMap Run.piece? = init.filterMap Run.piece? ++ [p] := by
    rw [List.filterMap_append, List.filterMap_cons_some piece, List.filterMap_nil]
  rw [split] at ordered blocks piece_of
  have closing := Run.single_of_filler filled part (account.lowered last (by simp))
  refine ⟨_, p, ⟨⟨?_, fun q hq => (piece_of hq).1, ordered.apart,
    fun q hq => (ordered.mem q hq).2⟩, fun q hq => (piece_of hq).2, single ▸ closing⟩⟩
  rw [blocks, account.blocks]

/-! ## Stock questions -/

namespace Cluster

/-- A question that is answered in one input, with a text in it. -/
def stock (label : String) (kind : BlockKind) (required : Bool) (placeholder : String) : Cluster :=
  .question label none [.ofKind kind (.input required (Json.text placeholder).usableText?)]

theorem question_stock (label : String) (kind : BlockKind) (input : kind.shape = .input)
    (required : Bool) (placeholder : String) :
    Build.question (.text label) kind required (.text placeholder) .null =
      (stock label kind required placeholder).draw :=
  Build.question_eq label input required (.text placeholder) .null

/-- What forms that come from no fields are made of. -/
inductive Stock : Cluster → Prop
  | alone {s : Sketch} : s.Plain → Stock (.alone s)
  | question {label placeholder : String} {kind : BlockKind} {required : Bool} :
      kind.shape = .input → isBlankText label = false →
      Stock (stock label kind required placeholder)

variable {ids : IdSource} {c : Cluster}

theorem Stock.sound (h : c.Stock) : c.Sound := by
  cases h with
  | alone plain => exact plain
  | question input shown =>
      refine ⟨shown, List.cons_ne_nil _ _, fun s hs => ?_⟩
      rw [List.mem_singleton] at hs
      subst hs
      exact Sketch.plain_ofKind (by rintro rfl; cases input) rfl

theorem Stock.asks (h : c.Stock) : ∃ label, c.Asks label := by
  have sound := h.sound
  cases h with
  | alone plain => exact ⟨"", plain⟩
  | question => exact ⟨_, rfl, sound.2⟩

/-- A title in front of stock clusters and a text behind them are stock, too. -/
theorem Stock.framed {cs : List Cluster} (h : ∀ c ∈ cs, c.Stock) (title text : String) :
    ∀ c ∈ .alone (.formTitle title) :: cs ++ [.alone (.text text)], c.Stock := by
  intro c hc
  rw [List.cons_append, List.mem_cons, List.mem_append, List.mem_singleton] at hc
  rcases hc with rfl | hc | rfl
  · exact .alone ⟨nofun, rfl⟩
  · exact h c hc
  · exact .alone (Part.plain_text text)

theorem Stock.origin (filled : ids.Nonempty) (h : c.Stock) (fields : List Field) (n : Nat) :
    Origin ids fields (c.blocks ids n) := by
  cases h with
  | alone => exact .alone rfl
  | @question label placeholder kind required input _ =>
      have drawn := (stock label kind required placeholder).draw_eq filled n
      rw [← question_stock label _ input] at drawn
      exact .question drawn

theorem draw_alone (s : Sketch) : (alone s).draw = do
    let block ← s.draw none
    return [block] := rfl

def drawList (cs : List Cluster) : Draw (List Block) := do
  let groups ← Draw.each draw cs
  return groups.flatten

end Cluster

/-- The pieces of clusters that draw their ids one after the other. -/
def Piece.place (ids : IdSource) (n : Nat) : List Cluster → List Piece
  | [] => []
  | c :: cs => ⟨c, n, c.blocks ids n⟩ :: place ids (n + c.size) cs

namespace Cluster

variable {ids : IdSource}

theorem each_place (filled : ids.Nonempty) (cs : List Cluster) (n : Nat) :
    ∃ m, Draw.each draw cs ids n = (.ok ((Piece.place ids n cs).map Piece.blocks), m) ∧
      Piece.Ordered n (Piece.place ids n cs) m := by
  induction cs generalizing n with
  | nil => exact ⟨n, rfl, Nat.le_refl n⟩
  | cons c cs ih =>
      obtain ⟨m, drawn, ordered⟩ := ih (n + c.size)
      refine ⟨m, ?_, Nat.le_refl n, ordered⟩
      rw [Draw.each_cons, Draw.bind_ok (c.draw_eq filled n), Draw.bind_ok drawn]
      rfl

theorem mem_place {cs : List Cluster} {n : Nat} {p : Piece} (h : p ∈ Piece.place ids n cs) :
    p.cluster ∈ cs ∧ p.blocks = p.cluster.blocks ids p.start := by
  induction cs generalizing n with
  | nil => cases h
  | cons c cs ih =>
      rcases List.mem_cons.mp h with rfl | h
      · exact ⟨List.mem_cons_self, rfl⟩
      · exact ⟨List.mem_cons_of_mem _ (ih h).1, (ih h).2⟩

theorem place_concat (ids : IdSource) (cs : List Cluster) (c : Cluster) (n : Nat) :
    ∃ k, Piece.place ids n (cs ++ [c]) = Piece.place ids n cs ++ [⟨c, k, c.blocks ids k⟩] := by
  induction cs generalizing n with
  | nil => exact ⟨n, rfl⟩
  | cons d cs ih =>
      obtain ⟨k, placed⟩ := ih (n + d.size)
      exact ⟨k, congrArg _ placed⟩

theorem drawList_laid (filled : ids.Nonempty) {cs : List Cluster} {s : Sketch}
    (stock : ∀ c ∈ cs ++ [.alone s], c.Stock) {n m : Nat} {blocks : List Block}
    (h : drawList (cs ++ [.alone s]) ids n = (.ok blocks, m)) :
    ∃ front last, Laid ids [] blocks m front last := by
  obtain ⟨m', drawn, ordered⟩ := each_place filled (cs ++ [.alone s]) n
  rw [drawList, Draw.bind_ok drawn] at h
  cases h
  have fits : ∀ p ∈ Piece.place ids n (cs ++ [.alone s]),
      p.Fits ids ∧ Origin ids [] p.blocks := by
    intro p hp
    obtain ⟨listed, blocks⟩ := mem_place hp
    have free : ∀ b ∈ p.blocks, b.bare = b := fun b hb =>
      Block.bare_of_free (mem_blocks (blocks ▸ hb)).1
    refine ⟨⟨(stock _ listed).sound, ?_⟩, blocks ▸ (stock _ listed).origin filled [] p.start⟩
    rw [List.map_congr_left free, List.map_id', blocks]
  obtain ⟨k, placed⟩ := place_concat ids cs (.alone s) n
  rw [placed] at ordered fits ⊢
  exact ⟨_, _, ⟨⟨rfl, fun p hp => (fits p hp).1, ordered.apart, fun p hp => (ordered.mem p hp).2⟩,
    fun p hp => (fits p hp).2, _, rfl⟩⟩

end Cluster

namespace Keyword

def Question.cluster (q : Question) : Cluster :=
  .stock q.label q.kind q.required ("Enter " ++ lowered q.label)

/-- Questions whose labels differ are all asked. -/
theorem foldl_askAfter {before qs : List Question}
    (distinct : ((before ++ qs).map fun q => lowered q.label).Nodup) :
    qs.foldl askAfter before = before ++ qs := by
  induction qs generalizing before with
  | nil => rw [List.foldl_nil, List.append_nil]
  | cons q qs ih =>
      have new : before.any (fun k => lowered k.label == lowered q.label) = false := by
        rw [List.map_append, List.nodup_append] at distinct
        refine List.any_eq_false.mpr fun k hk same => ?_
        exact distinct.2.2 _ (List.mem_map_of_mem hk) _ List.mem_cons_self (beq_iff_eq.mp same)
      rw [List.append_cons] at distinct
      rw [List.foldl_cons, askAfter, new, if_neg Bool.false_ne_true, ih distinct,
        ← List.append_cons]

/-- The labels of the table differ, so whatever a text brings up is asked. -/
theorem foldl_askAfter_questions (lower : List Char) :
    (questions.filter fun q => q.isAskedIn lower).foldl askAfter [] =
      questions.filter fun q => q.isAskedIn lower := by
  have distinct : (questions.map fun q => lowered q.label).Nodup := by decide
  exact foldl_askAfter (distinct.sublist (List.filter_sublist.map _))

theorem asked_stock {lower : List Char} {q : Question} (h : q ∈ asked lower) :
    q.kind.shape = .input ∧ isBlankText q.label = false := by
  have all : ∀ q ∈ questions ++ basicQuestions,
      q.kind.shape = .input ∧ isBlankText q.label = false := by
    decide
  refine all q (List.mem_append.mpr ?_)
  simp only [asked, foldl_askAfter_questions] at h
  split at h
  · exact .inr h
  · exact .inl (List.mem_of_mem_filter h)

theorem clusters_stock {lower : List Char} :
    ∀ c ∈ (asked lower).map Question.cluster, c.Stock := by
  intro c hc
  obtain ⟨q, hq, rfl⟩ := List.mem_map.mp hc
  exact .question (asked_stock hq).1 (asked_stock hq).2

theorem blocks_eq (prompt title : String) (attribution : Option String) :
    blocks prompt title attribution =
      Cluster.drawList (.alone (.formTitle (if title.isEmpty then Title.default else title)) ::
        (asked (Text.lower prompt.toList)).map Question.cluster ++
          [.alone (.text ((attribution.bind nonEmpty?).getD defaultAttribution))]) := by
  have groups : Draw.each Question.blocks (asked (Text.lower prompt.toList)) =
      Draw.each Cluster.draw ((asked (Text.lower prompt.toList)).map Question.cluster) := by
    rw [Draw.each_map]
    exact Draw.each_congr fun q hq => Cluster.question_stock q.label _ (asked_stock hq).1 _ _
  simp only [blocks, groups, Build.formTitle_eq, Build.attribution_eq, Cluster.drawList,
    List.cons_append, Draw.each_cons, Draw.each_append, Draw.each_nil, Cluster.draw, bind_assoc,
    pure_bind]
  simp

end Keyword

namespace ContactForm

def clusters (withPhone withCompany : Bool) : List Cluster :=
  [.stock "Name" .inputText true "Enter your full name",
    .stock "Email" .inputEmail true "Enter your email address"] ++
  (if withPhone then [.stock "Phone Number" .inputPhoneNumber false "Enter your phone number"]
    else []) ++
  (if withCompany then [.stock "Company" .inputText false "Enter your company name"] else []) ++
  [.stock "Message" .textarea true "Enter your message"]

theorem clusters_stock (withPhone withCompany : Bool) :
    ∀ c ∈ clusters withPhone withCompany, c.Stock := by
  have ask {label placeholder : String} {kind : BlockKind} {required : Bool}
      (fits : kind.shape = .input ∧ isBlankText label = false) :
      (Cluster.stock label kind required placeholder).Stock := .question fits.1 fits.2
  intro c hc
  cases withPhone <;> cases withCompany <;>
    simp only [clusters, if_true, if_false, Bool.false_eq_true, List.append_nil, List.cons_append,
      List.nil_append, List.mem_cons, List.not_mem_nil, or_false] at hc <;>
    rcases hc with rfl | rfl | rfl | rfl | rfl <;> exact ask (by decide)

theorem blocks_eq (title : String) (withPhone withCompany : Bool) (attribution : Option String) :
    blocks (.text title) withPhone withCompany attribution =
      Cluster.drawList (.alone (.formTitle title) :: clusters withPhone withCompany ++
        [.alone (.text ((attribution.bind nonEmpty?).getD defaultAttribution))]) := by
  have name := Cluster.question_stock "Name" .inputText rfl true "Enter your full name"
  have email := Cluster.question_stock "Email" .inputEmail rfl true
    "Enter your email address"
  have phone := Cluster.question_stock "Phone Number" .inputPhoneNumber rfl false
    "Enter your phone number"
  have company := Cluster.question_stock "Company" .inputText rfl false
    "Enter your company name"
  have message := Cluster.question_stock "Message" .textarea rfl true
    "Enter your message"
  cases withPhone <;> cases withCompany <;>
    simp [blocks, ask, askIf, clusters, name, email, phone, company, message, Build.formTitle_eq,
      Build.attribution_eq, Cluster.drawList, Draw.each_cons, Cluster.draw_alone]

theorem title_of_blocks {title : Json} {withPhone withCompany : Bool} {attribution : Option String}
    {ids : IdSource} {n m : Nat} {bs : List Block}
    (h : blocks title withPhone withCompany attribution ids n = (.ok bs, m)) :
    ∃ s, title = .text s := by
  obtain ⟨heading, k, made, _⟩ := Draw.of_bind_ok h
  obtain ⟨payload, _, checked, _⟩ := Draw.of_bind_ok made
  cases title with
  | text s => exact ⟨s, rfl⟩
  | null | bool | int | double | array | object => cases checked

end ContactForm

/-! ## All forms -/

/-- A form that passed its check, or that the compiler made itself. -/
inductive Form.Accepted : Form → Prop
  | checked {v : Json} {form : Form} : Form.check v = .ok form → Accepted form
  | defined {prompt : String} {form : Form} :
      Definition.formOfPrompt? prompt = .ok (some form) → Accepted form
  | outlined {prompt : String} {form : Form} :
      Outline.formOfPrompt? prompt = .ok (some form) → Accepted form

theorem Form.Accepted.titled {form : Form} (h : form.Accepted) : ∀ f ∈ form.fields, f.Titled := by
  cases h with
  | checked passed => exact Form.check_titled _ _ passed
  | defined read => exact Definition.titled_formOfPrompt? read
  | @outlined prompt _ read =>
      rw [Outline.formOfPrompt?] at read
      cases parsed : Outline.Document.parse prompt with
      | error e => simp [parsed, Except.map] at read
      | ok d =>
          rw [parsed] at read
          intro f hf
          exact (Outline.Document.usual_form? (Outline.Document.sound_parse parsed)
            (Except.ok.inj read) f hf).titled

/-- The lists of blocks that are built of some fields, with the number of ids drawn then. -/
inductive Built (ids : IdSource) : List Field → List Block → Nat → Prop
  | form {form : Form} {attribution : Option String} {n m : Nat} {lowered : Lowered} :
      form.Accepted → form.lower attribution ids n = (.ok lowered, m) →
      Built ids form.fields lowered.blocks m
  | keywords {prompt title : String} {attribution : Option String} {n m : Nat}
      {blocks : List Block} :
      Keyword.blocks prompt title attribution ids n = (.ok blocks, m) → Built ids [] blocks m
  | contact {title : Json} {withPhone withCompany : Bool} {attribution : Option String} {n m : Nat}
      {blocks : List Block} :
      ContactForm.blocks title withPhone withCompany attribution ids n = (.ok blocks, m) →
      Built ids [] blocks m
  | captcha {fields : List Field} {blocks shown : List Block} {n m k : Nat} :
      Built ids fields blocks n → n ≤ m → FormCreation.withCaptcha blocks ids m = (.ok shown, k) →
      Built ids fields shown k

/-- A captcha that draws ids after all others is a piece of its own before the last one. -/
theorem Laid.captcha {ids : IdSource} {fields : List Field} {blocks shown : List Block}
    {n m k : Nat} {front : List Piece} {last : Piece} (h : Laid ids fields blocks n front last)
    (later : n ≤ m) (made : FormCreation.withCaptcha blocks ids m = (.ok shown, k)) :
    ∃ front, Laid ids fields shown k front last := by
  obtain ⟨closing, ending⟩ := h.closing
  have split : blocks = front.flatMap Piece.blocks ++ [closing] := by
    rw [← h.layout.blocks, List.flatMap_append, List.flatMap_singleton, ending]
  rw [FormCreation.withCaptcha, split, List.getLast?_concat] at made
  simp only at made
  split at made
  · cases made
    exact ⟨front, ⟨split ▸ h.layout.blocks, h.layout.fits, h.layout.apart,
      fun p hp => Nat.le_trans (h.layout.drawn p hp) later⟩, h.origin, h.closing⟩
  · have drawn : Build.single .captcha [] = (Sketch.ofKind .captcha .empty).draw none :=
      Build.single_eq Build.payload_empty rfl
    rw [drawn, Draw.bind_ok (Sketch.draw_none _ m), List.dropLast_concat] at made
    cases made
    let piece : Piece := ⟨.alone (.ofKind .captcha .empty), m,
      [Sketch.block (.ofKind .captcha .empty) (ids m) (ids (m + 1))]⟩
    have fits : piece.Fits ids := ⟨Sketch.plain_ofKind (by decide) rfl, rfl⟩
    have apart : ∀ p ∈ front ++ [last], Piece.Apart p piece := fun p hp =>
      .inl (Nat.le_trans (h.layout.drawn p hp) later)
    have among {P : Piece → Prop} (old : ∀ p ∈ front ++ [last], P p) (new : P piece) :
        ∀ p ∈ (front ++ [piece]) ++ [last], P p := by
      intro p hp
      simp only [List.mem_append, List.mem_singleton] at hp
      rcases hp with (hp | rfl) | rfl
      · exact old p (by simp [hp])
      · exact new
      · exact old p (by simp)
    refine ⟨front ++ [piece], ⟨?_, among h.layout.fits fits, ?_,
      among (fun p hp => Nat.le_trans (h.layout.drawn p hp) (by omega)) (Nat.le_refl _)⟩,
      among h.origin (.alone rfl), h.closing⟩
    · simp [ending, piece]
    · have neighbours : List.Perm (piece :: (front ++ [last])) ((front ++ [piece]) ++ [last]) := by
        rw [List.append_assoc]
        exact List.perm_middle.symm
      refine (neighbours.pairwise_iff Piece.Apart.symm).mp (.cons ?_ h.layout.apart)
      exact fun p hp => (apart p hp).symm

theorem Built.laid {ids : IdSource} (filled : ids.Nonempty) {fields : List Field}
    {blocks : List Block} {stop : Nat} (h : Built ids fields blocks stop) :
    ∃ front last, Laid ids fields blocks stop front last := by
  induction h with
  | form accepted lowered => exact Form.lower_laid filled accepted.titled lowered
  | keywords made =>
      rw [Keyword.blocks_eq] at made
      exact Cluster.drawList_laid filled (.framed Keyword.clusters_stock _ _) made
  | contact made =>
      obtain ⟨title, rfl⟩ := ContactForm.title_of_blocks made
      rw [ContactForm.blocks_eq] at made
      exact Cluster.drawList_laid filled (.framed (ContactForm.clusters_stock _ _) _ _) made
  | captcha _ later made ih =>
      obtain ⟨front, last, laid⟩ := ih
      obtain ⟨front, laid⟩ := laid.captcha later made
      exact ⟨front, last, laid⟩

/-- Every list of blocks that is built falls into groups, each of which comes from one field, one
stock question or one block that stands alone. -/
theorem Built.grouped {ids : IdSource} (filled : ids.Nonempty) (injective : Function.Injective ids)
    {fields : List Field} {blocks : List Block} {stop : Nat} (h : Built ids fields blocks stop) :
    ∃ groups, Grouped blocks groups ∧ ∀ group ∈ groups, Origin ids fields group := by
  obtain ⟨front, last, laid⟩ := h.laid filled
  refine ⟨_, laid.layout.grouped_pieces injective, fun group hg => ?_⟩
  obtain ⟨p, hp, rfl⟩ := List.mem_map.mp hg
  exact laid.origin p hp

/-- A definition of a form with a question whose answer is picked from options. -/
def petDefinition : String :=
  "\x7b\"fields\": [\x7b\"type\": \"radio\", \"label\": \"Pet\", \"options\": [\"Cat\", \"Dog\"]\x7d]\x7d"

theorem grouped_pet_definition : ∃ form lowered m groups,
    Definition.formOfPrompt? petDefinition = .ok (some form) ∧
      form.lower none tallies 0 = (.ok lowered, m) ∧ lowered.blocks.length = 5 ∧
      Grouped lowered.blocks groups ∧
        ∀ group ∈ groups, Origin tallies form.fields group := by
  have outcome : ((Definition.formOfPrompt? petDefinition).toOption.join.bind fun form =>
      (form.lower none tallies 0).1.toOption.map fun lowered => lowered.blocks.length) =
        some 5 := by
    decide +kernel
  obtain ⟨form, read, outcome⟩ := Option.bind_eq_some_iff.mp outcome
  obtain ⟨lowered, made, count⟩ := Option.map_eq_some_iff.mp outcome
  have defined : Definition.formOfPrompt? petDefinition = .ok (some form) := by
    cases found : Definition.formOfPrompt? petDefinition <;> simp_all [Except.toOption]
  have lowers : form.lower none tallies 0 = (.ok lowered, (form.lower none tallies 0).2) := by
    cases found : form.lower none tallies 0 with
    | mk result m => cases result <;> simp_all [Except.toOption]
  obtain ⟨groups, grouped, origin⟩ :=
    Built.grouped tallies_nonempty tallies_injective (.form (.defined defined) lowers)
  exact ⟨form, lowered, _, groups, defined, lowers, count, grouped, origin⟩

end PromptForm
