import PromptForm.Proofs.Lowering.Cluster

/-! # Building blocks as clusters

The functions that build blocks draw the ids of clusters.
-/

namespace PromptForm

/-- The option with a number out of `total` ones, without its ids. Only the first option of a
dropdown has a placeholder. -/
def Choice.sketch (c : Choice) (kind : BlockKind) (groupType : String) (required : Bool)
    (placeholder : Option String) (total i : Nat) : Sketch :=
  ⟨kind, groupType, .choiceOption i required (i == 0) (i + 1 == total) c.text (some c.value)
    (if c.isDefault then some true else none) c.description
    (if i == 0 && kind == .dropdownOption then placeholder else none)⟩

namespace Sketch

def formTitle (title : String) : Sketch := ⟨.formTitle, "TEXT", .formTitle title (.plain title)⟩

def text (s : String) : Sketch := .ofKind .text (.text s (.plain s))

def heading (title : String) (level : Int) : Sketch :=
  .ofKind (Build.headingKind level) (.heading title (.plain title))

end Sketch

namespace Build

theorem single_eq {kind : BlockKind} {members body}
    (h : payload kind.shape members = pure ⟨none, body⟩) (fits : body.shape = kind.shape) :
    single kind members = (Sketch.ofKind kind body).draw none := by
  simp only [single, h, pure_bind, block_eq fits]
  rfl

theorem inGroup_eq {kind : BlockKind} {members body} (group : String)
    (h : payload kind.shape members = pure ⟨none, body⟩) (fits : body.shape = kind.shape) :
    inGroup kind group members = (Sketch.ofKind kind body).draw (some group) := by
  simp only [inGroup, h, pure_bind, block_eq fits]
  rfl

theorem questionTitle_eq (label group : String) (description : Json) :
    questionTitle (.text label) group description =
      (Sketch.title label description.usableText?).draw (some group) := by
  simp only [questionTitle, payload_questionTitle, pure_bind]
  exact block_eq rfl (some group) (some "QUESTION")

theorem question_eq (label : String) {kind : BlockKind} (input : kind.shape = .input)
    (required : Bool) (placeholder description : Json) :
    question (.text label) kind required placeholder description =
      (Cluster.question label description.usableText?
        [.ofKind kind (.input required placeholder.usableText?)]).draw := by
  have payload_eq := payload_input required placeholder.usableText?
  rw [← input] at payload_eq
  have block (group : String) := inGroup_eq group payload_eq input.symm
  simp only [question, questionTitle_eq, block, Cluster.draw, Draw.each_cons, Draw.each_nil,
    bind_assoc, pure_bind]

theorem choicesFrom_eq {kind : BlockKind} (choice : kind.shape = .choiceOption) {groupType : String}
    (named : groupType.isEmpty = false) (group : String) (required : Bool)
    (placeholder : Option String) (total i : Nat) (choices : List Choice) :
    choicesFrom kind group groupType required (.ofText? placeholder) total i choices =
      Draw.each (Sketch.draw · (some group)) ((choices.zipIdx i).map fun c =>
        c.1.sketch kind groupType required placeholder total c.2) := by
  induction choices generalizing i with
  | nil => rfl
  | cons c rest ih =>
      have isDefault : (if c.isDefault then Json.bool true else .null) =
          .ofBool? (if c.isDefault then some true else none) := by
        cases c.isDefault <;> rfl
      have shown : (if i == 0 && kind == .dropdownOption then Json.ofText? placeholder else .null) =
          .ofText? (if i == 0 && kind == .dropdownOption then placeholder else none) := by
        split <;> rfl
      have first : block kind
          ⟨none, (c.sketch kind groupType required placeholder total i).body⟩ (some group)
          (some groupType) =
            (c.sketch kind groupType required placeholder total i).draw (some group) := by
        have fits : (c.sketch kind groupType required placeholder total i).body.shape =
          kind.shape := choice.symm
        rw [block_eq fits]
        simp only [Option.bind_some, nonEmpty?, named, Bool.false_eq_true, if_false,
          Option.getD_some]
        rfl
      simp only [choicesFrom, choice, isDefault, shown, payload_choiceOption, pure_bind, ih,
        List.zipIdx_cons, List.map_cons, Draw.each_cons, ← first]
      rfl

theorem choiceQuestion_eq (label : String) {kind : BlockKind} (choice : kind.shape = .choiceOption)
    {groupType : String} (named : groupType.isEmpty = false) (choices : List Choice)
    (required : Bool) (description : Json) (placeholder : Option String) :
    choiceQuestion (.text label) kind groupType choices required description
        (.ofText? placeholder) =
      (Cluster.question label description.usableText? (choices.zipIdx.map fun c =>
        c.1.sketch kind groupType required placeholder choices.length c.2)).draw := by
  simp only [choiceQuestion, questionTitle_eq, choicesFrom_eq choice named, Cluster.draw]

theorem formTitle_eq (title : String) :
    formTitle (.text title) = (Sketch.formTitle title).draw none := by
  simp only [formTitle, payload_formTitle, pure_bind]
  exact block_eq rfl none (some "TEXT")

theorem text_eq (s : String) : text (.text s) = (Sketch.text s).draw none :=
  single_eq (payload_text s) rfl

theorem headingKind_shape (level : Int) : (headingKind level).shape = .heading := by
  simp only [headingKind]
  split
  · rfl
  · split <;> rfl

theorem heading_eq (title : String) (level : Int) :
    heading (.text title) level = (Sketch.heading title level).draw none := by
  have payload_eq := payload_heading title
  rw [← headingKind_shape level] at payload_eq
  exact single_eq payload_eq (headingKind_shape level).symm

theorem divider_eq : divider = (Sketch.ofKind .divider .empty).draw none :=
  single_eq payload_empty rfl

theorem attribution_eq (wording : Option String) :
    attribution wording =
      (Sketch.text ((wording.bind nonEmpty?).getD defaultAttribution)).draw none :=
  text_eq _

end Build

end PromptForm
