import PromptForm.Lowering.Form
import PromptForm.Proofs.Lowering.Field

/-! # Forms as lists of parts

A form is lowered part by part: blocks that come from no field, which stand alone, and fields.
-/

namespace PromptForm

/-- A part of a form. -/
inductive Part where
  /-- A block that comes from no field. -/
  | filler (s : Sketch)
  | field (f : Field)

namespace Part

def field? : Part → Option Field
  | filler _ => none
  | field f => some f

/-- A paragraph, unless it is blank. -/
def paragraph (text : Option String) : List Part :=
  ((text.bind trimmed?).map fun text => filler (.text text)).toList

def ofSection (s : Section) : List Part :=
  ((trimmed? s.title).map fun title => filler (.heading title 2)).toList ++
    paragraph s.description ++ s.fields.map field

/-- The parts of sections, with a divider between neighbours. -/
def ofSections : List Section → List Part
  | [] => []
  | [s] => ofSection s
  | s :: rest => ofSection s ++ filler (.ofKind .divider .empty) :: ofSections rest

def ofForm (form : Form) (attribution : Option String) : List Part :=
  filler (.formTitle form.title) :: paragraph form.description ++ ofSections form.sections ++
    [filler (.text ((attribution.bind nonEmpty?).getD defaultAttribution))]

end Part

namespace Lowered

def part (s : Lowered) : Part → Draw Lowered
  | .filler sketch => do
    let block ← sketch.draw none
    return s.add [block]
  | .field f => s.field f

def parts (s : Lowered) : List Part → Draw Lowered
  | [] => pure s
  | p :: rest => do
    let s ← s.part p
    s.parts rest

theorem parts_append (s : Lowered) (ps qs : List Part) :
    s.parts (ps ++ qs) = (s.parts ps >>= fun s => s.parts qs) := by
  induction ps generalizing s with
  | nil => simp only [List.nil_append, parts, pure_bind]
  | cons p ps ih => simp only [List.cons_append, parts, ih, bind_assoc]

theorem fields_eq (s : Lowered) (fs : List Field) : s.fields fs = s.parts (fs.map .field) := by
  induction fs generalizing s with
  | nil => rfl
  | cons f rest ih =>
      simp only [fields, List.map_cons, parts, part, ih]

theorem paragraph_eq (s : Lowered) (text : Option String) :
    s.paragraph text = s.parts (Part.paragraph text) := by
  cases h : text.bind trimmed? with
  | none => simp only [paragraph, Part.paragraph, h, Option.map_none, Option.toList_none, parts]
  | some text =>
      simp only [paragraph, Part.paragraph, h, Option.map_some, Option.toList_some, parts, part,
        Build.text_eq, bind_assoc, pure_bind]

theorem sectionBlocks_eq (s : Lowered) (sec : Section) :
    s.sectionBlocks sec = s.parts (Part.ofSection sec) := by
  simp only [Part.ofSection, parts_append, sectionBlocks]
  cases h : trimmed? sec.title with
  | none =>
      simp only [Option.map_none, Option.toList_none, parts, pure_bind, paragraph_eq, fields_eq]
  | some title =>
      simp only [Option.map_some, Option.toList_some, parts, part, Build.heading_eq, bind_assoc,
        pure_bind, paragraph_eq, fields_eq]

theorem sections_eq (s : Lowered) (secs : List Section) :
    s.sections secs = s.parts (Part.ofSections secs) := by
  induction secs generalizing s with
  | nil => rfl
  | cons sec rest ih =>
      cases rest with
      | nil => exact sectionBlocks_eq s sec
      | cons next rest =>
          simp only [sections, Part.ofSections, parts_append, parts, part, sectionBlocks_eq,
            Build.divider_eq, bind_assoc, pure_bind, ih]

end Lowered

theorem Form.lower_eq (form : Form) (attribution : Option String) :
    form.lower attribution = Lowered.empty.parts (Part.ofForm form attribution) := by
  simp only [Form.lower, Part.ofForm, Lowered.parts_append, Lowered.parts, Lowered.part,
    List.cons_append, Build.formTitle_eq, Build.attribution_eq, Lowered.paragraph_eq,
    Lowered.sections_eq, bind_assoc, pure_bind, bind_pure]

namespace Part

theorem fields_paragraph (text : Option String) : (paragraph text).filterMap field? = [] := by
  simp only [paragraph]
  cases text.bind trimmed? <;> rfl

theorem fields_ofSection (s : Section) : (ofSection s).filterMap field? = s.fields := by
  have fields : (s.fields.map field).filterMap field? = s.fields := by
    rw [List.filterMap_map]
    exact List.filterMap_some
  simp only [ofSection, List.filterMap_append, fields_paragraph, fields]
  cases trimmed? s.title <;> rfl

theorem fields_ofSections (secs : List Section) :
    (ofSections secs).filterMap field? = secs.flatMap Section.fields := by
  induction secs with
  | nil => rfl
  | cons sec rest ih =>
      cases rest with
      | nil => simp [ofSections, fields_ofSection]
      | cons next rest =>
          have neighbours : next :: rest = [] → False := List.cons_ne_nil next rest
          rw [ofSections, List.filterMap_append, List.filterMap_cons_none rfl, ih, fields_ofSection]
          · rfl
          · exact neighbours

/-- The parts of a form that are fields are its fields, in order. -/
theorem fields_ofForm (form : Form) (attribution : Option String) :
    (ofForm form attribution).filterMap field? = form.fields := by
  simp only [ofForm, List.filterMap_append, List.filterMap_cons, field?, fields_paragraph,
    fields_ofSections, List.filterMap_nil, List.nil_append, List.append_nil, Form.fields]

end Part

end PromptForm
