import PromptForm.Condition.Reference
import PromptForm.Form.Basic
import PromptForm.Lowering.Field

/-! # Lowering forms

A form becomes its title, its description, the blocks of its sections with a divider between
neighbours, and a closing block. The first block of a field with a condition gets the rule, when
the condition refers to a field before it.
-/

namespace PromptForm

/-- A form that has been lowered, in whole or in part. -/
structure Lowered where
  blocks : List Block
  /-- The last block of each field, by label. -/
  labels : LabelMap
  /-- The conditions that gave no rule, in order. -/
  unresolved : List String
  deriving Repr

namespace Lowered

def empty : Lowered := ⟨[], [], []⟩

def add (s : Lowered) (blocks : List Block) : Lowered := { s with blocks := s.blocks ++ blocks }

/-- Add the blocks of a field, the first of which is given, and let its label stand for the last
one. -/
def addField (s : Lowered) (f : Field) (first : Block) (others : List Block) : Lowered :=
  let blocks := first :: others
  let last := (others.getLast?.getD first).uuid
  { s with
    blocks := s.blocks ++ blocks
    labels := if f.label.isEmpty then s.labels else s.labels.register f.label last }

def field (s : Lowered) (f : Field) : Draw Lowered := do
  match ← f.lower with
  | [] => return s
  | first :: others =>
    match f.showIf.bind nonEmpty? with
    | none => return s.addField f first others
    | some expr =>
      match ← Draw.ofExcept (s.labels.resolve expr) with
      | some rule => return s.addField f (first.withRule rule) others
      | none =>
        let s := s.addField f first others
        return { s with unresolved := s.unresolved ++ [expr] }

def fields (s : Lowered) : List Field → Draw Lowered
  | [] => pure s
  | f :: rest => do
    let s ← s.field f
    s.fields rest

/-- A paragraph with a text, unless it is blank. -/
def paragraph (s : Lowered) (text : Option String) : Draw Lowered := do
  match text.bind trimmed? with
  | none => return s
  | some text => return s.add [← Build.text (.text text)]

def sectionBlocks (s : Lowered) (part : Section) : Draw Lowered := do
  let s ←
    match trimmed? part.title with
    | none => pure s
    | some title => do
      let heading ← Build.heading (.text title) 2
      pure (s.add [heading])
  let s ← s.paragraph part.description
  s.fields part.fields

/-- Lower sections that come next, with a divider between neighbours. -/
def sections (s : Lowered) : List Section → Draw Lowered
  | [] => pure s
  | [part] => s.sectionBlocks part
  | part :: rest => do
    let s ← s.sectionBlocks part
    let divider ← Build.divider
    (s.add [divider]).sections rest

end Lowered

def Form.lower (form : Form) (attribution : Option String) : Draw Lowered := do
  let title ← Build.formTitle (.text form.title)
  let s ← (Lowered.empty.add [title]).paragraph form.description
  let s ← s.sections form.sections
  let closing ← Build.attribution attribution
  return s.add [closing]

end PromptForm
