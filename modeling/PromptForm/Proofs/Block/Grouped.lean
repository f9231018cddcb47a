import Mathlib.Data.List.Nodup
import PromptForm.Block.Basic

/-! # Blocks in groups

Blocks that share a group are shown as one question, so a list of blocks has to keep its groups
apart: every id in it is used once, a group is a run of neighbours, and a group of several blocks is
a title followed by the blocks that take the answer.
-/

namespace PromptForm

/-- The ids of the values that a body holds. -/
def Body.valueIds : Body → List String
  | hiddenFields values => values.map HiddenValue.uuid
  | calculatedFields values => values.map CalculatedValue.uuid
  | _ => []

namespace Block

/-- The ids that belong to a block alone: its own one and those of its values. -/
def ownIds (b : Block) : List String := b.uuid :: b.payload.body.valueIds

def bare (b : Block) : Block := { b with payload := { b.payload with rule := none } }

@[simp] theorem bare_withRule (b : Block) (rule : Rule) : (b.withRule rule).bare = b.bare := rfl

theorem bare_of_free {b : Block} (h : b.payload.rule = none) : b.bare = b := by
  obtain ⟨uuid, kind, group, type, rule, body⟩ := b
  cases h
  rfl

/-- A block without a rule. -/
def Free (b : Block) : Prop := b.payload.rule = none

theorem map_bare_of_free {blocks : List Block} (h : ∀ b ∈ blocks, b.Free) :
    blocks.map bare = blocks := by
  rw [List.map_congr_left fun b hb => bare_of_free (h b hb), List.map_id']

/-- The group that blocks share, if there are any. -/
def groupOf (blocks : List Block) : String := ((blocks.head?).map Block.groupUuid).getD ""

/-- Is the block a title that can be shown? -/
def IsTitle (b : Block) : Prop :=
  b.kind = .title ∧ b.groupType = "QUESTION" ∧ isBlankText b.titleText = false

/-- Blocks that make up one group: a single block that is no title, or a title and the blocks that
take the answer, which are no titles. -/
inductive IsGroup : List Block → Prop
  | single {b : Block} : b.kind ≠ .title → IsGroup [b]
  | question {title first : Block} {others : List Block} : title.IsTitle →
      (∀ b ∈ first :: others, b.kind ≠ .title) → IsGroup (title :: first :: others)

end Block

/-- A list of blocks that falls into groups. -/
structure Grouped (blocks : List Block) (groups : List (List Block)) : Prop where
  flatten : groups.flatten = blocks
  shape : ∀ group ∈ groups, Block.IsGroup group
  shared : ∀ group ∈ groups, ∀ b ∈ group, b.groupUuid = Block.groupOf group
  /-- The ids of groups, of blocks and of the values that they hold are all different. -/
  distinct : (groups.map Block.groupOf ++ blocks.flatMap Block.ownIds).Nodup

namespace Grouped

variable {blocks : List Block} {groups : List (List Block)}

/-- Blocks that share a group are in the same run of neighbours. -/
theorem eq_of_groupUuid (h : Grouped blocks groups) {g g' : List Block} (hg : g ∈ groups)
    (hg' : g' ∈ groups) {b b' : Block} (hb : b ∈ g) (hb' : b' ∈ g')
    (same : b.groupUuid = b'.groupUuid) : g = g' := by
  have ids : (groups.map Block.groupOf).Nodup := (List.nodup_append.mp h.distinct).1
  rw [h.shared g hg b hb, h.shared g' hg' b' hb'] at same
  exact List.inj_on_of_nodup_map ids hg hg' same

end Grouped

end PromptForm
