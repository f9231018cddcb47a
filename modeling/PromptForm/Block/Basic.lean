import PromptForm.Block.Payload
import PromptForm.Failure

/-! # Blocks

A hosted form is an ordered list of blocks. Blocks that share a group are shown as one question.
-/

namespace PromptForm

/-- A block of a hosted form. -/
structure Block where
  uuid : String
  kind : BlockKind
  groupUuid : String
  groupType : String
  payload : Payload
  deriving Repr

namespace Block

/-- The title that a block shows, or its text when it has no title. -/
def titleText (b : Block) : String := b.payload.body.titleText

/-- The block, shown only under a rule. -/
def withRule (b : Block) (rule : Rule) : Block :=
  { b with payload := { b.payload with rule := some rule } }

def toJson (b : Block) : Json :=
  .object [("uuid", .text b.uuid), ("type", .text b.kind.name), ("groupUuid", .text b.groupUuid),
    ("groupType", .text b.groupType), ("payload", b.payload.toJson)]

/-- The values that a block keeps as they are. They stand inside of its payload. -/
def loose (b : Block) : List Json := b.payload.body.loose

def written (b : Block) : Except Failure Json := b.toJson.holding 1 b.loose

end Block

end PromptForm
