import PromptForm.Schema.Scalar

/-! # Members of objects

A member is found under its key or under a second spelling of it. When an object has both, the key
counts and the other entry is one that nobody asked for. Issues name the spelling that was used,
and the key when the member is not there.
-/

namespace PromptForm

/-- The two spellings of a member. -/
structure MemberKey where
  key : String
  second : String
  deriving DecidableEq, Repr

def MemberKey.plain (name : String) : MemberKey := ⟨name, name⟩

namespace Entries

/-- The entry of a member, with the spelling that was used. -/
def member? (entries : Entries) (m : MemberKey) : Option (String × Json) :=
  match entries.find? (·.1 == m.key) with
  | some entry => some entry
  | none => entries.find? (·.1 == m.second)

/-- The value of a member that has to be there. -/
def require (entries : Entries) (m : MemberKey) (check : Json → Checked α) : Checked α :=
  match Entries.member? entries m with
  | some (name, v) => (check v).under (.key name)
  | none => .bad [⟨.missing, [.key m.key]⟩]

/-- The value of a member, or a default when it is not there. -/
def optional (entries : Entries) (m : MemberKey) (default : α) (check : Json → Checked α) :
    Checked α :=
  match Entries.member? entries m with
  | some (name, v) => (check v).under (.key name)
  | none => .ok default

/-- The value of a member that may be null or not be there. -/
def maybe (entries : Entries) (m : MemberKey) (check : Json → Checked α) : Checked (Option α) :=
  Entries.optional entries m none (Check.nullable check)

/-- The entries that are none of the members. -/
def rest (entries : Entries) (members : List MemberKey) : Entries :=
  let used := members.filterMap fun m => (Entries.member? entries m).map (·.1)
  entries.filter fun entry => !used.contains entry.1

/-- Reject the entries that are none of the members. -/
def closed (entries : Entries) (members : List MemberKey) : Checked Unit :=
  Checked.noneOf ((Entries.rest entries members).map (·.1))

def given (entries : Entries) (members : List MemberKey) : List MemberKey :=
  members.filter fun m => (Entries.member? entries m).isSome

def withoutNulls (entries : Entries) : Entries := entries.filter fun entry => !entry.2.isNull

/-- Entries with any values as they are sent: nulls are left out, and numbers that are not finite
become null. -/
def sent (entries : Entries) : Entries := Json.finiteEntries (withoutNulls entries)

end Entries

/-- An object, whose entries are then checked. -/
def Check.object (check : Entries → Checked α) : Json → Checked α
  | .object entries => check entries
  | _ => .refuse .notObject

end PromptForm
