import PromptForm.Web.Secret

/-! # Values that differ in secrets

Two values are alike when they are the same but for what stands under secret keys. Alike values have
the same redaction, and no others do. The order of the entries of an object makes no difference to
what is masked.
-/

namespace PromptForm

mutual

/-- The same value, but for the order of the entries of objects. -/
inductive Json.Same : Json → Json → Prop
  | refl (v : Json) : Same v v
  | array {vs ws : List Json} : ItemsSame vs ws → Same (.array vs) (.array ws)
  | object {vs us ws : Entries} : EntriesSame vs us → us.Perm ws → Same (.object vs) (.object ws)

inductive Json.ItemsSame : List Json → List Json → Prop
  | nil : ItemsSame [] []
  | cons {v w : Json} {vs ws : List Json} : Same v w → ItemsSame vs ws →
      ItemsSame (v :: vs) (w :: ws)

inductive Json.EntriesSame : Entries → Entries → Prop
  | nil : EntriesSame [] []
  | cons {key : String} {v w : Json} {vs ws : Entries} : Same v w → EntriesSame vs ws →
      EntriesSame ((key, v) :: vs) ((key, w) :: ws)

end

namespace Web

open Json

mutual

/-- The same value, but for what stands under secret keys. -/
inductive Alike : Json → Json → Prop
  | refl (v : Json) : Alike v v
  | array {vs ws : List Json} : ItemsAlike vs ws → Alike (.array vs) (.array ws)
  | object {vs ws : Entries} : EntriesAlike vs ws → Alike (.object vs) (.object ws)

inductive ItemsAlike : List Json → List Json → Prop
  | nil : ItemsAlike [] []
  | cons {v w : Json} {vs ws : List Json} : Alike v w → ItemsAlike vs ws →
      ItemsAlike (v :: vs) (w :: ws)

inductive EntriesAlike : Entries → Entries → Prop
  | nil : EntriesAlike [] []
  | secret {key : String} {vs ws : Entries} (v w : Json) : isSecretKey key = true →
      EntriesAlike vs ws → EntriesAlike ((key, v) :: vs) ((key, w) :: ws)
  | shown {key : String} {v w : Json} {vs ws : Entries} : Alike v w → EntriesAlike vs ws →
      EntriesAlike ((key, v) :: vs) ((key, w) :: ws)

end

mutual

/-- Alike values have the same redaction. -/
theorem Alike.redact_eq {v w : Json} : Alike v w → redact v = redact w
  | .refl _ => rfl
  | .array items => congrArg Json.array items.redact_eq
  | .object entries => congrArg Json.object entries.redact_eq

theorem ItemsAlike.redact_eq {vs ws : List Json} :
    ItemsAlike vs ws → redactItems vs = redactItems ws
  | .nil => rfl
  | .cons alike rest => by rw [redactItems, redactItems, alike.redact_eq, rest.redact_eq]

theorem EntriesAlike.redact_eq {vs ws : Entries} :
    EntriesAlike vs ws → redactEntries vs = redactEntries ws
  | .nil => rfl
  | .secret _ _ secret rest => by
      rw [redactEntries, redactEntries, if_pos secret, if_pos secret, rest.redact_eq]
  | .shown alike rest => by rw [redactEntries, redactEntries, alike.redact_eq, rest.redact_eq]

end

mutual

/-- Values with the same redaction are alike: nothing but secrets is masked. -/
theorem alike_of_redact_eq {v w : Json} (h : redact v = redact w) : Alike v w := by
  cases v with
  | array vs =>
      cases w with
      | array ws => exact .array (itemsAlike_of_redact_eq (Json.array.inj h))
      | null | bool | int | double | text | object => cases h
  | object vs =>
      cases w with
      | object ws => exact .object (entriesAlike_of_redact_eq (Json.object.inj h))
      | null | bool | int | double | text | array => cases h
  | null | bool | int | double | text =>
      cases w with
      | array | object => cases h
      | null | bool | int | double | text => cases h <;> exact .refl _

theorem itemsAlike_of_redact_eq {vs ws : List Json} (h : redactItems vs = redactItems ws) :
    ItemsAlike vs ws := by
  cases vs with
  | nil =>
      cases ws with
      | nil => exact .nil
      | cons => cases h
  | cons v vs =>
      cases ws with
      | nil => cases h
      | cons w ws =>
          obtain ⟨here, later⟩ := List.cons.inj h
          exact .cons (alike_of_redact_eq here) (itemsAlike_of_redact_eq later)

theorem entriesAlike_of_redact_eq {vs ws : Entries} (h : redactEntries vs = redactEntries ws) :
    EntriesAlike vs ws := by
  match vs, ws with
  | [], [] => exact .nil
  | [], _ :: _ => cases h
  | _ :: _, [] => cases h
  | (key, v) :: vs, (other, w) :: ws =>
      obtain ⟨here, later⟩ := List.cons.inj h
      obtain ⟨rfl, shown⟩ := Prod.mk.inj here
      have rest := entriesAlike_of_redact_eq later
      cases secret : isSecretKey key with
      | true => exact .secret v w secret rest
      | false =>
          rw [secret, if_neg Bool.false_ne_true, if_neg Bool.false_ne_true] at shown
          exact .shown (alike_of_redact_eq shown) rest

end

/-- Redaction tells values apart exactly when they differ in more than secrets. -/
theorem redact_eq_iff {v w : Json} : redact v = redact w ↔ Alike v w :=
  ⟨alike_of_redact_eq, Alike.redact_eq⟩

theorem redactItems_eq_map (items : List Json) : redactItems items = items.map redact := by
  induction items with
  | nil => rfl
  | cons v rest ih => rw [redactItems, List.map_cons, ih]

theorem redactEntries_eq_map (entries : Entries) :
    redactEntries entries = entries.map fun entry =>
      (entry.1, if isSecretKey entry.1 then .text mask else redact entry.2) := by
  induction entries with
  | nil => rfl
  | cons entry rest ih => rw [redactEntries, List.map_cons, ih]

mutual

/-- The order of entries makes no difference to what is masked. -/
theorem same_redact {v w : Json} : Same v w → Same (redact v) (redact w)
  | .refl _ => .refl _
  | .array items => .array (itemsSame_redact items)
  | .object entries perm => by
      refine .object (entriesSame_redact entries) ?_
      rw [redactEntries_eq_map, redactEntries_eq_map]
      exact perm.map _

theorem itemsSame_redact {vs ws : List Json} :
    ItemsSame vs ws → ItemsSame (redactItems vs) (redactItems ws)
  | .nil => .nil
  | .cons same rest => .cons (same_redact same) (itemsSame_redact rest)

theorem entriesSame_redact {vs ws : Entries} :
    EntriesSame vs ws → EntriesSame (redactEntries vs) (redactEntries ws)
  | .nil => .nil
  | @EntriesSame.cons key _ _ _ _ same rest => by
      rw [redactEntries, redactEntries]
      cases isSecretKey key with
      | true => exact .cons (.refl _) (entriesSame_redact rest)
      | false => exact .cons (same_redact same) (entriesSame_redact rest)

end

end Web

end PromptForm
