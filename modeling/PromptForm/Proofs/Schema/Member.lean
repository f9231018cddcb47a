import PromptForm.Schema.Member

/-! # Looking up entries

What stands under a key when entries are put together, changed or left out. A member stands under its
key, else under its second spelling.
-/

namespace PromptForm.Entries

theorem find?_key (entries : Entries) (key : String) :
    entries.find? (·.1 == key) = (get? entries key).map fun v => (key, v) := by
  rw [get?, Option.map_map]
  cases found : entries.find? (·.1 == key) with
  | none => rfl
  | some entry =>
      have named : entry.1 = key := by simpa using List.find?_some found
      subst named
      rfl

theorem member?_eq (entries : Entries) (m : MemberKey) :
    member? entries m = ((get? entries m.key).map fun v => (m.key, v)).or
      ((get? entries m.second).map fun v => (m.second, v)) := by
  simp only [member?, find?_key]
  cases get? entries m.key <;> rfl

theorem member?_of_get? {entries : Entries} {m : MemberKey} {v : Json}
    (found : get? entries m.key = some v) : member? entries m = some (m.key, v) := by
  rw [member?_eq, found]
  rfl

theorem member?_plain (entries : Entries) (name : String) :
    member? entries (.plain name) = (get? entries name).map fun v => (name, v) := by
  rw [member?_eq]
  exact Option.or_self

theorem has_eq (entries : Entries) (key : String) :
    has entries key = (get? entries key).isSome := by
  simp only [has, get?, Option.isSome_map, List.isSome_find?]

theorem get?_append (entries more : Entries) (key : String) :
    get? (entries ++ more) key = (get? entries key).or (get? more key) := by
  simp only [get?, List.find?_append, Option.map_or]

theorem get?_map (f : String → Json → Json) (entries : Entries) (key : String) :
    get? (entries.map fun entry => (entry.1, f entry.1 entry.2)) key =
      (get? entries key).map (f key) := by
  have found : (entries.map fun entry => (entry.1, f entry.1 entry.2)).find? (·.1 == key) =
      (entries.find? (·.1 == key)).map fun entry => (entry.1, f entry.1 entry.2) := List.find?_map
  rw [get?, found, find?_key, Option.map_map, Option.map_map]
  rfl

theorem get?_cons (entry : String × Json) (rest : Entries) (key : String) :
    get? (entry :: rest) key = if entry.1 = key then some entry.2 else get? rest key := by
  by_cases same : entry.1 = key
  · simp [get?, same]
  · have other : (entry.1 == key) = false := by simpa using same
    simp [get?, same, other]

theorem get?_put (key : String) (value : Json) (entries : Entries) (other : String) :
    get? (put key value entries) other = if key = other then some value else get? entries other := by
  induction entries with
  | nil => rw [put, get?_cons]
  | cons entry rest ih =>
      obtain ⟨k, v⟩ := entry
      by_cases same : k = key
      · subst same
        rw [put, if_pos (beq_self_eq_true k), get?_cons, get?_cons]
        by_cases here : k = other
        · simp only [if_pos here]
        · simp only [if_neg here]
      · rw [put, if_neg (by simpa using same), get?_cons, get?_cons, ih]
        by_cases here : k = other
        · have apart : key ≠ other := fun there => same (here.trans there.symm)
          simp only [if_pos here, if_neg apart]
        · simp only [if_neg here]

/-- Entries are left out by their keys. -/
theorem get?_filter (keep : String → Bool) (entries : Entries) (key : String) :
    get? (entries.filter fun entry => keep entry.1) key =
      if keep key then get? entries key else none := by
  induction entries with
  | nil => simp [get?]
  | cons entry rest ih =>
      rw [List.filter_cons, get?_cons]
      by_cases same : entry.1 = key
      · subst same
        cases kept : keep entry.1 with
        | true => simp [get?_cons]
        | false => simp [ih, kept]
      · cases kept : keep entry.1 with
        | true => simp [get?_cons, same, ih]
        | false => simp [same, ih]

theorem get?_eq_none_of_not_mem {entries : Entries} {key : String}
    (missing : key ∉ entries.map Prod.fst) : get? entries key = none := by
  induction entries with
  | nil => rfl
  | cons entry rest ih =>
      rw [List.map_cons, List.mem_cons, not_or] at missing
      rw [get?_cons, if_neg (Ne.symm missing.1), ih missing.2]

theorem present?_eq (entries : Entries) (key : String) :
    present? entries key = (get? entries key).filter (!·.isNull) := by
  rw [present?]
  cases get? entries key with
  | none => rfl
  | some v => cases v <;> rfl

theorem get?_of_present? {entries : Entries} {key : String} {v : Json}
    (h : present? entries key = some v) : get? entries key = some v ∧ v.isNull = false := by
  rw [present?_eq, Option.filter_eq_some_iff] at h
  simpa using h

theorem get?_of_absent {entries : Entries} {key : String} (h : present? entries key = none) :
    get? entries key = none ∨ get? entries key = some .null := by
  rw [present?_eq] at h
  cases found : get? entries key with
  | none => exact .inl rfl
  | some v => cases v <;> simp_all [Json.isNull]

/-- When no key is there twice, leaving out nulls leaves no other entry under their keys. -/
theorem get?_withoutNulls {entries : Entries} (distinct : (entries.map Prod.fst).Nodup)
    (key : String) : get? (withoutNulls entries) key = present? entries key := by
  rw [present?_eq]
  induction entries with
  | nil => rfl
  | cons entry rest ih =>
      obtain ⟨fresh, distinct⟩ := List.nodup_cons.mp distinct
      rw [withoutNulls, List.filter_cons, get?_cons]
      by_cases same : entry.1 = key
      · subst same
        have rest_missing := ih distinct
        rw [get?_eq_none_of_not_mem fresh, withoutNulls] at rest_missing
        cases null : entry.2.isNull with
        | true => simp [rest_missing, Option.filter_some, null]
        | false => simp [get?_cons, Option.filter_some, null]
      · have others := ih distinct
        rw [withoutNulls] at others
        cases null : entry.2.isNull with
        | true => simp [others, same]
        | false => simp [get?_cons, others, same]

/-- An entry that is none of the members is among the rest. -/
theorem get?_rest {members : List MemberKey} {key : String}
    (other : ∀ m ∈ members, key ≠ m.key ∧ key ≠ m.second) (entries : Entries) :
    get? (rest entries members) key = get? entries key := by
  have unused : (members.filterMap fun m => (member? entries m).map (·.1)).contains key = false := by
    rw [← Bool.not_eq_true, List.contains_iff_mem, List.mem_filterMap]
    rintro ⟨m, listed, used⟩
    rw [member?_eq] at used
    cases first : get? entries m.key with
    | some v =>
        simp only [first, Option.map_some, Option.some_or, Option.some.injEq] at used
        exact (other m listed).1 used.symm
    | none =>
        simp only [first, Option.map_none, Option.none_or, Option.map_map,
          Option.map_eq_some_iff] at used
        obtain ⟨v, _, same⟩ := used
        exact (other m listed).2 same.symm
  rw [rest, get?_filter (fun name => !(members.filterMap fun m =>
    (member? entries m).map (·.1)).contains name), unused]
  rfl

end PromptForm.Entries
