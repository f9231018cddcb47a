import PromptForm.Condition.Reference

/-! # What a label map knows

A key stands for the block that was put under it last, and a label that is registered puts its block
under each of its keys. A reference stands for the block of the first of its keys that is known.
-/

namespace PromptForm.LabelMap

theorem get?_cons (entry : String × String) (rest : LabelMap) (j : String) :
    get? (entry :: rest) j = if entry.1 = j then some entry.2 else get? rest j := by
  by_cases h : entry.1 = j
  · simp [get?, h]
  · have ne : (entry.1 == j) = false := by simpa using h
    simp [get?, h, ne]

theorem get?_put (labels : LabelMap) (key block j : String) :
    get? (put key block labels) j = if j = key then some block else get? labels j := by
  induction labels with
  | nil =>
      rw [put, get?_cons]
      simp only [eq_comm]
  | cons entry rest ih =>
      obtain ⟨k, b⟩ := entry
      by_cases h : k = key
      · subst h
        simp only [put, beq_self_eq_true, if_true, get?_cons, @eq_comm _ k j]
        split <;> rfl
      · have ne : (k == key) = false := by simpa using h
        simp only [put, ne, Bool.false_eq_true, if_false, get?_cons, ih]
        by_cases hk : k = j
        · subst hk
          simp [h]
        · simp [hk]

theorem get?_putAll (keys : List String) (labels : LabelMap) (block j : String) :
    get? (keys.foldl (fun labels key => put key block labels) labels) j =
      if j ∈ keys then some block else get? labels j := by
  induction keys generalizing labels with
  | nil => simp
  | cons key keys ih =>
      rw [List.foldl_cons, ih, get?_put]
      by_cases h : j ∈ keys
      · simp [h]
      · simp [h]

/-- A label that is registered stands for its block under each of its keys. -/
theorem get?_register (labels : LabelMap) (label block j : String) :
    get? (register labels label block) j =
      if j ∈ referenceKeys label then some block else get? labels j :=
  get?_putAll (referenceKeys label) labels block j

theorem lookup_eq_some_iff {labels : LabelMap}
    (filled : ∀ key block, get? labels key = some block → block.isEmpty = false)
    {reference target : String} :
    lookup labels reference = some target ↔
      ∃ before key after, referenceKeys reference = before ++ key :: after ∧
        (∀ j ∈ before, get? labels j = none) ∧ get? labels key = some target := by
  have plain (key : String) : (get? labels key).bind nonEmpty? = get? labels key := by
    cases h : get? labels key with
    | none => rfl
    | some block => simp [nonEmpty?, filled key block h]
  simp only [lookup, plain, List.findSome?_eq_some_iff]
  constructor
  · rintro ⟨before, key, after, split, found, missing⟩
    exact ⟨before, key, after, split, missing, found⟩
  · rintro ⟨before, key, after, split, missing, found⟩
    exact ⟨before, key, after, split, found, missing⟩

/-- An expression gives a rule when it can be read and its reference stands for a block. -/
theorem resolve_ok {labels : LabelMap} {expr : String} {outcome : Option Rule}
    (h : resolve labels expr = .ok outcome) (rule : Rule) :
    outcome = some rule ↔ ∃ x target, Expression.parse? expr.toList = .ok (some x) ∧
      lookup labels x.reference = some target ∧ rule = ⟨[⟨target, x.operator, x.value⟩]⟩ := by
  simp only [resolve] at h
  cases read : Expression.parse? expr.toList with
  | error e => simp [read] at h
  | ok parsed =>
      cases parsed with
      | none =>
          simp only [read, Except.ok.injEq] at h
          simp [← h]
      | some x =>
          simp only [read, Except.ok.injEq] at h
          rw [← h, Option.map_eq_some_iff]
          constructor
          · rintro ⟨target, found, rfl⟩
            exact ⟨x, target, rfl, found, rfl⟩
          · rintro ⟨y, target, same, found, rfl⟩
            cases same
            exact ⟨target, found, rfl⟩

end PromptForm.LabelMap

namespace PromptForm

/-- Can a condition be read, and does it refer to one of some labels? -/
def isKnown (labels : List String) (expr : String) : Bool :=
  match Expression.parse? expr.toList with
  | .ok (some x) =>
    labels.any fun label => (referenceKeys x.reference).any (referenceKeys label).contains
  | _ => false

theorem isKnown_iff {labels : List String} {expr : String} :
    isKnown labels expr = true ↔ ∃ x, Expression.parse? expr.toList = .ok (some x) ∧
      ∃ label ∈ labels, ∃ key ∈ referenceKeys x.reference, key ∈ referenceKeys label := by
  simp only [isKnown]
  cases Expression.parse? expr.toList with
  | error e => simp
  | ok found => cases found <;> simp

theorem isKnown_mono {labels more : List String} (subset : ∀ label ∈ labels, label ∈ more)
    {expr : String} (h : isKnown labels expr = true) : isKnown more expr = true := by
  obtain ⟨x, read, label, listed, refers⟩ := isKnown_iff.mp h
  exact isKnown_iff.mpr ⟨x, read, label, subset label listed, refers⟩

end PromptForm
