import PromptForm.Hosting.Address

/-! # Paths below a base

A base below which one path can be put takes any other path of one plain name that is no longer.
-/

namespace PromptForm.Address

/-- The beginning of a path is all that is checked of it. -/
theorem ofParts_of_checkPath {scheme authority p q : List Char}
    {query query' fragment fragment' : Option (List Char)} {a : Address}
    (alike : ∀ hasScheme hasHost, checkPath hasScheme hasHost q = checkPath hasScheme hasHost p)
    (h : ofParts scheme authority p query fragment = .ok a) :
    ∃ b, ofParts scheme authority q query' fragment' = .ok b := by
  simp only [ofParts] at h ⊢
  cases normalized : (Host.normalize (splitPort (splitUser authority).2).1).mapError
      fun form => AddressFault.badHost form (splitPort (splitUser authority).2).1 with
  | error fault =>
      rw [normalized] at h
      cases h
  | ok host =>
      cases read : readPort scheme (splitPort (splitUser authority).2).2 with
      | error fault =>
          rw [normalized, read] at h
          cases h
      | ok port =>
          rw [normalized, read] at h
          simp only [bind, Except.bind, alike] at h ⊢
          split at h
          · cases h
          · exact ⟨_, rfl⟩

section Marks

variable {mark : Char} {front : List Char}

theorem takeWhile_unmarked (h : mark ∉ front) (rest : List Char) :
    (front ++ rest).takeWhile (· != mark) = front ++ rest.takeWhile (· != mark) :=
  List.takeWhile_append_of_pos fun _ hc => bne_iff_ne.mpr fun same => h (same ▸ hc)

theorem splitMark_marked (h : mark ∉ front) (rest : List Char) :
    splitMark mark (front ++ mark :: rest) = (front, some rest) := by
  have taken : (front ++ mark :: rest).takeWhile (· != mark) = front := by
    simp [takeWhile_unmarked h]
  simp [splitMark, taken]

theorem splitMark_unmarked (h : mark ∉ front) : splitMark mark front = (front, none) := by
  have taken : front.takeWhile (· != mark) = front := by
    simpa using takeWhile_unmarked h []
  simp [splitMark, taken]

end Marks

/-- A name in a path. -/
structure PlainName (name : List Char) : Prop where
  noQuery : '?' ∉ name
  noSlash : name.head? ≠ some '/'

theorem checkPath_append {front name other : List Char} (rooted : front ≠ [])
    (h : name.head? ≠ some '/') (h' : other.head? ≠ some '/') (hasScheme hasHost : Bool) :
    checkPath hasScheme hasHost (front ++ name) = checkPath hasScheme hasHost (front ++ other) := by
  have noSlash {cs : List Char} (h : cs.head? ≠ some '/') : ['/'].isPrefixOf cs = false := by
    cases cs with
    | nil => rfl
    | cons c rest =>
        have apart : '/' ≠ c := fun same => h (same ▸ rfl)
        simp [List.isPrefixOf, apart]
  cases front with
  | nil => exact absurd rfl rooted
  | cons c rest =>
      have doubled : ['/', '/'].isPrefixOf (c :: (rest ++ name)) =
          ['/', '/'].isPrefixOf (c :: (rest ++ other)) := by
        cases rest with
        | nil => simp only [List.nil_append, List.isPrefixOf, noSlash h, noSlash h']
        | cons d rest => simp only [List.cons_append, List.isPrefixOf]
      simp only [checkPath, doubled, List.cons_append, List.isEmpty_cons, List.head?_cons]
      rfl

theorem withTarget_eq_ok_iff {a b : Address} {target : List Char} :
    a.withTarget target = .ok b ↔
      a.scheme.length ≤ maxLength ∧ a.authority.length ≤ maxLength ∧
        (splitMark '?' target).1.length ≤ maxLength ∧
        ((splitMark '?' target).2.getD []).length ≤ maxLength ∧
        (a.fragment.getD []).length ≤ maxLength ∧
        ofParts a.scheme a.authority (splitMark '?' target).1 (splitMark '?' target).2 a.fragment =
          .ok b := by
  simp only [withTarget]
  split
  · rename_i name part found
    have long := List.find?_some found
    have part := List.mem_of_find?_eq_some found
    refine iff_of_false nofun fun h => ?_
    obtain ⟨scheme, authority, path, query, fragment, _⟩ := h
    simp only [List.mem_cons, Prod.mk.injEq, List.not_mem_nil, or_false] at part
    rcases part with ⟨_, rfl⟩ | ⟨_, rfl⟩ | ⟨_, rfl⟩ | ⟨_, rfl⟩ | ⟨_, rfl⟩ <;>
      simp only [decide_eq_true_eq] at long <;> omega
  · rename_i found
    have short := List.find?_eq_none.mp found
    simp only [List.forall_mem_cons, decide_eq_true_eq, Nat.not_lt] at short
    obtain ⟨scheme, authority, path, query, fragment, _⟩ := short
    simp only [scheme, authority, path, query, fragment, true_and]

/-- What takes a name at the end takes a shorter one in its place. -/
theorem withTarget_of_shorter {a b : Address} {front name other : List Char} (rooted : front ≠ [])
    (plain : PlainName name) (plain' : PlainName other) (shorter : other.length ≤ name.length)
    (h : a.withTarget (front ++ name) = .ok b) : ∃ c, a.withTarget (front ++ other) = .ok c := by
  obtain ⟨scheme, authority, path, query, fragment, made⟩ := withTarget_eq_ok_iff.mp h
  simp only [withTarget_eq_ok_iff]
  by_cases marked : '?' ∈ front
  · obtain ⟨before, after, rfl, unmarked⟩ := List.eq_append_cons_of_mem marked
    simp only [List.append_assoc, List.cons_append, splitMark_marked unmarked, Option.getD_some,
      List.length_append] at *
    obtain ⟨c, made'⟩ := ofParts_of_checkPath (fun _ _ => rfl) made
    exact ⟨c, scheme, authority, path, by omega, fragment, made'⟩
  · have whole : '?' ∉ front ++ name := by simp [marked, plain.noQuery]
    have whole' : '?' ∉ front ++ other := by simp [marked, plain'.noQuery]
    simp only [splitMark_unmarked whole, splitMark_unmarked whole', Option.getD_none,
      List.length_append] at *
    obtain ⟨c, made'⟩ :=
      ofParts_of_checkPath (checkPath_append rooted plain'.noSlash plain.noSlash) made
    exact ⟨c, scheme, authority, by omega, query, fragment, made'⟩

theorem target_ne_nil (a : Address) : a.target ≠ [] := by
  intro h
  simp only [target] at h
  split at h
  · cases h
  · rename_i filled
    simp_all

/-- A base that takes the path of the workspaces takes the path of the forms. -/
theorem below_forms {base a : Address} (h : base.below "/workspaces" = .ok a) :
    ∃ b, base.below "/forms" = .ok b := by
  have workspaces : parse "/workspaces".toList =
    .ok ⟨[], [], [], none, "/workspaces".toList, none, none⟩ := rfl
  have forms : parse "/forms".toList = .ok ⟨[], [], [], none, "/forms".toList, none, none⟩ := rfl
  simp only [below, workspaces, forms] at h ⊢
  exact withTarget_of_shorter base.target_ne_nil ⟨by decide, by decide⟩ ⟨by decide, by decide⟩
    (by decide) h

end PromptForm.Address
