import PromptForm.Proofs.Json.Reader
import PromptForm.Proofs.Text.Line
import PromptForm.Text.Fence

/-! # Fences around objects

Stripping fences takes nothing away from an object in the text, and the object is found between the
braces. A fence at the beginning gives what is before the next fence.
-/

namespace PromptForm

namespace Text

/-! ## Stripping -/

theorem dropFence?_past {x : Char} (other : x ∉ fence) (letter : ∀ p ∈ "json".toList,
    sameLetter p x = false) (keep : isBlank x = false) (cs rest : List Char) :
    dropFence? (cs ++ x :: rest) = (dropFence? cs).map (· ++ x :: rest) := by
  simp only [dropFence?, dropPrefix?_past other, Option.map_map]
  congr 1
  funext after
  simp only [Function.comp, dropWord?_append letter]
  cases dropWord? "json".toList after <;> exact dropWhile_past keep _ _

theorem dropFence?_suffix {cs rest : List Char} (h : dropFence? cs = some rest) : rest <:+ cs := by
  obtain ⟨after, fenced, rfl⟩ := Option.map_eq_some_iff.mp h
  have body : (dropWord? "json".toList after).getD after <:+ after := by
    cases word : dropWord? "json".toList after with
    | none => exact List.suffix_rfl
    | some rest => exact dropWord?_suffix word
  exact (List.dropWhile_suffix _).trans (body.trans ⟨fence, (dropPrefix?_eq_some.mp fenced).symm⟩)

theorem dropClosingFence_past {x : Char} (other : x ∉ fence) (keep : isBlank x = false)
    (front cs : List Char) :
    dropClosingFence (front ++ x :: cs) = front ++ x :: dropClosingFence cs := by
  have turned : (front ++ x :: cs).reverse = cs.reverse ++ x :: front.reverse := by simp
  simp only [dropClosingFence, turned, dropPrefix?_past other]
  cases dropPrefix? fence cs.reverse with
  | none => rfl
  | some rest =>
      rw [Option.map_some]
      simp [dropWhile_past keep]

theorem dropClosingFence_isPrefix (cs : List Char) : dropClosingFence cs <+: cs := by
  simp only [dropClosingFence]
  split
  · rename_i rest found
    rw [← List.reverse_suffix, List.reverse_reverse, dropPrefix?_eq_some.mp found]
    exact (List.dropWhile_suffix _).trans (List.suffix_append fence rest)
  · exact List.prefix_rfl

/-- What stripping leaves of the text before an object. -/
def openingRest (pre : List Char) : List Char :=
  trimStart ((dropFence? (trimStart pre)).getD (trimStart pre))

/-- What stripping leaves of the text behind an object. -/
def closingRest (post : List Char) : List Char := trimEnd (dropClosingFence (trimEnd post))

theorem openingRest_suffix (pre : List Char) : openingRest pre <:+ pre := by
  have stripped : (dropFence? (trimStart pre)).getD (trimStart pre) <:+ trimStart pre := by
    cases found : dropFence? (trimStart pre) with
    | none => exact List.suffix_rfl
    | some rest => exact dropFence?_suffix found
  exact (List.dropWhile_suffix _).trans (stripped.trans (List.dropWhile_suffix _))

theorem closingRest_isPrefix (post : List Char) : closingRest post <+: post :=
  (dropEndWhile_isPrefix _ _).trans
    ((dropClosingFence_isPrefix _).trans (dropEndWhile_isPrefix _ _))

/-- The text before an object does not begin with white space when it is stripped. -/
theorem not_blank_openingRest {pre rest : List Char} {c : Char} (h : openingRest pre = c :: rest) :
    isBlank c = false :=
  dropWhile_eq_self.mp (List.dropWhile_idempotent isBlank
    ((dropFence? (trimStart pre)).getD (trimStart pre))) c
    (by rw [show List.dropWhile isBlank _ = c :: rest from h]; rfl)

/-- Stripping keeps an object and everything in it. -/
theorem stripFences_object (pre inner post : List Char) :
    stripFences (pre ++ '\x7b' :: (inner ++ '\x7d' :: post)) =
      openingRest pre ++ '\x7b' :: (inner ++ '\x7d' :: closingRest post) := by
  have around (front back : List Char) : trim (front ++ '\x7b' :: (inner ++ '\x7d' :: back)) =
      trimStart front ++ '\x7b' :: (inner ++ '\x7d' :: trimEnd back) := by
    rw [trim, stripWhere_past (by decide), ← List.cons_append, dropEndWhile_past (by decide)]
    rfl
  have opened (front back : List Char) :
      (dropFence? (front ++ '\x7b' :: back)).getD (front ++ '\x7b' :: back) =
        (dropFence? front).getD front ++ '\x7b' :: back := by
    rw [dropFence?_past (by decide) (forall_of_all (by decide)) (by decide)]
    cases dropFence? front <;> rfl
  have closed (front back : List Char) :
      dropClosingFence (front ++ '\x7b' :: (inner ++ '\x7d' :: back)) =
        front ++ '\x7b' :: (inner ++ '\x7d' :: dropClosingFence back) := by
    have regroup (back : List Char) : front ++ '\x7b' :: (inner ++ '\x7d' :: back) =
        (front ++ '\x7b' :: inner) ++ '\x7d' :: back := by simp
    rw [regroup, dropClosingFence_past (by decide) (by decide), regroup]
  simp only [stripFences, around, opened, closed]
  rfl

/-- A text in braces has something between them. -/
theorem exists_inner {cs : List Char} (opens : cs.head? = some '\x7b')
    (closes : cs.getLast? = some '\x7d') : ∃ inner, cs = '\x7b' :: (inner ++ ['\x7d']) := by
  cases cs with
  | nil => cases opens
  | cons c rest =>
      obtain rfl : c = '\x7b' := Option.some.inj opens
      cases rest using List.reverseRecOn with
      | nil => cases closes
      | append_singleton inner last =>
          rw [← List.cons_append, List.getLast?_append] at closes
          obtain rfl : last = '\x7d' := Option.some.inj closes
          exact ⟨inner, rfl⟩

/-- The braces around an object are found if no others are outside. -/
theorem braced?_object (pre inner post : List Char) (before : '\x7b' ∉ pre)
    (behind : '\x7d' ∉ post) : braced? (pre ++ '\x7b' :: (inner ++ '\x7d' :: post)) =
      some ('\x7b' :: (inner ++ ['\x7d'])) := by
  have start : pre.dropWhile (· != '\x7b') = [] :=
    List.dropWhile_eq_nil_iff.mpr fun c hc => bne_iff_ne.mpr fun same => before (same ▸ hc)
  have stop : dropEndWhile (· != '\x7d') post = [] := by
    rw [dropEndWhile, List.reverse_eq_nil_iff, List.dropWhile_eq_nil_iff]
    exact fun c hc => bne_iff_ne.mpr fun same => behind (same ▸ List.mem_reverse.mp hc)
  rw [braced?, dropWhile_past (by decide), start, List.nil_append, ← List.cons_append,
    dropEndWhile_past (by decide), stop, List.cons_append]

end Text

end PromptForm
