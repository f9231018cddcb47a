import PromptForm.Oracle.Basic
import PromptForm.Proofs.Json.Prose
import PromptForm.Proofs.Text.Fence

/-! # Objects wrapped in prose and fences

An object in a text is read as the object alone, whatever prose and fences are around it: either the
whole text is the object with white space behind it, or it is no JSON text and the object is found
between the first and the last brace. So an oracle may wrap its reply.
-/

namespace PromptForm

/-- A text without braces, brackets and quotes. -/
def Text.IsProse (cs : List Char) : Prop :=
  ∀ c ∈ cs, c ∉ ['\x7b', '\x7d', '[', ']', '"']

namespace Json

/-- Prose in front of an object leaves nothing to be read but the object. -/
theorem readSome?_front {pre object : List Char} {v : Json} (before : Text.IsProse pre)
    (start : ∀ c ∈ pre.head?, Text.isBlank c = false)
    (read : read? ('\x7b' :: object) = .ok (some v)) (post : List Char) :
    readSome? (pre ++ '\x7b' :: (object ++ post)) = .ok none ∨
      readSome? (pre ++ '\x7b' :: (object ++ post)) = .ok (some v) := by
  cases pre with
  | nil =>
      obtain ⟨entries, rfl⟩ := entries_of_read? read
      rw [List.nil_append, ← List.cons_append, readSome?, read?_append read]
      split
      · exact .inr rfl
      · exact .inl rfl
  | cons c rest =>
      have other := before c List.mem_cons_self
      simp only [List.mem_cons, List.not_mem_nil, or_false, not_or] at other
      have space : isSpace c = false := by
        refine Classical.byContradiction fun space => ?_
        have blank := start c rfl
        simp only [isSpace, Bool.not_eq_false, Bool.or_eq_true, beq_iff_eq] at space
        rcases space with ((rfl | rfl) | rfl) | rfl <;> exact absurd blank (by decide)
      refine .inl ?_
      rw [readSome?, List.cons_append,
        read?_prose space other.2.2.2.2 other.1 other.2.2.1 (by simp)]
      rfl

/-- An object is read as the same value in prose and fences as alone. -/
theorem within?_object {pre inner post : List Char} {v : Json} (before : Text.IsProse pre)
    (behind : Text.IsProse post) (read : read? ('\x7b' :: (inner ++ ['\x7d'])) = .ok (some v)) :
    within? (pre ++ '\x7b' :: (inner ++ '\x7d' :: post)) = .ok (some v) := by
  have before' : Text.IsProse (Text.openingRest pre) := fun c hc =>
    before c ((Text.openingRest_suffix pre).subset hc)
  have behind' : Text.IsProse (Text.closingRest post) := fun c hc =>
    behind c ((Text.closingRest_isPrefix post).subset hc)
  have alone : readSome? ('\x7b' :: (inner ++ ['\x7d'])) = .ok (some v) := by
    obtain ⟨entries, rfl⟩ := entries_of_read? read
    rw [readSome?, read]
    rfl
  have regroup : inner ++ '\x7d' :: Text.closingRest post =
      (inner ++ ['\x7d']) ++ Text.closingRest post := by simp
  have found := Text.braced?_object (Text.openingRest pre) inner (Text.closingRest post)
    (fun hc => before' _ hc (by simp)) (fun hc => behind' _ hc (by simp))
  have start : ∀ c ∈ (Text.openingRest pre).head?, Text.isBlank c = false := by
    intro c hc
    obtain ⟨rest, front⟩ := List.head?_eq_some_iff.mp hc
    exact Text.not_blank_openingRest front
  have whole := readSome?_front before' start read (Text.closingRest post)
  rw [← regroup] at whole
  simp only [within?, Text.stripFences_object, found]
  rcases whole with nothing | value
  · rw [nothing]
    exact alone
  · rw [value]
    rfl

end Json

namespace Oracle

theorem formOfText_object {s : String} {v : Json} (filled : isBlankText s = false)
    (read : Json.within? s.toList = .ok (some v)) : formOfText s = formOfJson v := by
  simp only [formOfText, filled, read]
  rfl

theorem formOfText_wrapped {inner : List Char} {v : Json} {pre post : List Char}
    (before : Text.IsProse pre) (behind : Text.IsProse post)
    (read : Json.read? ('\x7b' :: (inner ++ ['\x7d'])) = .ok (some v)) {s : String}
    (text : s.toList = pre ++ '\x7b' :: (inner ++ '\x7d' :: post)) :
    formOfText s = formOfJson v := by
  refine formOfText_object ?_ ?_
  · refine Bool.eq_false_iff.mpr fun blank => ?_
    have brace := List.all_eq_true.mp blank '\x7b' (by rw [text]; simp)
    exact absurd brace (by decide)
  · rw [text]
    exact Json.within?_object before behind read

/-- An oracle that wraps its reply in prose and fences gives the same form, or breaks in the same
way, as one that replies with the object alone. -/
theorem formOfPrompt_wrapped {oracle wrapping : Oracle} {prompt : String} (pre j post : String)
    (opens : j.toList.head? = some '\x7b') (closes : j.toList.getLast? = some '\x7d')
    (read : (Json.read j.toList).isOk = true) (before : Text.IsProse pre.toList)
    (behind : Text.IsProse post.toList) (replies : oracle (.ofPrompt prompt) = .text j)
    (wraps : wrapping (.ofPrompt prompt) = .text (pre ++ j ++ post)) :
    formOfPrompt (some wrapping) prompt = formOfPrompt (some oracle) prompt := by
  obtain ⟨inner, braces⟩ := Text.exists_inner opens closes
  rw [braces] at read
  obtain ⟨v, object⟩ := Json.read?_of_isOk read
  have nothing : Text.IsProse [] := List.forall_mem_nil _
  have alone : formOfText j = formOfJson v := formOfText_wrapped nothing nothing object braces
  have wrapped : formOfText (pre ++ j ++ post) = formOfJson v :=
    formOfText_wrapped before behind object (by simp [braces])
  simp only [formOfPrompt, replies, wraps, formOfReply, wrapped, alone]

/-- A form for one pet. -/
def petReply : String :=
  "\x7b\"title\": \"Pets\", \"sections\": [\x7b\"fields\": [\x7b\"label\": \"Name\"\x7d]\x7d]\x7d"

theorem formOfPrompt_wrappedPetReply :
    formOfPrompt (some fun _ => .text
      ("1 null, as you asked:\n```json\n" ++ petReply ++ "\n```\nEnjoy!")) "x" =
      formOfPrompt (some fun _ => .text petReply) "x" :=
  formOfPrompt_wrapped "1 null, as you asked:\n```json\n" petReply "\n```\nEnjoy!"
    (by decide +kernel) (by decide +kernel) (by decide +kernel)
    (by simp [Text.IsProse]) (by simp [Text.IsProse]) rfl rfl

end Oracle

end PromptForm
