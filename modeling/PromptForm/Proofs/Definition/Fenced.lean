import PromptForm.Definition
import PromptForm.Proofs.Json.Prose
import PromptForm.Proofs.Text.Fence

/-! # Definitions in a fence

A definition in a fence gives the same form as without it, unless there is a fence inside a text of
the definition: then it is cut there, what is left is no JSON text, and no form comes of it.
-/

namespace PromptForm

/-- What an opening fence may be followed by on its line. -/
def Text.IsFenceWord (word : List Char) : Prop :=
  word = [] ∨ word.map Char.toLower = "json".toList

/-- A text on lines of its own in a fence, with `lead` and `trail` around it. -/
def inFence (lead word s trail : String) : String :=
  lead ++ "```" ++ word ++ "\n" ++ s ++ "\n```" ++ trail

namespace Text

theorem dropFence?_word {word : List Char} (h : IsFenceWord word) (cs : List Char) :
    dropFence? (fence ++ (word ++ '\n' :: cs)) = some (trimStart cs) := by
  have dropped : (dropWord? "json".toList (word ++ '\n' :: cs)).getD (word ++ '\n' :: cs) =
      '\n' :: cs := by
    rw [dropWord?_append (forall_of_all (by decide))]
    rcases h with rfl | letters
    · rfl
    · rw [dropWord?_of_toLower letters]
      rfl
  rw [dropFence?, dropPrefix?_eq_some.mpr rfl, Option.map_some, dropped]
  rfl

theorem trim_inFence {lead word trail : String} (before : isBlankText lead = true)
    (behind : isBlankText trail = true) (s : String) :
    trim (inFence lead word s trail).toList =
      fence ++ (word.toList ++ '\n' :: (s.toList ++ '\n' :: fence)) := by
  have around := trim_around (x := '\x60') (y := '\x60') (by decide) (by decide) lead.toList
    (['\x60', '\x60'] ++ word.toList ++ '\n' :: (s.toList ++ ['\n', '\x60', '\x60']))
    trail.toList before behind
  simpa [inFence, fence] using around

/-- A fence is cut at the first fence that follows. -/
theorem fenced?_inFence {lead word trail : String} (before : isBlankText lead = true)
    (named : IsFenceWord word.toList) (behind : isBlankText trail = true) {s : String}
    (start : trimStart (s.toList ++ '\n' :: fence) = s.toList ++ '\n' :: fence) :
    fenced? (inFence lead word s trail).toList =
      some (trim (((splitAtFirst? fence s.toList).map (·.1)).getD (s.toList ++ ['\n']))) := by
  rw [fenced?, trim_inFence before behind, dropFence?_word named, start]
  simp only [Option.bind_eq_bind, Option.bind_some, splitAtFirst?_past (by decide : '\n' ∉ fence)]
  cases splitAtFirst? fence s.toList <;> rfl

end Text

namespace Definition

theorem formOfPrompt?_of_jsonText? {prompt other : String}
    (h : jsonText? prompt.toList = jsonText? other.toList) :
    formOfPrompt? prompt = formOfPrompt? other := by
  simp only [formOfPrompt?, h]

theorem formOfPrompt?_of_not_json {prompt : String} {text : List Char}
    (found : jsonText? prompt.toList = some text) (read : Json.read? text = .ok none) :
    formOfPrompt? prompt = .ok none := by
  simp only [formOfPrompt?, found, read]
  rfl

theorem jsonText?_object (inner : List Char) :
    jsonText? ('\x7b' :: (inner ++ ['\x7d'])) = some ('\x7b' :: (inner ++ ['\x7d'])) := by
  have around : Text.trim ('\x7b' :: (inner ++ ['\x7d'])) = '\x7b' :: (inner ++ ['\x7d']) :=
    Text.trim_around (by decide) (by decide) [] inner [] rfl rfl
  have plain : Text.fenced? ('\x7b' :: (inner ++ ['\x7d'])) = none := by
    rw [Text.fenced?, around]
    rfl
  simp only [jsonText?, around, plain]
  rfl

theorem jsonText?_of_fenced? {cs inner : List Char} (h : Text.fenced? cs = some inner)
    (filled : inner ≠ []) : jsonText? cs = some inner := by
  have same : Text.fenced? (Text.trim cs) = some inner := by
    rw [Text.fenced?, Text.trim_trim]
    exact h
  have kept : (some inner).filter (!·.isEmpty) = some inner := by simpa using filled
  simp only [jsonText?, same, kept]

/-- What is before a fence in an object is no JSON text. -/
theorem read?_before_fence {cs front back : List Char} {v : Json}
    (opens : cs.head? = some '\x7b') (read : Json.read? cs = .ok (some v))
    (split : Text.splitAtFirst? Text.fence cs = some (front, back)) :
    Text.trim front ≠ [] ∧ Json.read? (Text.trim front) = .ok none := by
  obtain rfl := Text.splitAtFirst?_eq split
  cases front with
  | nil => cases opens
  | cons c rest =>
      obtain rfl : c = '\x7b' := Option.some.inj opens
      have begins : Text.trim ('\x7b' :: rest) = '\x7b' :: Text.trimEnd rest :=
        Text.stripWhere_past (by decide) [] rest
      obtain ⟨blanks, rejoin⟩ : Text.trimEnd rest <+: rest := Text.dropEndWhile_isPrefix _ _
      refine ⟨begins ▸ List.cons_ne_nil _ _, ?_⟩
      rw [begins]
      have rejoined : '\x7b' :: Text.trimEnd rest ++ (blanks ++ (Text.fence ++ back)) =
          '\x7b' :: rest ++ (Text.fence ++ back) := by
        rw [← List.append_assoc, List.cons_append, rejoin]
      rw [← rejoined] at read
      refine Json.read?_front read ?_
      refine List.ne_nil_of_mem (a := '\x60') (Text.mem_dropWhile (by decide) ?_)
      simp [Text.fence]

/-- A definition in a fence gives the form that it gives without, unless there is a fence in it:
then it gives none. -/
theorem formOfPrompt?_inFence {lead word j trail : String} (before : isBlankText lead = true)
    (named : Text.IsFenceWord word.toList) (behind : isBlankText trail = true)
    (opens : j.toList.head? = some '\x7b') (closes : j.toList.getLast? = some '\x7d')
    (read : (Json.read j.toList).isOk = true) : formOfPrompt? (inFence lead word j trail) =
      if Text.contains Text.fence j.toList then .ok none else formOfPrompt? j := by
  obtain ⟨inner, braces⟩ := Text.exists_inner opens closes
  obtain ⟨v, object⟩ := Json.read?_of_isOk read
  have cut := Text.fenced?_inFence before named behind (s := j) (by
    rw [braces]
    exact List.dropWhile_cons_of_neg (by decide))
  cases split : Text.splitAtFirst? Text.fence j.toList with
  | some found =>
      obtain ⟨front, back⟩ := found
      obtain ⟨filled, no_json⟩ := read?_before_fence opens object split
      rw [split, Option.map_some, Option.getD_some] at cut
      rw [if_pos (by simp [Text.contains, split])]
      exact formOfPrompt?_of_not_json (jsonText?_of_fenced? cut filled) no_json
  | none =>
      have whole : Text.trim (j.toList ++ ['\n']) = j.toList := by
        rw [braces, List.cons_append, List.append_assoc]
        exact Text.trim_around (by decide) (by decide) [] inner ['\n'] rfl (by decide)
      rw [split, Option.map_none, Option.getD_none, whole] at cut
      have bare : jsonText? j.toList = some j.toList := by
        rw [braces]
        exact jsonText?_object inner
      have filled : j.toList ≠ [] := by simp [braces]
      rw [if_neg (by simp [Text.contains, split])]
      exact formOfPrompt?_of_jsonText? ((jsonText?_of_fenced? cut filled).trans bare.symm)

/-- A definition of one question. -/
def snippetDefinition (label : String) : String :=
  "\x7b\"fields\": [\x7b\"type\": \"text\", \"label\": \"" ++ label ++ "\"\x7d]\x7d"

theorem formOfPrompt?_inFence_plain :
    formOfPrompt? (inFence " " "JSON" (snippetDefinition "Code") "\n") =
      formOfPrompt? (snippetDefinition "Code") :=
  formOfPrompt?_inFence (by decide +kernel) (by unfold Text.IsFenceWord; decide +kernel)
    (by decide +kernel) (by decide +kernel) (by decide +kernel) (by decide +kernel)

/-- A definition whose label has a fence in it is lost in a fence. -/
theorem formOfPrompt?_inFence_ticks :
    (Json.read (snippetDefinition "Code (```)").toList).isOk = true ∧
      formOfPrompt? (inFence "" "json" (snippetDefinition "Code (```)") "") ≠
        formOfPrompt? (snippetDefinition "Code (```)") := by
  refine ⟨by decide +kernel, fun same => ?_⟩
  have found := congrArg (fun outcome => outcome.toOption.map Option.isSome) same
  exact absurd found (by decide +kernel)

end Definition

end PromptForm
