import PromptForm.Proofs.Json.Reader
import PromptForm.Proofs.Text.Line

/-! # Prose in front of a brace

A text that begins with neither a quote, a brace nor a bracket is read as a word or a number, and
neither reaches over a brace. So prose with a brace in it is no JSON text, even where it begins
with a number or with a word such as `null`.
-/

namespace PromptForm.Json

theorem readFraction?_brace {cs digits rest : List Char}
    (h : readFraction? cs = some (digits, rest)) (brace : '\x7b' ∈ cs) : '\x7b' ∈ rest := by
  unfold readFraction? at h
  split at h
  · simp only [Option.ite_none_left_eq_some, Option.some.injEq, Prod.mk.injEq] at h
    obtain ⟨_, _, rfl⟩ := h
    exact Text.mem_dropWhile (by decide) ((List.mem_cons.mp brace).resolve_left (by decide))
  · cases h

theorem splitSign_brace {cs : List Char} (brace : '\x7b' ∈ cs) :
    '\x7b' ∈ (Numeral.splitSign cs).2 := by
  unfold Numeral.splitSign
  split
  · exact (List.mem_cons.mp brace).resolve_left (by decide)
  · exact (List.mem_cons.mp brace).resolve_left (by decide)
  · exact brace

theorem readPower?_brace {cs rest : List Char} {power : Int}
    (h : readPower? cs = some (power, rest)) (brace : '\x7b' ∈ cs) : '\x7b' ∈ rest := by
  cases cs with
  | nil => cases h
  | cons mark body =>
      simp only [readPower?, Option.ite_none_right_eq_some, Bool.and_eq_true, Bool.or_eq_true,
        beq_iff_eq, Option.some.injEq, Prod.mk.injEq] at h
      obtain ⟨⟨letter, _⟩, _, rfl⟩ := h
      have behind : '\x7b' ∈ body := by
        refine (List.mem_cons.mp brace).resolve_left fun same => ?_
        rw [← same] at letter
        exact absurd letter (by decide)
      exact Text.mem_dropWhile (by decide) (splitSign_brace behind)

theorem drop_wholeDigits_brace {cs : List Char} (brace : '\x7b' ∈ cs) :
    '\x7b' ∈ cs.drop (wholeDigits cs).length := by
  cases cs with
  | nil => exact brace
  | cons c rest =>
      by_cases zero : c = '0'
      · subst zero
        exact (List.mem_cons.mp brace).resolve_left (by decide)
      · rw [wholeDigits_of_ne zero, drop_takeWhile]
        exact Text.mem_dropWhile (by decide) brace

theorem readUnsigned_brace {negative : Bool} {start cs rest : List Char} {v : Json}
    (h : readUnsigned negative start cs = .ok (v, rest)) (brace : '\x7b' ∈ cs) :
    '\x7b' ∈ rest := by
  have body := drop_wholeDigits_brace brace
  simp only [readUnsigned] at h
  generalize cs.drop (wholeDigits cs).length = body at *
  split at h
  · cases h
  · split at h
    · split at h
      · cases h
        exact body
      · cases h
    · rename_i fraction later found no_power
      cases h
      exact readFraction?_brace found body
    · rename_i power later no_fraction found
      cases h
      rw [no_fraction] at found
      exact readPower?_brace found body
    · rename_i fraction middle power later found found'
      cases h
      rw [found] at found'
      exact readPower?_brace found' (readFraction?_brace found body)

theorem readNumber_brace {cs rest : List Char} {v : Json} (h : readNumber cs = .ok (v, rest))
    (brace : '\x7b' ∈ cs) : '\x7b' ∈ rest := by
  unfold readNumber at h
  split at h
  · exact readUnsigned_brace h ((List.mem_cons.mp brace).resolve_left (by decide))
  · exact readUnsigned_brace h brace

theorem readNumber_ne_nested (cs : List Char) (e : TooNested) :
    readNumber cs ≠ .error (.tooNested e) := by
  unfold readNumber
  split <;> exact readUnsigned_ne_nested _ _ _ e

theorem not_mem_words : ∀ entry ∈ words, '\x7b' ∉ entry.1.toList := by
  decide

theorem readWord_brace {cs rest : List Char} {v : Json} (h : readWord cs = .ok (v, rest))
    (brace : '\x7b' ∈ cs) : '\x7b' ∈ rest := by
  unfold readWord at h
  split at h
  · rename_i word value found
    have begins := List.find?_some found
    obtain ⟨behind, rfl⟩ := List.isPrefixOf_iff_prefix.mp begins
    cases h
    have outside := not_mem_words _ (List.mem_of_find?_eq_some found)
    rw [← String.length_toList, List.drop_left]
    exact (List.mem_append.mp brace).resolve_left outside
  · exact readNumber_brace h brace

theorem readWord_ne_nested (cs : List Char) (e : TooNested) :
    readWord cs ≠ .error (.tooNested e) := by
  unfold readWord
  split
  · exact nofun
  · exact readNumber_ne_nested cs e

/-- Prose with a brace in it is no JSON text. -/
theorem read?_prose {c : Char} {rest : List Char} (space : isSpace c = false) (quote : c ≠ '"')
    (brace : c ≠ '\x7b') (bracket : c ≠ '[') (within : '\x7b' ∈ rest) :
    read? (c :: rest) = .ok none := by
  by_cases mark : c = '\ufeff'
  · subst mark
    rfl
  rw [read?_eq space mark, readValue_other quote brace bracket]
  cases outcome : readWord (c :: rest) with
  | ok found =>
      obtain ⟨v, after⟩ := found
      have kept : '\x7b' ∈ skipSpace after :=
        Text.mem_dropWhile (by decide) (readWord_brace outcome (List.mem_cons_of_mem c within))
      simp only
      rw [if_neg (List.ne_nil_of_mem kept)]
  | error e =>
      cases e with
      | tooNested e => exact absurd outcome (readWord_ne_nested _ e)
      | malformed flaw n => rfl
      | tooLong n => rfl

end PromptForm.Json
