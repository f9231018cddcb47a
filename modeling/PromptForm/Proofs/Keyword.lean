import PromptForm.Proofs.Compiler.Groups
import PromptForm.Proofs.Lowering.Renaming
import PromptForm.Proofs.Text.Lower
import PromptForm.Proofs.Text.Search

/-! # Questions from keywords

A text mentions a stock question when a word of the question stands in its lowercase. Two lines
mention what one of them does, so it makes no difference which of them comes first. Something is
asked in any case, and each title is followed by the input that takes the answer.
-/

namespace PromptForm

/-- What is made of stock clusters is the same with any source of ids, but for the ids. -/
theorem Cluster.drawList_mirrors {ids ids' : IdSource} {ρ : String → String}
    (renames : ids.Renames ids' ρ) {cs : List Cluster} (stock : ∀ c ∈ cs, c.Stock) :
    Draw.Mirrors ids ids' (List.map (Block.rename ρ)) (drawList cs) (drawList cs) := by
  have each : ∀ c ∈ cs, Draw.Mirrors ids ids' (List.map (Block.rename ρ)) c.draw c.draw := by
    intro c hc
    obtain ⟨label, asks⟩ := (stock c hc).asks
    exact Cluster.draw_mirrors renames asks
  refine (Draw.Mirrors.each each).bind fun groups => ?_
  rw [← List.map_flatten]
  exact .pure groups.flatten

namespace Keyword

open Text

/-- A word of the question stands in the lowercase of a text. -/
def Question.MentionedIn (k : Question) (text : String) : Prop :=
  ∃ word ∈ k.words, Stands word.toList (lower text.toList)

/-- The words of the stock questions begin with word characters and are on one line. -/
theorem words_sound : ∀ k ∈ questions, ∀ word ∈ k.words,
    startsWithWord word.toList = true ∧ '\n' ∉ word.toList := by
  decide

section Mentioned

variable {k : Question} (stock : k ∈ questions)

include stock

theorem isAskedIn_iff (text : String) :
    k.isAskedIn (lower text.toList) = true ↔ k.MentionedIn text := by
  rw [Question.isAskedIn, List.any_eq_true]
  refine exists_congr fun word => and_congr_right fun hword => ?_
  exact hasPhrase_iff (words_sound k stock word hword).1

theorem mentionedIn_lines (p q : String) :
    k.MentionedIn (p ++ "\n" ++ q) ↔ k.MentionedIn p ∨ k.MentionedIn q := by
  have lines : lower (p ++ "\n" ++ q).toList = lower p.toList ++ '\n' :: lower q.toList := by
    rw [String.toList_append, String.toList_append, List.append_assoc]
    exact lower_lines p.toList q.toList
  have wordless : isWord '\n' = false := by decide
  have apart (word : String) (listed : word ∈ k.words) :
      Stands word.toList (lower (p ++ "\n" ++ q).toList) ↔
        Stands word.toList (lower p.toList) ∨ Stands word.toList (lower q.toList) := by
    rw [lines]
    exact stands_apart_iff (words_sound k stock word listed).2 wordless _ _
  constructor
  · rintro ⟨word, listed, stands⟩
    rcases (apart word listed).mp stands with first | second
    · exact .inl ⟨word, listed, first⟩
    · exact .inr ⟨word, listed, second⟩
  · rintro (⟨word, listed, first⟩ | ⟨word, listed, second⟩)
    · exact ⟨word, listed, (apart word listed).mpr (.inl first)⟩
    · exact ⟨word, listed, (apart word listed).mpr (.inr second)⟩

end Mentioned

/-- The questions that two texts bring up: those of the table that one of the texts mentions, or the
basic ones if there are none. -/
inductive Brought (p q : String) : List Question → Prop
  | mentioned {ks : List Question} : ks.Sublist questions → ks ≠ [] →
      (∀ k ∈ questions, k ∈ ks ↔ k.MentionedIn p ∨ k.MentionedIn q) → Brought p q ks
  | basic {ks : List Question} : ks.map Question.label = ["Name", "Email", "Message"] →
      (∀ k ∈ questions, ¬ (k.MentionedIn p ∨ k.MentionedIn q)) → Brought p q ks

theorem Brought.ne_nil {p q : String} {ks : List Question} (h : Brought p q ks) : ks ≠ [] := by
  cases h with
  | mentioned _ filled => exact filled
  | basic labels =>
      rintro rfl
      cases labels

theorem Brought.nodup {p q : String} {ks : List Question} (h : Brought p q ks) :
    (ks.map Question.label).Nodup := by
  cases h with
  | mentioned listed =>
      have distinct : (questions.map Question.label).Nodup := by decide
      exact distinct.sublist (listed.map Question.label)
  | basic labels =>
      rw [labels]
      decide

theorem brought_asked (p q : String) : Brought p q (asked (lower (p ++ "\n" ++ q).toList)) := by
  have found {k : Question} (stock : k ∈ questions) :
      k.isAskedIn (lower (p ++ "\n" ++ q).toList) = true ↔ k.MentionedIn p ∨ k.MentionedIn q := by
    rw [isAskedIn_iff stock, mentionedIn_lines stock]
  simp only [asked, foldl_askAfter_questions]
  split
  · rename_i nothing
    refine .basic rfl fun k stock mentioned => ?_
    exact List.filter_eq_nil_iff.mp nothing k stock ((found stock).mpr mentioned)
  · rename_i something
    refine .mentioned List.filter_sublist something fun k stock => ?_
    rw [List.mem_filter, and_iff_right stock, found stock]

/-- It makes no difference which of two lines comes first. -/
theorem asked_lines (p q : String) :
    asked (lower (q ++ "\n" ++ p).toList) = asked (lower (p ++ "\n" ++ q).toList) := by
  have same : questions.filter (fun k => k.isAskedIn (lower (q ++ "\n" ++ p).toList)) =
      questions.filter fun k => k.isAskedIn (lower (p ++ "\n" ++ q).toList) := by
    refine List.filter_congr fun k stock => Bool.eq_iff_iff.mpr ?_
    rw [isAskedIn_iff stock, isAskedIn_iff stock, mentionedIn_lines stock, mentionedIn_lines stock,
      or_comm]
  simp only [asked, same]

/-! ## Blocks -/

/-- The labels of the questions of a form. -/
def labels (shown : List Block) : List String :=
  (shown.filter fun b => b.kind = .title).map Block.titleText

/-- The blocks of a question are its title and, in the same group, the input for the answer. -/
def Question.Pair (k : Question) (blocks : List Block) : Prop :=
  ∃ title input, blocks = [title, input] ∧ title.kind = .title ∧ title.titleText = k.label ∧
    input.kind = k.kind ∧ k.kind.shape = .input ∧ input.groupUuid = title.groupUuid

/-- Blocks that ask some questions between the title of a form and a closing text. -/
def Asking (ks : List Question) (shown : List Block) : Prop :=
  ∃ heading pairs closing, shown = heading :: pairs.flatten ++ [closing] ∧
    heading.kind = .formTitle ∧ closing.kind = .text ∧ List.Forall₂ Question.Pair ks pairs

theorem Question.Pair.labels_eq {k : Question} {blocks : List Block} (h : k.Pair blocks) :
    labels blocks = [k.label] := by
  obtain ⟨title, input, rfl, titled, label, kind, shape, _⟩ := h
  have untitled : input.kind ≠ .title := by
    intro same
    rw [← kind, same] at shape
    cases shape
  simp [labels, titled, untitled, label]

theorem labels_append (front back : List Block) :
    labels (front ++ back) = labels front ++ labels back := by
  rw [labels, List.filter_append, List.map_append, labels, labels]

theorem labels_pairs {ks : List Question} {pairs : List (List Block)}
    (h : List.Forall₂ Question.Pair ks pairs) :
    labels pairs.flatten = ks.map Question.label := by
  induction h with
  | nil => rfl
  | cons pair _ ih =>
      rw [List.flatten_cons, labels_append, pair.labels_eq, ih]
      rfl

theorem Asking.labels_eq {ks : List Question} {shown : List Block} (h : Asking ks shown) :
    labels shown = ks.map Question.label := by
  obtain ⟨heading, pairs, closing, rfl, first, last, asks⟩ := h
  have opening : labels [heading] = [] := by simp [labels, first]
  have ending : labels [closing] = [] := by simp [labels, last]
  rw [← List.singleton_append, labels_append, labels_append, opening, ending, labels_pairs asks,
    List.nil_append, List.append_nil]

theorem blocks_mirrors {ids ids' : IdSource} {ρ : String → String} (renames : ids.Renames ids' ρ)
    (prompt title : String) (attribution : Option String) :
    Draw.Mirrors ids ids' (List.map (Block.rename ρ)) (blocks prompt title attribution)
      (blocks prompt title attribution) := by
  rw [blocks_eq]
  exact Cluster.drawList_mirrors renames (.framed clusters_stock _ _)

section Drawn

variable {ids : IdSource} (filled : ids.Nonempty)

include filled

theorem Question.blocks_pair {k : Question} (input : k.kind.shape = .input) (n : Nat) :
    ∃ pair m, k.blocks ids n = (.ok pair, m) ∧ k.Pair pair := by
  rw [Question.blocks, Cluster.question_stock _ _ input, Cluster.draw_eq filled]
  exact ⟨_, _, rfl, _, _, rfl, rfl, rfl, rfl, input, rfl⟩

theorem each_pairs {ks : List Question} (input : ∀ k ∈ ks, k.kind.shape = .input) (n : Nat) :
    ∃ pairs m, Draw.each Question.blocks ks ids n = (.ok pairs, m) ∧
      List.Forall₂ Question.Pair ks pairs := by
  induction ks generalizing n with
  | nil => exact ⟨[], n, rfl, .nil⟩
  | cons k ks ih =>
      obtain ⟨here, later⟩ := List.forall_mem_cons.mp input
      obtain ⟨pair, m, drawn, fits⟩ := Question.blocks_pair filled here n
      obtain ⟨pairs, m', others, fit⟩ := ih later m
      refine ⟨pair :: pairs, m', ?_, .cons fits fit⟩
      rw [Draw.each_cons, Draw.bind_ok drawn, Draw.bind_ok others]
      rfl

/-- A form from keywords asks the questions that its prompt brings up. -/
theorem blocks_asking (prompt title : String) (attribution : Option String) (n : Nat) :
    ∃ shown m, blocks prompt title attribution ids n = (.ok shown, m) ∧
      Asking (asked (lower prompt.toList)) shown := by
  obtain ⟨pairs, m, drawn, asks⟩ := each_pairs filled (fun _ hk => (asked_stock hk).1) (n + 2)
  let heading := Sketch.formTitle (if title.isEmpty then Title.default else title)
  let closing := Sketch.text ((attribution.bind nonEmpty?).getD defaultAttribution)
  have made : blocks prompt title attribution ids n =
      (.ok (heading.block (ids n) (ids (n + 1)) :: pairs.flatten ++
        [closing.block (ids m) (ids (m + 1))]), m + 2) := by
    rw [blocks, Build.formTitle_eq, Draw.bind_ok (heading.draw_none n), Draw.bind_ok drawn,
      Build.attribution_eq, Draw.bind_ok (closing.draw_none m)]
    rfl
  exact ⟨_, _, made, _, pairs, _, rfl, rfl, rfl, asks⟩

/-- Two lines bring up the questions that one of them mentions. The form asks them in the order of the
table, each once, and it asks at least one. Whichever of the lines comes first, the form is the same
but for its ids. -/
theorem blocks_lines (p q title : String) (attribution : Option String) (n : Nat) :
    ∃ ks shown m, blocks (p ++ "\n" ++ q) title attribution ids n = (.ok shown, m) ∧
      Brought p q ks ∧ labels shown = ks.map Question.label ∧ (labels shown).Nodup ∧
      ks ≠ [] ∧ Asking ks shown ∧
      blocks (q ++ "\n" ++ p) title attribution ids n = (.ok shown, m) ∧
      ∀ ids' ρ, ids.Renames ids' ρ →
        blocks (q ++ "\n" ++ p) title attribution ids' n =
          (.ok (shown.map (Block.rename ρ)), m) := by
  have turned : blocks (q ++ "\n" ++ p) title attribution =
      blocks (p ++ "\n" ++ q) title attribution := by
    rw [blocks, blocks, asked_lines]
  obtain ⟨shown, m, made, asks⟩ := blocks_asking filled (p ++ "\n" ++ q) title attribution n
  have brought := brought_asked p q
  refine ⟨_, shown, m, made, brought, asks.labels_eq, asks.labels_eq ▸ brought.nodup,
    brought.ne_nil, asks, by rw [turned, made], fun ids' ρ renames => ?_⟩
  rw [turned, blocks_mirrors renames, made]
  rfl

end Drawn

theorem blocks_lines_phone : ∃ shown m,
    blocks ("Phone number" ++ "\n" ++ "Your E-mail") "" none tallies 0 = (.ok shown, m) ∧
      labels shown = ["Email", "Phone Number", "Number"] ∧
      blocks ("Your E-mail" ++ "\n" ++ "Phone number") "" none doubled 0 =
        (.ok (shown.map (Block.rename (tallies.translation doubled))), m) := by
  have renames := IdSource.translation_renames tallies_nonempty doubled_nonempty tallies_injective
  obtain ⟨_, shown, m, made, _, _, _, _, _, _, renamed⟩ :=
    blocks_lines tallies_nonempty "Phone number" "Your E-mail" "" none 0
  have entries : (blocks ("Phone number" ++ "\n" ++ "Your E-mail") "" none tallies 0).1.toOption.map
      labels = some ["Email", "Phone Number", "Number"] := by
    decide +kernel
  rw [made] at entries
  exact ⟨shown, m, made, Option.some.inj entries, renamed doubled _ renames⟩

end Keyword

end PromptForm
