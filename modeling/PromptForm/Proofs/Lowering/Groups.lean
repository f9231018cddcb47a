import Mathlib.Data.List.Perm.Basic
import PromptForm.Proofs.Block.Grouped
import PromptForm.Proofs.Lowering.Run

/-! # Groups of clusters

A cluster uses each of the ids that it draws once, and its blocks make up one group. So blocks that
are made of clusters fall into groups, as long as no two clusters draw the same id.
-/

namespace PromptForm

open Block

/-- A sketch of a block that is no title and has no ids but its own. -/
def Sketch.Plain (s : Sketch) : Prop := s.kind ≠ .title ∧ s.body.valueIds = []

theorem Sketch.plain_ofKind {kind : BlockKind} {body : Body} (plain : kind ≠ .title)
    (own : body.valueIds = []) : (Sketch.ofKind kind body).Plain := ⟨plain, own⟩

namespace Cluster

/-- A cluster whose title is not blank and whose other blocks are no titles. -/
def Sound : Cluster → Prop
  | alone s => s.Plain
  | hidden _ | calculated _ => True
  | question label _ answers =>
    isBlankText label = false ∧ answers ≠ [] ∧ ∀ s ∈ answers, s.Plain

def group (ids : IdSource) (n : Nat) : Cluster → String
  | alone _ => ids (n + 1)
  | hidden values => ids (n + values.length + 1)
  | calculated values => ids (n + values.length + 1)
  | question .. => ids n

variable {ids : IdSource} {c : Cluster} {n : Nat}

theorem groupUuid_of_mem {b : Block} (h : b ∈ c.blocks ids n) : b.groupUuid = c.group ids n := by
  cases c with
  | alone | hidden | calculated =>
      rw [blocks, List.mem_singleton] at h
      subst h
      rfl
  | question label description answers =>
      rw [blocks, List.mem_cons] at h
      rcases h with rfl | h
      · rfl
      · obtain ⟨s, _, rfl⟩ := List.mem_map.mp h
        rfl

theorem groupOf_blocks : groupOf (c.blocks ids n) = c.group ids n := by
  cases c <;> rfl

theorem isGroup (sound : c.Sound) : IsGroup (c.blocks ids n) := by
  cases c with
  | alone s => exact .single sound.1
  | hidden => exact .single (show BlockKind.hiddenFields ≠ .title by decide)
  | calculated => exact .single (show BlockKind.calculatedFields ≠ .title by decide)
  | question label description answers =>
      obtain ⟨shown, answered, plain⟩ := sound
      cases answers with
      | nil => exact absurd rfl answered
      | cons s rest =>
          refine .question ⟨rfl, rfl, shown⟩ fun b hb => ?_
          rw [← List.map_cons (f := fun s : Sketch × Nat => s.1.block (ids s.2) (ids n)),
            ← List.zipIdx_cons] at hb
          obtain ⟨t, ht, rfl⟩ := List.mem_map.mp hb
          exact (plain t.1 (List.fst_mem_of_mem_zipIdx ht)).1

theorem ids_of_numbered {α : Type} (as : List α) (k : Nat) :
    (as.zipIdx k).map (fun a => ids a.2) = (List.range' k as.length).map ids := by
  rw [← List.zipIdx_map_snd, List.map_map]
  rfl

/-- A block of values draws ids for the values first. -/
theorem values_perm (k m : Nat) :
    List.Perm (ids (k + m + 1) :: ids (k + m) :: (List.range' k m).map ids)
      ((List.range' k (m + 2)).map ids) := by
  have split : List.range' k (m + 2) = List.range' k m ++ [k + m, k + m + 1] := by
    rw [← List.range'_append_1]
    rfl
  rw [split, List.map_append]
  refine List.Perm.trans ?_ List.perm_append_comm
  exact List.Perm.swap _ _ _

/-- A cluster uses each of the ids that it draws once. -/
theorem ids_perm (sound : c.Sound) :
    List.Perm (c.group ids n :: (c.blocks ids n).flatMap ownIds)
      ((List.range' n c.size).map ids) := by
  cases c with
  | alone s =>
      have own : ((alone s).blocks ids n).flatMap ownIds = [ids n] := by
        simp only [blocks, List.flatMap_cons, List.flatMap_nil, ownIds, Sketch.block, sound.2,
          List.append_nil]
      rw [own]
      exact List.Perm.swap _ _ _
  | hidden values =>
      have own : ((hidden values).blocks ids n).flatMap ownIds =
          ids (n + values.length) :: (List.range' n values.length).map ids := by
        rw [← ids_of_numbered]
        simp only [blocks, List.flatMap_cons, List.flatMap_nil, ownIds, Sketch.block, hiddenSketch,
          Sketch.ofKind, Body.valueIds, List.map_map, List.append_nil]
        rfl
      rw [own]
      exact values_perm n values.length
  | calculated values =>
      have own : ((calculated values).blocks ids n).flatMap ownIds =
          ids (n + values.length) :: (List.range' n values.length).map ids := by
        rw [← ids_of_numbered]
        simp only [blocks, List.flatMap_cons, List.flatMap_nil, ownIds, Sketch.block,
          calculatedSketch, Sketch.ofKind, Body.valueIds, List.map_map, List.append_nil]
        rfl
      rw [own]
      exact values_perm n values.length
  | question label description answers =>
      have own : ((question label description answers).blocks ids n).flatMap ownIds =
          ids (n + 1) :: (List.range' (n + 2) answers.length).map ids := by
        rw [← ids_of_numbered]
        have answer_ids : ((answers.zipIdx (n + 2)).map fun s => s.1.block (ids s.2) (ids n)).flatMap
            ownIds = (answers.zipIdx (n + 2)).map fun s => ids s.2 := by
          rw [List.flatMap_map, ← List.flatMap_singleton' (l := (answers.zipIdx (n + 2)).map _),
            List.flatMap_map]
          refine List.flatMap_congr fun s hs => ?_
          have plain := sound.2.2 s.1 (List.fst_mem_of_mem_zipIdx hs)
          simp only [ownIds, Sketch.block, plain.2]
        simp only [blocks, List.flatMap_cons, answer_ids]
        rfl
      rw [own]
      exact List.Perm.refl _

end Cluster

/-- A cluster whose ids have been drawn, with its blocks. They may have rules. -/
structure Piece where
  cluster : Cluster
  /-- The number of ids drawn before. -/
  start : Nat
  blocks : List Block

namespace Piece

/-- The number of ids drawn after. -/
def stop (p : Piece) : Nat := p.start + p.cluster.size

/-- The blocks are those of the cluster, rules apart. -/
structure Fits (ids : IdSource) (p : Piece) : Prop where
  sound : p.cluster.Sound
  bare : p.blocks.map bare = p.cluster.blocks ids p.start

/-- Two pieces have drawn different ids. -/
def Apart (p q : Piece) : Prop := p.stop ≤ q.start ∨ q.stop ≤ p.start

theorem Apart.symm {p q : Piece} (h : Apart p q) : Apart q p := h.elim .inr .inl

variable {ids : IdSource} {p : Piece}

theorem Fits.groupUuid (h : p.Fits ids) {b : Block} (hb : b ∈ p.blocks) :
    b.groupUuid = p.cluster.group ids p.start := by
  have member : b.bare ∈ p.cluster.blocks ids p.start := h.bare ▸ List.mem_map_of_mem hb
  have same : b.bare.groupUuid = p.cluster.group ids p.start := Cluster.groupUuid_of_mem member
  exact same

theorem Fits.isGroup (h : p.Fits ids) : IsGroup p.blocks := by
  have group : IsGroup (p.cluster.blocks ids p.start) := Cluster.isGroup h.sound
  rw [← h.bare] at group
  match blocks : p.blocks with
  | [] => rw [blocks] at group; cases group
  | [b] =>
      rw [blocks] at group
      cases group with
      | single plain => exact .single plain
  | title :: first :: others =>
      rw [blocks] at group
      cases group with
      | question shown plain =>
          refine .question shown fun b hb => ?_
          have member : b.bare ∈ (first :: others).map Block.bare := List.mem_map_of_mem hb
          exact plain b.bare member

theorem Fits.groupOf (h : p.Fits ids) : groupOf p.blocks = p.cluster.group ids p.start := by
  rw [← Cluster.groupOf_blocks, ← h.bare, Block.groupOf, Block.groupOf, List.head?_map,
    Option.map_map]
  rfl

theorem Fits.ids_perm (h : p.Fits ids) :
    List.Perm (Block.groupOf p.blocks :: p.blocks.flatMap ownIds)
      ((List.range' p.start p.cluster.size).map ids) := by
  have own : p.blocks.flatMap ownIds = (p.cluster.blocks ids p.start).flatMap ownIds := by
    rw [← h.bare, List.flatMap_map]
    rfl
  rw [h.groupOf, own]
  exact Cluster.ids_perm h.sound

end Piece

/-- Blocks that are made of pieces which have drawn different ids, `stop` of them in all. -/
structure Layout (ids : IdSource) (blocks : List Block) (stop : Nat) (pieces : List Piece) :
    Prop where
  blocks : pieces.flatMap Piece.blocks = blocks
  fits : ∀ p ∈ pieces, p.Fits ids
  apart : pieces.Pairwise Piece.Apart
  drawn : ∀ p ∈ pieces, p.stop ≤ stop

namespace Layout

variable {ids : IdSource} {blocks : List Block} {stop : Nat} {pieces : List Piece}

theorem ids_nodup (injective : Function.Injective ids) (h : Layout ids blocks stop pieces) :
    (pieces.flatMap fun p => (List.range' p.start p.cluster.size).map ids).Nodup := by
  rw [List.nodup_flatMap]
  constructor
  · intro p _
    exact List.Nodup.map injective (List.nodup_range' 1)
  · refine h.apart.imp fun {p q} apart => ?_
    intro id hp hq
    obtain ⟨i, hi, rfl⟩ := List.mem_map.mp hp
    obtain ⟨j, hj, same⟩ := List.mem_map.mp hq
    rw [List.mem_range'_1] at hi hj
    have := injective same
    simp only [Piece.Apart, Piece.stop] at apart
    omega

/-- Blocks that are made of pieces fall into the groups of the pieces. -/
theorem grouped_pieces (injective : Function.Injective ids) (h : Layout ids blocks stop pieces) :
    Grouped blocks (pieces.map Piece.blocks) where
  flatten := by rw [← h.blocks, List.flatMap_def]
  shape group hg := by
    obtain ⟨p, hp, rfl⟩ := List.mem_map.mp hg
    exact (h.fits p hp).isGroup
  shared group hg b hb := by
    obtain ⟨p, hp, rfl⟩ := List.mem_map.mp hg
    rw [(h.fits p hp).groupUuid hb, (h.fits p hp).groupOf]
  distinct := by
    have grouped : List.Perm
        ((pieces.map Piece.blocks).map groupOf ++ blocks.flatMap ownIds)
        (pieces.flatMap fun p => groupOf p.blocks :: p.blocks.flatMap ownIds) := by
      rw [← h.blocks, List.map_map, List.flatMap_assoc]
      exact List.map_append_flatMap_perm pieces (groupOf ∘ Piece.blocks) _
    have drawn := List.Perm.flatMap_left pieces fun p hp => (h.fits p hp).ids_perm
    exact (grouped.trans drawn).nodup_iff.mpr (h.ids_nodup injective)

end Layout

/-! ## Clusters of fields -/

/-- A cluster whose title, if it has one, is a label, and whose other blocks are no titles. -/
def Cluster.Asks (label : String) : Cluster → Prop
  | alone s => s.Plain
  | hidden _ | calculated _ => True
  | question shown _ answers => shown = label ∧ answers ≠ [] ∧ ∀ s ∈ answers, s.Plain

theorem Cluster.Asks.sound {c : Cluster} {label : String} (h : c.Asks label)
    (shown : isBlankText label = false) : c.Sound := by
  cases c with
  | alone | hidden | calculated => exact h
  | question => exact ⟨h.1 ▸ shown, h.2⟩

namespace Field

/-- A field whose question has a title that can be shown. -/
def Titled (f : Field) : Prop := isBlankText f.shownLabel = false

variable {f : Field}

theorem asking_asks {kind : BlockKind} {body : Body} (plain : kind ≠ .title)
    (own : body.valueIds = []) : (f.asking [.ofKind kind body]).Asks f.shownLabel := by
  refine ⟨rfl, List.cons_ne_nil _ _, fun s hs => ?_⟩
  rw [List.mem_singleton] at hs
  subst hs
  exact Sketch.plain_ofKind plain own

theorem choiceCluster_asks (kind : Kind) : (f.choiceCluster kind).Asks f.shownLabel := by
  have plain : (RawField.optionKind kind).1 ≠ .title := by cases kind <;> decide
  simp only [choiceCluster]
  cases options : f.raw.choices kind with
  | nil => exact asking_asks (by decide) rfl
  | cons c rest =>
      refine ⟨rfl, List.cons_ne_nil _ _, fun s hs => ?_⟩
      obtain ⟨option, _, rfl⟩ := List.mem_map.mp hs
      exact ⟨plain, rfl⟩

theorem gridSketches_plain {kind : BlockKind} (plain : kind ≠ .title) (names : List String) :
    ∀ s ∈ gridSketches kind names, s.Plain := by
  intro s hs
  obtain ⟨item, _, rfl⟩ := List.mem_map.mp hs
  exact ⟨plain, rfl⟩

theorem matrixCluster_asks : f.matrixCluster.Asks f.shownLabel := by
  refine ⟨rfl, List.cons_ne_nil _ _, fun s hs => ?_⟩
  rw [List.mem_cons, List.mem_append] at hs
  rcases hs with rfl | hs | hs
  · exact Sketch.plain_ofKind (by decide) rfl
  · exact gridSketches_plain (by decide) _ s hs
  · exact gridSketches_plain (by decide) _ s hs

theorem headingKind_plain (level : Int) : Build.headingKind level ≠ .title := by
  simp only [Build.headingKind]
  split
  · decide
  · split <;> decide

theorem mediaKind_plain : f.mediaKind ≠ .title := by
  intro h
  have shape := RawField.mediaKind_shape f
  rw [h] at shape
  cases shape

theorem cluster?_asks {c : Cluster} (h : f.cluster? = some c) : c.Asks f.shownLabel := by
  rw [cluster?] at h
  cases kind : f.kind? with
  | none =>
      rw [kind] at h
      cases h
      exact asking_asks (by decide) rfl
  | some kind' =>
      rw [kind] at h
      cases kind' with
      | text | email | phone | textarea | date | number | url | rating | fileUpload
        | signature =>
          cases h
          exact asking_asks (by decide) rfl
      | linearScale | nps | likert =>
          cases h
          exact asking_asks (by decide) rfl
      | dropdown | multipleChoice | checkboxes | countrySelect | consentCheckbox =>
          cases h
          exact choiceCluster_asks _
      | matrix =>
          cases h
          exact matrixCluster_asks
      | heading =>
          simp only [clusterAs, Option.ite_none_left_eq_some, Option.some.injEq] at h
          obtain ⟨_, rfl⟩ := h
          exact Sketch.plain_ofKind (headingKind_plain _) rfl
      | textBlock =>
          simp only [clusterAs, Option.ite_none_left_eq_some, Option.some.injEq] at h
          obtain ⟨_, rfl⟩ := h
          exact Sketch.plain_ofKind (by decide) rfl
      | media =>
          simp only [clusterAs, Option.ite_none_left_eq_some, Option.some.injEq] at h
          obtain ⟨_, rfl⟩ := h
          exact Sketch.plain_ofKind mediaKind_plain rfl
      | hiddenFields | calculatedFields =>
          cases h
          trivial
      | divider | pageBreak | thankYouPage | conditionalLogic | captcha | payment | walletConnect
        | respondentCountry =>
          cases h
          exact Sketch.plain_ofKind (by decide) rfl

theorem cluster?_sound (titled : f.Titled) {c : Cluster} (h : f.cluster? = some c) : c.Sound :=
  (cluster?_asks h).sound titled

end Field

namespace Part

/-- A part that is a plain block, unless it is a field. -/
def Plain : Part → Prop
  | filler s => s.Plain
  | field _ => True

theorem plain_text (s : String) : (Sketch.text s).Plain := Sketch.plain_ofKind (by decide) rfl

theorem plain_paragraph (text : Option String) : ∀ p ∈ paragraph text, p.Plain := by
  intro p hp
  simp only [paragraph, Option.mem_toList, Option.map_eq_some_iff] at hp
  obtain ⟨s, _, rfl⟩ := hp
  exact plain_text s

theorem plain_ofSection (s : Section) : ∀ p ∈ ofSection s, p.Plain := by
  intro p hp
  simp only [ofSection, List.mem_append, Option.mem_toList, Option.map_eq_some_iff,
    List.mem_map] at hp
  rcases hp with (⟨title, _, rfl⟩ | hp) | ⟨f, hf, rfl⟩
  · exact Sketch.plain_ofKind (Field.headingKind_plain 2) rfl
  · exact plain_paragraph _ p hp
  · trivial

theorem plain_ofSections (secs : List Section) : ∀ p ∈ ofSections secs, p.Plain := by
  induction secs with
  | nil => exact List.forall_mem_nil _
  | cons s rest ih =>
      cases rest with
      | nil => exact plain_ofSection s
      | cons next rest =>
          intro p hp
          rw [ofSections, List.mem_append, List.mem_cons] at hp
          · rcases hp with hp | rfl | hp
            · exact plain_ofSection s p hp
            · exact Sketch.plain_ofKind (by decide) rfl
            · exact ih p hp
          · exact List.cons_ne_nil next rest

theorem plain_ofForm (form : Form) (attribution : Option String) :
    ∀ p ∈ ofForm form attribution, p.Plain := by
  intro p hp
  simp only [ofForm, List.cons_append, List.mem_cons, List.mem_append, List.not_mem_nil,
    or_false] at hp
  rcases hp with rfl | (hp | hp) | rfl
  · exact ⟨BlockKind.noConfusion, rfl⟩
  · exact plain_paragraph _ p hp
  · exact plain_ofSections _ p hp
  · exact plain_text _

end Part

end PromptForm
