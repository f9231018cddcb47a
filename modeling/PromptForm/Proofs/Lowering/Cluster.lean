import PromptForm.Proofs.Block.Payload

/-! # Clusters of blocks

What a field becomes, apart from the ids: a block that stands alone, or a question, which is a title
and the blocks that take the answer. Drawing the ids of a cluster always gives its blocks, and a
source whose ids are not empty says which block gets which id.
-/

namespace PromptForm

/-- A block without its ids. -/
structure Sketch where
  kind : BlockKind
  groupType : String
  body : Body

namespace Sketch

/-- A block whose group is called like its kind. -/
def ofKind (kind : BlockKind) (body : Body) : Sketch := ⟨kind, kind.name, body⟩

def title (label : String) (description : Option String) : Sketch :=
  ⟨.title, "QUESTION", .questionTitle label (.plain label) description⟩

def block (s : Sketch) (uuid groupUuid : String) : Block :=
  ⟨uuid, s.kind, groupUuid, s.groupType, ⟨none, s.body⟩⟩

/-- Draw the ids. The block is in a group of its own unless a group is given. -/
def draw (s : Sketch) (group : Option String) : Draw Block := do
  let uuid ← Draw.fresh
  let groupUuid ←
    match group.bind nonEmpty? with
    | some group => pure group
    | none => Draw.fresh
  return s.block uuid groupUuid

theorem draw_total (s : Sketch) (group : Option String) : (s.draw group).Total := by
  refine Draw.Total.fresh.bind fun uuid => ?_
  cases group.bind nonEmpty? with
  | none => exact Draw.Total.fresh.bind fun _ => Draw.Total.pure _
  | some group => exact (Draw.Total.pure group).bind fun _ => Draw.Total.pure _

theorem draw_yields {s : Sketch} {P : Block → Prop} (h : ∀ uuid group, P (s.block uuid group))
    (group : Option String) : (s.draw group).Yields P := by
  refine .bind fun uuid => ?_
  cases group.bind nonEmpty? with
  | none => exact .bind fun own => .pure (h uuid own)
  | some given => exact .bind fun given => .pure (h uuid given)

end Sketch

theorem Build.block_eq {kind : BlockKind} {body : Body} (fits : body.shape = kind.shape)
    (group groupType : Option String) :
    Build.block kind ⟨none, body⟩ group groupType =
      Sketch.draw ⟨kind, (groupType.bind nonEmpty?).getD kind.name, body⟩ group := by
  simp only [Build.block, if_pos fits]
  rfl

/-- Blocks that belong together, without their ids. -/
inductive Cluster where
  /-- A block that stands alone. -/
  | alone (s : Sketch)
  /-- A block of hidden values. The values get ids of their own. -/
  | hidden (values : List HiddenValue)
  /-- A block of calculated values. The values get ids of their own. -/
  | calculated (values : List CalculatedValue)
  /-- A question: its title, and the blocks that take the answer. -/
  | question (label : String) (description : Option String) (answers : List Sketch)

namespace Cluster

def hiddenSketch (values : List HiddenValue) : Sketch :=
  .ofKind .hiddenFields (.hiddenFields values)

def calculatedSketch (values : List CalculatedValue) : Sketch :=
  .ofKind .calculatedFields (.calculatedFields values)

def draw : Cluster → Draw (List Block)
  | alone s => do
    let block ← s.draw none
    return [block]
  | hidden values => do
    let values ← Draw.each (fun v => do return { v with uuid := ← Draw.fresh }) values
    let block ← (hiddenSketch values).draw none
    return [block]
  | calculated values => do
    let values ← Draw.each (fun v => do return { v with uuid := ← Draw.fresh }) values
    let block ← (calculatedSketch values).draw none
    return [block]
  | question label description answers => do
    let group ← Draw.fresh
    let title ← (Sketch.title label description).draw (some group)
    let blocks ← Draw.each (Sketch.draw · (some group)) answers
    return title :: blocks

theorem draw_total (c : Cluster) : c.draw.Total := by
  cases c with
  | alone s => exact (s.draw_total none).bind fun _ => Draw.Total.pure _
  | hidden values | calculated values =>
      refine Draw.Total.bind (Draw.Total.each (fun v => ?_) values) fun _ => ?_
      · exact Draw.Total.fresh.bind fun _ => Draw.Total.pure _
      · exact (Sketch.draw_total _ none).bind fun _ => Draw.Total.pure _
  | question label description answers =>
      refine Draw.Total.fresh.bind fun group => (Sketch.draw_total _ _).bind fun _ => ?_
      exact (Draw.Total.each (fun s => s.draw_total _) answers).bind fun _ => Draw.Total.pure _

/-- Every block that the cluster can become is one of a sketch that satisfies `P`. -/
def Every (P : Sketch → Prop) : Cluster → Prop
  | alone s => P s
  | hidden _ => ∀ values, P (hiddenSketch values)
  | calculated _ => ∀ values, P (calculatedSketch values)
  | question label description answers => P (.title label description) ∧ ∀ s ∈ answers, P s

theorem Every.mono {P Q : Sketch → Prop} {c : Cluster} (h : c.Every P) (le : ∀ s, P s → Q s) :
    c.Every Q := by
  cases c with
  | alone s => exact le s h
  | hidden _ | calculated _ => exact fun values => le _ (h values)
  | question label description answers => exact ⟨le _ h.1, fun s hs => le s (h.2 s hs)⟩

theorem draw_yields {c : Cluster} {P : Block → Prop}
    (every : c.Every fun s => ∀ uuid group, P (s.block uuid group)) :
    c.draw.Yields fun blocks => ∀ b ∈ blocks, P b := by
  have single {s : Sketch} (h : ∀ uuid group, P (s.block uuid group)) :
      (do return [← s.draw none] : Draw (List Block)).Yields fun blocks => ∀ b ∈ blocks, P b :=
    (Sketch.draw_yields h none).bind_of fun b hb => .pure (List.forall_mem_singleton.mpr hb)
  cases c with
  | alone s => exact single every
  | hidden values | calculated values => exact .bind fun values => single (every values)
  | question label description answers =>
      obtain ⟨titled, answered⟩ := every
      refine .bind fun group => (Sketch.draw_yields titled _).bind_of fun title first => ?_
      refine (Draw.Yields.each fun s hs => Sketch.draw_yields (answered s hs) _).bind_of ?_
      exact fun blocks others => .pure (List.forall_mem_cons.mpr ⟨first, others⟩)

def size : Cluster → Nat
  | alone _ => 2
  | hidden values => values.length + 2
  | calculated values => values.length + 2
  | question _ _ answers => answers.length + 2

/-- The blocks, when the ids are drawn from number `n` on. -/
def blocks (ids : IdSource) (n : Nat) : Cluster → List Block
  | alone s => [s.block (ids n) (ids (n + 1))]
  | hidden values =>
    [(hiddenSketch ((values.zipIdx n).map fun v => { v.1 with uuid := ids v.2 })).block
      (ids (n + values.length)) (ids (n + values.length + 1))]
  | calculated values =>
    [(calculatedSketch ((values.zipIdx n).map fun v => { v.1 with uuid := ids v.2 })).block
      (ids (n + values.length)) (ids (n + values.length + 1))]
  | question label description answers =>
    (Sketch.title label description).block (ids (n + 1)) (ids n) ::
      (answers.zipIdx (n + 2)).map fun s => s.1.block (ids s.2) (ids n)

end Cluster

/-- No id of the source is the empty text. -/
def IdSource.Nonempty (ids : IdSource) : Prop := ∀ n, (ids n).isEmpty = false

section Placed

variable {ids : IdSource}

theorem nonEmpty?_id (filled : ids.Nonempty) (n : Nat) : nonEmpty? (ids n) = some (ids n) := by
  simp [nonEmpty?, filled n]

theorem Sketch.draw_none (s : Sketch) (n : Nat) :
    s.draw none ids n = (.ok (s.block (ids n) (ids (n + 1))), n + 2) := rfl

theorem Sketch.draw_some (filled : ids.Nonempty) (s : Sketch) (k n : Nat) :
    s.draw (some (ids k)) ids n = (.ok (s.block (ids n) (ids k)), n + 1) := by
  simp only [Sketch.draw, Option.bind_some, nonEmpty?_id filled]
  rfl

theorem Cluster.draw_eq (filled : ids.Nonempty) (c : Cluster) (n : Nat) :
    c.draw ids n = (.ok (c.blocks ids n), n + c.size) := by
  cases c with
  | alone s => rfl
  | hidden values =>
      have step (v : HiddenValue) (k : Nat) : (do return { v with uuid := ← Draw.fresh }) ids k =
        (.ok { v with uuid := ids k }, k + 1) := rfl
      rw [Cluster.draw, Draw.bind_ok (Draw.each_ok step values n)]
      rfl
  | calculated values =>
      have step (v : CalculatedValue) (k : Nat) : (do return { v with uuid := ← Draw.fresh }) ids k =
        (.ok { v with uuid := ids k }, k + 1) := rfl
      rw [Cluster.draw, Draw.bind_ok (Draw.each_ok step values n)]
      rfl
  | question label description answers =>
      have title := (Sketch.title label description).draw_some filled n (n + 1)
      have blocks := Draw.each_ok (fun s k => Sketch.draw_some filled s n k) answers (n + 2)
      have group : Draw.fresh ids n = (.ok (ids n), n + 1) := rfl
      rw [Cluster.draw, Draw.bind_ok group, Draw.bind_ok title, Draw.bind_ok blocks]
      simp only [Cluster.blocks, Cluster.size]
      rw [Nat.add_assoc n 2, Nat.add_comm 2]
      rfl

/-- The blocks of a cluster have no rules, and their ids are among those that are drawn. -/
theorem Cluster.mem_blocks {c : Cluster} {n : Nat} {b : Block} (h : b ∈ c.blocks ids n) :
    b.payload.rule = none ∧ ∃ k, n ≤ k ∧ k < n + c.size ∧ b.uuid = ids k := by
  cases c with
  | alone s =>
      rw [Cluster.blocks, List.mem_singleton] at h
      subst h
      exact ⟨rfl, n, Nat.le_refl n, Nat.lt_add_of_pos_right (Nat.zero_lt_two), rfl⟩
  | hidden values | calculated values =>
      rw [Cluster.blocks, List.mem_singleton] at h
      subst h
      exact ⟨rfl, n + values.length, Nat.le_add_right _ _, by simp [Cluster.size], rfl⟩
  | question label description answers =>
      rw [Cluster.blocks, List.mem_cons] at h
      rcases h with rfl | h
      · exact ⟨rfl, n + 1, Nat.le_succ n, by simp [Cluster.size], rfl⟩
      · obtain ⟨s, hs, rfl⟩ := List.mem_map.mp h
        obtain ⟨low, high, _⟩ := List.mem_zipIdx hs
        refine ⟨rfl, s.2, by omega, ?_, rfl⟩
        simp only [Cluster.size]
        omega

theorem Cluster.blocks_ne_nil (c : Cluster) (n : Nat) : c.blocks ids n ≠ [] := by
  cases c <;> exact List.cons_ne_nil _ _

end Placed

end PromptForm
