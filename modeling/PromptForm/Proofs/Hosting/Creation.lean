import PromptForm.Hosting.Creation
import PromptForm.Proofs.Block.Shallow
import PromptForm.Proofs.Lowering.Question

/-! # Requests for new forms

A compiled form becomes the body of a request exactly when none of its blocks has too many levels to
be written. A captcha that is put in makes no difference to that.
-/

namespace PromptForm

/-- No block has too many levels to be written. -/
def Writable (blocks : List Block) : Prop := ∀ b ∈ blocks, b.Shallow

/-- The statuses that a new form can have. -/
def FormStatus.New (status : FormStatus) : Prop := status = draft ∨ status = published

namespace FormCreation

theorem written_eq_ok_iff {r : FormCreation} {body : Json} :
    r.written = .ok body ↔ Writable r.blocks ∧ body = r.toJson := by
  simp only [written, Json.holding_eq_ok_iff, List.forall_mem_map, Nat.zero_add]
  rfl

/-- A captcha that is put in is no deep block. -/
theorem withCaptcha_writable (blocks : List Block) (ids : IdSource) (n : Nat) :
    ∃ more m, withCaptcha blocks ids n = (.ok more, m) ∧ (Writable more ↔ Writable blocks) := by
  rcases List.eq_nil_or_concat blocks with rfl | ⟨front, closing, rfl⟩
  · exact ⟨[], n, rfl, Iff.rfl⟩
  · rw [List.concat_eq_append]
    simp only [withCaptcha, List.getLast?_concat]
    split
    · exact ⟨_, n, rfl, Iff.rfl⟩
    · have captcha : Build.single .captcha [] = (Sketch.ofKind .captcha .empty).draw none :=
        Build.single_eq Build.payload_empty rfl
      have shallow : ((Sketch.ofKind .captcha .empty).block (ids n) (ids (n + 1))).Shallow :=
        show 1 ≤ Json.maxDepth by decide
      rw [captcha, List.dropLast_concat]
      refine ⟨_, n + 2, Draw.bind_ok (Sketch.draw_none _ n) _, ?_⟩
      simp only [Writable, List.forall_mem_append, List.forall_mem_cons, shallow, true_and]

theorem checked_eq {status : FormStatus} (new : status.New) (name id : String)
    (blocks : List Block) (settings : HostSettings) :
    checked name (.text id) (.text status.name) blocks settings =
      Draw.ofExcept ((blocks.mapM Block.written).map fun _ =>
        ⟨name, id, status, blocks, settings⟩) := by
  rcases new with rfl | rfl <;>
    · simp only [checked]
      cases blocks.mapM Block.written <;> rfl

theorem mapM_written {blocks : List Block} (h : Writable blocks) :
    blocks.mapM Block.written = .ok (blocks.map Block.toJson) := by
  induction blocks with
  | nil => rfl
  | cons b rest ih =>
      obtain ⟨first, others⟩ := List.forall_mem_cons.mp h
      rw [List.mapM_cons, first.written, ih others]
      rfl

section Compiled

variable (c : CompiledForm) (id : String) (options : FormOptions) (confirmation : String)
  (ids : IdSource) (n : Nat)

/-- The request for a compiled form has its blocks, and a captcha if that is asked for. -/
theorem ofCompiled_eq (status : Json) :
    ∃ blocks m, ofCompiled c (.text id) options status confirmation ids n =
        checked ((options.title.bind nonEmpty?).getD c.title) (.text id) status blocks
          (.ofCompiled c options confirmation) ids m ∧
      (Writable blocks ↔ Writable c.blocks) := by
  cases captcha : options.includeCaptcha with
  | false =>
      simp only [ofCompiled, captcha]
      exact ⟨c.blocks, n, rfl, Iff.rfl⟩
  | true =>
      obtain ⟨blocks, m, made, same⟩ := withCaptcha_writable c.blocks ids n
      simp only [ofCompiled, captcha, if_true]
      exact ⟨blocks, m, Draw.bind_ok made _, same⟩

/-- A compiled form has a body exactly when its blocks can be written. -/
theorem ofCompiled_written_iff {status : FormStatus} (new : status.New) :
    (∃ body, (ofCompiled c (.text id) options (.text status.name) confirmation ids n).1.bind
      written = .ok body) ↔ Writable c.blocks := by
  obtain ⟨blocks, m, made, same⟩ := ofCompiled_eq c id options confirmation ids n (.text status.name)
  rw [made, checked_eq new, ← same]
  constructor
  · rintro ⟨body, made⟩
    cases each : blocks.mapM Block.written with
    | error e =>
        rw [each] at made
        cases made
    | ok values =>
        rw [each] at made
        exact (written_eq_ok_iff.mp made).1
  · intro writable
    rw [mapM_written writable]
    exact ⟨_, written_eq_ok_iff.mpr ⟨writable, rfl⟩⟩

end Compiled

end FormCreation

end PromptForm
