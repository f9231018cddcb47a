import PromptForm.Proofs.Field.Rebuilt
import PromptForm.Proofs.Lowering.Alike

/-! # Fields of rebuilt entries are lowered alike

A field like another one, but for the white space around two texts and for extras that have the name of
an attribute, is lowered like it, if its kind is one of those whose attributes are passed on. Of a
payment it also matters whether it was said if it is required.
-/

namespace PromptForm

open Reading

namespace Trims

variable {s t : Option String}

theorem firstText_eq (h : Trims s t) (v : Json) :
    firstText [.ofText? s, v] = firstText [.ofText? t, v] := by
  cases h with
  | kept => rfl
  | @shortened s trims =>
      obtain ⟨long, short⟩ := isEmpty_of_trimmed? trims
      simp [firstText, Json.ofText?, Json.truthy, Json.usableText, Json.display, long, short,
        trimmed_trimmed]

theorem reading_eq (h : Trims s t) :
    (s.bind nonEmpty?).map (fun expr => Expression.parse? expr.toList) =
      (t.bind nonEmpty?).map fun expr => Expression.parse? expr.toList := by
  cases h with
  | kept => rfl
  | @shortened s trims =>
      obtain ⟨long, short⟩ := isEmpty_of_trimmed? trims
      have read : Expression.parse? (trimmed s).toList = Expression.parse? s.toList := by
        simp only [trimmed, onText, String.toList_ofList, Expression.parse?,
          Text.trim_trim]
      simp [nonEmpty?, long, short, read]

end Trims

/-- The kinds whose attributes a definition passes on. -/
def Definition.passes : Kind → Bool
  | .linearScale | .nps | .likert | .matrix | .media | .payment => true
  | _ => false

/-- No number of a field of such a kind has to be a whole one. -/
theorem Field.fault?_of_passes {f : Field} {kind : Kind} (known : f.kind? = some kind)
    (passes : Definition.passes kind = true) : f.fault? = none := by
  rw [fault?, known]
  cases kind with
  | rating | fileUpload => cases passes
  | _ => rfl

namespace Field.Resembles

variable {f g : Field} {kind : Kind}

theorem kind?_eq (h : f.Resembles g) : f.kind? = g.kind? := by
  have type : f.type = g.type := by rw [h.same]
  rw [kind?, kind?, type]

theorem extra_eq (h : f.Resembles g) {names : List String}
    (free : ∀ name ∈ names, Attribute.ofName? name = none) :
    extra f.raw names = extra g.raw names := by
  induction names with
  | nil => rfl
  | cons name rest ih =>
      obtain ⟨first, others⟩ := List.forall_mem_cons.mp free
      have there : Entries.present? f.raw.extras name = Entries.present? g.raw.extras name :=
        h.extras name first
      have later := ih others
      simp only [extra, RawField.extra?, List.findSome?_cons, there] at later ⊢
      split <;> simp_all

theorem caption_eq (h : f.Resembles g) :
    firstText [.ofText? f.description, .text f.label] =
      firstText [.ofText? g.description, .text g.label] := by
  have label : f.label = g.label := by rw [h.same]
  rw [label, h.description.firstText_eq]

/-- Of a field of a kind whose attributes are passed on, nothing that differs shows in the blocks. -/
theorem cluster?_eq (h : f.Resembles g) (known : g.kind? = some kind)
    (passes : Definition.passes kind = true) (paid : kind = .payment → .required ∈ g.given) :
    f.cluster? = g.cluster? := by
  have description := h.description.bind_trimmed?
  rw [cluster?, cluster?, h.kind?_eq, known]
  cases kind with
  | linearScale | nps | likert =>
      simp only [clusterAs, scaleCluster, asking, shownLabel]
      rw [h.same]
      simp only [description]
  | matrix =>
      simp only [clusterAs, matrixCluster, asking, shownLabel]
      rw [h.same]
      simp only [description]
  | media =>
      have url : f.mediaUrl = g.mediaUrl := by
        have same : f.url = g.url := by rw [h.same]
        rw [mediaUrl, mediaUrl, same, h.extra_eq (by decide)]
      have shown : f.mediaKind = g.mediaKind := by
        rw [mediaKind, mediaKind, url, h.extra_eq (by decide)]
      have alt : extra f.raw ["alt"] = extra g.raw ["alt"] := h.extra_eq (by decide)
      simp only [clusterAs, url, shown, h.caption_eq, alt]
  | payment =>
      have given : f.given.contains .required = g.given.contains .required := by
        rw [List.contains_iff_mem.mpr h.required, List.contains_iff_mem.mpr (paid rfl)]
      simp only [clusterAs, paymentSketch, given, h.caption_eq]
      rw [h.same]
  | _ => cases passes

theorem alike (h : f.Resembles g) (known : g.kind? = some kind)
    (passes : Definition.passes kind = true) (paid : kind = .payment → .required ∈ g.given) :
    f.Alike g := by
  constructor
  · rw [lower_eq (fault?_of_passes (h.kind?_eq.trans known) passes),
      lower_eq (fault?_of_passes known passes), h.cluster?_eq known passes paid]
  · rw [h.same]
  · exact h.showIf.reading_eq

end Field.Resembles

namespace Field

/-- The field, said to be required or not. -/
def saying (f : Field) (required : Bool) : Field :=
  { f with required := required, given := .required :: f.given }

/-- A payment of which it is not said whether it is required is required. -/
theorem alike_saying {f : Field} (payment : f.kind? = some .payment)
    (silent : f.given.contains .required = false) : f.Alike (f.saying true) := by
  have payment_saying : (f.saying true).kind? = some .payment := payment
  have said : (f.saying true).given.contains .required = true :=
    List.contains_iff_mem.mpr List.mem_cons_self
  constructor
  · rw [lower_eq (fault?_of_passes payment rfl), lower_eq (fault?_of_passes payment_saying rfl),
      cluster?, cluster?, payment, payment_saying]
    simp only [clusterAs, paymentSketch, silent, said]
    rfl
  · rfl
  · rfl

end Field

end PromptForm
