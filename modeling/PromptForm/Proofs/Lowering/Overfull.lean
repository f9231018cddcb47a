import PromptForm.Proofs.Lowering.Failure

/-! # Fields with too large a number

The one thing that keeps a field from being lowered is a number for which its blocks need a whole
number and that stands for none: an infinite best rating, or a size of files whose number of bytes is
no finite number. Everything else that a field can hold becomes payloads that pass their checks, so
the text question that stands ready for a refused payload is never asked.
-/

namespace PromptForm

theorem Double.toInt_eq_error_iff {x : Double} {e : NotFinite} :
    x.toInt = .error e ↔
      (∃ negative, x = .infinite negative ∧ e = .infinity) ∨ (x = .nan ∧ e = .nan) := by
  cases x with
  | nan => cases e <;> simp [toInt]
  | infinite negative => cases e <;> simp [toInt]
  | finite negative significand exponent => simp [toInt]

/-- A size in megabytes as a number of bytes. -/
def Number.inBytes : Number → Number
  | int n => .int (n * Reading.megabyte)
  | double x => .double (x.timesPowerOfTwo Reading.megabyteBits)

theorem Number.bytes?_eq (size : Number) :
    size.bytes? = if size.isZero then .ok none else size.inBytes.toInt.map some := by
  cases size <;> rfl

theorem Number.toInt_eq_error_iff {x : Number} {e : NotFinite} :
    x.toInt = .error e ↔
      (∃ negative, x = .double (.infinite negative) ∧ e = .infinity) ∨
        (x = .double .nan ∧ e = .nan) := by
  cases x with
  | int n => simp [toInt]
  | double x => simpa [toInt] using Double.toInt_eq_error_iff

namespace Field

/-- The blocks of a field need a whole number where it has one that stands for none. -/
inductive Overfull (f : Field) : NotFinite → Prop
  | rating {negative : Bool} : f.kind? = some .rating →
      f.maxRating = some (.double (.infinite negative)) → Overfull f .infinity
  | endlessSize {size : Number} {negative : Bool} : f.kind? = some .fileUpload →
      f.maxFileSize = some size → size.isZero = false →
      size.inBytes = .double (.infinite negative) → Overfull f .infinity
  | senselessSize {size : Number} : f.kind? = some .fileUpload →
      f.maxFileSize = some size → size.isZero = false →
      size.inBytes = .double .nan → Overfull f .nan

variable {f : Field} {e : NotFinite}

theorem fault?_rating (known : f.kind? = some .rating) :
    f.fault? = some e ↔
      e = .infinity ∧ ∃ negative, f.maxRating = some (.double (.infinite negative)) := by
  simp only [fault?, known]
  cases given : f.maxRating with
  | none => simp
  | some most =>
      cases whole : most.toInt with
      | ok n =>
          have finite : ∀ negative, most ≠ .double (.infinite negative) := by
            rintro negative rfl
            cases whole
          simp [whole, finite]
      | error cause =>
          rcases Number.toInt_eq_error_iff.mp whole with ⟨negative, rfl, rfl⟩ | ⟨rfl, rfl⟩
          · simp [whole, eq_comm]
          · simp [whole]

theorem fileSize_eq_error_iff :
    f.fileSize = .error e ↔
      ∃ size, f.maxFileSize = some size ∧ size.isZero = false ∧ size.inBytes.toInt = .error e := by
  cases given : f.maxFileSize with
  | none => simp [fileSize, given]
  | some size =>
      simp only [fileSize, given, Number.bytes?_eq, Option.some.injEq, exists_eq_left']
      cases zero : size.isZero with
      | true => simp
      | false => cases whole : size.inBytes.toInt <;> simp [Except.map]

theorem fault?_upload (known : f.kind? = some .fileUpload) :
    f.fault? = some e ↔ f.fileSize = .error e := by
  simp only [fault?, known]
  cases f.fileSize <;> simp

/-- A field is at fault exactly when it is overfull. -/
theorem fault?_eq_some_iff : f.fault? = some e ↔ f.Overfull e := by
  constructor
  · intro faulty
    rcases kind_of_fault faulty with known | known
    · obtain ⟨rfl, negative, endless⟩ := (fault?_rating known).mp faulty
      exact .rating known endless
    · obtain ⟨size, given, counts, broken⟩ :=
        fileSize_eq_error_iff.mp ((fault?_upload known).mp faulty)
      rcases Number.toInt_eq_error_iff.mp broken with ⟨negative, endless, rfl⟩ | ⟨nan, rfl⟩
      · exact .endlessSize known given counts endless
      · exact .senselessSize known given counts nan
  · intro overfull
    cases overfull with
    | @rating negative known endless => exact (fault?_rating known).mpr ⟨rfl, negative, endless⟩
    | @endlessSize size negative known given counts endless =>
        have broken := Number.toInt_eq_error_iff.mpr (.inl ⟨negative, endless, rfl⟩)
        exact (fault?_upload known).mpr (fileSize_eq_error_iff.mpr ⟨size, given, counts, broken⟩)
    | @senselessSize size known given counts nan =>
        have broken := Number.toInt_eq_error_iff.mpr (.inr ⟨nan, rfl⟩)
        exact (fault?_upload known).mpr (fileSize_eq_error_iff.mpr ⟨size, given, counts, broken⟩)

theorem fault?_eq_none_iff : f.fault? = none ↔ ∀ e, ¬ f.Overfull e := by
  simp only [Option.eq_none_iff_forall_ne_some, ne_eq, fault?_eq_some_iff]

end Field

/-- A block whose payload is of the shape that its kind asks for. -/
def Block.Fits (b : Block) : Prop := b.payload.body.shape = b.kind.shape

def Sketch.Fits (s : Sketch) : Prop := s.body.shape = s.kind.shape

namespace Field

section Fits

variable (f : Field)

theorem asking_fits {kind : BlockKind} {body : Body} (fits : body.shape = kind.shape) :
    (f.asking [.ofKind kind body]).Every Sketch.Fits :=
  ⟨rfl, List.forall_mem_singleton.mpr fits⟩

theorem choiceCluster_fits (kind : Kind) : (f.choiceCluster kind).Every Sketch.Fits := by
  have choice : (RawField.optionKind kind).1.shape = .choiceOption := by cases kind <;> rfl
  simp only [choiceCluster]
  split
  · exact f.asking_fits rfl
  · refine ⟨rfl, fun s hs => ?_⟩
    obtain ⟨option, _, rfl⟩ := List.mem_map.mp hs
    exact choice.symm

theorem gridSketches_fit {kind : BlockKind} (item : kind.shape = .matrixItem)
    (names : List String) : ∀ s ∈ gridSketches kind names, s.Fits := by
  intro s hs
  obtain ⟨name, _, rfl⟩ := List.mem_map.mp hs
  exact item.symm

theorem matrixCluster_fits : f.matrixCluster.Every Sketch.Fits := by
  refine ⟨rfl, List.forall_mem_cons.mpr ⟨rfl, List.forall_mem_append.mpr ⟨?_, ?_⟩⟩⟩
  · exact gridSketches_fit rfl _
  · exact gridSketches_fit rfl _

theorem clusterAs_fits {kind : Kind} {c : Cluster} (h : f.clusterAs kind = some c) :
    c.Every Sketch.Fits := by
  cases kind with
  | text | email | phone | textarea | date | number | url | rating | linearScale | nps | likert
    | fileUpload | signature =>
      cases h
      exact f.asking_fits rfl
  | dropdown | multipleChoice | checkboxes | countrySelect | consentCheckbox =>
      cases h
      exact f.choiceCluster_fits _
  | matrix =>
      cases h
      exact f.matrixCluster_fits
  | heading =>
      obtain ⟨_, h⟩ := Option.ite_none_left_eq_some.mp h
      cases h
      exact (Build.headingKind_shape _).symm
  | textBlock =>
      obtain ⟨_, h⟩ := Option.ite_none_left_eq_some.mp h
      cases h
      rfl
  | media =>
      obtain ⟨_, h⟩ := Option.ite_none_left_eq_some.mp h
      cases h
      exact (RawField.mediaKind_shape f).symm
  | hiddenFields | calculatedFields =>
      cases h
      exact fun _ => rfl
  | divider | pageBreak | thankYouPage | conditionalLogic | captcha | payment | walletConnect
    | respondentCountry =>
      cases h
      rfl

theorem cluster?_fits {c : Cluster} (h : f.cluster? = some c) : c.Every Sketch.Fits := by
  rw [cluster?] at h
  split at h
  · exact f.clusterAs_fits h
  · cases h
    exact f.asking_fits rfl

theorem lower_fits : f.lower.Yields fun blocks => ∀ b ∈ blocks, b.Fits := by
  cases faulty : f.fault? with
  | some e =>
      intro ids n blocks m made
      rw [lower_error faulty] at made
      cases made
  | none =>
      rw [lower_eq faulty]
      cases found : f.cluster? with
      | none => exact .pure (List.forall_mem_nil _)
      | some c => exact Cluster.draw_yields ((f.cluster?_fits found).mono fun s fits _ _ => fits)

end Fits

/-- The lowering of a field by its kind, with nothing to fall back on. -/
def lowerByKind (f : Field) : Draw (List Block) :=
  match f.kind? with
  | some kind => f.raw.lowerAs kind
  | none => f.raw.lowerInput .inputText

theorem lower_eq_lowerByKind (f : Field) : f.lower = f.lowerByKind := by
  have kind : f.raw.kind? = f.kind? := rfl
  have plain : (f.raw.lowerInput .inputText).Total := by
    rw [RawField.lowerInput_eq f rfl]
    exact Cluster.draw_total _
  rw [lower, RawField.lower, lowerByKind, kind]
  cases known : f.kind? with
  | none => rfl
  | some kind =>
      cases faulty : f.fault? with
      | none =>
          refine Draw.Total.orIfInvalid ?_ _
          rw [RawField.lowerAs_eq faulty known]
          exact Cluster.drawAll_total _
      | some e =>
          funext ids n
          have failed := lower_error faulty ids n
          rw [lower, RawField.lower, show f.raw.kind? = some kind from known] at failed
          exact failed.trans (Draw.error_of_orIfInvalid plain failed).symm

theorem lower_eq_error_iff (f : Field) (ids : IdSource) (n : Nat) (e : Failure) :
    (∃ m, f.lower ids n = (.error e, m)) ↔ ∃ cause, e = .notFinite cause ∧ f.Overfull cause := by
  cases faulty : f.fault? with
  | none =>
      have sane := fault?_eq_none_iff.mp faulty
      obtain ⟨blocks, m, made⟩ := Cluster.drawAll_total f.cluster? ids n
      simp [lower_eq faulty, made, sane]
  | some cause =>
      have only (other : NotFinite) : f.Overfull other ↔ cause = other := by
        rw [← fault?_eq_some_iff, faulty, Option.some.injEq]
      simp [lower_error faulty, only, eq_comm]

/-- Lowering a field breaks off exactly when the field is overfull, and gives blocks otherwise. It
is the lowering by its kind alone: no payload that is built there is refused, and each is of the
shape that its block asks for. This is so for any field, hence for every one that passes a check. -/
theorem lower_outcome (f : Field) (ids : IdSource) (n : Nat) :
    (∀ e, (∃ m, f.lower ids n = (.error e, m)) ↔
      ∃ cause, e = .notFinite cause ∧ f.Overfull cause) ∧
    ((∃ blocks m, f.lower ids n = (.ok blocks, m)) ↔ ∀ cause, ¬ f.Overfull cause) ∧
    f.lower ids n = f.lowerByKind ids n ∧
    (∀ issues m, f.lowerByKind ids n ≠ (.error (.invalid issues), m)) ∧
    (∀ blocks m, f.lower ids n = (.ok blocks, m) → ∀ b ∈ blocks, b.Fits) := by
  have broken := f.lower_eq_error_iff ids n
  have byKind := f.lower_eq_lowerByKind
  refine ⟨broken, ?_, byKind ▸ rfl, fun issues m refused => ?_, f.lower_fits ids n⟩
  · constructor
    · rintro ⟨blocks, m, made⟩ cause overfull
      obtain ⟨k, failed⟩ := (broken _).mpr ⟨cause, rfl, overfull⟩
      rw [made] at failed
      cases failed
    · intro sane
      cases outcome : f.lower ids n with
      | mk result m =>
          cases result with
          | ok blocks => exact ⟨blocks, m, rfl⟩
          | error e =>
              obtain ⟨cause, _, overfull⟩ := (broken e).mp ⟨m, outcome⟩
              exact absurd overfull (sane cause)
  · rw [← byKind] at refused
    obtain ⟨cause, impossible, _⟩ := (broken _).mp ⟨m, refused⟩
    cases impossible

end Field

end PromptForm
