import PromptForm.Lowering.Field

/-! # Readings of the attributes of a field

The attributes of a field hold values of known types, so their readings as any JSON values come down
to a few cases. Only numbers that are not finite have no reading.
-/

namespace PromptForm

@[simp] theorem mapError_ok {ε ε' α : Type} (f : ε → ε') (a : α) :
    (Except.ok a : Except ε α).mapError f = .ok a := rfl

@[simp] theorem mapError_error {ε ε' α : Type} (f : ε → ε') (e : ε) :
    (Except.error e : Except ε α).mapError f = .error (f e) := rfl

namespace Reading

@[simp] theorem usableText?_ofText? (s : Option String) :
    (Json.ofText? s).usableText? = s.bind trimmed? := by
  cases s with
  | none => rfl
  | some s =>
      cases h : s.isEmpty with
      | true =>
          rw [String.isEmpty_iff] at h
          subst h
          rfl
      | false =>
          simp only [Json.ofText?, Json.usableText?, Json.usableText, Json.truthy, Json.display, h,
            Bool.not_false, if_true, Option.bind_some, trimmed?]

theorem orDefault_ofText? (s : Option String) (default : String) :
    orDefault (.ofText? s) (.text default) = .text ((s.bind nonEmpty?).getD default) := by
  cases s with
  | none => rfl
  | some s =>
      cases h : s.isEmpty <;> simp [orDefault, Json.ofText?, Json.truthy, nonEmpty?, h]

theorem unlessNull_ofNumber? (n : Option Number) (default : Number) :
    unlessNull (.ofNumber? n) default.toJson = (n.getD default).toJson := by
  rcases n with _ | _ | _ <;> rfl

/-- A number that counts as something, else a default. -/
def nonZero (n : Option Number) (default : Number) : Number :=
  match n with
  | some n => if n.isZero then default else n
  | none => default

theorem orDefault_ofNumber? (n : Option Number) (default : Number) :
    orDefault (.ofNumber? n) default.toJson = (nonZero n default).toJson := by
  rcases n with _ | n | x
  · rfl
  · by_cases h : n = 0 <;>
      simp [orDefault, nonZero, Json.ofNumber?, Number.toJson, Number.isZero, Json.truthy, h]
  · cases h : x.isZero <;>
      simp [orDefault, nonZero, Json.ofNumber?, Number.toJson, Number.isZero, Json.truthy, h]

theorem whole_orDefault_ofInt? (n : Option Int) (default : Int) :
    whole (orDefault (.ofInt? n) (.int default)) =
      .ok (if n.getD 0 = 0 then default else n.getD 0) := by
  cases n with
  | none => rfl
  | some n => by_cases h : n = 0 <;> simp [orDefault, Json.ofInt?, Json.truthy, whole, h]

end Reading

namespace Number

def toInt : Number → Except NotFinite Int
  | int n => .ok n
  | double x => x.toInt

/-- A size in megabytes in bytes, or nothing for zero. -/
def bytes? (n : Number) : Except NotFinite (Option Int) :=
  if n.isZero then .ok none
  else
    match n with
    | int n => .ok (some (n * Reading.megabyte))
    | double x => (x.timesPowerOfTwo Reading.megabyteBits).toInt.map some

end Number

namespace Reading

/-- A number as a whole number, which is refused only when it is infinite. -/
theorem whole?_toJson (n : Number) :
    whole? n.toJson =
      match n.toInt with
      | .ok m => .ok (some m)
      | .error .infinity => .error (.notFinite .infinity)
      | .error .nan => .ok none := by
  cases n with
  | int n => rfl
  | double x =>
      simp only [whole?, whole, Number.toJson, Number.toInt, Json.isNull]
      cases h : x.toInt with
      | ok m => simp
      | error e => cases e <;> simp

theorem bytes?_toJson (n : Number) : bytes? n.toJson = n.bytes?.mapError .notFinite := by
  cases n with
  | int n =>
      by_cases h : n = 0 <;>
        simp [bytes?, Number.bytes?, Number.toJson, Number.isZero, Json.truthy, h]
  | double x =>
      cases h : x.isZero with
      | true =>
          simp [bytes?, Number.bytes?, Number.toJson, Number.isZero, Json.truthy, h]
      | false =>
          simp only [bytes?, Number.bytes?, Number.toJson, Number.isZero, Json.truthy, h]
          cases (x.timesPowerOfTwo megabyteBits).toInt <;> rfl

theorem elements_ofTexts (texts : List String) :
    elements (.ofTexts texts) = .ok (texts.map Json.text) := rfl

theorem fileTypes_map_text (texts : List String) :
    fileTypes (texts.map Json.text) =
      .ok ((texts.filter (!isBlankText ·)).map fun s => fileType (trimmed s)) := by
  induction texts with
  | nil => rfl
  | cons s rest ih =>
      simp only [List.map_cons, fileTypes, ih, bind, Except.bind]
      cases h : isBlankText s <;> simp [h, pure, Except.pure]

end Reading

namespace Field

/-- The label of a field, or the words of its kind when it has none. -/
def shownLabel (f : Field) : String :=
  if f.label.isEmpty then
    onText (fun cs => Text.titleCase (cs.map fun c => if c == '_' then ' ' else c)) f.type
  else f.label

theorem label_raw (f : Field) : Reading.label f.raw = .ok (.text f.shownLabel) := by
  cases h : f.label.isEmpty <;>
    simp [Reading.label, raw, get, Json.truthy, shownLabel, h]

end Field

end PromptForm
