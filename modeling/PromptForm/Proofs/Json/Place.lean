import Mathlib.Data.List.Basic
import PromptForm.Json.Basic

/-! # Places in a value

Steps lead from a value to the items of lists and to the values that stand under the keys of objects.
A value is known by what shows at each of its places: how long a list is, which keys an object has, and
any other value itself.
-/

namespace PromptForm.Json

/-- One step from a value to a part of it. -/
inductive Step where
  /-- To the item of a list with a number. -/
  | item (i : Nat)
  /-- To the value of the entry of an object with a number, which stands under the key. -/
  | entry (i : Nat) (key : String)

/-- What shows of a value at its top, the parts that steps lead to apart. -/
inductive Top where
  /-- A value without parts. -/
  | leaf (v : Json)
  | array (length : Nat)
  /-- The keys of an object, in their order. -/
  | object (keys : List String)

def top : Json → Top
  | .array items => .array items.length
  | .object entries => .object (entries.map Prod.fst)
  | v => .leaf v

def part? : Json → Step → Option Json
  | .array items, .item i => items[i]?
  | .object entries, .entry i key =>
    entries[i]?.bind fun entry => if entry.1 = key then some entry.2 else none
  | _, _ => none

/-- What is reached by some steps, one after the other. -/
def at? (v : Json) (path : List Step) : Option Json := path.foldlM part? v

theorem at?_cons (v : Json) (s : Step) (path : List Step) :
    v.at? (s :: path) = (v.part? s).bind (·.at? path) := rfl

theorem at?_append (v : Json) (path more : List Step) :
    v.at? (path ++ more) = (v.at? path).bind (·.at? more) := List.foldlM_append

theorem eq_of_top_leaf {v w : Json} (h : v.top = .leaf w) : v = w := by
  cases v with
  | array | object => cases h
  | null | bool | int | double | text => exact Top.leaf.inj h

/-- What holds of the values without parts, and of lists and objects of whose parts it holds, holds of
all values. -/
@[elab_as_elim]
theorem induction_parts {motive : Json → Prop} (leaf : ∀ v, v.top = .leaf v → motive v)
    (array : ∀ items, (∀ v ∈ items, motive v) → motive (.array items))
    (object : ∀ entries, (∀ entry ∈ entries, motive entry.2) → motive (.object entries)) :
    ∀ v, motive v
  | .array items => array items fun v _ => induction_parts leaf array object v
  | .object entries => object entries fun entry _ => induction_parts leaf array object entry.2
  | .null | .bool _ | .int _ | .double _ | .text _ => leaf _ rfl
termination_by v => sizeOf v
decreasing_by
  · have smaller := List.sizeOf_lt_of_mem ‹v ∈ items›
    rw [Json.array.sizeOf_spec]
    omega
  · have smaller := List.sizeOf_lt_of_mem ‹entry ∈ entries›
    have whole : sizeOf entry = 1 + sizeOf entry.1 + sizeOf entry.2 := Prod.mk.sizeOf_spec _ _
    rw [Json.object.sizeOf_spec]
    omega

/-- Values that show the same at every place are the same. -/
theorem eq_of_tops {v w : Json} (same : ∀ path, (v.at? path).map top = (w.at? path).map top) :
    v = w := by
  induction v using induction_parts generalizing w with
  | leaf v alone =>
      have shown : v.top = w.top := Option.some.inj (same [])
      exact (eq_of_top_leaf (shown.symm.trans alone)).symm
  | array vs ih =>
      have shown : (array vs).top = w.top := Option.some.inj (same [])
      cases w with
      | array ws =>
          refine congrArg array (List.ext_getElem (Top.array.inj shown) fun i hv hw => ?_)
          refine ih _ (List.getElem_mem hv) fun path => ?_
          have below := same (.item i :: path)
          simp only [at?_cons, part?, List.getElem?_eq_getElem hv, List.getElem?_eq_getElem hw,
            Option.bind_some] at below
          exact below
      | null | bool | int | double | text | object => cases shown
  | object vs ih =>
      have shown : (object vs).top = w.top := Option.some.inj (same [])
      cases w with
      | object ws =>
          have keys : vs.map Prod.fst = ws.map Prod.fst := Top.object.inj shown
          have length : vs.length = ws.length := by
            simpa using congrArg List.length keys
          refine congrArg object (List.ext_getElem length fun i hv hw => ?_)
          have key : vs[i].1 = ws[i].1 := by
            have keyed := congrArg (·[i]?) keys
            simpa [List.getElem?_eq_getElem hv, List.getElem?_eq_getElem hw] using keyed
          refine Prod.ext key (ih _ (List.getElem_mem hv) fun path => ?_)
          have below := same (.entry i vs[i].1 :: path)
          simp only [at?_cons, part?, List.getElem?_eq_getElem hv, List.getElem?_eq_getElem hw,
            Option.bind_some, ← key, if_true] at below
          exact below
      | null | bool | int | double | text | array => cases shown

end PromptForm.Json
