import PromptForm.Lowering.Draw

/-! # Laws of drawing

Drawing is a lawful monad, so steps may be regrouped. A computation is total when it gives a result
whatever the source of ids; a total one never falls back to another. What is known of every result of
a computation follows from what is known of the results of its steps, and so does what two
computations have in common that draw from different sources.
-/

namespace PromptForm.Draw

variable {α β : Type}

theorem id_map (x : Draw α) : id <$> x = x := by
  funext ids n
  simp only [Functor.map, bind]
  cases x ids n with
  | mk outcome m => cases outcome <;> rfl

theorem assoc {γ : Type} (x : Draw α) (f : α → Draw β) (g : β → Draw γ) :
    x >>= f >>= g = x >>= fun a => f a >>= g := by
  funext ids n
  simp only [Bind.bind, bind]
  cases x ids n with
  | mk outcome m => cases outcome <;> rfl

instance : LawfulMonad Draw := LawfulMonad.mk' Draw id_map (fun _ _ => rfl) assoc

@[simp] theorem ofExcept_ok (a : α) : ofExcept (.ok a) = (Pure.pure a : Draw α) := rfl

theorem bind_ok {x : Draw α} {ids n a m} (h : x ids n = (.ok a, m)) (f : α → Draw β) :
    (x >>= f) ids n = f a ids m := by
  simp only [Bind.bind, bind, h]

theorem bind_error {x : Draw α} {ids n e m} (h : x ids n = (.error e, m)) (f : α → Draw β) :
    (x >>= f) ids n = (.error e, m) := by
  simp only [Bind.bind, bind, h]

/-- A result of two steps in a row is one of the second step, after one of the first. -/
theorem of_bind_ok {x : Draw α} {f : α → Draw β} {ids n b m} (h : (x >>= f) ids n = (.ok b, m)) :
    ∃ a k, x ids n = (.ok a, k) ∧ f a ids k = (.ok b, m) := by
  cases hx : x ids n with
  | mk outcome k =>
      cases outcome with
      | error e => simp [bind_error hx f] at h
      | ok a => exact ⟨a, k, rfl, by rwa [bind_ok hx f] at h⟩

theorem exists_of_toOption {x : Except Failure α × Nat} {f : α → β} {b : β}
    (h : x.1.toOption.map f = some b) : ∃ a m, x = (.ok a, m) ∧ f a = b := by
  obtain ⟨outcome, m⟩ := x
  cases outcome with
  | error e => cases h
  | ok a => exact ⟨a, m, rfl, Option.some.inj h⟩

/-- A computation that always gives a result. -/
def Total (x : Draw α) : Prop := ∀ ids n, ∃ a m, x ids n = (.ok a, m)

theorem Total.pure (a : α) : Total (Pure.pure a : Draw α) := fun _ n => ⟨a, n, rfl⟩

theorem Total.fresh : Total fresh := fun ids n => ⟨ids n, n + 1, rfl⟩

theorem Total.bind {x : Draw α} {f : α → Draw β} (hx : Total x) (hf : ∀ a, Total (f a)) :
    Total (x >>= f) := by
  intro ids n
  obtain ⟨a, m, h⟩ := hx ids n
  rw [bind_ok h f]
  exact hf a ids m

theorem Total.each {f : α → Draw β} (hf : ∀ a, Total (f a)) (as : List α) :
    Total (each f as) := by
  induction as with
  | nil => exact Total.pure []
  | cons a as ih => exact (hf a).bind fun b => ih.bind fun bs => Total.pure (b :: bs)

theorem Total.orIfInvalid {x : Draw α} (hx : Total x) (y : Draw α) : orIfInvalid x y = x := by
  funext ids n
  obtain ⟨a, m, h⟩ := hx ids n
  simp only [Draw.orIfInvalid, h]

theorem orIfInvalid_notFinite {x : Draw α} {ids n e m}
    (h : x ids n = (.error (.notFinite e), m)) (y : Draw α) :
    orIfInvalid x y ids n = (.error (.notFinite e), m) := by
  simp only [Draw.orIfInvalid, h]

/-- What fails though there is something total to fall back on fails by itself. -/
theorem error_of_orIfInvalid {x y : Draw α} (hy : Total y) {ids n e m}
    (h : orIfInvalid x y ids n = (.error e, m)) : x ids n = (.error e, m) := by
  simp only [Draw.orIfInvalid] at h
  split at h
  · rename_i k _
    obtain ⟨a, l, made⟩ := hy ids k
    rw [made] at h
    cases h
  · exact h

@[simp] theorem each_nil (f : α → Draw β) : each f [] = Pure.pure [] := rfl

theorem each_cons (f : α → Draw β) (a : α) (as : List α) :
    each f (a :: as) = do
      let b ← f a
      let bs ← each f as
      return b :: bs := rfl

theorem each_map {γ : Type} (f : β → Draw γ) (g : α → β) (as : List α) :
    each f (as.map g) = each (fun a => f (g a)) as := by
  induction as with
  | nil => rfl
  | cons a as ih => simp only [List.map_cons, each_cons, ih]

theorem each_congr {f g : α → Draw β} {as : List α} (h : ∀ a ∈ as, f a = g a) :
    each f as = each g as := by
  induction as with
  | nil => rfl
  | cons a as ih =>
      rw [each_cons, each_cons, h a List.mem_cons_self,
        ih fun b hb => h b (List.mem_cons_of_mem a hb)]

theorem each_append (f : α → Draw β) (as bs : List α) :
    each f (as ++ bs) = do
      let front ← each f as
      let back ← each f bs
      return front ++ back := by
  induction as with
  | nil => simp
  | cons a as ih =>
      simp only [List.cons_append, each_cons, ih, bind_assoc, pure_bind]

theorem each_map_result {γ : Type} {f : α → Draw γ} {g : α → Draw β} {h : β → γ} {as : List α}
    (eq : ∀ a ∈ as, f a = do return h (← g a)) :
    each f as = do return (← each g as).map h := by
  induction as with
  | nil => rfl
  | cons a as ih =>
      rw [each_cons, eq a List.mem_cons_self,
        ih fun b hb => eq b (List.mem_cons_of_mem a hb), each_cons]
      simp only [bind_assoc, pure_bind, List.map_cons]

theorem each_ok {f : α → Draw β} {ids : IdSource} {g : α → Nat → β}
    (h : ∀ a n, f a ids n = (.ok (g a n), n + 1)) (as : List α) (n : Nat) :
    each f as ids n = (.ok ((as.zipIdx n).map fun a => g a.1 a.2), n + as.length) := by
  induction as generalizing n with
  | nil => rfl
  | cons a as ih =>
      have first := bind_ok (h a n) fun b => each f as >>= fun bs => Pure.pure (b :: bs)
      have rest := bind_ok (ih (n + 1)) fun bs => Pure.pure (g a n :: bs)
      calc
        each f (a :: as) ids n = (each f as >>= fun bs => Pure.pure (g a n :: bs)) ids (n + 1) :=
          first
        _ = (.ok (g a n :: (as.zipIdx (n + 1)).map fun a => g a.1 a.2), n + 1 + as.length) := rest
        _ = _ := by simp [List.zipIdx_cons]; omega

section Results

variable {P : β → Prop} {Q : α → Prop}

/-- Every result of a computation satisfies `P`. -/
def Yields (x : Draw β) (P : β → Prop) : Prop := ∀ ids n b m, x ids n = (.ok b, m) → P b

theorem Yields.pure {b : β} (h : P b) : (Pure.pure b : Draw β).Yields P := by
  intro ids n _ m made
  cases made
  exact h

theorem Yields.bind_of {x : Draw α} {f : α → Draw β} (hx : x.Yields Q)
    (hf : ∀ a, Q a → (f a).Yields P) : (x >>= f).Yields P := by
  intro ids n b m made
  obtain ⟨a, k, first, rest⟩ := of_bind_ok made
  exact hf a (hx ids n a k first) ids k b m rest

/-- A step of which nothing is known may give anything. -/
theorem Yields.bind {x : Draw α} {f : α → Draw β} (hf : ∀ a, (f a).Yields P) :
    (x >>= f).Yields P :=
  Yields.bind_of (Q := fun _ => True) (fun _ _ _ _ _ => trivial) fun a _ => hf a

theorem Yields.each {f : α → Draw β} {as : List α} (hf : ∀ a ∈ as, (f a).Yields P) :
    (each f as).Yields fun bs => ∀ b ∈ bs, P b := by
  induction as with
  | nil => exact .pure (List.forall_mem_nil _)
  | cons a as ih =>
      obtain ⟨first, others⟩ := List.forall_mem_cons.mp hf
      rw [each_cons]
      refine first.bind_of fun b hb => (ih others).bind_of fun bs hbs => .pure ?_
      exact List.forall_mem_cons.mpr ⟨hb, hbs⟩

end Results

section Sources

variable {ids ids' : IdSource} {α' β' : Type} {g : α → α'} {h : β → β'}

/-- What one computation does with a source, another one does with a second source: it draws as many
ids, fails alike, and has the result that `g` makes of the first one. -/
def Mirrors (ids ids' : IdSource) (g : α → α') (x : Draw α) (y : Draw α') : Prop :=
  ∀ n, y ids' n = ((x ids n).1.map g, (x ids n).2)

theorem Mirrors.pure (a : α) : Mirrors ids ids' g (Pure.pure a) (Pure.pure (g a)) := fun _ => rfl

theorem Mirrors.ofExcept (x : Except Failure α) :
    Mirrors ids ids' g (ofExcept x) (ofExcept (x.map g)) := fun _ => rfl

theorem Mirrors.bind {x : Draw α} {y : Draw α'} {f : α → Draw β} {f' : α' → Draw β'}
    (first : Mirrors ids ids' g x y) (rest : ∀ a, Mirrors ids ids' h (f a) (f' (g a))) :
    Mirrors ids ids' h (x >>= f) (y >>= f') := by
  intro n
  have mirrored := first n
  cases outcome : x ids n with
  | mk result m =>
      rw [outcome] at mirrored
      cases result with
      | error e => rw [bind_error outcome, bind_error mirrored]; rfl
      | ok a => rw [bind_ok outcome, bind_ok mirrored, rest a m]

theorem Mirrors.each {f : α → Draw β} {f' : α → Draw β'} {as : List α}
    (one : ∀ a ∈ as, Mirrors ids ids' h (f a) (f' a)) :
    Mirrors ids ids' (List.map h) (each f as) (each f' as) := by
  induction as with
  | nil => exact .pure []
  | cons a as ih =>
      rw [each_cons, each_cons]
      obtain ⟨first, others⟩ := List.forall_mem_cons.mp one
      exact first.bind fun b => (ih others).bind fun bs => .pure (b :: bs)

end Sources

end PromptForm.Draw
