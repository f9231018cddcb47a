import PromptForm.Failure

/-! # Drawing ids

Blocks are named by ids that come from a source. A computation that draws ids counts them, and may
fail; the ids drawn before a failure stay drawn.
-/

namespace PromptForm

/-- A source of ids: the `n`-th one for every `n`. -/
abbrev IdSource := Nat → String

/-- A computation that draws ids: from a source and the number of ids drawn before, to a result and
the number of ids drawn after. -/
def Draw (α : Type) : Type := IdSource → Nat → Except Failure α × Nat

namespace Draw

/-- Run a computation on a fresh source. -/
def run (x : Draw α) (ids : IdSource) : Except Failure α := (x ids 0).1

def pure (a : α) : Draw α := fun _ n => (.ok a, n)

def bind (x : Draw α) (f : α → Draw β) : Draw β := fun ids n =>
  match x ids n with
  | (.ok a, n) => f a ids n
  | (.error e, n) => (.error e, n)

instance : Monad Draw where
  pure := Draw.pure
  bind := Draw.bind

def fail (e : Failure) : Draw α := fun _ n => (.error e, n)

def fresh : Draw String := fun ids n => (.ok (ids n), n + 1)

def ofExcept (x : Except Failure α) : Draw α := fun _ n => (x, n)

/-- Do something else if a value does not have the right shape. -/
def orIfInvalid (x y : Draw α) : Draw α := fun ids n =>
  match x ids n with
  | (.error (.invalid _), n) => y ids n
  | outcome => outcome

def each (f : α → Draw β) : List α → Draw (List β)
  | [] => pure []
  | a :: rest => bind (f a) fun b => bind (each f rest) fun bs => pure (b :: bs)

end Draw

end PromptForm
