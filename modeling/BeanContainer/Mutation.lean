/-!
# Changes that may fail

A `Mutation` makes changes one after the other, until one of them fails. It is not taken back then:
what has been changed stays changed (`Mutation.run_bind`). So a mutation changes all or nothing only
if whatever may fail in it comes first.
-/

namespace BeanContainer

/-- Changes to a `σ`, up to the first that fails with an `ε`. -/
abbrev Mutation (ε σ : Type) := ExceptT ε (StateM σ)

namespace Mutation

variable {ε σ α β : Type}

/-- How a mutation ends, and what it leaves behind, be it that it fails. -/
def run (m : Mutation ε σ α) (s : σ) : Except ε α × σ := StateT.run (ExceptT.run m) s

/-- A change that cannot fail. -/
def change (f : σ → σ) : Mutation ε σ Unit := modify f

/-- Something that may fail and changes nothing. -/
def attempt (r : Except ε α) : Mutation ε σ α := liftM r

theorem run_change (f : σ → σ) (s : σ) :
    run (change f : Mutation ε σ Unit) s = (.ok (), f s) := rfl

theorem run_attempt (r : Except ε α) (s : σ) :
    run (attempt r : Mutation ε σ α) s = (r, s) := rfl

/-- A failure ends the mutation and keeps the changes that were made before. -/
theorem run_bind (m : Mutation ε σ α) (k : α → Mutation ε σ β) (s : σ) :
    run (m >>= k) s =
      match run m s with
      | (.ok a, s') => run (k a) s'
      | (.error e, s') => (.error e, s') := by
  simp only [run, ExceptT.run_bind, StateT.run_bind]
  cases StateT.run (ExceptT.run m) s with
  | mk r s' => cases r <;> rfl

theorem run_attempt_bind (r : Except ε α) (k : α → Mutation ε σ β) (s : σ) :
    run (attempt r >>= k) s =
      match r with
      | .ok a => run (k a) s
      | .error e => (.error e, s) := by
  rw [run_bind, run_attempt]
  cases r <;> rfl

/-- Changes of which none fails are made for one element after the other. -/
theorem run_forM {m : α → Mutation ε σ Unit} {f : σ → α → σ}
    (h : ∀ x s, run (m x) s = (.ok (), f s x)) (xs : List α) (s : σ) :
    run (forM xs m) s = (.ok (), xs.foldl f s) := by
  induction xs generalizing s with
  | nil => rfl
  | cons x xs ih =>
    rw [List.forM_cons, run_bind, h]
    exact ih (f s x)

theorem run_forM_change (f : σ → α → σ) (xs : List α) (s : σ) :
    run (forM xs fun x => change fun s => f s x : Mutation ε σ Unit) s =
      (.ok (), xs.foldl f s) :=
  run_forM (fun _ _ => run_change _ _) xs s

end Mutation

end BeanContainer
