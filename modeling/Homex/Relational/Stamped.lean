import Homex.Relational.Ensures

/-!
# Columns beside the store

Code that writes columns the store does not have: next to the store `σ` there is
a `τ` with them, and a piece of code writes it when it succeeds. Such code erases
to the code that has no such columns.
-/

namespace Relational

universe u

namespace Action

variable {σ τ ε : Type*} {α β : Type u}

/-- What the code writes into the other columns when it succeeds. -/
def stamped (stamp : τ → τ) (x : Action σ ε α) : Action (σ × τ) ε α := fun s =>
  match x s.1 with
  | (.ok a, s') => (.ok a, (s', stamp s.2))
  | (.error e, s') => (.error e, (s', s.2))

/-- Code that writes none of them. -/
def unstamped (x : Action σ ε α) : Action (σ × τ) ε α := stamped id x

/-- Without the other columns, `x` is `y`. -/
def Erases (x : Action (σ × τ) ε α) (y : Action σ ε α) : Prop :=
  ∀ s, ((x s).1, (x s).2.1) = y s.1

variable {stamp : τ → τ} {x : Action σ ε α} {s : σ × τ} {s' : σ} {a : α} {e : ε}

theorem run_stamped_ok (h : x s.1 = (.ok a, s')) :
    stamped stamp x s = (.ok a, (s', stamp s.2)) := by
  unfold stamped
  rw [h]

theorem run_stamped_error (h : x s.1 = (.error e, s')) :
    stamped stamp x s = (.error e, (s', s.2)) := by
  unfold stamped
  rw [h]

/-- Code that only reads. -/
theorem run_unstamped_read (h : x s.1 = (.ok a, s.1)) : unstamped x s = (.ok a, s) :=
  run_stamped_ok h

theorem failsWith_stamped {P : ε → Prop} (h : FailsWith P x s.1) :
    FailsWith P (stamped stamp x) s := by
  intro e s' hrun
  rcases hx : x s.1 with ⟨e₁ | a, s₁⟩
  · rw [run_stamped_error hx, Prod.mk.injEq, Except.error.injEq] at hrun
    exact hrun.1 ▸ h e₁ s₁ hx
  · rw [run_stamped_ok hx, Prod.mk.injEq] at hrun
    cases hrun.1

theorem erases_stamped : Erases (stamped stamp x) x := by
  intro s
  rcases hx : x s.1 with ⟨e | a, s'⟩
  · rw [run_stamped_error hx]
  · rw [run_stamped_ok hx]

theorem erases_bind {x : Action (σ × τ) ε α} {y : Action σ ε α} {f : α → Action (σ × τ) ε β}
    {g : α → Action σ ε β} (hx : Erases x y) (hf : ∀ a, Erases (f a) (g a)) :
    Erases (x >>= f) (y >>= g) := by
  intro s
  have hy := (hx s).symm
  rcases hrun : x s with ⟨e | a, s'⟩
  · rw [hrun] at hy
    rw [run_bind_error hrun, run_bind_error hy]
  · rw [hrun] at hy
    rw [run_bind_ok hrun, run_bind_ok hy]
    exact hf a s'

end Action

end Relational
