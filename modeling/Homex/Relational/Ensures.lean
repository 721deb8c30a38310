import Homex.Relational.Action

/-!
# What an action ensures

`Ensures Q E x s` says that `x`, run from `s`, ends in a value and a store that
satisfy `Q`, or fails in a store that satisfies `E`. Writes made before an error
stay, so both are needed. There is one rule for each way to build an action.
-/

namespace Relational

universe u

namespace Action

variable {σ ε : Type*} {α β : Type u}

/-- A value with `Q`, or an error with `E`. -/
def Ensures (Q : α → σ → Prop) (E : σ → Prop) (x : Action σ ε α) (s : σ) : Prop :=
  match x s with
  | (.ok a, s') => Q a s'
  | (.error _, s') => E s'

variable {Q : α → σ → Prop} {E : σ → Prop} {s : σ}

theorem Ensures.mono {Q' : α → σ → Prop} {E' : σ → Prop} {x : Action σ ε α}
    (h : Ensures Q E x s) (hQ : ∀ a s', x s = (.ok a, s') → Q a s' → Q' a s')
    (hE : ∀ s', E s' → E' s') : Ensures Q' E' x s := by
  unfold Ensures at h ⊢
  rcases hx : x s with ⟨_ | a, s'⟩
  · rw [hx] at h
    exact hE s' h
  · rw [hx] at h
    exact hQ a s' hx h

theorem Ensures.of_ok {x : Action σ ε α} {a : α} {s' : σ} (h : Ensures Q E x s)
    (hx : x s = (.ok a, s')) : Q a s' := by
  unfold Ensures at h
  rw [hx] at h
  exact h

/-- Whatever the outcome, the store satisfies what both require of it. -/
theorem Ensures.store {P : σ → Prop} {x : Action σ ε α} (h : Ensures (fun _ => P) P x s) :
    P (x s).2 := by
  unfold Ensures at h
  rcases hx : x s with ⟨_ | a, s'⟩
  · rw [hx] at h
    exact h
  · rw [hx] at h
    exact h

theorem ensures_pure {a : α} (h : Q a s) : Ensures Q E (pure a : Action σ ε α) s := h

theorem ensures_raise {e : ε} (h : E s) : Ensures Q E (raise e : Action σ ε α) s := h

/-- The sequence rule. -/
theorem ensures_bind {Q : β → σ → Prop} {x : Action σ ε α} {f : α → Action σ ε β}
    (h : Ensures (fun a s' => Ensures Q E (f a) s') E x s) : Ensures Q E (x >>= f) s := by
  unfold Ensures at h ⊢
  rcases hx : x s with ⟨e | a, s'⟩
  · rw [hx] at h
    rw [run_bind_error hx]
    exact h
  · rw [hx] at h
    rw [run_bind_ok hx]
    exact h

theorem ensures_map {Q : β → σ → Prop} {x : Action σ ε α} {f : α → β}
    (h : Ensures (fun a => Q (f a)) E x s) : Ensures Q E (f <$> x) s :=
  ensures_bind (f := fun a => pure (f a)) h

theorem ensures_get_bind {σ : Type u} {s : σ} {Q : α → σ → Prop} {E : σ → Prop}
    {f : σ → Action σ ε α} (h : Ensures Q E (f s) s) : Ensures Q E (get >>= f) s :=
  ensures_bind h

theorem ensures_ite {c : Prop} [Decidable c] {x y : Action σ ε α}
    (hx : c → Ensures Q E x s) (hy : ¬c → Ensures Q E y s) :
    Ensures Q E (if c then x else y) s := by
  by_cases hc : c
  · rw [if_pos hc]
    exact hx hc
  · rw [if_neg hc]
    exact hy hc

theorem ensures_require {c : Prop} [Decidable c] {e : ε} {Q : Unit → σ → Prop}
    (hQ : c → Q () s) (hE : E s) : Ensures Q E (require c e : Action σ ε Unit) s :=
  ensures_ite hQ fun _ => hE

theorem ensures_fetch {f : σ → Option α} {e : ε} (hQ : ∀ a, f s = some a → Q a s) (hE : E s) :
    Ensures Q E (fetch f e : Action σ ε α) s := by
  unfold Ensures
  cases hf : f s with
  | none =>
      rw [run_fetch_none hf]
      exact hE
  | some a =>
      rw [run_fetch_some hf]
      exact hQ a hf

theorem ensures_modify {f : σ → σ} {Q : Unit → σ → Prop} (h : Q () (f s)) :
    Ensures Q E (modify f : Action σ ε Unit) s := h

theorem ensures_write {f : σ → Option σ} {e : ε} {Q : Unit → σ → Prop}
    (hQ : ∀ s', f s = some s' → Q () s') (hE : E s) :
    Ensures Q E (write f e : Action σ ε Unit) s := by
  unfold Ensures write
  cases hf : f s with
  | none => exact hE
  | some s' => exact hQ s' hf

/-- A block that fails leaves the store as it was. -/
theorem ensures_atomic {x : Action σ ε α} (hx : Ensures Q (fun _ => True) x s) (hE : E s) :
    Ensures Q E (atomic x) s := by
  unfold Ensures at hx ⊢
  rcases hrun : x s with ⟨e | a, s'⟩
  · rw [run_atomic_error hrun]
    exact hE
  · rw [run_atomic_ok hrun]
    rw [hrun] at hx
    exact hx

/-! ### What an action fails with -/

/-- The errors of an action satisfy `P`. -/
def FailsWith (P : ε → Prop) (x : Action σ ε α) (s : σ) : Prop :=
  ∀ e s', x s = (.error e, s') → P e

section FailsWith

variable {P : ε → Prop} {e : ε}

theorem failsWith_pure {a : α} : FailsWith P (pure a : Action σ ε α) s :=
  fun _ _ h => by cases h

theorem failsWith_bind {x : Action σ ε α} {f : α → Action σ ε β} (hx : FailsWith P x s)
    (hf : ∀ a s', x s = (.ok a, s') → FailsWith P (f a) s') : FailsWith P (x >>= f) s := by
  intro e s' h
  rcases hrun : x s with ⟨e₁ | a, s₁⟩
  · rw [run_bind_error hrun, Prod.mk.injEq, Except.error.injEq] at h
    exact h.1 ▸ hx e₁ s₁ hrun
  · rw [run_bind_ok hrun] at h
    exact hf a s₁ hrun e s' h

theorem failsWith_require {c : Prop} [Decidable c] (h : c ∨ P e) :
    FailsWith P (require c e : Action σ ε Unit) s := by
  intro e' s' hrun
  by_cases hc : c
  · rw [run_require hc] at hrun
    cases hrun
  · rw [run_require_not hc] at hrun
    cases hrun
    exact h.resolve_left hc

theorem failsWith_fetch {f : σ → Option α} (h : P e) :
    FailsWith P (fetch f e : Action σ ε α) s := by
  intro e' s' hrun
  cases hf : f s with
  | some a =>
      rw [run_fetch_some hf] at hrun
      cases hrun
  | none =>
      rw [run_fetch_none hf] at hrun
      cases hrun
      exact h

theorem failsWith_modify {f : σ → σ} : FailsWith P (modify f : Action σ ε Unit) s :=
  fun _ _ h => by cases h

theorem failsWith_write {f : σ → Option σ} (h : P e) :
    FailsWith P (write f e : Action σ ε Unit) s := by
  intro e' s' hrun
  cases hf : f s with
  | some t =>
      rw [run_write hf] at hrun
      cases hrun
  | none =>
      rw [run_write_none hf] at hrun
      cases hrun
      exact h

theorem failsWith_atomic {x : Action σ ε α} (hx : FailsWith P x s) :
    FailsWith P (atomic x) s := by
  intro e s' h
  obtain ⟨-, s₁, hrun⟩ := atomic_eq_error.mp h
  exact hx e s₁ hrun

end FailsWith

end Action

end Relational
