import Mathlib.Order.Defs.Unbundled

/-!
# Code that runs against a store

An `Action σ ε α` reads and writes a store `σ`, and ends with a value or with
an error. Writes made before an error stay, as they do in autocommit mode;
`atomic` is the block that rolls them back. Nested `atomic` blocks behave like
savepoints.

The lemmas invert a successful run: what the pieces of a `do` block returned,
and the stores between them. They are simp lemmas, so that a handler is read
step by step with `simp only` and `obtain`. `Within` and `Clean` bound what an
action, or an action that fails, has done to the store.
-/

namespace Relational

universe u

/-- Code that reads and writes a store and may fail. -/
def Action (σ ε α : Type*) := σ → Except ε α × σ

namespace Action

variable {σ ε : Type*} {α β : Type u}

instance : Monad (Action σ ε) where
  pure a := fun s => (.ok a, s)
  bind x f := fun s =>
    match x s with
    | (.ok a, s') => f a s'
    | (.error e, s') => (.error e, s')

/-- The current store. -/
def get : Action σ ε σ := fun s => (.ok s, s)

/-- Replace the store by its image. -/
def modify (f : σ → σ) : Action σ ε Unit := fun s => (.ok (), f s)

/-- Fail; the writes made so far stay. -/
def raise (e : ε) : Action σ ε α := fun s => (.error e, s)

/-- Go on only when the condition holds. -/
def require (c : Prop) [Decidable c] (e : ε) : Action σ ε Unit :=
  if c then pure () else raise e

/-- The value read from the store, or an error when there is none. -/
def fetch (f : σ → Option α) (e : ε) : Action σ ε α := fun s =>
  match f s with
  | some a => (.ok a, s)
  | none => (.error e, s)

/-- Write a new store, or fail when the write is impossible. -/
def write (f : σ → Option σ) (e : ε) : Action σ ε Unit := fun s =>
  match f s with
  | some s' => (.ok (), s')
  | none => (.error e, s)

/-- A block whose writes are undone when it fails. -/
def atomic (x : Action σ ε α) : Action σ ε α := fun s =>
  match x s with
  | (.ok a, s') => (.ok a, s')
  | (.error e, _) => (.error e, s)

section Success

variable {s s' : σ} {a b : α}

@[simp] theorem pure_eq_ok :
    (pure a : Action σ ε α) s = (.ok b, s') ↔ a = b ∧ s = s' := by
  change (Except.ok a, s) = (.ok b, s') ↔ _
  rw [Prod.mk.injEq, Except.ok.injEq]

@[simp] theorem bind_eq_ok {x : Action σ ε α} {f : α → Action σ ε β} {b : β} :
    (x >>= f) s = (.ok b, s') ↔ ∃ a s₁, x s = (.ok a, s₁) ∧ f a s₁ = (.ok b, s') := by
  change (match x s with
    | (.ok a, s') => f a s'
    | (.error e, s') => (.error e, s')) = (.ok b, s') ↔ _
  rcases hx : x s with ⟨_ | a, s₁⟩
  · simp
  · constructor
    · intro h
      exact ⟨a, s₁, rfl, h⟩
    · rintro ⟨a', s₁', h, hf⟩
      cases h
      exact hf

@[simp] theorem map_eq_ok {x : Action σ ε α} {f : α → β} {b : β} :
    (f <$> x) s = (.ok b, s') ↔ ∃ a, x s = (.ok a, s') ∧ f a = b := by
  change (x >>= fun a => pure (f a)) s = (.ok b, s') ↔ _
  rw [bind_eq_ok]
  constructor
  · rintro ⟨a, s₁, hx, hp⟩
    obtain ⟨rfl, rfl⟩ := pure_eq_ok.mp hp
    exact ⟨a, hx, rfl⟩
  · rintro ⟨a, hx, rfl⟩
    exact ⟨a, s', hx, pure_eq_ok.mpr ⟨rfl, rfl⟩⟩

@[simp] theorem get_eq_ok {t : σ} :
    (get : Action σ ε σ) s = (.ok t, s') ↔ s = t ∧ s = s' := by
  simp [get]

@[simp] theorem modify_eq_ok {f : σ → σ} {u : Unit} :
    (modify f : Action σ ε Unit) s = (.ok u, s') ↔ f s = s' := by
  simp [modify]

@[simp] theorem raise_ne_ok {e : ε} : (raise e : Action σ ε α) s = (.ok a, s') ↔ False := by
  simp [raise]

@[simp] theorem require_eq_ok {c : Prop} [Decidable c] {e : ε} {u : Unit} :
    (require c e : Action σ ε Unit) s = (.ok u, s') ↔ c ∧ s = s' := by
  unfold require
  by_cases hc : c
  · simp [hc]
  · simp [hc]

@[simp] theorem fetch_eq_ok {f : σ → Option α} {e : ε} :
    (fetch f e : Action σ ε α) s = (.ok a, s') ↔ f s = some a ∧ s = s' := by
  unfold fetch
  cases hf : f s with
  | none => simp
  | some x => simp

@[simp] theorem write_eq_ok {f : σ → Option σ} {e : ε} {u : Unit} :
    (write f e : Action σ ε Unit) s = (.ok u, s') ↔ f s = some s' := by
  unfold write
  cases hf : f s with
  | none => simp
  | some x => simp

@[simp] theorem atomic_eq_ok {x : Action σ ε α} :
    (atomic x) s = (.ok a, s') ↔ x s = (.ok a, s') := by
  unfold atomic
  rcases hx : x s with ⟨_ | a, s₁⟩
  · simp
  · simp

@[simp] theorem ite_eq_ok {c : Prop} [Decidable c] {x y : Action σ ε α} :
    (if c then x else y) s = (.ok a, s') ↔
      (c ∧ x s = (.ok a, s')) ∨ (¬ c ∧ y s = (.ok a, s')) := by
  by_cases hc : c
  · simp [hc]
  · simp [hc]

end Success

section Failure

variable {s s' : σ} {e : ε}

/-- A failed `atomic` block leaves the store as it was. -/
theorem atomic_error {x : Action σ ε α} (h : (atomic x) s = (.error e, s')) : s' = s := by
  unfold atomic at h
  rcases hx : x s with ⟨_ | a, s₁⟩
  · rw [hx] at h
    exact (Prod.mk.inj h).2.symm
  · rw [hx] at h
    cases h

theorem bind_error {x : Action σ ε α} {f : α → Action σ ε β}
    (h : (x >>= f) s = (.error e, s')) :
    x s = (.error e, s') ∨ ∃ a s₁, x s = (.ok a, s₁) ∧ f a s₁ = (.error e, s') := by
  change (match x s with
    | (.ok a, s') => f a s'
    | (.error e, s') => (.error e, s')) = (.error e, s') at h
  rcases hx : x s with ⟨e' | a, s₁⟩
  · rw [hx] at h
    cases h
    exact Or.inl rfl
  · rw [hx] at h
    exact Or.inr ⟨a, s₁, rfl, h⟩

/-- However the action ends, the store it leaves is related to the one it found. -/
def Within (R : σ → σ → Prop) (x : Action σ ε α) : Prop :=
  ∀ s r s', x s = (r, s') → R s s'

/-- When the action fails, the store it leaves is related to the one it found. -/
def Clean (R : σ → σ → Prop) (x : Action σ ε α) : Prop :=
  ∀ s e s', x s = (.error e, s') → R s s'

/-- The action does not fail. -/
def Total (x : Action σ ε α) : Prop := ∀ s e s', x s ≠ (.error e, s')

variable {R : σ → σ → Prop} [Std.Refl R] {x : Action σ ε α} {f : α → Action σ ε β}

omit [Std.Refl R] in
theorem Within.clean (h : Within R x) : Clean R x := fun s _ s' hx => h s _ s' hx

omit [Std.Refl R] in
theorem Total.clean (h : Total x) : Clean R x := fun s e s' hx => absurd hx (h s e s')

theorem within_pure {a : α} : Within R (pure a : Action σ ε α) := by
  intro s r s' h
  obtain rfl : s = s' := congrArg Prod.snd h
  exact Std.Refl.refl s

theorem within_get : Within R (get : Action σ ε σ) := by
  intro s r s' h
  obtain rfl : s = s' := congrArg Prod.snd h
  exact Std.Refl.refl s

theorem within_raise {e : ε} : Within R (raise e : Action σ ε α) := by
  intro s r s' h
  obtain rfl : s = s' := congrArg Prod.snd h
  exact Std.Refl.refl s

omit [Std.Refl R] in
theorem within_ite {c : Prop} [Decidable c] {x y : Action σ ε α} (hx : Within R x)
    (hy : Within R y) : Within R (if c then x else y) := by
  split
  · exact hx
  · exact hy

theorem within_require {c : Prop} [Decidable c] {e : ε} :
    Within R (require c e : Action σ ε Unit) :=
  within_ite within_pure within_raise

theorem within_fetch {g : σ → Option α} {e : ε} : Within R (fetch g e : Action σ ε α) := by
  intro s r s' h
  obtain rfl : s = s' := by
    unfold fetch at h
    cases hg : g s with
    | none =>
        rw [hg] at h
        exact congrArg Prod.snd h
    | some a =>
        rw [hg] at h
        exact congrArg Prod.snd h
  exact Std.Refl.refl s

omit [Std.Refl R] in
theorem within_modify {g : σ → σ} (h : ∀ s, R s (g s)) :
    Within R (modify g : Action σ ε Unit) := by
  intro s r s' hs
  obtain rfl : g s = s' := congrArg Prod.snd hs
  exact h s

theorem within_write {g : σ → Option σ} {e : ε} (h : ∀ s s', g s = some s' → R s s') :
    Within R (write g e : Action σ ε Unit) := by
  intro s r s' hs
  unfold write at hs
  cases hg : g s with
  | none =>
      rw [hg] at hs
      obtain rfl : s = s' := congrArg Prod.snd hs
      exact Std.Refl.refl s
  | some s₁ =>
      rw [hg] at hs
      obtain rfl : s₁ = s' := congrArg Prod.snd hs
      exact h s s₁ hg

omit [Std.Refl R] in
/-- The sequence rule from one store. -/
theorem rel_bind [IsTrans σ R] {r : Except ε β} (hx : ∀ r s', x s = (r, s') → R s s')
    (hf : ∀ a, Within R (f a)) (h : (x >>= f) s = (r, s')) : R s s' := by
  rcases hxs : x s with ⟨e | a, s₁⟩
  · have hb : (x >>= f) s = (.error e, s₁) := by
      change (match x s with
        | (.ok a, s') => f a s'
        | (.error e, s') => (.error e, s')) = _
      rw [hxs]
    obtain rfl : s₁ = s' := congrArg Prod.snd (hb.symm.trans h)
    exact hx _ s₁ hxs
  · have hb : (x >>= f) s = f a s₁ := by
      change (match x s with
        | (.ok a, s') => f a s'
        | (.error e, s') => (.error e, s')) = _
      rw [hxs]
    exact trans_of R (hx _ s₁ hxs) (hf a s₁ r s' (hb.symm.trans h))

omit [Std.Refl R] in
theorem Within.bind [IsTrans σ R] (hx : Within R x) (hf : ∀ a, Within R (f a)) :
    Within R (x >>= f) :=
  fun s _ _ h => rel_bind (hx s) hf h

theorem Within.map [IsTrans σ R] {g : α → β} (hx : Within R x) : Within R (g <$> x) :=
  .bind hx fun _ => within_pure

omit [Std.Refl R] in
theorem clean_ite {c : Prop} [Decidable c] {x y : Action σ ε α} (hx : Clean R x)
    (hy : Clean R y) : Clean R (if c then x else y) := by
  split
  · exact hx
  · exact hy

/-- Rolling back keeps the action within a reflexive relation. -/
theorem Within.atomic (hx : Within R x) : Within R (atomic x) := by
  intro s r s' h
  cases r with
  | error e =>
      rw [atomic_error h]
      exact Std.Refl.refl s
  | ok a => exact hx s _ s' (atomic_eq_ok.mp h)

theorem clean_atomic : Clean R (atomic x) := by
  intro s e s' h
  rw [atomic_error h]
  exact Std.Refl.refl s

theorem clean_write {g : σ → Option σ} {e : ε} : Clean R (write g e : Action σ ε Unit) := by
  intro s e' s' hs
  unfold write at hs
  cases hg : g s with
  | none =>
      rw [hg] at hs
      obtain rfl : s = s' := congrArg Prod.snd hs
      exact Std.Refl.refl s
  | some s₁ =>
      rw [hg] at hs
      cases hs

omit [Std.Refl R] in
theorem Clean.bind [IsTrans σ R] (hx : Within R x) (hf : ∀ a, Clean R (f a)) :
    Clean R (x >>= f) := by
  intro s e s' h
  rcases bind_error h with h | ⟨a, s₁, hxs, hfs⟩
  · exact hx s _ s' h
  · exact trans_of R (hx s _ s₁ hxs) (hf a s₁ e s' hfs)

omit [Std.Refl R] in
theorem Clean.bind_total (hx : Clean R x) (hf : ∀ a, Total (f a)) : Clean R (x >>= f) := by
  intro s e s' h
  rcases bind_error h with h | ⟨a, s₁, -, hfs⟩
  · exact hx s e s' h
  · exact absurd hfs (hf a s₁ e s')

omit [Std.Refl R] in
theorem Clean.map {g : α → β} (hx : Clean R x) : Clean R (g <$> x) :=
  Clean.bind_total hx fun _ _ _ _ h => by cases h

omit [Std.Refl R] in
/-- A run that starts with a reader stops there, or goes on from the same store. -/
theorem bind_of_reads {r : Except ε β} (hx : Within Eq x) (h : (x >>= f) s = (r, s')) :
    s = s' ∨ ∃ a, x s = (.ok a, s) ∧ f a s = (r, s') := by
  cases r with
  | error e =>
      rcases bind_error h with h | ⟨a, s₁, hxs, hfs⟩
      · exact Or.inl (hx s _ s' h)
      · obtain rfl := hx s _ s₁ hxs
        exact Or.inr ⟨a, hxs, hfs⟩
  | ok b =>
      obtain ⟨a, s₁, hxs, hfs⟩ := bind_eq_ok.mp h
      obtain rfl := hx s _ s₁ hxs
      exact Or.inr ⟨a, hxs, hfs⟩

omit [Std.Refl R] in
/-- A run that ends with a reader leaves the store its first part left. -/
theorem bind_reads {r : Except ε β} (hf : ∀ a, Within Eq (f a)) (h : (x >>= f) s = (r, s')) :
    ∃ r', x s = (r', s') := by
  cases r with
  | error e =>
      rcases bind_error h with h | ⟨a, s₁, hxs, hfs⟩
      · exact ⟨_, h⟩
      · obtain rfl := hf a s₁ _ s' hfs
        exact ⟨_, hxs⟩
  | ok b =>
      obtain ⟨a, s₁, hxs, hfs⟩ := bind_eq_ok.mp h
      obtain rfl := hf a s₁ _ s' hfs
      exact ⟨_, hxs⟩

omit [Std.Refl R] in
/-- Mapping the value does not change what the action did. -/
theorem map_snd (g : α → β) (x : Action σ ε α) (s : σ) : ((g <$> x) s).2 = (x s).2 := by
  have hrun : (x >>= fun a => (pure (g a) : Action σ ε β)) s =
      (((g <$> x) s).1, ((g <$> x) s).2) := rfl
  obtain ⟨r', h⟩ := bind_reads (fun _ => within_pure) hrun
  rw [h]

omit [Std.Refl R] in
/-- An `atomic` block leaves the store alone, or its body succeeds. -/
theorem atomic_cases {r : Except ε α} (h : (atomic x) s = (r, s')) :
    s = s' ∨ ∃ a, x s = (.ok a, s') := by
  cases r with
  | error e => exact Or.inl (atomic_error h).symm
  | ok a => exact Or.inr ⟨a, atomic_eq_ok.mp h⟩

theorem total_pure {a : α} : Total (pure a : Action σ ε α) := by
  intro s e s' h
  cases h

theorem total_modify {g : σ → σ} : Total (modify g : Action σ ε Unit) := by
  intro s e s' h
  cases h

theorem Total.bind (hx : Total x) (hf : ∀ a, Total (f a)) : Total (x >>= f) := by
  intro s e s' h
  rcases bind_error h with h | ⟨a, s₁, -, hfs⟩
  · exact hx s e s' h
  · exact hf a s₁ e s' hfs

end Failure

section Execution

/-! A run forwards, one step at a time. -/

variable {s s' : σ} {a : α} {e : ε}

theorem run_bind_ok {x : Action σ ε α} {f : α → Action σ ε β} (h : x s = (.ok a, s')) :
    (x >>= f) s = f a s' := by
  change (match x s with
    | (.ok a, s') => f a s'
    | (.error e, s') => (.error e, s')) = _
  rw [h]

theorem run_bind_error {x : Action σ ε α} {f : α → Action σ ε β} (h : x s = (.error e, s')) :
    (x >>= f) s = (.error e, s') := by
  change (match x s with
    | (.ok a, s') => f a s'
    | (.error e, s') => (.error e, s')) = _
  rw [h]

theorem run_bind_congr {x y : Action σ ε α} {f : α → Action σ ε β} (h : x s = y s') :
    (x >>= f) s = (y >>= f) s' := by
  change (match x s with
    | (.ok a, s') => f a s'
    | (.error e, s') => (.error e, s')) = _
  rw [h]
  rfl

theorem run_map_congr {x y : Action σ ε α} {f : α → β} (h : x s = y s') :
    (f <$> x) s = (f <$> y) s' :=
  run_bind_congr h

theorem run_map_ok {x : Action σ ε α} {f : α → β} (h : x s = (.ok a, s')) :
    (f <$> x) s = (.ok (f a), s') :=
  run_bind_ok h

theorem run_map_error {x : Action σ ε α} {f : α → β} (h : x s = (.error e, s')) :
    (f <$> x) s = (.error e, s') :=
  run_bind_error h

theorem run_get : (get : Action σ ε σ) s = (.ok s, s) := rfl

theorem run_fetch_some {f : σ → Option α} (h : f s = some a) : fetch f e s = (.ok a, s) := by
  unfold fetch
  rw [h]

theorem run_fetch_value : (fetch (fun _ => some a) e : Action σ ε α) s = (.ok a, s) := rfl

theorem run_fetch_none {f : σ → Option α} (h : f s = none) : fetch f e s = (.error e, s) := by
  unfold fetch
  rw [h]

theorem run_require {c : Prop} [Decidable c] (h : c) :
    (require c e : Action σ ε Unit) s = (.ok (), s) := by
  unfold require
  rw [if_pos h]
  rfl

theorem run_require_not {c : Prop} [Decidable c] (h : ¬c) :
    (require c e : Action σ ε Unit) s = (.error e, s) := by
  unfold require
  rw [if_neg h]
  rfl

theorem run_write {f : σ → Option σ} (h : f s = some s') :
    (write f e : Action σ ε Unit) s = (.ok (), s') := by
  unfold write
  rw [h]

theorem run_write_none {f : σ → Option σ} (h : f s = none) :
    (write f e : Action σ ε Unit) s = (.error e, s) := by
  unfold write
  rw [h]

theorem run_atomic_congr {x y : Action σ ε α} (h : x s = y s) : atomic x s = atomic y s := by
  unfold atomic
  rw [h]

theorem run_atomic_ok {x : Action σ ε α} (h : x s = (.ok a, s')) :
    atomic x s = (.ok a, s') := by
  unfold atomic
  rw [h]

theorem run_atomic_error {x : Action σ ε α} (h : x s = (.error e, s')) :
    atomic x s = (.error e, s) := by
  unfold atomic
  rw [h]

theorem atomic_eq_error {x : Action σ ε α} :
    atomic x s = (.error e, s') ↔ s' = s ∧ ∃ s₁, x s = (.error e, s₁) := by
  unfold atomic
  rcases x s with ⟨e' | a, s₁⟩
  · simp [eq_comm, and_comm]
  · simp

end Execution

end Action

end Relational
