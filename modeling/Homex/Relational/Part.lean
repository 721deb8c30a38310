import Homex.Relational.Ensures
import Homex.Relational.Table

/-!
# A part of the store

`Table.restrict` keeps the rows that satisfy a condition, `Table.mapRows` writes
every row. An action commutes with a map `p` of the store, which keeps a part of
it, when it does the same on the part, and answers the same. An action that
commutes with `p` neither reads nor writes what `p` drops.
-/

namespace Relational

namespace Table

variable {ρ κ : Type*} [Keyed ρ κ]

/-- The rows that satisfy `p`. -/
def restrict (t : Table ρ) (p : ρ → Bool) : Table ρ :=
  ⟨t.rows.filter p, t.nodup_keys.sublist (List.filter_sublist.map key)⟩

/-- `UPDATE` of every row. -/
def mapRows (t : Table ρ) (f : ρ → ρ) (hf : ∀ r, key (f r) = key r) : Table ρ :=
  ⟨t.rows.map f, by
    rw [List.map_map, show key ∘ f = key from funext hf]
    exact t.nodup_keys⟩

theorem mem_restrict {t : Table ρ} {p : ρ → Bool} {r : ρ} :
    r ∈ (t.restrict p).rows ↔ r ∈ t.rows ∧ p r = true :=
  List.mem_filter

theorem mem_restrict_decide {t : Table ρ} {P : ρ → Prop} [DecidablePred P] {r : ρ} :
    r ∈ (t.restrict fun x => decide (P x)).rows ↔ r ∈ t.rows ∧ P r :=
  mem_restrict.trans (and_congr_right fun _ => decide_eq_true_iff)

theorem mem_mapRows {t : Table ρ} {f : ρ → ρ} (hf : ∀ r, key (f r) = key r) {r : ρ} :
    r ∈ (t.mapRows f hf).rows ↔ ∃ x ∈ t.rows, f x = r :=
  List.mem_map

variable {t t' : Table ρ} {p : ρ → Bool} {r old : ρ}

@[simp] theorem restrict_restrict_self : (t.restrict p).restrict p = t.restrict p := by
  ext1
  simp [restrict]

theorem restrict_comm (t : Table ρ) (p q : ρ → Bool) :
    (t.restrict p).restrict q = (t.restrict q).restrict p := by
  ext1
  simp [restrict, List.filter_filter, Bool.and_comm]

/-- Of two conditions, the stronger one decides. -/
theorem restrict_restrict_of_imp {q : ρ → Bool} (h : ∀ r ∈ t.rows, q r = true → p r = true) :
    (t.restrict p).restrict q = t.restrict q := by
  ext1
  change (t.rows.filter p).filter q = t.rows.filter q
  rw [List.filter_filter]
  refine List.filter_congr fun r hr => ?_
  cases hq : q r with
  | false => rfl
  | true => rw [h r hr hq, Bool.and_true]

theorem restrict_congr {q : ρ → Bool} (h : ∀ r ∈ t.rows, p r = q r) :
    t.restrict p = t.restrict q := by
  ext1
  exact List.filter_congr h

theorem mapRows_congr {f g : ρ → ρ} (hf : ∀ r, key (f r) = key r) (hg : ∀ r, key (g r) = key r)
    (h : ∀ r ∈ t.rows, f r = g r) : t.mapRows f hf = t.mapRows g hg := by
  ext1
  exact List.map_congr_left h

/-- Rows that are written as they are. -/
theorem mapRows_eq_self {f : ρ → ρ} (hf : ∀ r, key (f r) = key r) (h : ∀ r ∈ t.rows, f r = r) :
    t.mapRows f hf = t := by
  ext1
  exact (List.map_congr_left h).trans (List.map_id _)

theorem restrict_mapRows {f : ρ → ρ} (hf : ∀ r, key (f r) = key r) (h : ∀ r, p (f r) = p r) :
    (t.mapRows f hf).restrict p = (t.restrict p).mapRows f hf := by
  ext1
  change (t.rows.map f).filter p = (t.rows.filter p).map f
  rw [List.filter_map]
  exact congrArg (List.map f) (List.filter_congr fun r _ => h r)

variable [DecidableEq κ]

theorem find?_restrict (t : Table ρ) (p : ρ → Bool) (k : κ) :
    (t.restrict p).find? k = (t.find? k).filter p := by
  cases hfind : t.find? k with
  | none =>
      rw [Option.filter_none, find?_eq_none_iff]
      intro r hr
      exact find?_eq_none_iff.mp hfind r (mem_restrict.mp hr).1
  | some r =>
      obtain ⟨hr, rfl⟩ := find?_eq_some_iff.mp hfind
      by_cases hp : p r = true
      · rw [Option.filter_some, if_pos hp]
        exact find?_of_mem (mem_restrict.mpr ⟨hr, hp⟩)
      · rw [Option.filter_some, if_neg hp, find?_eq_none_iff]
        intro x hx hkey
        obtain ⟨hx, hpx⟩ := mem_restrict.mp hx
        have hsame : t.find? (key r) = some x := find?_eq_some_iff.mpr ⟨hx, hkey⟩
        rw [hfind] at hsame
        cases hsame
        exact hp hpx

theorem find?_mapRows {f : ρ → ρ} (hf : ∀ r, key (f r) = key r) (k : κ) :
    (t.mapRows f hf).find? k = (t.find? k).map f := by
  change (t.rows.map f).find? (fun r => key r = k) = (t.rows.find? fun r => key r = k).map f
  rw [List.find?_map]
  simp only [Function.comp_def, hf]

/-- A row that satisfies the condition is inserted into the part. -/
theorem insert?_restrict (h : t.insert? r = some t') (hp : p r = true) :
    (t.restrict p).insert? r = some (t'.restrict p) := by
  obtain ⟨hnone, hrows⟩ := insert?_eq_some_iff.mp h
  refine insert?_eq_some_iff.mpr ⟨?_, ?_⟩
  · rw [find?_restrict, hnone]
    rfl
  · change t'.rows.filter p = t.rows.filter p ++ [r]
    rw [hrows, List.filter_append, List.filter_singleton, hp]
    rfl

/-- The part does not see the other rows being inserted. -/
theorem restrict_of_insert? (h : t.insert? r = some t') (hp : p r = false) :
    t'.restrict p = t.restrict p := by
  ext1
  change t'.rows.filter p = t.rows.filter p
  rw [(insert?_eq_some_iff.mp h).2, List.filter_append, List.filter_singleton, hp]
  exact List.append_nil _

/-- A row of the part is saved in the part. -/
theorem restrict_save (h : t.find? (key r) = some old) (hold : p old = true) (hp : p r = true) :
    (t.save r).restrict p = (t.restrict p).save r := by
  ext1
  change (t.rows.map _).filter p = (t.rows.filter p).map _
  rw [List.filter_map]
  refine congrArg (List.map _) (List.filter_congr fun x hx => ?_)
  change p (if key x = key r then r else x) = p x
  by_cases hkey : key x = key r
  · have hsame : t.find? (key r) = some x := find?_eq_some_iff.mpr ⟨hx, hkey⟩
    rw [h] at hsame
    cases hsame
    rw [if_pos hkey, hp, hold]
  · rw [if_neg hkey]

/-- The part does not see the other rows being saved. -/
theorem restrict_of_save (h : t.find? (key r) = some old) (hold : p old = false)
    (hp : p r = false) : (t.save r).restrict p = t.restrict p := by
  ext1
  change (t.rows.map _).filter p = t.rows.filter p
  rw [List.filter_map]
  have hsame : t.rows.filter (p ∘ fun x => if key x = key r then r else x) = t.rows.filter p := by
    refine List.filter_congr fun x hx => ?_
    change p (if key x = key r then r else x) = p x
    by_cases hkey : key x = key r
    · have hfound : t.find? (key r) = some x := find?_eq_some_iff.mpr ⟨hx, hkey⟩
      rw [h] at hfound
      cases hfound
      rw [if_pos hkey, hp, hold]
    · rw [if_neg hkey]
  rw [hsame]
  refine (List.map_congr_left fun x hx => ?_).trans (List.map_id _)
  obtain ⟨hx, hpx⟩ := List.mem_filter.mp hx
  refine if_neg fun hkey => ?_
  have hfound : t.find? (key r) = some x := find?_eq_some_iff.mpr ⟨hx, hkey⟩
  rw [h] at hfound
  cases hfound
  rw [hold] at hpx
  cases hpx

end Table

namespace Action

universe u

variable {σ ε : Type*} {α β : Type u}

/-- On the part that `p` keeps, the action does and answers the same. -/
def Commutes (p : σ → σ) (x : Action σ ε α) (s : σ) : Prop :=
  x (p s) = ((x s).1, p (x s).2)

variable {p : σ → σ} {s : σ}

theorem commutes_pure {a : α} : Commutes p (pure a : Action σ ε α) s := rfl

theorem commutes_raise {e : ε} : Commutes p (raise e : Action σ ε α) s := rfl

theorem commutes_bind {x : Action σ ε α} {f : α → Action σ ε β} (hx : Commutes p x s)
    (hf : ∀ a s', x s = (.ok a, s') → Commutes p (f a) s') : Commutes p (x >>= f) s := by
  unfold Commutes at hx ⊢
  rcases hrun : x s with ⟨e | a, s'⟩
  · rw [hrun] at hx
    rw [run_bind_error hx, run_bind_error hrun]
  · rw [hrun] at hx
    rw [run_bind_ok hx, run_bind_ok hrun]
    exact hf a s' hrun

theorem commutes_map {x : Action σ ε α} {f : α → β} (hx : Commutes p x s) :
    Commutes p (f <$> x) s :=
  commutes_bind (f := fun a => pure (f a)) hx fun _ _ _ => commutes_pure

/-- What is done with the store depends on the part alone. -/
theorem commutes_get_bind {σ : Type u} {p : σ → σ} {s : σ} {f : σ → Action σ ε α}
    (h : f (p s) = f s) (hf : Commutes p (f s) s) : Commutes p (get >>= f) s := by
  change f (p s) (p s) = ((f s s).1, p (f s s).2)
  rw [h]
  exact hf

theorem commutes_ite {c : Prop} [Decidable c] {x y : Action σ ε α}
    (hx : c → Commutes p x s) (hy : ¬c → Commutes p y s) :
    Commutes p (if c then x else y) s := by
  by_cases hc : c
  · rw [if_pos hc]
    exact hx hc
  · rw [if_neg hc]
    exact hy hc

theorem commutes_require {c : Prop} [Decidable c] {e : ε} :
    Commutes p (require c e : Action σ ε Unit) s :=
  commutes_ite (fun _ => commutes_pure) fun _ => commutes_raise

theorem commutes_fetch {f : σ → Option α} {e : ε} (h : f (p s) = f s) :
    Commutes p (fetch f e : Action σ ε α) s := by
  unfold Commutes fetch
  rw [h]
  cases f s with
  | none => rfl
  | some a => rfl

theorem commutes_modify {f : σ → σ} (h : f (p s) = p (f s)) :
    Commutes p (modify f : Action σ ε Unit) s := by
  change (Except.ok (), f (p s)) = _
  rw [h]
  rfl

theorem commutes_write {f : σ → Option σ} {e : ε} (h : f (p s) = (f s).map p) :
    Commutes p (write f e : Action σ ε Unit) s := by
  unfold Commutes write
  rw [h]
  cases f s with
  | none => rfl
  | some s' => rfl

theorem commutes_atomic {x : Action σ ε α} (hx : Commutes p x s) : Commutes p (atomic x) s := by
  unfold Commutes at hx ⊢
  rcases hrun : x s with ⟨e | a, s'⟩
  · rw [hrun] at hx
    rw [run_atomic_error hx, run_atomic_error hrun]
  · rw [hrun] at hx
    rw [run_atomic_ok hx, run_atomic_ok hrun]

/-- Stores with the same part are answered the same, and keep the same part. -/
theorem Commutes.eq_of_part {x : Action σ ε α} {t : σ} (hs : Commutes p x s) (ht : Commutes p x t)
    (h : p s = p t) : (x s).1 = (x t).1 ∧ p (x s).2 = p (x t).2 := by
  unfold Commutes at hs ht
  rw [h, ht, Prod.mk.injEq] at hs
  exact ⟨hs.1.symm, hs.2.symm⟩

end Action

end Relational
