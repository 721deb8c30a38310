import Mathlib.Algebra.BigOperators.Group.List.Basic
import Mathlib.Data.List.Nodup

/-!
# Tables with a unique key

A `Table ρ` is a list of rows in insertion order no two of which share a key.
Uniqueness is a field of the structure, so no operation can produce a table in
which a key names two rows. `insert?` is the partial `INSERT` that a taken key
refuses, `save` the `UPDATE` of one whole row, `delete` the `DELETE` by key.

Every operation comes with two readings: what `find?` returns afterwards, and
how the sum of a column changes. The second is what a denormalised total has to
follow. `Has` and `AtMostOne` say how many rows satisfy a condition.
-/

namespace Relational

/-- The column, or tuple of columns, that identifies a row. -/
class Keyed (ρ : Type*) (κ : outParam Type*) where
  key : ρ → κ

export Keyed (key)

/-- Rows in insertion order, no two with one key. -/
@[ext] structure Table (ρ : Type*) {κ : Type*} [Keyed ρ κ] where
  rows : List ρ
  nodup_keys : (rows.map key).Nodup

namespace Table

variable {ρ κ : Type*} [Keyed ρ κ]

/-- The table without rows. -/
def empty : Table ρ := ⟨[], List.nodup_nil⟩

@[simp] theorem rows_empty : (empty : Table ρ).rows = [] := rfl

section Operations

variable [DecidableEq κ]

/-- The row with key `k`. -/
def find? (t : Table ρ) (k : κ) : Option ρ :=
  t.rows.find? fun r => key r = k

/-- `INSERT`: a taken key is an integrity error. -/
def insert? (t : Table ρ) (r : ρ) : Option (Table ρ) :=
  if h : key r ∈ t.rows.map key then none
  else some ⟨t.rows ++ [r], by
    rw [List.map_append, List.map_singleton]
    exact List.nodup_append.mpr ⟨t.nodup_keys, List.nodup_singleton _, by
      intro a ha b hb hab
      rw [List.mem_singleton] at hb
      exact h (hb ▸ hab ▸ ha)⟩⟩

theorem map_key_replace (r : ρ) (l : List ρ) :
    (l.map fun x => if key x = key r then r else x).map key = l.map key := by
  rw [List.map_map]
  apply List.map_congr_left
  intro x _
  by_cases hx : key x = key r
  · simp [hx]
  · simp [hx]

/-- `UPDATE` of the row that has the key of `r`; nothing when there is none. -/
def save (t : Table ρ) (r : ρ) : Table ρ :=
  ⟨t.rows.map fun x => if key x = key r then r else x, by
    rw [map_key_replace]
    exact t.nodup_keys⟩

/-- `UPDATE` of columns of the row with key `k`; nothing when there is none. -/
def update (t : Table ρ) (k : κ) (set : ρ → ρ) : Table ρ :=
  match t.find? k with
  | none => t
  | some r => t.save (set r)

/-- A `save` of all columns: an `UPDATE`, or an `INSERT` where that finds no row. -/
def upsert (t : Table ρ) (r : ρ) : Table ρ := (t.insert? r).getD (t.save r)

/-- `DELETE` by key. -/
def delete (t : Table ρ) (k : κ) : Table ρ :=
  ⟨t.rows.filter fun r => key r ≠ k, t.nodup_keys.sublist (List.filter_sublist.map key)⟩

end Operations

/-- The sum of a column. -/
def sum {M : Type*} [AddMonoid M] (t : Table ρ) (f : ρ → M) : M :=
  (t.rows.map f).sum

@[simp] theorem sum_empty {M : Type*} [AddMonoid M] (f : ρ → M) :
    (empty : Table ρ).sum f = 0 := rfl

theorem sum_congr {M : Type*} [AddMonoid M] (t : Table ρ) {f g : ρ → M}
    (h : ∀ r ∈ t.rows, f r = g r) : t.sum f = t.sum g := by
  unfold sum
  rw [List.map_congr_left h]

theorem sum_eq_zero {M : Type*} [AddMonoid M] (t : Table ρ) {f : ρ → M}
    (h : ∀ r ∈ t.rows, f r = 0) : t.sum f = 0 :=
  (t.sum_congr h).trans List.sum_map_zero

theorem sum_add {M : Type*} [AddCommMonoid M] (t : Table ρ) (f g : ρ → M) :
    (t.sum fun r => f r + g r) = t.sum f + t.sum g :=
  List.sum_map_add

section Find

variable [DecidableEq κ]

@[simp] theorem find?_empty (k : κ) : (empty : Table ρ).find? k = none := rfl

theorem find?_eq_some_iff {t : Table ρ} {k : κ} {r : ρ} :
    t.find? k = some r ↔ r ∈ t.rows ∧ key r = k := by
  constructor
  · intro h
    exact ⟨List.mem_of_find?_eq_some h, by simpa using List.find?_some h⟩
  · rintro ⟨hr, rfl⟩
    obtain ⟨x, hx⟩ : ∃ x, t.find? (key r) = some x :=
      Option.isSome_iff_exists.mp (List.find?_isSome.mpr ⟨r, hr, by simp⟩)
    have hmem := List.mem_of_find?_eq_some hx
    have hkey : key x = key r := by simpa using List.find?_some hx
    rw [hx, List.inj_on_of_nodup_map t.nodup_keys hmem hr hkey]

theorem find?_eq_none_iff {t : Table ρ} {k : κ} :
    t.find? k = none ↔ ∀ r ∈ t.rows, key r ≠ k := by
  simp [find?, List.find?_eq_none]

theorem mem_of_find? {t : Table ρ} {k : κ} {r : ρ} (h : t.find? k = some r) : r ∈ t.rows :=
  (find?_eq_some_iff.mp h).1

theorem key_of_find? {t : Table ρ} {k : κ} {r : ρ} (h : t.find? k = some r) : key r = k :=
  (find?_eq_some_iff.mp h).2

theorem find?_of_mem {t : Table ρ} {r : ρ} (h : r ∈ t.rows) : t.find? (key r) = some r :=
  find?_eq_some_iff.mpr ⟨h, rfl⟩

theorem insert?_eq_some_iff {t t' : Table ρ} {r : ρ} :
    t.insert? r = some t' ↔ t.find? (key r) = none ∧ t'.rows = t.rows ++ [r] := by
  unfold insert?
  by_cases h : key r ∈ t.rows.map key
  · rw [dif_pos h]
    obtain ⟨x, hx, hk⟩ := List.mem_map.mp h
    constructor
    · intro hn
      cases hn
    · rintro ⟨hn, -⟩
      exact absurd hk (find?_eq_none_iff.mp hn x hx)
  · rw [dif_neg h, Option.some.injEq]
    have hnone : t.find? (key r) = none :=
      find?_eq_none_iff.mpr fun x hx hk => h (hk ▸ List.mem_map_of_mem hx)
    constructor
    · rintro rfl
      exact ⟨hnone, rfl⟩
    · rintro ⟨-, hrows⟩
      exact Table.ext hrows.symm

theorem exists_insert? {t : Table ρ} {r : ρ} (h : t.find? (key r) = none) :
    ∃ t', t.insert? r = some t' := by
  rw [find?_eq_none_iff] at h
  have hkey : key r ∉ t.rows.map key := by
    intro hmem
    obtain ⟨x, hx, hk⟩ := List.mem_map.mp hmem
    exact h x hx hk
  unfold insert?
  rw [dif_neg hkey]
  exact ⟨_, rfl⟩

theorem insert?_eq_none {t : Table ρ} {r : ρ} (h : (t.find? (key r)).isSome) :
    t.insert? r = none := by
  cases hinsert : t.insert? r with
  | none => rfl
  | some t' =>
      rw [(insert?_eq_some_iff.mp hinsert).1] at h
      cases h

theorem mem_insert? {t t' : Table ρ} {r x : ρ} (h : t.insert? r = some t') :
    x ∈ t'.rows ↔ x ∈ t.rows ∨ x = r := by
  rw [(insert?_eq_some_iff.mp h).2, List.mem_append, List.mem_singleton]

theorem find?_insert? {t t' : Table ρ} {r : ρ} (h : t.insert? r = some t') (k : κ) :
    t'.find? k = if key r = k then some r else t.find? k := by
  obtain ⟨hnone, hrows⟩ := insert?_eq_some_iff.mp h
  unfold find? at hnone ⊢
  rw [hrows, List.find?_append]
  by_cases hk : key r = k
  · subst hk
    simp [hnone]
  · simp [hk]

/-- Inserting a row and saving another version of it is inserting that version. -/
theorem insert?_save {t t' : Table ρ} {r r' : ρ} (h : t.insert? r = some t')
    (hkey : key r' = key r) : t.insert? r' = some (t'.save r') := by
  obtain ⟨hnone, hrows⟩ := insert?_eq_some_iff.mp h
  rw [insert?_eq_some_iff, hkey]
  refine ⟨hnone, ?_⟩
  have hkeep : (t.rows.map fun x => if key x = key r' then r' else x) = t.rows := by
    refine (List.map_congr_left fun x hx => ?_).trans (List.map_id _)
    exact if_neg fun hxr => find?_eq_none_iff.mp hnone x hx (hxr.trans hkey)
  change (t'.rows.map fun x => if key x = key r' then r' else x) = t.rows ++ [r']
  rw [hrows, List.map_append, hkeep, List.map_singleton, if_pos hkey.symm]

/-- The second of two versions of one row is the one that stays. -/
theorem save_save {t : Table ρ} {r r' : ρ} (hkey : key r = key r') :
    (t.save r).save r' = t.save r' := by
  apply Table.ext
  change ((t.rows.map fun x => if key x = key r then r else x).map
    fun x => if key x = key r' then r' else x) =
      t.rows.map fun x => if key x = key r' then r' else x
  rw [List.map_map]
  apply List.map_congr_left
  intro x _
  by_cases hx : key x = key r
  · simp [hx, hkey]
  · have hx' : key x ≠ key r' := fun h => hx (h.trans hkey.symm)
    simp [hx, hx']

theorem mem_save {t : Table ρ} {r x : ρ} :
    x ∈ (t.save r).rows ↔
      (x ∈ t.rows ∧ key x ≠ key r) ∨ (x = r ∧ ∃ old ∈ t.rows, key old = key r) := by
  unfold save
  simp only [List.mem_map]
  constructor
  · rintro ⟨y, hy, rfl⟩
    by_cases hk : key y = key r
    · exact Or.inr ⟨by rw [if_pos hk], y, hy, hk⟩
    · rw [if_neg hk]
      exact Or.inl ⟨hy, hk⟩
  · rintro (⟨hx, hk⟩ | ⟨rfl, old, hold, hk⟩)
    · exact ⟨x, hx, if_neg hk⟩
    · exact ⟨old, hold, if_pos hk⟩

/-- What holds of all rows holds of them after a rewrite when it holds of the new row. -/
theorem forall_mem_save {t : Table ρ} {r old : ρ} {p : ρ → Prop}
    (hfind : t.find? (key r) = some old) (h : ∀ x ∈ t.rows, p x) :
    (∀ x ∈ (t.save r).rows, p x) ↔ p r := by
  obtain ⟨hold, hkey⟩ := find?_eq_some_iff.mp hfind
  constructor
  · intro hsaved
    exact hsaved r (mem_save.mpr (Or.inr ⟨rfl, old, hold, hkey⟩))
  · intro hr x hx
    rcases mem_save.mp hx with ⟨hx, -⟩ | ⟨rfl, -⟩
    · exact h x hx
    · exact hr

theorem forall_mem_insert? {t t' : Table ρ} {r : ρ} {p : ρ → Prop} (hins : t.insert? r = some t')
    (h : ∀ x ∈ t.rows, p x) : (∀ x ∈ t'.rows, p x) ↔ p r := by
  rw [(insert?_eq_some_iff.mp hins).2, List.forall_mem_append, List.forall_mem_singleton]
  exact and_iff_right h

theorem save_of_find? {t : Table ρ} {r : ρ} (h : t.find? (key r) = some r) : t.save r = t := by
  apply Table.ext
  change (t.rows.map fun x => if key x = key r then r else x) = t.rows
  conv => rhs; rw [← List.map_id t.rows]
  apply List.map_congr_left
  intro x hx
  by_cases hk : key x = key r
  · rw [if_pos hk]
    have hx' := find?_of_mem hx
    rw [hk, h] at hx'
    exact Option.some.inj hx'
  · rw [if_neg hk]
    rfl

theorem find?_save_of_ne {t : Table ρ} {r : ρ} {k : κ} (hne : key r ≠ k) :
    (t.save r).find? k = t.find? k := by
  cases hfind : t.find? k with
  | none =>
      rw [find?_eq_none_iff] at hfind ⊢
      intro x hx
      rcases mem_save.mp hx with ⟨hx, -⟩ | ⟨rfl, -⟩
      · exact hfind x hx
      · exact hne
  | some x =>
      obtain ⟨hx, rfl⟩ := find?_eq_some_iff.mp hfind
      exact find?_of_mem (mem_save.mpr (Or.inl ⟨hx, Ne.symm hne⟩))

theorem find?_save {t : Table ρ} {r old : ρ} (h : t.find? (key r) = some old) (k : κ) :
    (t.save r).find? k = if key r = k then some r else t.find? k := by
  have hold := find?_eq_some_iff.mp h
  by_cases hk : key r = k
  · rw [if_pos hk, find?_eq_some_iff]
    exact ⟨mem_save.mpr (Or.inr ⟨rfl, old, hold.1, hold.2⟩), hk⟩
  · rw [if_neg hk]
    cases hf : t.find? k with
    | none =>
        rw [find?_eq_none_iff] at hf ⊢
        intro x hx
        rcases mem_save.mp hx with ⟨hmem, -⟩ | ⟨rfl, -⟩
        · exact hf x hmem
        · exact hk
    | some x =>
        have hx := find?_eq_some_iff.mp hf
        rw [find?_eq_some_iff]
        refine ⟨mem_save.mpr (Or.inl ⟨hx.1, ?_⟩), hx.2⟩
        intro heq
        exact hk (heq.symm.trans hx.2)

/-- What a rewrite does to one row, and doing nothing, is what it does to any. -/
theorem rel_of_save {R : Option ρ → Option ρ → Prop} (hrefl : ∀ r?, R r? r?) {t : Table ρ}
    {r old : ρ} (hfind : t.find? (key r) = some old) (hR : R (some old) (some r)) (k : κ) :
    R (t.find? k) ((t.save r).find? k) := by
  rw [find?_save hfind]
  by_cases hk : key r = k
  · rw [if_pos hk, ← hk, hfind]
    exact hR
  · rw [if_neg hk]
    exact hrefl _

/-- Saving a row changes nothing exactly when the row is there as it is. -/
theorem save_eq_self_iff {t : Table ρ} {r old : ρ} (h : t.find? (key r) = some old) :
    t.save r = t ↔ r = old := by
  constructor
  · intro hsave
    have hfind := find?_save h (key r)
    rw [hsave, h, if_pos rfl] at hfind
    exact (Option.some.inj hfind).symm
  · rintro rfl
    exact save_of_find? h

theorem find?_save_self (t : Table ρ) (r : ρ) :
    (t.save r).find? (key r) = (t.find? (key r)).map fun _ => r := by
  cases hfind : t.find? (key r) with
  | some old => rw [find?_save hfind, if_pos rfl, Option.map_some]
  | none =>
      rw [Option.map_none, find?_eq_none_iff]
      intro x hx
      rcases mem_save.mp hx with ⟨-, hne⟩ | ⟨rfl, old, hold, hkey⟩
      · exact hne
      · exact absurd hkey (find?_eq_none_iff.mp hfind old hold)

@[simp] theorem isSome_find?_save {t : Table ρ} {r : ρ} {k : κ} :
    ((t.save r).find? k).isSome = (t.find? k).isSome := by
  by_cases hk : key r = k
  · subst hk
    rw [find?_save_self, Option.isSome_map]
  · rw [find?_save_of_ne hk]

theorem update_of_find? {t : Table ρ} {k : κ} {r : ρ} (h : t.find? k = some r) (set : ρ → ρ) :
    t.update k set = t.save (set r) := by
  unfold update
  rw [h]

theorem find?_update {t : Table ρ} {k : κ} {set : ρ → ρ} (hset : ∀ r, key (set r) = key r)
    (k' : κ) :
    (t.update k set).find? k' = if k' = k then (t.find? k).map set else t.find? k' := by
  cases hfind : t.find? k with
  | none =>
      unfold update
      rw [hfind]
      by_cases hk : k' = k
      · rw [if_pos hk, hk, hfind]
        rfl
      · rw [if_neg hk]
  | some r =>
      have hkey : key (set r) = k := (hset r).trans (key_of_find? hfind)
      rw [update_of_find? hfind, find?_save (hkey.symm ▸ hfind), hkey]
      by_cases hk : k' = k
      · rw [if_pos hk, if_pos hk.symm]
        rfl
      · rw [if_neg hk, if_neg (Ne.symm hk)]

theorem mem_delete {t : Table ρ} {k : κ} {x : ρ} :
    x ∈ (t.delete k).rows ↔ x ∈ t.rows ∧ key x ≠ k := by
  simp [delete]

section Forall

variable {t t' : Table ρ} {r : ρ} {P : ρ → Prop}

theorem forall_insert? (h : ∀ x ∈ t.rows, P x) (hins : t.insert? r = some t') (hr : P r) :
    ∀ x ∈ t'.rows, P x := by
  intro x hx
  rcases (mem_insert? hins).mp hx with hx | rfl
  · exact h x hx
  · exact hr

theorem forall_save (h : ∀ x ∈ t.rows, P x) (hr : P r) : ∀ x ∈ (t.save r).rows, P x := by
  intro x hx
  rcases mem_save.mp hx with ⟨hx, -⟩ | ⟨rfl, -⟩
  · exact h x hx
  · exact hr

theorem forall_delete (h : ∀ x ∈ t.rows, P x) (k : κ) : ∀ x ∈ (t.delete k).rows, P x :=
  fun x hx => h x (mem_delete.mp hx).1

theorem forall_update (h : ∀ x ∈ t.rows, P x) (k : κ) {set : ρ → ρ}
    (hset : ∀ x, t.find? k = some x → P (set x)) : ∀ x ∈ (t.update k set).rows, P x := by
  cases hfind : t.find? k with
  | none =>
      unfold update
      rw [hfind]
      exact h
  | some x =>
      rw [update_of_find? hfind]
      exact forall_save h (hset x hfind)

/-- An update of several rows, one after the other. -/
theorem forall_updates (h : ∀ x ∈ t.rows, P x) (ks : List κ) {set : ρ → ρ}
    (hset : ∀ x, key x ∈ ks → P x → P (set x)) :
    ∀ x ∈ (ks.foldl (fun t k => t.update k set) t).rows, P x := by
  induction ks generalizing t with
  | nil => exact h
  | cons k ks ih =>
      refine ih (forall_update h k fun x hx => ?_) fun x hx => hset x (List.mem_cons_of_mem _ hx)
      refine hset x ?_ (h x (mem_of_find? hx))
      rw [key_of_find? hx]
      exact List.mem_cons_self

end Forall

theorem find?_delete (t : Table ρ) (k k' : κ) :
    (t.delete k).find? k' = if k = k' then none else t.find? k' := by
  by_cases hk : k = k'
  · rw [if_pos hk, find?_eq_none_iff]
    intro x hx
    exact hk ▸ (mem_delete.mp hx).2
  · rw [if_neg hk]
    cases hf : t.find? k' with
    | none =>
        rw [find?_eq_none_iff] at hf ⊢
        exact fun x hx => hf x (mem_delete.mp hx).1
    | some x =>
        have hx := find?_eq_some_iff.mp hf
        exact find?_eq_some_iff.mpr
          ⟨mem_delete.mpr ⟨hx.1, fun heq => hk (heq.symm.trans hx.2)⟩, hx.2⟩

theorem upsert_of_find? {t : Table ρ} {r old : ρ} (h : t.find? (key r) = some old) :
    t.upsert r = t.save r := by
  unfold upsert
  rw [insert?_eq_none (by rw [h]; rfl)]
  rfl

theorem insert?_of_upsert {t : Table ρ} {r : ρ} (h : t.find? (key r) = none) :
    t.insert? r = some (t.upsert r) := by
  obtain ⟨t', hins⟩ := exists_insert? h
  unfold upsert
  rw [hins]
  rfl

theorem find?_upsert (t : Table ρ) (r : ρ) (k : κ) :
    (t.upsert r).find? k = if key r = k then some r else t.find? k := by
  cases hfind : t.find? (key r) with
  | none => exact find?_insert? (insert?_of_upsert hfind) k
  | some old => rw [upsert_of_find? hfind, find?_save hfind]

theorem forall_upsert {t : Table ρ} {r : ρ} {P : ρ → Prop} (h : ∀ x ∈ t.rows, P x) (hr : P r) :
    ∀ x ∈ (t.upsert r).rows, P x := by
  cases hfind : t.find? (key r) with
  | none => exact forall_insert? h (insert?_of_upsert hfind) hr
  | some old =>
      rw [upsert_of_find? hfind]
      exact forall_save h hr

end Find

section Sum

variable [DecidableEq κ] {M : Type*} [AddCommMonoid M]

theorem sum_insert? {t t' : Table ρ} {r : ρ} (h : t.insert? r = some t') (f : ρ → M) :
    t'.sum f = t.sum f + f r := by
  unfold sum
  rw [(insert?_eq_some_iff.mp h).2, List.map_append, List.sum_append, List.map_singleton,
    List.sum_singleton]

/-- Replacing rows of one key in a list changes a sum by the difference of the
two rows, provided the key occurs once. -/
theorem sum_map_replace (f : ρ → M) {r old : ρ} :
    ∀ l : List ρ, (l.map key).Nodup → old ∈ l → key old = key r →
      ((l.map fun x => if key x = key r then r else x).map f).sum + f old =
        (l.map f).sum + f r
  | [], _, hmem, _ => by cases hmem
  | x :: l, hnd, hmem, hkey => by
      rw [List.map_cons, List.nodup_cons] at hnd
      obtain ⟨hx, hl⟩ := hnd
      rcases List.mem_cons.mp hmem with rfl | hmem
      · have hrest : (l.map fun x => if key x = key r then r else x) = l := by
          refine (List.map_congr_left fun y hy => ?_).trans (List.map_id l)
          refine if_neg fun hyr => hx ?_
          rw [hkey, ← hyr]
          exact List.mem_map_of_mem hy
        rw [List.map_cons, hrest, if_pos hkey, List.map_cons, List.map_cons, List.sum_cons,
          List.sum_cons, add_comm (f r), add_right_comm, add_comm (f old), add_right_comm]
      · have hne : key x ≠ key r := by
          intro hxr
          apply hx
          rw [hxr, ← hkey]
          exact List.mem_map_of_mem hmem
        have ih := sum_map_replace f l hl hmem hkey
        rw [List.map_cons, if_neg hne, List.map_cons, List.map_cons, List.sum_cons,
          List.sum_cons, add_assoc, ih, add_assoc]

theorem sum_save {t : Table ρ} {r old : ρ} (h : t.find? (key r) = some old) (f : ρ → M) :
    (t.save r).sum f + f old = t.sum f + f r :=
  sum_map_replace f t.rows t.nodup_keys (mem_of_find? h) (key_of_find? h)

theorem sum_upsert (t : Table ρ) (r : ρ) (f : ρ → M) :
    (t.upsert r).sum f + (t.find? (key r)).elim 0 f = t.sum f + f r := by
  cases hfind : t.find? (key r) with
  | none =>
      rw [sum_insert? (insert?_of_upsert hfind)]
      exact add_zero _
  | some old =>
      rw [upsert_of_find? hfind]
      exact sum_save hfind f

/-- Dropping the one row of a key from a list drops its summand. -/
theorem sum_map_filter_ne (f : ρ → M) {k : κ} {old : ρ} :
    ∀ l : List ρ, (l.map key).Nodup → old ∈ l → key old = k →
      ((l.filter fun r => key r ≠ k).map f).sum + f old = (l.map f).sum
  | [], _, hmem, _ => by cases hmem
  | x :: l, hnd, hmem, hkey => by
      rw [List.map_cons, List.nodup_cons] at hnd
      obtain ⟨hx, hl⟩ := hnd
      rcases List.mem_cons.mp hmem with rfl | hmem
      · have hrest : (l.filter fun r => key r ≠ k) = l := by
          refine List.filter_eq_self.mpr fun y hy => ?_
          refine decide_eq_true fun hyk => hx ?_
          rw [hkey, ← hyk]
          exact List.mem_map_of_mem hy
        rw [List.filter_cons_of_neg (by simp [hkey]), hrest, List.map_cons, List.sum_cons,
          add_comm]
      · have hne : key x ≠ k := by
          intro hxk
          apply hx
          rw [hxk, ← hkey]
          exact List.mem_map_of_mem hmem
        have ih := sum_map_filter_ne f l hl hmem hkey
        rw [List.filter_cons_of_pos (by simp [hne]), List.map_cons, List.map_cons,
          List.sum_cons, List.sum_cons, add_assoc, ih]

theorem sum_delete {t : Table ρ} {k : κ} {old : ρ} (h : t.find? k = some old) (f : ρ → M) :
    (t.delete k).sum f + f old = t.sum f :=
  sum_map_filter_ne f t.rows t.nodup_keys (mem_of_find? h) (key_of_find? h)

theorem sum_delete_add (t : Table ρ) (k : κ) (f : ρ → M) :
    (t.delete k).sum f + (t.find? k).elim 0 f = t.sum f := by
  cases hfind : t.find? k with
  | none =>
      have hkeep : (t.rows.filter fun x => key x ≠ k) = t.rows :=
        List.filter_eq_self.mpr fun x hx => decide_eq_true (find?_eq_none_iff.mp hfind x hx)
      change ((t.rows.filter fun x => key x ≠ k).map f).sum + 0 = (t.rows.map f).sum
      rw [hkeep, add_zero]
  | some old => exact sum_delete hfind f

end Sum

section Selection

/-- Some row satisfies `p`. -/
def Has (t : Table ρ) (p : ρ → Prop) : Prop := ∃ r ∈ t.rows, p r

/-- No two rows satisfy `p`. -/
def AtMostOne (t : Table ρ) (p : ρ → Prop) : Prop :=
  ∀ r ∈ t.rows, ∀ r' ∈ t.rows, p r → p r' → r = r'

/-- How many rows satisfy `p`. -/
def count (t : Table ρ) (p : ρ → Bool) : Nat := (t.rows.filter p).length

variable {t t' : Table ρ} {p : ρ → Prop} {r old : ρ}

theorem not_has_empty : ¬(empty : Table ρ).Has p := by
  rintro ⟨r, hr, -⟩
  cases hr

theorem AtMostOne.empty : (empty : Table ρ).AtMostOne p := by
  intro r hr
  cases hr

theorem AtMostOne.count_le_one {q : ρ → Bool} (h : t.AtMostOne fun r => q r = true) :
    t.count q ≤ 1 := by
  have hnodup : (t.rows.filter q).Nodup := (t.nodup_keys.of_map key).filter q
  have hall : ∀ r ∈ t.rows.filter q, ∀ r' ∈ t.rows.filter q, r = r' := by
    intro r hr r' hr'
    rw [List.mem_filter] at hr hr'
    exact h r hr.1 r' hr'.1 hr.2 hr'.2
  unfold count
  match t.rows.filter q, hnodup, hall with
  | [], _, _ => exact Nat.zero_le 1
  | [_], _, _ => exact Nat.le_refl 1
  | r :: r' :: l, hnodup, hall =>
      have heq : r = r' := hall r (by simp) r' (by simp)
      subst heq
      simp at hnodup

theorem count_pos_iff {q : ρ → Bool} : 0 < t.count q ↔ t.Has fun r => q r = true := by
  unfold count Has
  rw [List.length_pos_iff_exists_mem]
  simp only [List.mem_filter]

theorem count_eq_zero_iff {q : ρ → Bool} : t.count q = 0 ↔ ¬t.Has fun r => q r = true := by
  rw [← count_pos_iff, Nat.pos_iff_ne_zero, not_not]

theorem AtMostOne.count_eq_one_iff {q : ρ → Bool} (h : t.AtMostOne fun r => q r = true) :
    t.count q = 1 ↔ t.Has fun r => q r = true := by
  have hle : t.count q ≤ 1 := count_le_one h
  rw [← count_pos_iff]
  omega

variable [DecidableEq κ]

theorem has_insert? (h : t.insert? r = some t') : t'.Has p ↔ t.Has p ∨ p r := by
  unfold Has
  simp only [mem_insert? h, or_and_right, exists_or, exists_eq_left]

theorem AtMostOne.insert? (h : t.AtMostOne p) (hins : t.insert? r = some t')
    (hr : p r → ¬t.Has p) : t'.AtMostOne p := by
  intro x hx y hy hpx hpy
  rw [mem_insert? hins] at hx hy
  rcases hx with hx | rfl
  · rcases hy with hy | rfl
    · exact h x hx y hy hpx hpy
    · exact absurd ⟨x, hx, hpx⟩ (hr hpy)
  · rcases hy with hy | rfl
    · exact absurd ⟨y, hy, hpy⟩ (hr hpx)
    · rfl

/-- Rewriting a row that satisfies `p` neither before nor after. -/
theorem has_save_of_not (hfind : t.find? (key r) = some old) (hold : ¬p old) (hr : ¬p r) :
    (t.save r).Has p ↔ t.Has p := by
  constructor
  · rintro ⟨x, hx, hpx⟩
    rcases mem_save.mp hx with ⟨hx, -⟩ | ⟨rfl, -⟩
    · exact ⟨x, hx, hpx⟩
    · exact absurd hpx hr
  · rintro ⟨x, hx, hpx⟩
    refine ⟨x, mem_save.mpr (Or.inl ⟨hx, fun hkey => ?_⟩), hpx⟩
    have hx' := find?_of_mem hx
    rw [hkey, hfind] at hx'
    exact hold (Option.some.inj hx' ▸ hpx)

theorem has_save (hfind : t.find? (key r) = some old) (hr : p r) : (t.save r).Has p :=
  ⟨r, mem_save.mpr (Or.inr ⟨rfl, old, mem_of_find? hfind, key_of_find? hfind⟩), hr⟩

/-- After the only row that satisfies `p` is rewritten to one that does not. -/
theorem AtMostOne.not_has_save (h : t.AtMostOne p) (hfind : t.find? (key r) = some old)
    (hold : p old) (hr : ¬p r) : ¬(t.save r).Has p := by
  rintro ⟨x, hx, hpx⟩
  rcases mem_save.mp hx with ⟨hx, hkey⟩ | ⟨rfl, -⟩
  · have heq := h x hx old (mem_of_find? hfind) hpx hold
    exact hkey (heq ▸ key_of_find? hfind)
  · exact hr hpx

/-- Rewriting a row to one that satisfies `p` only if the old one did. -/
theorem AtMostOne.save (h : t.AtMostOne p) (hfind : t.find? (key r) = some old)
    (hp : p r → p old) : (t.save r).AtMostOne p := by
  intro x hx y hy hpx hpy
  rw [mem_save] at hx hy
  rcases hx with ⟨hx, hkx⟩ | ⟨rfl, -⟩
  · rcases hy with ⟨hy, -⟩ | ⟨rfl, -⟩
    · exact h x hx y hy hpx hpy
    · have heq := h x hx old (mem_of_find? hfind) hpx (hp hpy)
      exact absurd (heq ▸ key_of_find? hfind) hkx
  · rcases hy with ⟨hy, hky⟩ | ⟨rfl, -⟩
    · have heq := h y hy old (mem_of_find? hfind) hpy (hp hpx)
      exact absurd (heq ▸ key_of_find? hfind) hky
    · rfl

theorem atMostOne_save (h : ¬t.Has p) : (t.save r).AtMostOne p := by
  intro x hx y hy hpx hpy
  rw [mem_save] at hx hy
  rcases hx with ⟨hx, -⟩ | ⟨rfl, -⟩
  · exact absurd ⟨x, hx, hpx⟩ h
  · rcases hy with ⟨hy, -⟩ | ⟨rfl, -⟩
    · exact absurd ⟨y, hy, hpy⟩ h
    · rfl

end Selection

end Table

end Relational
