import Homex.Relational.Table
import Mathlib.Algebra.BigOperators.Group.List.Lemmas

/-!
# Counts of rows and updates of many rows

A count moves with every write as the sum of a column of ones and zeros does.
`updateWhere` is the `UPDATE … WHERE` that sets columns of every row that meets a
condition, none of them in the key.
-/

namespace Relational

namespace Table

variable {ρ κ : Type*} [Keyed ρ κ]

theorem count_eq_sum (t : Table ρ) (p : ρ → Bool) :
    t.count p = t.sum fun r => if p r then 1 else 0 := by
  unfold count sum
  rw [← List.countP_eq_length_filter]
  induction t.rows with
  | nil => rfl
  | cons r l ih =>
      rw [List.countP_cons, ih, List.map_cons, List.sum_cons, add_comm]

@[simp] theorem count_empty (p : ρ → Bool) : (empty : Table ρ).count p = 0 := rfl

section Writes

variable [DecidableEq κ] {t t' : Table ρ} {r old : ρ}

theorem count_insert? (h : t.insert? r = some t') (p : ρ → Bool) :
    t'.count p = t.count p + if p r then 1 else 0 := by
  rw [count_eq_sum, count_eq_sum, sum_insert? h]

theorem count_save (h : t.find? (key r) = some old) (p : ρ → Bool) :
    ((t.save r).count p + if p old then 1 else 0) = t.count p + if p r then 1 else 0 := by
  rw [count_eq_sum, count_eq_sum, sum_save h]

theorem count_delete {k : κ} (h : t.find? k = some old) (p : ρ → Bool) :
    ((t.delete k).count p + if p old then 1 else 0) = t.count p := by
  rw [count_eq_sum, count_eq_sum, sum_delete h]

end Writes

/-- `UPDATE` of columns of the rows that satisfy `p`. -/
def updateWhere (t : Table ρ) (p : ρ → Bool) (set : ρ → ρ) (hset : ∀ r, key (set r) = key r) :
    Table ρ :=
  ⟨t.rows.map fun r => if p r then set r else r, by
    have hkeys : (t.rows.map fun r => if p r then set r else r).map key = t.rows.map key := by
      rw [List.map_map]
      apply List.map_congr_left
      intro r _
      by_cases hp : p r
      · simp [hp, hset]
      · simp [hp]
    rw [hkeys]
    exact t.nodup_keys⟩

variable {p q : ρ → Bool} {set : ρ → ρ} (hset : ∀ r, key (set r) = key r)

theorem count_updateWhere (t : Table ρ) :
    (t.updateWhere p set hset).count q = t.count fun r => q (if p r then set r else r) := by
  unfold count updateWhere
  rw [List.filter_map, List.length_map]
  rfl

/-- No row satisfies the condition any more. -/
theorem count_updateWhere_self (t : Table ρ) (hp : ∀ r, p r = true → p (set r) = false) :
    (t.updateWhere p set hset).count p = 0 := by
  rw [count_updateWhere hset, count, List.length_eq_zero_iff, List.filter_eq_nil_iff]
  intro r _
  by_cases hr : p r = true
  · simp [hr, hp r hr]
  · simp [hr]

theorem count_updateWhere_of_eq (t : Table ρ) (hq : ∀ r, p r = true → q (set r) = q r) :
    (t.updateWhere p set hset).count q = t.count q := by
  rw [count_updateWhere hset, count, count]
  congr 1
  apply List.filter_congr
  intro r _
  by_cases hr : p r = true
  · rw [if_pos hr, hq r hr]
  · rw [if_neg hr]

end Table

end Relational
