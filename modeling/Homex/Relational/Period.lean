import Homex.Relational.Table
import Mathlib.Algebra.BigOperators.Group.Finset.Basic

/-!
# Reports of a period

Each row may fall on a day. `reported` sums a column over the rows that fall on
the days of a period; `share` is what the row of one key adds to it. Two tables
whose rows have the same shares, key by key, report the same.
-/

namespace Relational

namespace Table

variable {ρ κ δ M : Type*} [Keyed ρ κ] [DecidableEq κ]

/-- The sum of a column over the rows that fall on a day of the period. -/
def reported [AddMonoid M] (t : Table ρ) (date : ρ → Option δ) (amount : ρ → M)
    (period : δ → Bool) : M :=
  t.sum fun r => if (date r).any period then amount r else 0

/-- What the row of a key adds to the report of the period. -/
def share [AddMonoid M] (t : Table ρ) (date : ρ → Option δ) (amount : ρ → M)
    (period : δ → Bool) (k : κ) : M :=
  ((t.find? k).map fun r => if (date r).any period then amount r else 0).getD 0

section Share

variable [AddMonoid M] {t : Table ρ} {date : ρ → Option δ} {amount : ρ → M} {period : δ → Bool}
  {k : κ} {r : ρ}

theorem share_of_find? (h : t.find? k = some r) :
    t.share date amount period k = if (date r).any period then amount r else 0 := by
  unfold share
  rw [h, Option.map_some, Option.getD_some]

theorem share_of_none (h : t.find? k = none) : t.share date amount period k = 0 := by
  unfold share
  rw [h, Option.map_none, Option.getD_none]

/-- A row that falls outside the period adds nothing. -/
theorem share_eq_zero (h : t.find? k = some r) (hday : ∀ d ∈ date r, period d = false) :
    t.share date amount period k = 0 := by
  rw [share_of_find? h]
  cases hdate : date r with
  | none => rfl
  | some d =>
      rw [Option.any_some, hday d hdate]
      rfl

theorem share_congr {t' : Table ρ} {date' : ρ → Option δ} (h : t'.find? k = t.find? k)
    (hdate : ∀ r, t.find? k = some r → date' r = date r) :
    t'.share date' amount period k = t.share date amount period k := by
  cases hfind : t.find? k with
  | none => rw [share_of_none hfind, share_of_none (h.trans hfind)]
  | some r => rw [share_of_find? hfind, share_of_find? (h.trans hfind), hdate r hfind]

end Share

section Sum

variable [AddCommMonoid M]

/-- A sum over a table, key by key; keys without a row may be added. -/
theorem sum_eq_sum_keys (t : Table ρ) (f : ρ → M) (keys : Finset κ)
    (hkeys : ∀ r ∈ t.rows, key r ∈ keys) :
    t.sum f = ∑ k ∈ keys, ((t.find? k).map f).getD 0 := by
  have hrows : t.sum f = ∑ k ∈ (t.rows.map key).toFinset, ((t.find? k).map f).getD 0 := by
    rw [List.sum_toFinset _ t.nodup_keys, List.map_map]
    refine congrArg List.sum (List.map_congr_left fun r hr => ?_)
    rw [Function.comp_apply, find?_of_mem hr, Option.map_some, Option.getD_some]
  rw [hrows]
  refine Finset.sum_subset (fun k hk => ?_) fun k _ hk => ?_
  · obtain ⟨r, hr, rfl⟩ := List.mem_map.mp (List.mem_toFinset.mp hk)
    exact hkeys r hr
  · have hnone : t.find? k = none := find?_eq_none_iff.mpr fun r hr hkey =>
      hk (List.mem_toFinset.mpr (List.mem_map.mpr ⟨r, hr, hkey⟩))
    rw [hnone, Option.map_none, Option.getD_none]

/-- Tables with the same shares report the same. -/
theorem reported_congr {t t' : Table ρ} {date date' : ρ → Option δ} {amount : ρ → M}
    {period : δ → Bool}
    (h : ∀ k : κ, t'.share date' amount period k = t.share date amount period k) :
    t'.reported date' amount period = t.reported date amount period := by
  unfold reported
  rw [sum_eq_sum_keys t' _ (t.rows.map key ++ t'.rows.map key).toFinset,
    sum_eq_sum_keys t _ (t.rows.map key ++ t'.rows.map key).toFinset]
  · exact Finset.sum_congr rfl fun k _ => h k
  · intro r hr
    simp only [List.mem_toFinset, List.mem_append, List.mem_map]
    exact Or.inl ⟨r, hr, rfl⟩
  · intro r hr
    simp only [List.mem_toFinset, List.mem_append, List.mem_map]
    exact Or.inr ⟨r, hr, rfl⟩

end Sum

end Table

end Relational
