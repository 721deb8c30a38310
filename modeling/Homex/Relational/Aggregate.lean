import Homex.Relational.Table

/-!
# Cached totals of a table

`total t group f g` is the sum of the column `f` over the rows whose group is
`g`. A denormalised column `c` is a cache of it when `c g = total t group f g`
for every group; `Caches` says so, and the rules tell how the cache has to move
when a row is inserted, rewritten or deleted.

`Shift` is one write to a table, with the group whose total it moves and by how
much: what a double-entry argument needs to know of it.
-/

namespace Relational

variable {ρ κ γ M : Type*} [Keyed ρ κ] [DecidableEq κ] [DecidableEq γ]

/-- The sum of a column over the rows of one group. -/
def Table.total [AddMonoid M] (t : Table ρ) (group : ρ → γ) (f : ρ → M) (g : γ) : M :=
  t.sum fun r => if group r = g then f r else 0

/-- The column `c` holds the totals of `t`. -/
def Caches [AddMonoid M] (c : γ → M) (t : Table ρ) (group : ρ → γ) (f : ρ → M) : Prop :=
  ∀ g, c g = t.total group f g

/-- A row that is its own group is the total of it. -/
theorem Table.total_of_find? [AddCommMonoid M] {t : Table ρ} {k : κ} {r : ρ}
    (h : t.find? k = some r) (f : ρ → M) : t.total key f k = f r := by
  have hdelete := Table.sum_delete h fun r => if key r = k then f r else 0
  have hrest : ((t.delete k).sum fun r => if key r = k then f r else 0) = 0 := by
    exact Table.sum_eq_zero _ fun r hr => if_neg (Table.mem_delete.mp hr).2
  rw [hrest, zero_add, if_pos (Table.key_of_find? h)] at hdelete
  exact hdelete.symm

theorem Table.total_of_find?_none [AddCommMonoid M] {t : Table ρ} {k : κ}
    (h : t.find? k = none) (f : ρ → M) : t.total key f k = 0 :=
  Table.sum_eq_zero _ fun r hr => if_neg (Table.find?_eq_none_iff.mp h r hr)

section Shift

variable [AddCommGroup M]

/-- One write to a table, which moves the total of the group `g`. -/
inductive Table.Shift (group : ρ → γ) (f : ρ → M) (s t : Table ρ) (g : γ) : M → Prop
  | same (h : t = s) : Shift group f s t g 0
  | insert {r : ρ} (h : s.insert? r = some t) (hg : group r = g) : Shift group f s t g (f r)
  | save {old new : ρ} (hfind : s.find? (key new) = some old) (hold : group old = g)
      (hnew : group new = g) (h : t = s.save new) : Shift group f s t g (f new - f old)
  | delete {old : ρ} (hfind : s.find? (key old) = some old) (hg : group old = g)
      (h : t = s.delete (key old)) : Shift group f s t g (-f old)

omit [DecidableEq γ] in
/-- Saving a row that keeps its group. -/
theorem Table.shift_save (group : ρ → γ) (f : ρ → M) {s : Table ρ} {old : ρ} (new : ρ)
    (hfind : s.find? (key new) = some old) (hgroup : group new = group old) :
    Table.Shift group f s (s.save new) (group old) (f new - f old) :=
  .save hfind rfl hgroup rfl

theorem Table.Shift.total {group : ρ → γ} {f : ρ → M} {s t : Table ρ} {g : γ} {d : M}
    (h : Table.Shift group f s t g d) (g' : γ) :
    t.total group f g' = s.total group f g' + if g = g' then d else 0 := by
  cases h with
  | same h =>
      rw [h, ite_self, add_zero]
  | insert h hg =>
      subst hg
      exact Table.sum_insert? h _
  | @save old new hfind hold hnew h =>
      subst hold
      have hsum := Table.sum_save hfind fun r => if group r = g' then f r else 0
      rw [hnew] at hsum
      rw [h, Table.total, Table.total, ← add_sub_cancel_right (Table.sum _ _), hsum]
      by_cases hg : group old = g'
      · simp only [if_pos hg, add_sub_assoc]
      · simp only [if_neg hg, sub_zero]
  | @delete old hfind hg h =>
      subst hg
      have hsum := Table.sum_delete hfind fun r => if group r = g' then f r else 0
      rw [h, Table.total, Table.total, ← hsum]
      by_cases hg : group old = g'
      · simp only [if_pos hg, add_neg_cancel_right]
      · simp only [if_neg hg, add_zero]

end Shift

namespace Caches

section Monoid

variable [AddCommMonoid M] {c c' : γ → M} {t t' : Table ρ} {group : ρ → γ} {f : ρ → M}

omit [DecidableEq κ] in
theorem empty (h : ∀ g, c g = 0) : Caches c (Table.empty : Table ρ) group f := by
  intro g
  exact h g

omit [DecidableEq κ] in
theorem congr (h : Caches c t group f) (hc : ∀ g, c' g = c g) (ht : t' = t) :
    Caches c' t' group f := by
  intro g
  rw [hc g, ht]
  exact h g

theorem insert {r : ρ} (h : Caches c t group f) (hr : t.insert? r = some t')
    (hc : ∀ g, c' g = c g + if group r = g then f r else 0) : Caches c' t' group f := by
  intro g
  rw [hc g, h g, Table.total, Table.total, Table.sum_insert? hr]

/-- Rewriting a row that keeps its group and its summand leaves the cache alone. -/
theorem save (h : Caches c t group f) (r old : ρ) (hold : t.find? (key r) = some old)
    [IsRightCancelAdd M] (hgroup : group r = group old) (hf : f r = f old) :
    Caches c (t.save r) group f := by
  intro g
  have hsum := Table.sum_save hold fun r => if group r = g then f r else 0
  rw [hgroup, hf] at hsum
  rw [h g, Table.total, Table.total]
  exact (add_right_cancel hsum).symm

end Monoid

theorem delete [AddCommGroup M] {c c' : γ → M} {t : Table ρ} {group : ρ → γ} {f : ρ → M}
    {k : κ} {old : ρ} (h : Caches c t group f) (hold : t.find? k = some old)
    (hc : ∀ g, c' g = c g - if group old = g then f old else 0) :
    Caches c' (t.delete k) group f := by
  intro g
  have hsum := Table.sum_delete hold fun r => if group r = g then f r else 0
  rw [hc g, h g, Table.total, Table.total, ← hsum, add_sub_cancel_right]

end Caches

end Relational
