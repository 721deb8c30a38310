import Mathlib.Data.List.Dedup

/-!
# Outer joins

A row of the left list is paired with every row of the right list that it is
joined to, and with none when there is no such row. `selectDistinct` is the
`SELECT DISTINCT` of the left rows whose pair meets a condition: a left row
with several partners is selected once.
-/

namespace Relational

variable {α β : Type*}

/-- `LEFT OUTER JOIN`. -/
def leftJoin (on : α → β → Prop) [∀ a b, Decidable (on a b)] (l : List α) (r : List β) :
    List (α × Option β) :=
  l.flatMap fun a =>
    match r.filter fun b => on a b with
    | [] => [(a, none)]
    | partners => partners.map fun b => (a, some b)

/-- `SELECT DISTINCT` of the left rows of an outer join. -/
def selectDistinct [DecidableEq α] (on : α → β → Prop) [∀ a b, Decidable (on a b)]
    (cond : α → Option β → Prop) [∀ a b, Decidable (cond a b)] (l : List α) (r : List β) :
    List α :=
  (((leftJoin on l r).filter fun p => cond p.1 p.2).map Prod.fst).dedup

section Lemmas

variable {on : α → β → Prop} [∀ a b, Decidable (on a b)] {cond : α → Option β → Prop}
  [∀ a b, Decidable (cond a b)] {l : List α} {r : List β} {a : α} {b? : Option β}

theorem mem_leftJoin :
    (a, b?) ∈ leftJoin on l r ↔
      a ∈ l ∧ ((∃ b ∈ r, on a b ∧ b? = some b) ∨ (∀ b ∈ r, ¬on a b) ∧ b? = none) := by
  have hpairs : ∀ x : α, (a, b?) ∈ (match r.filter fun b => on x b with
      | [] => [(x, none)]
      | partners => partners.map fun b => (x, some b)) ↔
        x = a ∧ ((∃ b ∈ r, on a b ∧ b? = some b) ∨ (∀ b ∈ r, ¬on a b) ∧ b? = none) := by
    intro x
    split
    · next hnil =>
        simp only [List.filter_eq_nil_iff, decide_eq_true_eq] at hnil
        rw [List.mem_singleton, Prod.mk.injEq]
        constructor
        · rintro ⟨rfl, rfl⟩
          exact ⟨rfl, Or.inr ⟨hnil, rfl⟩⟩
        · rintro ⟨rfl, ⟨b, hb, hon, -⟩ | ⟨-, rfl⟩⟩
          · exact (hnil b hb hon).elim
          · exact ⟨rfl, rfl⟩
    · next hne =>
        simp only [List.mem_map, List.mem_filter, decide_eq_true_eq, Prod.mk.injEq]
        constructor
        · rintro ⟨b, ⟨hb, hon⟩, rfl, rfl⟩
          exact ⟨rfl, Or.inl ⟨b, hb, hon, rfl⟩⟩
        · rintro ⟨rfl, ⟨b, hb, hon, rfl⟩ | ⟨hnone, -⟩⟩
          · exact ⟨b, ⟨hb, hon⟩, rfl, rfl⟩
          · refine (hne (List.filter_eq_nil_iff.mpr fun b hb => ?_)).elim
            simpa using hnone b hb
  simp only [leftJoin, List.mem_flatMap, hpairs]
  constructor
  · rintro ⟨x, hx, rfl, h⟩
    exact ⟨hx, h⟩
  · rintro ⟨ha, h⟩
    exact ⟨a, ha, rfl, h⟩

variable [DecidableEq α]

theorem nodup_selectDistinct : (selectDistinct on cond l r).Nodup := List.nodup_dedup _

/-- A row is selected for one of its partners, or for having none. -/
theorem mem_selectDistinct :
    a ∈ selectDistinct on cond l r ↔
      a ∈ l ∧ ((∃ b ∈ r, on a b ∧ cond a (some b)) ∨ (∀ b ∈ r, ¬on a b) ∧ cond a none) := by
  simp only [selectDistinct, List.mem_dedup, List.mem_map, List.mem_filter, Prod.exists,
    exists_and_right, exists_eq_right, mem_leftJoin, decide_eq_true_eq]
  constructor
  · rintro ⟨b?, ⟨ha, ⟨b, hb, hon, rfl⟩ | ⟨hnone, rfl⟩⟩, hcond⟩
    · exact ⟨ha, Or.inl ⟨b, hb, hon, hcond⟩⟩
    · exact ⟨ha, Or.inr ⟨hnone, hcond⟩⟩
  · rintro ⟨ha, ⟨b, hb, hon, hcond⟩ | ⟨hnone, hcond⟩⟩
    · exact ⟨some b, ⟨ha, Or.inl ⟨b, hb, hon, rfl⟩⟩, hcond⟩
    · exact ⟨none, ⟨ha, Or.inr ⟨hnone, rfl⟩⟩, hcond⟩

end Lemmas

end Relational
