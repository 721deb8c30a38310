import Mathlib.Algebra.Order.Ring.Int

/-!
# Amounts, identifiers and instants

The money and quantity columns are `numeric(_, 2)`. A stored amount is an
integer number of hundredths; a product of two amounts has four decimals and is
kept in ten-thousandths until it is written to a column, where PostgreSQL rounds
half away from zero. Values are taken to fit their columns; what the widths of the
amount columns bound is stated of the orders. Instants are integers too,
microseconds since the epoch.
-/

namespace Homex

/-- A `UUIDField` value. -/
abbrev Uuid := Nat

namespace Money

/-- `Decimal * Decimal`. -/
def times (a b : Int) : Int := a * b

/-- An amount read as a four-decimal number. -/
def toProduct (a : Int) : Int := a * 100

/-- Writing a four-decimal number to a `numeric(_, 2)` column. -/
def store (p : Int) : Int :=
  if 0 ≤ p then (p + 50) / 100 else -((-p + 50) / 100)

@[simp] theorem store_toProduct (a : Int) : store (toProduct a) = a := by
  unfold store toProduct
  split <;> omega

@[simp] theorem store_zero : store 0 = 0 := rfl

theorem store_nonneg {p : Int} (h : 0 ≤ p) : 0 ≤ store p := by
  unfold store
  rw [if_pos h]
  omega

end Money

end Homex
