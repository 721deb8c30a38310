import Homex.Orders.Models
import Homex.Relational.Period
import Mathlib.Data.Rat.Floor

/-!
# The income the dashboard reports

An order counts as income once it is completed, on the local day of its
`updated_at`. That column is not part of the row here: it is a function of the
order's id. Days are numbered from 1970-01-01, amounts are hundredths.
-/

namespace Homex

namespace Dashboard

open Relational Orders

/-- The local day of an instant. `TIME_ZONE` is Asia/Tashkent, five hours ahead all
year. -/
def localDate (t : Int) : Int := (t + 18000000000) / 86400000000

theorem localDate_mono {t t' : Int} (h : t ≤ t') : localDate t ≤ localDate t' := by
  unfold localDate
  omega

/-- The year and the month of a day, in the proleptic Gregorian calendar: years of
the calculation begin in March, in eras of 400 years. -/
def yearMonth (day : Int) : Int × Int :=
  let z := day + 719468
  let era := z / 146097
  let doe := z % 146097
  let yoe := (doe - doe / 1460 + doe / 36524 - doe / 146096) / 365
  let doy := doe - (365 * yoe + yoe / 4 - yoe / 100)
  let mp := (5 * doy + 2) / 153
  if mp < 10 then (yoe + era * 400, mp + 3) else (yoe + era * 400 + 1, mp - 9)

example : yearMonth 19782 = (2024, 2) ∧ yearMonth 19783 = (2024, 3) := by decide

/-- The lookups that the reports put behind `updated_at__`. -/
inductive DateLookup
  | date (day : Int)
  | dateGte (day : Int)
  | dateLte (day : Int)
  | year (year : Int)
  | month (month : Int)

def DateLookup.admits (day : Int) : DateLookup → Bool
  | .date d => decide (day = d)
  | .dateGte d => decide (d ≤ day)
  | .dateLte d => decide (day ≤ d)
  | .year y => decide ((yearMonth day).1 = y)
  | .month m => decide ((yearMonth day).2 = m)

/-- The days that pass every lookup. -/
def period (filters : List DateLookup) (day : Int) : Bool := filters.all (·.admits day)

/-- The day an order counts on. -/
def incomeDate (updatedAt : Uuid → Int) (order : Order) : Option Int :=
  if order.status = .completed then some (localDate (updatedAt order.id)) else none

theorem incomeDate_completed {updatedAt : Uuid → Int} {order : Order}
    (h : order.status = .completed) :
    incomeDate updatedAt order = some (localDate (updatedAt order.id)) :=
  if_pos h

theorem incomeDate_other {updatedAt : Uuid → Int} {order : Order} (h : order.status ≠ .completed) :
    incomeDate updatedAt order = none :=
  if_neg h

/-- `_completed_income`. -/
def completedIncome (orders : Table Order) (updatedAt : Uuid → Int) (filters : List DateLookup) :
    Int :=
  orders.reported (incomeDate updatedAt) Order.totalAmount (period filters)

/-- `money`: `int` drops the fraction. -/
def money (value : Int) : Int := value.tdiv 100

/-- The digits of a number, in groups of three. -/
def grouped (n : Nat) : String :=
  if n < 1000 then toString n
  else
    let low := toString (n % 1000)
    grouped (n / 1000) ++ "," ++ "".pushn '0' (3 - low.length) ++ low

/-- `format_uzs`. -/
def formatUzs (value : Int) : String :=
  (if money value < 0 then "-" else "") ++ grouped (money value).natAbs ++ " so'm"

/-- `percent_change`. -/
def percentChange (current previous : Int) : Int × String :=
  if previous = 0 then
    (if 0 < current then 100 else 0, if 0 < current then "up" else "flat")
  else
    let diff : ℚ := ((current : ℚ) - previous) / previous * 100
    (⌊|diff|⌋, if 0 < diff then "up" else if diff < 0 then "down" else "flat")

/-- A money card of the statistics. -/
structure MoneyCard where
  value : Int
  formatted : String
  changePercent : Int
  changeDirection : String

/-- The `daily_income` of `get_stats`. -/
def getStatsDailyIncome (orders : Table Order) (updatedAt : Uuid → Int) (targetDate : Int) :
    MoneyCard :=
  let dailyIncome := completedIncome orders updatedAt [.date targetDate]
  let yesterdayIncome := completedIncome orders updatedAt [.date (targetDate - 1)]
  { value := money dailyIncome
    formatted := formatUzs dailyIncome
    changePercent := (percentChange dailyIncome yesterdayIncome).1
    changeDirection := (percentChange dailyIncome yesterdayIncome).2 }

/-- `WEEKDAY_UZ`; day 0 is a Thursday. -/
def weekdayUz (day : Int) : String :=
  match (day + 3) % 7 with
  | 0 => "Dush"
  | 1 => "Sesh"
  | 2 => "Chor"
  | 3 => "Pay"
  | 4 => "Jum"
  | 5 => "Shan"
  | _ => "Yak"

/-- One day of the dynamics. -/
structure IncomeItem (α : Type) where
  date : Int
  label : String
  income : α

/-- The filtered rows, grouped by day. -/
def incomeByDay (orders : Table Order) (updatedAt : Uuid → Int) (startDate targetDate day : Int) :
    Int :=
  completedIncome orders updatedAt [.dateGte startDate, .dateLte targetDate, .date day]

/-- `get_income_dynamics`: a week up to the target day. `millions` shows an amount as
millions with two decimals. -/
def getIncomeDynamics {α : Type} (millions : Int → α) (orders : Table Order)
    (updatedAt : Uuid → Int) (targetDate : Int) : List (IncomeItem α) :=
  let startDate := targetDate - 6
  (List.range 7).map fun offset =>
    let day := startDate + offset
    { date := day
      label := weekdayUz day
      income := millions (incomeByDay orders updatedAt startDate targetDate day) }

end Dashboard

end Homex
