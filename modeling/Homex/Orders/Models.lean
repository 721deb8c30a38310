import Homex.Common.Money
import Homex.Relational.Table

/-!
# Orders

The order row, its status, and the two rows that hang off it: the masters an
admin assigned and the equipment a master used. `canAdminSetStatus` is the guard
every generic status write goes through. It lets an admin put an order into any
status but `completed`, and lets nobody leave a terminal one.
-/

namespace Homex

namespace Orders

open Relational

/-- The lifecycle of an order. -/
inductive OrderStatus
  | new
  | accepted
  | onWay
  | arrived
  | awaitingPayment
  | completed
  | cancelled
  | rejected
  deriving DecidableEq, Repr

/-- The stored text of a status, as the error messages print it. -/
def OrderStatus.value : OrderStatus → String
  | .new => "new"
  | .accepted => "accepted"
  | .onWay => "on_way"
  | .arrived => "arrived"
  | .awaitingPayment => "awaiting_payment"
  | .completed => "completed"
  | .cancelled => "cancelled"
  | .rejected => "rejected"

/-- Statuses an order never leaves. -/
def terminalOrderStatuses : List OrderStatus := [.completed, .cancelled, .rejected]

/-- Statuses in which a master is handling the order; also
`OrderCompleteSerializer.COMPLETABLE_STATUSES`. -/
def activeOrderStatuses : List OrderStatus := [.accepted, .onWay, .arrived]

theorem not_mem_terminal_of_active {s : OrderStatus} (h : s ∈ activeOrderStatuses) :
    s ∉ terminalOrderStatuses := by
  revert h
  cases s <;> decide

/-- Whether an admin or generic write serializer may move `current` to `next`. -/
def canAdminSetStatus (current next : OrderStatus) : Bool :=
  if current = next then true
  else if next = .completed then false
  else if current ∈ terminalOrderStatuses then false
  else true

theorem canAdminSetStatus_self (s : OrderStatus) : canAdminSetStatus s s = true := by
  simp [canAdminSetStatus]

/-- Only an order that is already completed is left in `completed`. -/
theorem eq_completed_of_canAdminSetStatus {s : OrderStatus}
    (h : canAdminSetStatus s .completed = true) : s = .completed := by
  revert h
  cases s <;> decide

/-- A terminal status is kept. -/
theorem eq_of_canAdminSetStatus {s t : OrderStatus} (h : canAdminSetStatus s t = true)
    (hs : s ∈ terminalOrderStatuses) : t = s := by
  revert h hs
  cases s <;> cases t <;> decide

/-- How a client pays. -/
inductive PaymentType
  | cash
  | online
  | card
  | plastic
  deriving DecidableEq, Repr

/-- `orders.Order`. The coordinates count units of the eighth decimal, dates are
day numbers and times of day microseconds. -/
structure Order where
  id : Uuid
  client : Uuid
  master : Option Uuid := none
  service : Uuid
  address : Option Uuid := none
  device : Option Uuid := none
  addressText : String
  lat : Int
  lng : Int
  scheduledDate : Int
  scheduledTime : Int
  note : String := ""
  completionNote : String := ""
  status : OrderStatus := .new
  paymentType : Option PaymentType := none
  serviceFee : Int := 0
  inventoryTotal : Int := 0
  bonusUsed : Int := 0
  totalAmount : Int := 0
  isPaid : Bool := false
  paidAt : Option Int := none
  beforePhoto : Option String := none
  completionPhoto : Option String := none
  receiptApprovedAt : Option Int := none
  receiptApprovedBy : Option Uuid := none
  cancelReason : String := ""
  rejectedReason : String := ""
  deriving DecidableEq, Repr

instance : Keyed Order Uuid := ⟨Order.id⟩

@[simp] theorem key_order (o : Order) : key o = o.id := rfl

/-- `max(service_fee + inventory_total - bonus_used, 0)`. -/
def Order.partsTotal (o : Order) : Int :=
  max (o.serviceFee + o.inventoryTotal - o.bonusUsed) 0

def Order.recalculateTotal (o : Order) : Order :=
  { o with totalAmount := o.partsTotal }

/-- `orders.OrderMaster`, and `dashboard.DashboardOrderAssistant`: at most one row for an
order and a master. The row of an assistant has a note, left out here, and no
`has_accepted`, which nothing reads there. -/
structure Assignment where
  order : Uuid
  master : Uuid
  assignedBy : Option Uuid := none
  hasAccepted : Bool := false
  isActive : Bool := true
  deriving DecidableEq, Repr

instance : Keyed Assignment (Uuid × Uuid) := ⟨fun a => (a.order, a.master)⟩

/-- `orders.OrderInventoryUsage`. -/
structure OrderInventoryUsage where
  id : Uuid
  order : Uuid
  inventory : Uuid
  quantity : Int
  unitPrice : Int
  totalPrice : Int
  deriving DecidableEq, Repr

instance : Keyed OrderInventoryUsage Uuid := ⟨OrderInventoryUsage.id⟩

/-- `OrderInventoryUsage.save` computes `total_price`; the column stores it
rounded. -/
def OrderInventoryUsage.of (id order inventory : Uuid) (quantity unitPrice : Int) :
    OrderInventoryUsage where
  id := id
  order := order
  inventory := inventory
  quantity := quantity
  unitPrice := unitPrice
  totalPrice := Money.store (Money.times quantity unitPrice)

end Orders

end Homex
