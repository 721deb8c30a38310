import Homex.Orders.Lifecycle

/-!
# Which requests leave the total of an order alone

The total of an order is written by the check, by equipment used on the order,
by the dashboard and internal writes, and when an online payment is started.
`Request.KeepsTotal` says, from the payload and the order, when a request writes
no other total than the one there is.
-/

namespace Homex

open Relational Orders Wallet Warehouse

variable {cfg : Settings} {ctx : Context} {db db' : DB} {r : Request} {o o' : Order}

/-- What the parts of an order add up to once those of a payload are in. -/
def Dashboard.OrderPayload.partsTotal (data : Dashboard.OrderPayload) (o : Order) : Int :=
  max (data.serviceFee.getD o.serviceFee + data.inventoryTotal.getD o.inventoryTotal -
    data.bonusUsed.getD o.bonusUsed) 0

/-- The request writes no other total to the order. -/
def Request.KeepsTotal (o : Order) : Request → Prop
  | .useInventory user _ data => data.orderId = o.id → o.master ≠ some user
  | .masterComplete user pk _ =>
      pk = o.id → o.master = some user → o.status ∉ activeOrderStatuses
  | .clientPay user pk (.choice method) =>
      pk = o.id → user = o.client → method ≠ .cash → o.status = .awaitingPayment →
        o.partsTotal = o.totalAmount
  | .dashboardUpdate pk data =>
      pk = o.id →
        if Dashboard.DashboardOrderSerializer.recalculates data then
          data.partsTotal o = o.totalAmount
        else data.totalAmount.getD o.totalAmount = o.totalAmount
  | .internalUpdate pk data =>
      pk = o.id →
        max (data.price.getD o.serviceFee + o.inventoryTotal - o.bonusUsed) 0 = o.totalAmount
  | _ => True

open Dashboard DashboardOrderSerializer in
/-- The address of a payload does not matter to the total. -/
theorem dashboardUpdated_totalAmount {data data' : Dashboard.OrderPayload}
    (hdata : data' = data ∨ ∃ a, data' = withAddress data a) :
    (updated data' o).totalAmount =
      if recalculates data then data.partsTotal o else data.totalAmount.getD o.totalAmount := by
  rcases hdata with rfl | ⟨a, rfl⟩
  · unfold updated
    split <;> rfl
  · have hrec : recalculates (withAddress data a) = recalculates data := rfl
    unfold updated
    rw [hrec]
    split <;> rfl

theorem Rewrites.totalAmount (h : Rewrites ctx r o o') (hk : r.KeepsTotal o) :
    o'.totalAmount = o.totalAmount := by
  cases h with
  | payOnline hst hmethod => exact hk rfl rfl hmethod hst
  | useInventory hid hmaster => exact absurd hmaster (hk hid)
  | dashboardUpdate hdata _ =>
      have hkept := hk rfl
      rw [dashboardUpdated_totalAmount hdata]
      split at hkept
      · next hrec => rw [if_pos hrec, hkept]
      · next hrec => rw [if_neg hrec, hkept]
  | internalUpdate _ => exact hk rfl
  | internalAssign => rfl
  | _ => rfl

theorem OrderStep.totalAmount (h : OrderStep ctx db db' r (some o) (some o'))
    (hk : r.KeepsTotal o) : o'.totalAmount = o.totalAmount := by
  cases h with
  | same => rfl
  | rewritten hr => exact hr.totalAmount hk
  | checked hr hst hmaster =>
      subst hr
      exact absurd hst (hk rfl hmaster)
  | completed _ => rfl
  | flagged _ _ _ => rfl
  | unflagged _ _ => rfl

end Homex
