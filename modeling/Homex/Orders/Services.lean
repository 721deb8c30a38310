import Homex.Wallet.Services

/-!
# Completing a paid order

`completePaidOrder` is the one place that completes an order and credits the
master. It acts only on an order that awaits payment.
-/

namespace Homex

namespace Orders

open Relational Action Code Wallet

/-- The wallet balance a payment type is credited to. -/
def PaymentType.walletMethod : PaymentType → PaymentMethod
  | .cash => .cash
  | .online => .online
  | .card => .online
  | .plastic => .online

/-- The credit of a completed order: `if order.master_id and order.total_amount`. -/
def creditMaster (ctx : Context) (order : Order) (paymentMethod : PaymentType) :
    Code (Option WalletTransaction) := do
  match order.master with
  | none => pure none
  | some master =>
      if order.totalAmount = 0 then
        pure none
      else
        let service ← fetch (fun db => db.services.find? order.service)
          (.serverError "DoesNotExist")
        let row ← postWalletTransaction ctx master .in order.totalAmount
          paymentMethod.walletMethod service.name (some order.id)
        pure (some row)

/-- Returns whether the order was completed by this call. -/
def completePaidOrder (ctx : Context) (pk : Uuid) (paymentMethod : PaymentType) : Code Bool :=
  atomic do
    let order ← fetch (fun db => db.orders.find? pk) (.serverError "DoesNotExist")
    if order.status ≠ .awaitingPayment then
      pure false
    else
      let completed :=
        { order with
            status := .completed
            paymentType := some paymentMethod
            isPaid := true
            paidAt := some ctx.now }
      saveOrder completed
      let credit ← creditMaster ctx completed paymentMethod
      record (.completed completed credit)
      pure true

end Orders

end Homex
