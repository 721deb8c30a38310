import Homex.Orders.Serializers
import Homex.Orders.Services

/-!
# The order views of the client and master apps

`user` is the client or master who is logged in. The transitions either lock the
order and check its status under the lock (`lockOrderForTransition`), or, for
`MasterOrderStartView`, check the row that was loaded without a lock.
-/

namespace Homex

namespace Orders

open Relational Action Code

/-- The order of a client. -/
def getClientOrder (pk user : Uuid) : Code Order := do
  let order ← getOrder pk
  require (order.client = user) (.notFound "Order")
  pure order

/-- The order a master leads. -/
def getMasterOrder (pk user : Uuid) : Code Order := do
  let order ← getOrder pk
  require (order.master = some user) (.notFound "Order")
  pure order

/-- The status check of `lock_order_for_transition`. -/
def checkTransition (order : Order) (allowed : List OrderStatus) : Code Unit :=
  require (order.status ∈ allowed) (.validation "status"
    ("Buyurtma holati bu amalni bajarishga imkon bermaydi (joriy holat: " ++
      order.status.value ++ ")"))

/-- `lock_order_for_transition(pk, client=user)`. -/
def lockClientOrder (pk user : Uuid) (allowed : List OrderStatus) : Code Order := do
  let order ← getClientOrder pk user
  checkTransition order allowed
  pure order

/-- `lock_order_for_transition(pk, master=user)`. -/
def lockMasterOrder (pk user : Uuid) (allowed : List OrderStatus) : Code Order := do
  let order ← getMasterOrder pk user
  checkTransition order allowed
  pure order

def ClientOrderListCreateView.post (ctx : Context) (user : Uuid) (data : OrderPayload) :
    Code Order :=
  OrderSerializer.create ctx user data

/-- The statuses a client may cancel in. -/
def cancellableStatuses : List OrderStatus := [.new, .accepted, .onWay]

def ClientOrderCancelView.post (user pk : Uuid) (reason : String) : Code Order :=
  atomic do
    let order ← lockClientOrder pk user cancellableStatuses
    let cancelled := { order with status := .cancelled, cancelReason := reason }
    saveOrder cancelled
    pure cancelled

/-- The `payment_method` field of a pay request. -/
inductive PaymentMethodField
  | missing
  | invalid (text : String)
  | choice (method : PaymentType)

/-- What `ClientOrderPayView` answers. -/
inductive PayResponse
  | completed (order : Order)
  | paymentUrl (order : Uuid) (method : PaymentType)

def ClientOrderPayView.post (ctx : Context) (user pk : Uuid)
    (paymentMethod : PaymentMethodField) : Code PayResponse :=
  atomic do
    let order ← getClientOrder pk user
    require (order.status = .awaitingPayment) (.validation "status"
      "To'lov faqat chek yuborilgandan keyin (to'lov kutilmoqda holatida) amalga oshiriladi")
    require (order.isPaid = false) (.validation "status" "Buyurtma allaqachon to'langan")
    match paymentMethod with
    | .choice .cash =>
        let _ ← completePaidOrder ctx pk .cash
        let refreshed ← getOrder pk
        pure (.completed refreshed)
    | .choice method =>
        saveOrder { order with paymentType := some .online }
        saveOrder (Order.recalculateTotal { order with paymentType := some .online })
        pure (.paymentUrl pk method)
    | .missing => raise (.validation "payment_method" "This field is required.")
    | .invalid text =>
        raise (.validation "payment_method" ("\"" ++ text ++ "\" is not a valid choice."))

/-- Only a master with an active assignment may accept; the first one leads. -/
def MasterOrderAcceptView.post (user pk : Uuid) : Code Order :=
  atomic do
    let assignment ← fetch (fun db => db.assignedMasters.find? (pk, user))
      (.notFound "OrderMaster")
    require (assignment.isActive = true) (.notFound "OrderMaster")
    let order ← fetch (fun db => db.orders.find? pk) (.serverError "DoesNotExist")
    let accepted := { order with master := some user, status := .accepted }
    if order.status = .new then
      saveOrder accepted
    if assignment.hasAccepted = false then
      saveAssignedMaster { assignment with hasAccepted := true }
    pure (if order.status = .new then accepted else order)

def MasterOrderOnWayView.post (user pk : Uuid) : Code Order :=
  atomic do
    let order ← lockMasterOrder pk user [.accepted]
    let onWay := { order with status := .onWay }
    saveOrder onWay
    pure onWay

def MasterOrderStartView.post (user pk : Uuid) : Code Order := do
  let order ← getMasterOrder pk user
  OrderStartSerializer.save order

/-- The statuses a master may reject in. -/
def rejectableStatuses : List OrderStatus := [.new, .accepted, .onWay, .arrived]

def MasterOrderRejectView.post (user pk : Uuid) (reason : String) : Code Order :=
  atomic do
    let order ← lockMasterOrder pk user rejectableStatuses
    let rejected := { order with status := .rejected, rejectedReason := reason }
    saveOrder rejected
    pure rejected

def MasterOrderCompleteView.post (ctx : Context) (user pk : Uuid)
    (data : OrderCompletePayload) : Code Order := do
  let order ← getMasterOrder pk user
  OrderCompleteSerializer.validate order
  OrderCompleteSerializer.save ctx pk data

/-- `approve_order_receipt`. -/
def approveOrderReceipt (ctx : Context) (order : Order) (master : Uuid) : Code Bool := do
  require (order.status = .completed)
    (.validation "status" "Check faqat completed order uchun tasdiqlanadi")
  if order.receiptApprovedAt.isSome then
    pure false
  else
    saveOrder { order with receiptApprovedAt := some ctx.now, receiptApprovedBy := some master }
    pure true

def MasterOrderReceiptConfirmView.post (ctx : Context) (user pk : Uuid) : Code Bool := do
  let order ← getMasterOrder pk user
  approveOrderReceipt ctx order user

end Orders

end Homex
