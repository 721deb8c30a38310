import Homex.Concurrency.Accounts
import Homex.System.Requests

/-!
# The order requests, statement by statement

The views that read and write an order, as the database sees them: which rows
they read, which they lock, and which columns each `UPDATE` sets. A `save` with
`update_fields` sets the named columns of the row as it is then; any other
`save` writes the whole row that was loaded. An instance that was loaded stays
as it was, whatever happens to its row.

The transactions of `completePaidOrder` and `postWalletTransaction` run inside
the caller's, and no caller catches their errors, so they are not repeated here.
-/

namespace Homex

open Relational Concurrency Orders Wallet Warehouse Payme

/-- The rows that a statement reads by their key, locks or writes. -/
inductive RowKey
  | order (id : Uuid)
  | assignedMaster (order master : Uuid)
  | assistant (order assistant : Uuid)
  | product (id : Uuid)
  | movement (id : Uuid)
  | inventory (id : Uuid)
  | usage (id : Uuid)
  | master (id : Uuid)
  | wallet (master : Uuid)
  | walletTransaction (id : Uuid)
  | withdraw (id : Uuid)
  | payme (transactionId : String)
  deriving DecidableEq

/-- Code of a request, as statements. -/
abbrev Statements (α : Type) := Program DB RowKey Error α

namespace Statements

open Program

/-- A `SELECT` that is not asked for again, and the check of what it returns. -/
def select {α : Type} (x : Code α) : Statements α := .query fun db => .done (x db).1

@[simp] theorem settles_select {α ρ M : Type} [AddGroup M] {A : Account DB RowKey ρ M}
    {Q : α → Books RowKey ρ M → Prop} {b : Books RowKey ρ M} {x : Code α} :
    Settles A Q (select x) b ↔ b.Settled ∧ ∀ s, A.Sees b s → ∀ a, (x s).1 = .ok a → Q a b := by
  refine and_congr_right fun hsettled => forall_congr' fun _ => imp_congr_right fun _ => ?_
  exact settles_done.trans (and_iff_left fun _ _ => hsettled)

def updateOrder (pk : Uuid) (set : Order → Order) : Statements Unit :=
  write (.order pk) fun db => { db with orders := db.orders.update pk set }

/-- A `save` without `update_fields`. -/
def saveOrder (order : Order) : Statements Unit :=
  write (.order order.id) fun db => { db with orders := db.orders.save order }

def getOrder (pk : Uuid) : Statements Order :=
  fetch (.order pk) (fun db => db.orders.find? pk) (.notFound "Order")

/-- The order with a client. -/
def clientOrder (pk user : Uuid) (db : DB) : Option Order :=
  (db.orders.find? pk).filter fun order => order.client = user

/-- The order with a lead master. -/
def masterOrder (pk user : Uuid) (db : DB) : Option Order :=
  (db.orders.find? pk).filter fun order => order.master = some user

/-- `item.save(update_fields=["quantity", "updated_at"])`; it fails when the row is gone. -/
def saveInventoryQuantity (pk : Uuid) (quantity : Int) : Statements Unit :=
  create (.inventory pk)
    (fun db => (db.inventory.find? pk).map fun _ =>
      { db with inventory := db.inventory.update pk fun row => { row with quantity } })
    (.serverError "DatabaseError")

def createUsage (usage : OrderInventoryUsage) : Statements Unit :=
  create (.usage usage.id)
    (fun db => (db.usages.insert? usage).map fun usages => { db with usages := usages })
    Code.integrityError

/-- `lock_order_for_transition`. -/
def lockOrderForTransition (pk : Uuid) (row : DB → Option Order) (allowed : List OrderStatus) :
    Statements Order := do
  let order ← fetchForUpdate (.order pk) row (.notFound "Order")
  select (checkTransition order allowed)
  pure order

/-- A new wallet; when another transaction creates it first, that one is taken. -/
def insertWallet (master : Uuid) : Statements Unit :=
  write (.wallet master) fun db =>
    match db.wallet.wallets.insert? { master } with
    | some wallets => { db with wallet.wallets := wallets }
    | none => db

/-- `MasterWallet.objects.get_or_create(master=…)`. -/
def getOrCreateWallet (master : Uuid) : Statements Unit :=
  .read (.wallet master) fun db =>
    match db.wallet.wallets.find? master with
    | some _ => pure ()
    | none => insertWallet master

/-- `MasterWallet.objects.filter(…).update(…)` with `F` expressions. -/
def moveWallet (master : Uuid) (method : PaymentMethod) (delta earned withdrawn : Int) :
    Statements Unit :=
  write (.wallet master) fun db =>
    { db with
        wallet.wallets := db.wallet.wallets.update master fun wallet =>
          wallet.move method delta earned withdrawn }

/-- The balance update of `post_wallet_transaction`; `wallet` is the locked row. -/
def moveBalance (wallet : MasterWallet) (type : TransactionType) (amount : Int)
    (method : PaymentMethod) : Statements Unit :=
  match type with
  | .in => moveWallet wallet.master method amount amount 0
  | .out => do
      require (amount ≤ wallet.balance method) (.validation "amount" "Balans yetarli emas")
      moveWallet wallet.master method (-amount) 0 amount

def createTransaction (row : WalletTransaction) : Statements Unit :=
  create (.walletTransaction row.id)
    (fun db => (db.wallet.transactions.insert? row).map fun transactions =>
      { db with wallet.transactions := transactions })
    Code.integrityError

def postWalletTransaction (ctx : Context) (master : Uuid) (type : TransactionType)
    (amount : Int) (method : PaymentMethod) (description : String) (order : Option Uuid) :
    Statements WalletTransaction := do
  require (0 < amount) (.validation "amount" "Summa musbat bo'lishi kerak")
  getOrCreateWallet master
  let wallet ← fetchForUpdate (.wallet master) (fun db => db.wallet.wallets.find? master)
    (.serverError "DoesNotExist")
  moveBalance wallet type amount method
  let row : WalletTransaction :=
    { id := ctx.uuid .walletTransaction, master, transactionType := type, amount, description,
      paymentMethod := method, order }
  createTransaction row
  pure row

/-- `if order.master_id and order.total_amount`. -/
def creditMaster (ctx : Context) (order : Order) (paymentMethod : PaymentType) :
    Statements Unit :=
  match order.master with
  | none => pure ()
  | some master =>
      if order.totalAmount = 0 then
        pure ()
      else do
        let service ← select (Action.fetch (fun db => db.services.find? order.service)
          (.serverError "DoesNotExist"))
        let _ ← postWalletTransaction ctx master .in order.totalAmount
          paymentMethod.walletMethod service.name (some order.id)

def completePaidOrder (ctx : Context) (pk : Uuid) (paymentMethod : PaymentType) :
    Statements Bool := do
  let order ← fetchForUpdate (.order pk) (fun db => db.orders.find? pk)
    (.serverError "DoesNotExist")
  if order.status ≠ .awaitingPayment then
    pure false
  else do
    let completed := fun (row : Order) =>
      { row with
          status := .completed
          paymentType := some paymentMethod
          isPaid := true
          paidAt := some ctx.now }
    updateOrder pk completed
    creditMaster ctx (completed order) paymentMethod
    pure true

def ClientOrderCancelView.post (user pk : Uuid) (reason : String) : Statements Order :=
  atomic do
    let order ← lockOrderForTransition pk (clientOrder pk user) cancellableStatuses
    let cancelled := fun (row : Order) => { row with status := .cancelled, cancelReason := reason }
    updateOrder pk cancelled
    pure (cancelled order)

/-- The payment type is saved before the method is validated. -/
def ClientOrderPayView.post (ctx : Context) (user pk : Uuid)
    (paymentMethod : PaymentMethodField) : Statements PayResponse :=
  atomic do
    let order ← fetchForUpdate (.order pk) (clientOrder pk user) (.notFound "Order")
    require (order.status = .awaitingPayment) (.validation "status"
      "To'lov faqat chek yuborilgandan keyin (to'lov kutilmoqda holatida) amalga oshiriladi")
    require (order.isPaid = false) (.validation "status" "Buyurtma allaqachon to'langan")
    match paymentMethod with
    | .choice .cash => do
        let _ ← completePaidOrder ctx pk .cash
        let refreshed ← getOrder pk
        pure (.completed refreshed)
    | .choice method => do
        updateOrder pk fun row => { row with paymentType := some .online }
        updateOrder pk fun row => { row with totalAmount := order.recalculateTotal.totalAmount }
        pure (.paymentUrl pk method)
    | .missing => do
        updateOrder pk fun row => { row with paymentType := some .online }
        raise (.validation "payment_method" "This field is required.")
    | .invalid text => do
        updateOrder pk fun row => { row with paymentType := some .online }
        raise (.validation "payment_method" ("\"" ++ text ++ "\" is not a valid choice."))

def MasterOrderAcceptView.post (user pk : Uuid) : Statements Order :=
  atomic do
    let assignment ← fetch (.assignedMaster pk user)
      (fun db => (db.assignedMasters.find? (pk, user)).filter fun row => row.isActive)
      (.notFound "OrderMaster")
    let order ← fetchForUpdate (.order pk) (fun db => db.orders.find? pk)
      (.serverError "DoesNotExist")
    let accepted := fun (row : Order) => { row with master := some user, status := .accepted }
    if order.status = .new then
      updateOrder pk accepted
    if assignment.hasAccepted = false then
      write (.assignedMaster pk user) fun db =>
        { db with
            assignedMasters := db.assignedMasters.update (pk, user) fun row =>
              { row with hasAccepted := true } }
    pure (if order.status = .new then accepted order else order)

def MasterOrderOnWayView.post (user pk : Uuid) : Statements Order :=
  atomic do
    let order ← lockOrderForTransition pk (masterOrder pk user) [.accepted]
    let onWay := fun (row : Order) => { row with status := .onWay }
    updateOrder pk onWay
    pure (onWay order)

/-- The status is checked on the instance that was loaded without a lock. -/
def MasterOrderStartView.post (user pk : Uuid) : Statements Order := do
  let order ← fetch (.order pk) (masterOrder pk user) (.notFound "Order")
  atomic do
    if order.status = .arrived then
      pure order
    else do
      require (order.status = .onWay) (.validation "status"
        "Order faqat 'on_way' holatidan 'arrived' holatiga o'tadi")
      let arrived := fun (row : Order) => { row with status := .arrived }
      updateOrder pk arrived
      pure (arrived order)

def MasterOrderRejectView.post (user pk : Uuid) (reason : String) : Statements Order :=
  atomic do
    let order ← lockOrderForTransition pk (masterOrder pk user) rejectableStatuses
    let rejected := fun (row : Order) =>
      { row with status := .rejected, rejectedReason := reason }
    updateOrder pk rejected
    pure (rejected order)

namespace OrderCompleteSerializer

/-- One round of the `used_items` loop; `select_related` locks the product too. -/
def useItem (ctx : Context) (order : Order) (i : Nat) (item : UsedItem) : Statements Int := do
  let inventory ← fetchForUpdate (.inventory item.inventoryId)
    (fun db => (db.inventory.find? item.inventoryId).filter fun row =>
      some row.master = order.master)
    (.serverError "DoesNotExist")
  let product ← fetchForUpdate (.product inventory.warehouseProduct)
    (fun db => db.products.find? inventory.warehouseProduct)
    (.serverError "DoesNotExist")
  require (item.quantity ≤ inventory.quantity)
    (.validation none "Usta omborida yetarli mahsulot yo'q")
  saveInventoryQuantity inventory.id (inventory.quantity - item.quantity)
  createUsage (OrderInventoryUsage.of (ctx.uuid (.usage i)) order.id inventory.id item.quantity
    product.salePrice)
  pure (Money.times item.quantity product.salePrice)

def useItems (ctx : Context) (order : Order) (i : Nat) : List UsedItem → Statements Int
  | [] => pure 0
  | item :: items => do
      let line ← useItem ctx order i item
      let rest ← useItems ctx order (i + 1) items
      pure (line + rest)

/-- The order is saved whole, under its lock. -/
def save (ctx : Context) (pk : Uuid) (data : OrderCompletePayload) : Statements Order :=
  atomic do
    let order ← fetchForUpdate (.order pk) (fun db => db.orders.find? pk)
      (.serverError "DoesNotExist")
    require (order.status ∈ activeOrderStatuses)
      (.validation none "Chek allaqachon yuborilgan")
    let inMemory ← useItems ctx order 0 data.usedItems
    let db ← select Action.get
    let inventoryTotal :=
      if Orders.OrderCompleteSerializer.usageTotal db order.id = 0 then inMemory
      else Money.toProduct (Orders.OrderCompleteSerializer.usageTotal db order.id)
    let saved := Orders.OrderCompleteSerializer.checked ctx data order inventoryTotal
    saveOrder saved
    pure saved

end OrderCompleteSerializer

def MasterOrderCompleteView.post (ctx : Context) (user pk : Uuid)
    (data : OrderCompletePayload) : Statements Order := do
  let order ← fetch (.order pk) (masterOrder pk user) (.notFound "Order")
  select (Orders.OrderCompleteSerializer.validate order)
  OrderCompleteSerializer.save ctx pk data

/-- The foreign keys of a payload, one `SELECT` each. -/
def DashboardOrderSerializer.checkFields (data : Dashboard.OrderPayload) : Statements Unit := do
  select (requirePk DB.clients "client" data.client)
  select (requirePk DB.masters "master" (data.master.getD none))
  select (requirePk DB.services "service" data.service)
  select (requirePk DB.addresses "address" (data.address.getD none))

open Dashboard.DashboardOrderSerializer in
/-- The instance is loaded without a lock and saved whole. -/
def DashboardOrderSerializer.update (pk : Uuid) (data : Dashboard.OrderPayload) :
    Statements Order := do
  let order ← getOrder pk
  DashboardOrderSerializer.checkFields data
  select (validateStatus order.status data.status)
  let data ← select (validate (some order.client) order.address data)
  let saved := updated data order
  saveOrder saved
  pure saved

def DashboardOrderStatusAPIView.patch (pk : Uuid) (data : Dashboard.OrderStatusPayload) :
    Statements Order := do
  let _ ← getOrder pk
  atomic do
    let order ← fetchForUpdate (.order pk) (fun db => db.orders.find? pk)
      (.serverError "DoesNotExist")
    require (canAdminSetStatus order.status data.status = true) (.validation "status"
      "Bu holat o'zgarishiga ruxsat yo'q. Yakunlash usta yakunlash oqimi orqali bo'ladi.")
    let saved := fun (row : Order) =>
      { row with
          status := data.status
          cancelReason :=
            if data.status = .cancelled then data.cancelReason.getD order.cancelReason
            else order.cancelReason
          rejectedReason :=
            if data.status = .rejected then data.rejectedReason.getD order.rejectedReason
            else order.rejectedReason }
    updateOrder pk saved
    pure (saved order)

open InternalApi.InternalOrderWriteSerializer in
/-- The foreign keys of a payload, one `SELECT` each. -/
def InternalOrderWriteSerializer.checkFields (data : InternalApi.OrderPayload) :
    Statements Unit := do
  select (requirePk DB.clients "client_id" data.client)
  select (checkMaster "master_id" (data.master.getD none))
  select (checkService data.service)

open InternalApi.InternalOrderWriteSerializer in
/-- The instance is loaded without a lock and saved whole. -/
def InternalOrderWriteSerializer.update (ctx : Context) (pk : Uuid)
    (data : InternalApi.OrderPayload) : Statements Order := do
  let order ← getOrder pk
  InternalOrderWriteSerializer.checkFields data
  let (scheduledDate, scheduledTime) ← select (schedule ctx data)
  let attrs := attrsOf data scheduledDate scheduledTime
  require (canAdminSetStatus order.status (attrs.status.getD order.status) = true)
    (.validation "status"
      "Bu holatga o'tkazib bo'lmaydi. Yakunlash usta yakunlash oqimi orqali bo'ladi.")
  require (attrs.address = none) (.serverError "ValueError")
  let saved := updated attrs order
  saveOrder saved
  pure saved

/-- `get_object_or_404(Master, pk=master_id, is_active=True)`, when an id is given. -/
def activeMaster : Option Uuid → Statements Unit
  | none => pure ()
  | some id => do
      let _ ← select (Action.fetch
        (fun db => (db.masters.find? id).filter fun master => master.isActive)
        (.notFound "Master"))

/-- The master and status columns are set from the instance that was loaded
without a lock. -/
def OrderAssignAPIView.patch (pk : Uuid) (masterId : Option Uuid) : Statements Order := do
  let order ← getOrder pk
  activeMaster masterId
  let saved := InternalApi.assigned masterId order
  updateOrder pk fun row => { row with master := saved.master, status := saved.status }
  pure saved

/-- `order` is the instance of `tx.order`, loaded without a lock. -/
def markOrderPaid (ctx : Context) (order : Order) : Statements Unit :=
  if order.isPaid = true then
    pure ()
  else do
    let completed ← completePaidOrder ctx order.id .online
    if completed = false then
      updateOrder order.id fun row => { row with isPaid := true, paidAt := some ctx.now }

def updatePayme (id : String) (set : PaymeTransaction → PaymeTransaction) : Statements Unit :=
  write (.payme id) fun db => { db with payme := db.payme.update id set }

namespace PaymeWebHookAPIView

/-- `mark_as_cancelled` of the instance. -/
def markAsCancelled (now : Int) (reason : Option Int) (state : Payme.State)
    (tx : PaymeTransaction) : Statements Unit :=
  if tx.state = state then pure ()
  else
    updatePayme tx.transactionId fun row =>
      { row with state := state, cancelReason := reason, cancelledAt := some now }

/-- `mark_as_performed` of the instance. -/
def markAsPerformed (now : Int) (tx : PaymeTransaction) : Statements Unit :=
  if tx.state ≠ .initiating then pure ()
  else
    updatePayme tx.transactionId fun row =>
      { row with state := .successfully, performedAt := some now }

/-- The transaction block of `perform_transaction`. -/
def performLocked (ctx : Context) (id : String) : Statements (Option Payme.Result) := do
  let tx ← fetchForUpdate (.payme id) (fun db => db.payme.find? id)
    (.payme .transactionNotFound id)
  if tx.isPerformed = true then
    pure (some (performResult tx))
  else if tx.isCancelled = true then
    raise (.payme .unableToPerformOperation id)
  else if tx.isExpired ctx.now = true then do
    markAsCancelled ctx.now (some timeoutCancelReason) .canceledDuringInit tx
    pure none
  else do
    markAsPerformed ctx.now tx
    let order ← fetch (.order tx.order) (fun db => db.orders.find? tx.order)
      (.serverError "DoesNotExist")
    markOrderPaid ctx order
    pure (some (performResult (tx.markAsPerformed ctx.now)))

def performTransaction (ctx : Context) (params : Params) : Statements Payme.Result := do
  let id ← found (.payme .invalidRequest "id") params.id
  let result? ← atomic (performLocked ctx id)
  found (.payme .unableToPerformOperation id) result?

end PaymeWebHookAPIView

end Statements

/-- The requests that move an order. -/
inductive OrderRequest
  | clientCancel (user pk : Uuid) (reason : String)
  | clientPay (user pk : Uuid) (method : PaymentMethodField)
  | masterAccept (user pk : Uuid)
  | masterOnWay (user pk : Uuid)
  | masterStart (user pk : Uuid)
  | masterReject (user pk : Uuid) (reason : String)
  | masterComplete (user pk : Uuid) (data : OrderCompletePayload)
  | dashboardUpdate (pk : Uuid) (data : Dashboard.OrderPayload)
  | dashboardStatus (pk : Uuid) (data : Dashboard.OrderStatusPayload)
  /-- `OrderDetailAPIView` and `OrderStatusAPIView`. -/
  | internalUpdate (pk : Uuid) (data : InternalApi.OrderPayload)
  | internalAssign (pk : Uuid) (master : Option Uuid)
  | paymePerform (params : Params)

open Statements in
/-- The statements of a request. -/
def OrderRequest.statements (ctx : Context) : OrderRequest → Statements Response
  | .clientCancel user pk reason => .order <$> ClientOrderCancelView.post user pk reason
  | .clientPay user pk method => .pay <$> ClientOrderPayView.post ctx user pk method
  | .masterAccept user pk => .order <$> MasterOrderAcceptView.post user pk
  | .masterOnWay user pk => .order <$> MasterOrderOnWayView.post user pk
  | .masterStart user pk => .order <$> MasterOrderStartView.post user pk
  | .masterReject user pk reason => .order <$> MasterOrderRejectView.post user pk reason
  | .masterComplete user pk data => .order <$> MasterOrderCompleteView.post ctx user pk data
  | .dashboardUpdate pk data => .order <$> DashboardOrderSerializer.update pk data
  | .dashboardStatus pk data => .order <$> DashboardOrderStatusAPIView.patch pk data
  | .internalUpdate pk data => .order <$> InternalOrderWriteSerializer.update ctx pk data
  | .internalAssign pk master => .order <$> OrderAssignAPIView.patch pk master
  | .paymePerform params => .payme <$> PaymeWebHookAPIView.performTransaction ctx params

end Homex
