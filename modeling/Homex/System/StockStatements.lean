import Homex.Dashboard.Warehouse
import Homex.System.Statements
import Homex.Warehouse.Views

/-!
# The stock and payment requests, statement by statement

The services that move stock lock the product first and then the row of the
master; using stock on an order, `select_related` locks the row of the master
first and then its product. Returning stock writes the row of the master from an
instance that the view has loaded. `create_transaction` locks the order first,
the other methods lock the Payme transaction first.

The dashboard saves the other columns of a product or of a master's row whole,
outside a transaction, before it moves the quantity.
-/

namespace Homex

open Relational Concurrency Orders Profiles Wallet Warehouse Payme

namespace Statements

open Program

/-- `WarehouseProduct.objects.select_for_update().get(pk=…)`. -/
def lockProduct (pk : Uuid) : Statements WarehouseProduct :=
  fetchForUpdate (.product pk) (fun db => db.products.find? pk) (.serverError "DoesNotExist")

/-- `save(update_fields=["quantity", "updated_at"])` of a product. -/
def saveProductQuantity (pk : Uuid) (quantity : Int) : Statements Unit :=
  create (.product pk)
    (fun db => (db.products.find? pk).map fun _ =>
      { db with products := db.products.update pk fun row => { row with quantity } })
    (.serverError "DatabaseError")

def createMovement (movement : StockMovement) : Statements Unit :=
  create (.movement movement.id)
    (fun db => (db.movements.insert? movement).map fun movements =>
      { db with movements := movements })
    Code.integrityError

def createInventory (item : MasterInventory) : Statements Unit :=
  create (.inventory item.id)
    (fun db => (db.inventory.insert? item).map fun inventory =>
      { db with inventory := inventory })
    Code.integrityError

/-- The row of the master that `get_or_create` creates. -/
def newInventory (ctx : Context) (master : Uuid) (product : WarehouseProduct) :
    MasterInventory where
  id := ctx.uuid .inventory
  master := master
  warehouseProduct := product.id
  quantity := 0
  unit := product.unit
  lowThreshold := product.lowThreshold
  image := product.image

/-- The row, when it is still of the master and the product once it is locked. -/
def inventoryAt (db : DB) (pk master product : Uuid) : Option MasterInventory :=
  (db.inventory.find? pk).filter fun row => row.master = master ∧ row.warehouseProduct = product

/-- `select_for_update().get_or_create(…)`; the product is locked, so nobody else
creates the row meanwhile. -/
def getOrCreateInventory (ctx : Context) (master : Uuid) (product : WarehouseProduct) :
    Statements MasterInventory := do
  let found? ← select (Action.get >>= fun db => pure (inventoryOf db master product.id))
  match found? with
  | none => do
      createInventory (newInventory ctx master product)
      pure (newInventory ctx master product)
  | some item =>
      .lock (.inventory item.id) (fun db => (inventoryAt db item.id master product.id).isSome)
        fun db =>
        match inventoryAt db item.id master product.id with
        | some item => pure item
        | none => do
            createInventory (newInventory ctx master product)
            pure (newInventory ctx master product)

def assignInventoryToMaster (ctx : Context) (master : Master) (product : Uuid) (quantity : Int) :
    Statements MasterInventory :=
  atomic do
    let product ← lockProduct product
    require (quantity ≤ product.quantity)
      (.validation "quantity" "Omborda yetarli mahsulot yo'q")
    let item ← getOrCreateInventory ctx master.id product
    saveInventoryQuantity item.id (item.quantity + quantity)
    saveProductQuantity product.id (product.quantity - quantity)
    createMovement
      { id := ctx.uuid .movement, product := product.id, movementType := .out, quantity
        master := some master.id, note := "Ustaga biriktirildi: " ++ master.str
        origin := .transfer }
    pure { item with quantity := item.quantity + quantity }

/-- `if returned:` the stock goes back to the product. -/
def creditReturned (ctx : Context) (item : MasterInventory) (product : WarehouseProduct) :
    Statements Unit :=
  if item.quantity = 0 then
    pure ()
  else do
    saveProductQuantity product.id (product.quantity + item.quantity)
    let master ← select (masterOf item)
    createMovement
      { id := ctx.uuid .movement, product := product.id, movementType := .in
        quantity := item.quantity, master := some item.master
        note := "Ustadan qaytarildi: " ++ master.str, origin := .transfer }

/-- `item.delete()`; usages protect the row. -/
def deleteInventory (pk : Uuid) : Statements Unit :=
  create (.inventory pk)
    (fun db =>
      if usagesExist db pk = true then none
      else some { db with inventory := db.inventory.delete pk })
    Code.integrityError

/-- A row that orders have used is kept, at zero. -/
def removeItem (item : MasterInventory) : Statements Unit := do
  let used ← select (Action.get >>= fun db => pure (usagesExist db item.id))
  if used = true then saveInventoryQuantity item.id 0 else deleteInventory item.id

/-- `item` is the instance the view has loaded without a lock. -/
def returnInventoryToWarehouse (ctx : Context) (item : MasterInventory) : Statements Int :=
  atomic do
    let product ← lockProduct item.warehouseProduct
    creditReturned ctx item product
    removeItem item
    pure item.quantity

/-- `item` is the primary key of the instance the view has loaded. -/
def adjustMasterInventory (ctx : Context) (item product : Uuid) (newQuantity : Int) :
    Statements MasterInventory :=
  atomic do
    require (0 ≤ newQuantity)
      (.validation "quantity" "Miqdor manfiy bo'lishi mumkin emas")
    let product ← lockProduct product
    let item ← fetchForUpdate (.inventory item) (fun db => db.inventory.find? item)
      (.serverError "DoesNotExist")
    let delta := newQuantity - item.quantity
    if delta = 0 then
      pure item
    else do
      require (¬(0 < delta ∧ product.quantity < delta))
        (.validation "quantity" "Omborda yetarli mahsulot yo'q")
      saveProductQuantity product.id (product.quantity - delta)
      saveInventoryQuantity item.id newQuantity
      let master ← select (masterOf item)
      createMovement
        { id := ctx.uuid .movement, product := product.id
          movementType := if 0 < delta then .out else .in, quantity := |delta|
          master := some item.master
          note := "Usta biriktirish miqdori o'zgardi: " ++ master.str, origin := .transfer }
      pure { item with quantity := newQuantity }

/-- `_move_product_quantity`. -/
def moveProductQuantity (product : Uuid) (delta : Int) : Statements WarehouseProduct := do
  let product ← lockProduct product
  let newQty := product.quantity + delta
  require (0 ≤ newQty)
    (.validation "quantity" "Ombor qoldig'i manfiy bo'lishi mumkin emas")
  saveProductQuantity product.id newQty
  pure { product with quantity := newQty }

def adjustWarehouseStock (ctx : Context) (product : Uuid) (delta : Int) (note : String) :
    Statements StockMovement :=
  atomic do
    let product ← moveProductQuantity product delta
    let movement : StockMovement :=
      { id := ctx.uuid .movement, product := product.id
        movementType := if 0 ≤ delta then .in else .out, quantity := |delta|, note
        origin := .correction }
    createMovement movement
    pure movement

/-- Its transaction is the caller's. -/
def applyStockMovementEffect (product : Uuid) (movementType : MovementType) (quantity : Int) :
    Statements WarehouseProduct :=
  moveProductQuantity product (movementType.delta quantity)

def reverseStockMovement (movement : StockMovement) : Statements WarehouseProduct :=
  atomic (moveProductQuantity movement.product (-movement.signed))

/-- `select_related` locks the product too. -/
def UseInventoryView.post (ctx : Context) (user pk : Uuid) (data : UseInventoryPayload) :
    Statements MasterInventory :=
  atomic do
    let item ← fetchForUpdate (.inventory pk)
      (fun db => (db.inventory.find? pk).filter fun row => row.master = user)
      (.notFound "MasterInventory")
    let product ← lockProduct item.warehouseProduct
    let order ← fetchForUpdate (.order data.orderId) (masterOrder data.orderId user)
      (.notFound "Order")
    require (data.quantity ≤ item.quantity)
      (.validation none "Usta omborida yetarli mahsulot yo'q")
    saveInventoryQuantity item.id (item.quantity - data.quantity)
    createUsage (.of (ctx.uuid (.usage 0)) order.id item.id data.quantity product.salePrice)
    let db ← select Action.get
    let saved := withInventoryTotal order
      (Orders.OrderCompleteSerializer.usageTotal db order.id)
    updateOrder order.id fun row =>
      { row with inventoryTotal := saved.inventoryTotal, totalAmount := saved.totalAmount }
    pure { item with quantity := item.quantity - data.quantity }

def AdminMasterInventoryListView.post (ctx : Context) (masterId : Uuid)
    (data : AdminAssignPayload) : Statements MasterInventory := do
  let master ← select (Action.fetch (fun db => db.masters.find? masterId) (.notFound "Master"))
  let product ← fetch (.product data.warehouseProductId)
    (fun db => (db.products.find? data.warehouseProductId).filter fun row => row.isActive)
    (.validation "warehouse_product_id" "Mahsulot topilmadi yoki faol emas")
  assignInventoryToMaster ctx master product.id data.quantity

/-- `get_object_or_404(MasterInventory, id=item_id, master_id=master_id)`. -/
def getMasterItem (masterId itemId : Uuid) : Statements MasterInventory :=
  fetch (.inventory itemId)
    (fun db => (db.inventory.find? itemId).filter fun row => row.master = masterId)
    (.notFound "MasterInventory")

def AdminUpdateInventoryView.put (ctx : Context) (masterId itemId : Uuid)
    (quantity : { q : Int // 0 ≤ q }) : Statements MasterInventory := do
  let item ← getMasterItem masterId itemId
  adjustMasterInventory ctx item.id item.warehouseProduct quantity

def AdminUpdateInventoryView.delete (ctx : Context) (masterId itemId : Uuid) :
    Statements Unit := do
  let item ← getMasterItem masterId itemId
  let _ ← returnInventoryToWarehouse ctx item

def DashboardMasterInventoryListCreateAPIView.create (ctx : Context) (master product : Uuid)
    (quantity : Amount) : Statements MasterInventory := do
  let master ← select (Action.fetch (fun db => db.masters.find? master)
    (.invalidPk "master" master))
  let product ← fetch (.product product)
    (fun db => (db.products.find? product).filter fun row => row.isActive)
    (.invalidPk "warehouse_product" product)
  assignInventoryToMaster ctx master product.id quantity

/-- A `save` without `update_fields`. -/
def saveInventory (item : MasterInventory) : Statements Unit :=
  write (.inventory item.id) fun db => { db with inventory := db.inventory.upsert item }

/-- `if serializer.validated_data: serializer.save()`. -/
def saveItemColumns (item : MasterInventory) (data : Dashboard.InventoryPayload) :
    Statements Unit :=
  if data = {} then pure () else saveInventory (data.apply item)

/-- `item` is the instance the view has loaded. -/
def adjustItem (ctx : Context) (item : MasterInventory) : Option Int → Statements Unit
  | none => pure ()
  | some newQuantity =>
      if newQuantity = item.quantity then
        pure ()
      else do
        let _ ← adjustMasterInventory ctx item.id item.warehouseProduct newQuantity

/-- The columns and the quantity are two commits. -/
def DashboardMasterInventoryDetailAPIView.performUpdate (ctx : Context) (pk : Uuid)
    (data : Dashboard.InventoryPayload) : Statements MasterInventory := do
  let item ← fetch (.inventory pk) (fun db => db.inventory.find? pk)
    (.notFound "MasterInventory")
  select (Dashboard.checkInventory item data)
  saveItemColumns item data.withoutQuantity
  adjustItem ctx item data.quantity
  fetch (.inventory pk) (fun db => db.inventory.find? pk) (.serverError "DoesNotExist")

def DashboardMasterInventoryDetailAPIView.performDestroy (ctx : Context) (pk : Uuid) :
    Statements Unit := do
  let item ← fetch (.inventory pk) (fun db => db.inventory.find? pk)
    (.notFound "MasterInventory")
  let _ ← returnInventoryToWarehouse ctx item

/-- A `save` without `update_fields`. -/
def saveProduct (product : WarehouseProduct) : Statements Unit :=
  write (.product product.id) fun db => { db with products := db.products.upsert product }

/-- `if serializer.validated_data: serializer.save()`. -/
def saveColumns (product : WarehouseProduct) (data : Dashboard.ProductPayload) :
    Statements Unit :=
  if data = {} then pure () else saveProduct (data.apply product)

/-- `product` is the instance the view has loaded. -/
def correctQuantity (ctx : Context) (product : WarehouseProduct) : Option Int → Statements Unit
  | none => pure ()
  | some newQuantity =>
      if newQuantity = product.quantity then
        pure ()
      else do
        let _ ← adjustWarehouseStock ctx product.id (newQuantity - product.quantity)
          "Admin qoldiqni to'g'riladi"

/-- The columns and the quantity are two commits. -/
def DashboardWarehouseProductDetailAPIView.performUpdate (ctx : Context) (pk : Uuid)
    (data : Dashboard.ProductPayload) : Statements WarehouseProduct := do
  let product ← fetch (.product pk) (fun db => db.products.find? pk)
    (.notFound "WarehouseProduct")
  select (requirePk DB.categories "category" (data.category.getD none))
  saveColumns product data.withoutQuantity
  correctQuantity ctx product data.quantity
  fetch (.product pk) (fun db => db.products.find? pk) (.serverError "DoesNotExist")

def DashboardStockMovementListCreateAPIView.performCreate (ctx : Context)
    (data : Dashboard.MovementPayload) : Statements StockMovement := do
  select (requirePk DB.products "product" (some data.product))
  select (requirePk DB.masters "master" data.master)
  atomic do
    let _ ← applyStockMovementEffect data.product data.movementType data.quantity
    let movement : StockMovement :=
      { id := ctx.uuid .movement, product := data.product, movementType := data.movementType
        quantity := data.quantity, note := data.note, master := data.master
        origin := .manual }
    createMovement movement
    pure movement

/-- The row is deleted after the reversal is committed. -/
def DashboardStockMovementDetailAPIView.performDestroy (pk : Uuid) : Statements Unit := do
  let movement ← fetch (.movement pk) (fun db => db.movements.find? pk)
    (.notFound "StockMovement")
  let _ ← reverseStockMovement movement
  write (.movement pk) fun db => { db with movements := db.movements.delete pk }

def createPayme (tx : PaymeTransaction) : Statements Unit :=
  create (.payme tx.transactionId)
    (fun db => (db.payme.insert? tx).map fun payme => { db with payme := payme })
    Code.integrityError

/-- `order` is the instance of `tx.order`, loaded without a lock. -/
def markOrderPaymentCancelled (order : Order) : Statements Unit :=
  if order.isPaid = false then
    pure ()
  else
    updateOrder order.id fun row => { row with isPaid := false }

namespace PaymeWebHookAPIView

/-- `fetch_account`. -/
def fetchAccount (cfg : Settings) (account : List (String × Uuid)) : Statements Order := do
  let pk ← found (.payme .accountDoesNotExist cfg.paymeAccountField)
    (accountOrder cfg account)
  fetch (.order pk) (fun db => db.orders.find? pk)
    (.payme .accountDoesNotExist cfg.paymeAccountField)

/-- The locked part of `create_transaction` for an id that exists. -/
def createAgain (ctx : Context) (order : Order) (amount : Int) (tx : PaymeTransaction) :
    Statements (Option PaymeTransaction) := do
  require (tx.order = order.id ∧ tx.amount = amount)
    (.payme .transactionAlreadyExists tx.transactionId)
  if tx.isInitiating = true ∧ tx.isExpired ctx.now = true then do
    markAsCancelled ctx.now (some timeoutCancelReason) .canceledDuringInit tx
    pure none
  else
    pure (some tx)

/-- The locked part of `create_transaction` for a new id. -/
def createFresh (cfg : Settings) (ctx : Context) (order : Order) (amount : Int) (id : String) :
    Statements (Option PaymeTransaction) := do
  let active? ← select (Action.get >>= fun db => pure (getActiveTransaction db order.id))
  match active? with
  | some active =>
      require (cfg.paymeOneTimePayment = false)
        (.payme .transactionAlreadyExists active.transactionId)
  | none => pure ()
  let tx : PaymeTransaction :=
    { transactionId := id, order := order.id, amount, state := .initiating
      createdAt := ctx.now }
  createPayme tx
  pure (some tx)

/-- The transaction block of `create_transaction`: the order is locked, then the
Payme transaction. -/
def createLocked (cfg : Settings) (ctx : Context) (order : Order) (amount : Int) (id : String) :
    Statements (Option PaymeTransaction) :=
  .lock (.order order.id) (fun db => (db.orders.find? order.id).isSome) fun _ =>
    .lock (.payme id) (fun db => (db.payme.find? id).isSome) fun db =>
      match db.payme.find? id with
      | some tx => createAgain ctx order amount tx
      | none => createFresh cfg ctx order amount id

def createTransaction (cfg : Settings) (ctx : Context) (params : Params) :
    Statements Payme.Result := do
  let id ← found (.payme .invalidRequest "id") params.id
  let amountParam ← found (.payme .invalidRequest "amount") params.amount
  let account ← found (.payme .invalidRequest "account") params.account
  let order ← fetchAccount cfg account
  let amount ← select (validateAmount order amountParam)
  let tx? ← atomic (createLocked cfg ctx order amount id)
  select (Payme.PaymeWebHookAPIView.createAnswer id tx?)

/-- The transaction block of `cancel_transaction`. -/
def cancelLocked (ctx : Context) (id : String) (reason : Option Int) :
    Statements PaymeTransaction := do
  let tx ← fetchForUpdate (.payme id) (fun db => db.payme.find? id)
    (.payme .transactionNotFound id)
  if tx.isCancelled = true then
    pure tx
  else if tx.isPerformed = true then do
    let order ← fetch (.order tx.order) (fun db => db.orders.find? tx.order)
      (.serverError "DoesNotExist")
    require (order.status ≠ .completed) (.payme .unableToCancelTransaction id)
    markAsCancelled ctx.now reason .canceled tx
    markOrderPaymentCancelled order
    pure (tx.markAsCancelled ctx.now reason .canceled)
  else do
    markAsCancelled ctx.now reason .canceledDuringInit tx
    pure (tx.markAsCancelled ctx.now reason .canceledDuringInit)

def cancelTransaction (ctx : Context) (params : Params) : Statements Payme.Result := do
  let id ← found (.payme .invalidRequest "id") params.id
  let tx ← atomic (cancelLocked ctx id params.reason)
  pure (.cancel tx.transactionId tx.state.code (timeToPayme tx.cancelledAt))

end PaymeWebHookAPIView

end Statements

/-- The requests that move stock between the warehouse and a master. -/
inductive TransferRequest
  | adminAssign (master : Uuid) (data : AdminAssignPayload)
  | adminUpdate (master item : Uuid) (quantity : { q : Int // 0 ≤ q })
  | adminDelete (master item : Uuid)
  | inventoryCreate (master product : Uuid) (quantity : Amount)
  | inventoryUpdate (pk : Uuid) (data : Dashboard.InventoryPayload)
  | inventoryDestroy (pk : Uuid)

open Statements in
/-- The statements of a request. -/
def TransferRequest.statements (ctx : Context) : TransferRequest → Statements Unit
  | .adminAssign master data =>
      (fun _ => ()) <$> AdminMasterInventoryListView.post ctx master data
  | .adminUpdate master item quantity =>
      (fun _ => ()) <$> AdminUpdateInventoryView.put ctx master item quantity
  | .adminDelete master item => AdminUpdateInventoryView.delete ctx master item
  | .inventoryCreate master product quantity =>
      (fun _ => ()) <$> DashboardMasterInventoryListCreateAPIView.create ctx master product quantity
  | .inventoryUpdate pk data =>
      (fun _ => ()) <$> DashboardMasterInventoryDetailAPIView.performUpdate ctx pk data
  | .inventoryDestroy pk => DashboardMasterInventoryDetailAPIView.performDestroy ctx pk

/-- The requests that move stock from a master to an order, or between a master
and the warehouse. -/
inductive GoodsRequest
  | transfer (r : TransferRequest)
  | use (user pk : Uuid) (data : UseInventoryPayload)
  | complete (user pk : Uuid) (data : OrderCompletePayload)

open Statements in
/-- The statements of a request. -/
def GoodsRequest.statements (ctx : Context) : GoodsRequest → Statements Unit
  | .transfer r => r.statements ctx
  | .use user pk data => (fun _ => ()) <$> UseInventoryView.post ctx user pk data
  | .complete user pk data => (fun _ => ()) <$> MasterOrderCompleteView.post ctx user pk data

/-- The requests that move the stock on hand of the warehouse. -/
inductive LedgerRequest
  | transfer (r : TransferRequest)
  | productUpdate (pk : Uuid) (data : Dashboard.ProductPayload)
  | movementCreate (data : Dashboard.MovementPayload)
  | movementDestroy (pk : Uuid)

open Statements in
/-- The statements of a request. -/
def LedgerRequest.statements (ctx : Context) : LedgerRequest → Statements Unit
  | .transfer r => r.statements ctx
  | .productUpdate pk data =>
      (fun _ => ()) <$> DashboardWarehouseProductDetailAPIView.performUpdate ctx pk data
  | .movementCreate data =>
      (fun _ => ()) <$> DashboardStockMovementListCreateAPIView.performCreate ctx data
  | .movementDestroy pk => DashboardStockMovementDetailAPIView.performDestroy pk

/-- The requests that lock money and stock. -/
inductive LockRequest
  | paymeCreate (params : Params)
  | paymePerform (params : Params)
  | paymeCancel (params : Params)
  | clientPay (user pk : Uuid) (method : PaymentMethodField)
  | goods (r : GoodsRequest)

open Statements in
/-- The statements of a request. -/
def LockRequest.statements (cfg : Settings) (ctx : Context) : LockRequest → Statements Unit
  | .paymeCreate params =>
      (fun _ => ()) <$> PaymeWebHookAPIView.createTransaction cfg ctx params
  | .paymePerform params => (fun _ => ()) <$> PaymeWebHookAPIView.performTransaction ctx params
  | .paymeCancel params => (fun _ => ()) <$> PaymeWebHookAPIView.cancelTransaction ctx params
  | .clientPay user pk method => (fun _ => ()) <$> ClientOrderPayView.post ctx user pk method
  | .goods r => r.statements ctx

end Homex
