import Homex.Orders.Serializers
import Homex.Warehouse.Services

/-!
# Using stock on an order, and the admin's stock endpoints

`UseInventoryView` deducts from the master's stock and adds the line to the
order's totals. It asks whose order it is, not in which status. The admin API
assigns, adjusts and returns the stock of a master.
-/

namespace Homex

namespace Warehouse

open Relational Action Code Orders

/-- `UseInventorySerializer`; the quantity is at least 0.01. -/
structure UseInventoryPayload where
  quantity : { q : Int // 0 < q }
  orderId : Uuid

/-- `UseInventorySerializer.save`. -/
def UseInventorySerializer.save (item : MasterInventory) (data : UseInventoryPayload) :
    Code MasterInventory := do
  require (data.quantity ≤ item.quantity)
    (.validation none "Usta omborida yetarli mahsulot yo'q")
  let used := { item with quantity := item.quantity - data.quantity }
  saveInventory used
  pure used

/-- The order after its inventory total is read again from the usages. -/
def withInventoryTotal (order : Order) (total : Int) : Order :=
  Order.recalculateTotal { order with inventoryTotal := total }

def UseInventoryView.post (ctx : Context) (user pk : Uuid) (data : UseInventoryPayload) :
    Code MasterInventory :=
  atomic do
    let item ← fetch (fun db => db.inventory.find? pk) (.notFound "MasterInventory")
    require (item.master = user) (.notFound "MasterInventory")
    let order ← getOrder data.orderId
    require (order.master = some user) (.notFound "Order")
    let used ← UseInventorySerializer.save item data
    let product ← fetch (fun db => db.products.find? item.warehouseProduct)
      (.serverError "DoesNotExist")
    createUsage (.of (ctx.uuid (.usage 0)) order.id item.id data.quantity product.salePrice)
    let db ← get
    saveOrder (withInventoryTotal order (OrderCompleteSerializer.usageTotal db order.id))
    pure used

/-- `AdminAssignInventorySerializer`; the quantity is at least 0.01. -/
structure AdminAssignPayload where
  warehouseProductId : Uuid
  quantity : { q : Int // 0 < q }

def AdminMasterInventoryListView.post (ctx : Context) (masterId : Uuid)
    (data : AdminAssignPayload) : Code MasterInventory := do
  let master ← fetch (fun db => db.masters.find? masterId) (.notFound "Master")
  let product ← fetch
    (fun db => (db.products.find? data.warehouseProductId).filter fun row => row.isActive)
    (.validation "warehouse_product_id" "Mahsulot topilmadi yoki faol emas")
  assignInventoryToMaster ctx master product.id data.quantity

/-- `get_object_or_404(MasterInventory, id=item_id, master_id=master_id)`. -/
def getMasterItem (masterId itemId : Uuid) : Code MasterInventory :=
  fetch (fun db => (db.inventory.find? itemId).filter fun row => row.master = masterId)
    (.notFound "MasterInventory")

/-- The quantity is at least 0. -/
def AdminUpdateInventoryView.put (ctx : Context) (masterId itemId : Uuid)
    (quantity : { q : Int // 0 ≤ q }) : Code MasterInventory := do
  let item ← getMasterItem masterId itemId
  adjustMasterInventory ctx item.id item.warehouseProduct quantity

def AdminUpdateInventoryView.delete (ctx : Context) (masterId itemId : Uuid) : Code Unit := do
  let item ← getMasterItem masterId itemId
  let _ ← returnInventoryToWarehouse ctx item

end Warehouse

end Homex
