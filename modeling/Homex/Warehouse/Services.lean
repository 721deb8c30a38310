import Homex.Common.Store

/-!
# Moving stock

The three ways stock goes between the central warehouse and a master, and the
moves of the warehouse alone. Each service that changes the quantity of a
product writes the movement that journals it, except
`applyStockMovementEffect` and `reverseStockMovement`: there the caller writes
or deletes the row.
-/

namespace Homex

namespace Warehouse

open Relational Action Code Profiles

/-- `WarehouseProduct.objects.select_for_update().get(pk=…)`. -/
def lockProduct (pk : Uuid) : Code WarehouseProduct :=
  fetch (fun db => db.products.find? pk) (.serverError "DoesNotExist")

/-- `MasterInventory.objects.get(master=…, warehouse_product=…)`. -/
def inventoryOf (db : DB) (master product : Uuid) : Option MasterInventory :=
  db.inventory.rows.find? fun row => row.master = master ∧ row.warehouseProduct = product

/-- `select_for_update().get_or_create(…)`. -/
def getOrCreateInventory (ctx : Context) (master : Uuid) (product : WarehouseProduct) :
    Code MasterInventory := do
  let db ← get
  match inventoryOf db master product.id with
  | some item => pure item
  | none => do
      let item : MasterInventory :=
        { id := ctx.uuid .inventory, master, warehouseProduct := product.id, quantity := 0
          unit := product.unit, lowThreshold := product.lowThreshold, image := product.image }
      createInventory item
      pure item

def assignInventoryToMaster (ctx : Context) (master : Master) (product : Uuid) (quantity : Int) :
    Code MasterInventory :=
  atomic do
    let product ← lockProduct product
    require (quantity ≤ product.quantity)
      (.validation "quantity" "Omborda yetarli mahsulot yo'q")
    let item ← getOrCreateInventory ctx master.id product
    let assigned := { item with quantity := item.quantity + quantity }
    saveInventory assigned
    saveProduct { product with quantity := product.quantity - quantity }
    createMovement
      { id := ctx.uuid .movement, product := product.id, movementType := .out, quantity
        master := some master.id, note := "Ustaga biriktirildi: " ++ master.str
        origin := .transfer }
    pure assigned

/-- `item.master`. -/
def masterOf (item : MasterInventory) : Code Master :=
  fetch (fun db => db.masters.find? item.master) (.serverError "DoesNotExist")

/-- `item.order_usages.exists()`. -/
def usagesExist (db : DB) (item : Uuid) : Bool :=
  db.usages.rows.any fun usage => usage.inventory = item

/-- `if returned:` the stock goes back to the product. -/
def creditReturned (ctx : Context) (item : MasterInventory) (product : WarehouseProduct) :
    Code Unit :=
  if item.quantity = 0 then
    pure ()
  else do
    saveProduct { product with quantity := product.quantity + item.quantity }
    let master ← masterOf item
    createMovement
      { id := ctx.uuid .movement, product := product.id, movementType := .in
        quantity := item.quantity, master := some item.master
        note := "Ustadan qaytarildi: " ++ master.str, origin := .transfer }

/-- A row that orders have used is kept, at zero. -/
def removeItem (item : MasterInventory) : Code Unit := do
  let db ← get
  if usagesExist db item.id = true then
    saveInventory { item with quantity := 0 }
  else
    deleteInventory item.id

/-- `item` is the instance the view has loaded. -/
def returnInventoryToWarehouse (ctx : Context) (item : MasterInventory) : Code Int :=
  atomic do
    let product ← lockProduct item.warehouseProduct
    creditReturned ctx item product
    removeItem item
    pure item.quantity

/-- `item` is the primary key of the instance the view has loaded. -/
def adjustMasterInventory (ctx : Context) (item product : Uuid) (newQuantity : Int) :
    Code MasterInventory :=
  atomic do
    require (0 ≤ newQuantity)
      (.validation "quantity" "Miqdor manfiy bo'lishi mumkin emas")
    let product ← lockProduct product
    let item ← fetch (fun db => db.inventory.find? item) (.serverError "DoesNotExist")
    let delta := newQuantity - item.quantity
    if delta = 0 then
      pure item
    else do
      require (¬(0 < delta ∧ product.quantity < delta))
        (.validation "quantity" "Omborda yetarli mahsulot yo'q")
      saveProduct { product with quantity := product.quantity - delta }
      let adjusted := { item with quantity := newQuantity }
      saveInventory adjusted
      let master ← masterOf item
      createMovement
        { id := ctx.uuid .movement, product := product.id
          movementType := if 0 < delta then .out else .in, quantity := |delta|
          master := some item.master
          note := "Usta biriktirish miqdori o'zgardi: " ++ master.str, origin := .transfer }
      pure adjusted

/-- `_move_product_quantity`. -/
def moveProductQuantity (product : Uuid) (delta : Int) : Code WarehouseProduct := do
  let product ← lockProduct product
  let newQty := product.quantity + delta
  require (0 ≤ newQty)
    (.validation "quantity" "Ombor qoldig'i manfiy bo'lishi mumkin emas")
  let moved := { product with quantity := newQty }
  saveProduct moved
  pure moved

/-- The `master` and `movement_type` arguments are left out by every caller. -/
def adjustWarehouseStock (ctx : Context) (product : Uuid) (delta : Int) (note : String) :
    Code StockMovement :=
  atomic do
    let product ← moveProductQuantity product delta
    let movement : StockMovement :=
      { id := ctx.uuid .movement, product := product.id
        movementType := if 0 ≤ delta then .in else .out, quantity := |delta|, note
        origin := .correction }
    createMovement movement
    pure movement

def applyStockMovementEffect (product : Uuid) (movementType : MovementType) (quantity : Int) :
    Code WarehouseProduct :=
  atomic (moveProductQuantity product (movementType.delta quantity))

def reverseStockMovement (movement : StockMovement) : Code WarehouseProduct :=
  atomic (moveProductQuantity movement.product (-movement.signed))

end Warehouse

end Homex
