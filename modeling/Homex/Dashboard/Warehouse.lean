import Homex.Wallet.Views
import Homex.Warehouse.Services

/-!
# Dashboard warehouse

The products, the movements of their stock and the stock of the masters, as the
dashboard edits them. A new quantity of a product or of a master's row goes
through the stock services; the other columns of a PATCH are saved first, in a
statement of their own.
-/

namespace Homex

namespace Dashboard

open Relational Action Code Orders Profiles Wallet Warehouse

/-- `DashboardWarehouseProductSerializer`, every field optional as in a PATCH. -/
structure ProductPayload where
  category : Option (Option Uuid) := none
  name : Option String := none
  unit : Option String := none
  quantity : Option Int := none
  lowThreshold : Option Int := none
  costPrice : Option Int := none
  salePrice : Option Int := none
  image : Option (Option String) := none
  isActive : Option Bool := none
  deriving DecidableEq

/-- The columns of the payload set on a product. -/
def ProductPayload.apply (data : ProductPayload) (product : WarehouseProduct) :
    WarehouseProduct :=
  { product with
      category := data.category.getD product.category
      name := data.name.getD product.name
      unit := data.unit.getD product.unit
      quantity := data.quantity.getD product.quantity
      lowThreshold := data.lowThreshold.getD product.lowThreshold
      costPrice := data.costPrice.getD product.costPrice
      salePrice := data.salePrice.getD product.salePrice
      image := data.image.getD product.image
      isActive := data.isActive.getD product.isActive }

/-- `validated_data.pop("quantity", None)`. -/
def ProductPayload.withoutQuantity (data : ProductPayload) : ProductPayload :=
  { data with quantity := none }

/-- The movement of the opening stock. -/
def openingMovement (ctx : Context) (product : WarehouseProduct) : StockMovement where
  id := ctx.uuid .movement
  product := product.id
  movementType := .in
  quantity := product.quantity
  note := "Boshlang'ich qoldiq"
  origin := .opening

/-- `if product.quantity:` the opening stock is journaled. -/
def journalOpening (ctx : Context) (product : WarehouseProduct) : Code Unit :=
  if product.quantity = 0 then pure () else createMovement (openingMovement ctx product)

/-- `perform_create`, not in a transaction. -/
def DashboardWarehouseProductListCreateAPIView.performCreate (ctx : Context)
    (data : ProductPayload) : Code WarehouseProduct := do
  requirePk DB.categories "category" (data.category.getD none)
  let name ← fetch (fun _ => data.name) (.validation "name" "This field is required.")
  let product := data.apply { id := ctx.uuid .product, name }
  createProduct product
  journalOpening ctx product
  pure product

/-- `if serializer.validated_data: serializer.save()`. -/
def saveColumns (product : WarehouseProduct) (data : ProductPayload) : Code Unit :=
  if data = {} then pure () else saveProduct (data.apply product)

/-- `product` is the instance the view has loaded. -/
def correctQuantity (ctx : Context) (product : WarehouseProduct) : Option Int → Code Unit
  | none => pure ()
  | some newQuantity =>
      if newQuantity = product.quantity then
        pure ()
      else do
        let _ ← adjustWarehouseStock ctx product.id (newQuantity - product.quantity)
          "Admin qoldiqni to'g'riladi"

/-- `perform_update`; the columns and the quantity are two commits. -/
def DashboardWarehouseProductDetailAPIView.performUpdate (ctx : Context) (pk : Uuid)
    (data : ProductPayload) : Code WarehouseProduct := do
  let product ← fetch (fun db => db.products.find? pk) (.notFound "WarehouseProduct")
  requirePk DB.categories "category" (data.category.getD none)
  saveColumns product data.withoutQuantity
  correctQuantity ctx product data.quantity
  fetch (fun db => db.products.find? pk) (.serverError "DoesNotExist")

/-- `DashboardStockMovementSerializer`, as a POST requires it. -/
structure MovementPayload where
  product : Uuid
  movementType : MovementType
  quantity : Int
  note : String := ""
  master : Option Uuid := none

/-- `perform_create`: a manual movement moves the stock on hand too. -/
def DashboardStockMovementListCreateAPIView.performCreate (ctx : Context)
    (data : MovementPayload) : Code StockMovement := do
  requirePk DB.products "product" (some data.product)
  requirePk DB.masters "master" data.master
  atomic do
    let _ ← applyStockMovementEffect data.product data.movementType data.quantity
    let movement : StockMovement :=
      { id := ctx.uuid .movement, product := data.product, movementType := data.movementType
        quantity := data.quantity, note := data.note, master := data.master
        origin := .manual }
    createMovement movement
    pure movement

/-- `DashboardStockMovementSerializer`, as a PATCH may leave fields out. -/
structure MovementPatch where
  product : Option Uuid := none
  movementType : Option MovementType := none
  quantity : Option Int := none
  note : Option String := none
  master : Option (Option Uuid) := none

/-- `perform_update`: only the note of a posted movement may change. -/
def DashboardStockMovementDetailAPIView.performUpdate (pk : Uuid) (data : MovementPatch) :
    Code StockMovement := do
  let movement ← fetch (fun db => db.movements.find? pk) (.notFound "StockMovement")
  requirePk DB.products "product" data.product
  requirePk DB.masters "master" (data.master.getD none)
  require (data.product.getD movement.product = movement.product)
    (.validation "product" ledgerImmutableMsg)
  require (data.movementType.getD movement.movementType = movement.movementType)
    (.validation "movement_type" ledgerImmutableMsg)
  require (data.quantity.getD movement.quantity = movement.quantity)
    (.validation "quantity" ledgerImmutableMsg)
  require (data.master.getD movement.master = movement.master)
    (.validation "master" ledgerImmutableMsg)
  let saved := { movement with note := data.note.getD movement.note }
  saveMovement saved
  pure saved

/-- `perform_destroy`: the effect on the stock is reversed, then the row deleted. -/
def DashboardStockMovementDetailAPIView.performDestroy (pk : Uuid) : Code Unit := do
  let movement ← fetch (fun db => db.movements.find? pk) (.notFound "StockMovement")
  let _ ← reverseStockMovement movement
  deleteMovement pk

/-- `DashboardMasterInventoryListCreateAPIView.create`: the product has to be active. -/
def DashboardMasterInventoryListCreateAPIView.create (ctx : Context) (master product : Uuid)
    (quantity : Amount) : Code MasterInventory := do
  let master ← fetch (fun db => db.masters.find? master) (.invalidPk "master" master)
  let product ← fetch (fun db => (db.products.find? product).filter fun row => row.isActive)
    (.invalidPk "warehouse_product" product)
  assignInventoryToMaster ctx master product.id quantity

/-- `DashboardMasterInventorySerializer`, every field optional as in a PATCH. -/
structure InventoryPayload where
  master : Option Uuid := none
  warehouseProduct : Option Uuid := none
  quantity : Option Int := none
  unit : Option String := none
  lowThreshold : Option Int := none
  image : Option (Option String) := none
  deriving DecidableEq

/-- The columns of the payload, other than the quantity, set on a row. -/
def InventoryPayload.apply (data : InventoryPayload) (item : MasterInventory) : MasterInventory :=
  { item with
      master := data.master.getD item.master
      warehouseProduct := data.warehouseProduct.getD item.warehouseProduct
      unit := data.unit.getD item.unit
      lowThreshold := data.lowThreshold.getD item.lowThreshold
      image := data.image.getD item.image }

/-- `validated_data.pop("quantity", None)`. -/
def InventoryPayload.withoutQuantity (data : InventoryPayload) : InventoryPayload :=
  { data with quantity := none }

/-- Another row has the master and the product. -/
def taken (db : DB) (item : MasterInventory) : Bool :=
  db.inventory.rows.any fun row =>
    row.master = item.master ∧ row.warehouseProduct = item.warehouseProduct ∧ row.id ≠ item.id

/-- The serializer's checks, and those of `perform_update`. -/
def checkInventory (item : MasterInventory) (data : InventoryPayload) : Code Unit := do
  requirePk DB.masters "master" data.master
  requirePk DB.products "warehouse_product" data.warehouseProduct
  let db ← get
  require (taken db (data.apply item) = false)
    (.validation none "The fields master, warehouse_product must make a unique set.")
  require (data.master.getD item.master = item.master)
    (.validation "master" "Bu maydonni o'zgartirib bo'lmaydi")
  require (data.warehouseProduct.getD item.warehouseProduct = item.warehouseProduct)
    (.validation "warehouse_product" "Bu maydonni o'zgartirib bo'lmaydi")

/-- `if serializer.validated_data: serializer.save()`. -/
def saveItemColumns (item : MasterInventory) (data : InventoryPayload) : Code Unit :=
  if data = {} then pure () else saveInventory (data.apply item)

/-- `item` is the instance the view has loaded. -/
def adjustItem (ctx : Context) (item : MasterInventory) : Option Int → Code Unit
  | none => pure ()
  | some newQuantity =>
      if newQuantity = item.quantity then
        pure ()
      else do
        let _ ← adjustMasterInventory ctx item.id item.warehouseProduct newQuantity

/-- `perform_update`; the columns and the quantity are two commits. -/
def DashboardMasterInventoryDetailAPIView.performUpdate (ctx : Context) (pk : Uuid)
    (data : InventoryPayload) : Code MasterInventory := do
  let item ← fetch (fun db => db.inventory.find? pk) (.notFound "MasterInventory")
  checkInventory item data
  saveItemColumns item data.withoutQuantity
  adjustItem ctx item data.quantity
  fetch (fun db => db.inventory.find? pk) (.serverError "DoesNotExist")

/-- `perform_destroy`. -/
def DashboardMasterInventoryDetailAPIView.performDestroy (ctx : Context) (pk : Uuid) :
    Code Unit := do
  let item ← fetch (fun db => db.inventory.find? pk) (.notFound "MasterInventory")
  let _ ← returnInventoryToWarehouse ctx item

end Dashboard

end Homex
