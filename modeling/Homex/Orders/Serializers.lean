import Homex.Common.Store

/-!
# The order serializers of the client and master apps

Payloads are taken after the fields are parsed, so a text is trimmed and a
number has its decimals; what the serializers and views check beyond that is
here.
-/

namespace Homex

namespace Orders

open Relational Action Code Profiles Warehouse

/-- The writable fields of `OrderSerializer`. -/
structure OrderPayload where
  service : Uuid
  address : Option Uuid := none
  device : Option Uuid := none
  deviceName : String := ""
  deviceModel : String := ""
  deviceImage : Option String := none
  deviceLocationLabel : String := ""
  addressText : String
  lat : Int
  lng : Int
  scheduledDate : Int
  scheduledTime : Int
  note : String := ""
  paymentType : Option PaymentType := none
  beforePhoto : Option String := none

/-- A nullable foreign key field. -/
def requirePk {ρ : Type} [Keyed ρ Uuid] (table : DB → Table ρ) (field : String) :
    Option Uuid → Code Unit
  | none => pure ()
  | some pk => do
      let db ← get
      require (((table db).find? pk).isSome) (.invalidPk field pk)

namespace OrderSerializer

/-- The address a new device is saved at: the order's, or one at its location. -/
def deviceAddress (ctx : Context) (client : Uuid) (data : OrderPayload) : Code Uuid :=
  match data.address with
  | some address => pure address
  | none => do
      require (data.addressText ≠ "") (.validation "device_name"
        "Qurilmani saqlash uchun manzil kerak (address yoki address_text + lat + lng).")
      let db ← get
      match db.addresses.rows.filter fun a =>
          a.client = client ∧ a.lat = data.lat ∧ a.lng = data.lng with
      | [] =>
          createAddress
            { id := ctx.uuid .address, client, addressText := data.addressText
              label := if data.deviceLocationLabel = "" then "Manzil"
                else data.deviceLocationLabel
              lat := data.lat, lng := data.lng }
          pure (ctx.uuid .address)
      | [address] => pure address.id
      | _ => raise (.serverError "MultipleObjectsReturned")

/-- `_resolve_device`. -/
def resolveDevice (ctx : Context) (client : Uuid) (data : OrderPayload) : Code (Option Uuid) :=
  match data.device with
  | some pk => do
      let device ← fetch (fun db => db.devices.find? pk) (.invalidPk "device" pk)
      require (device.client = client) (.validation "device" "Bu qurilma sizga tegishli emas.")
      pure (some pk)
  | none =>
      if data.deviceName = "" then
        pure none
      else do
        let address ← deviceAddress ctx client data
        createDevice
          { id := ctx.uuid .device, client, name := data.deviceName, model := data.deviceModel
            image := data.deviceImage, address }
        pure (some (ctx.uuid .device))

/-- The order of the payload before the device is attached; the fee starts at 0. -/
def newOrder (ctx : Context) (client : Uuid) (data : OrderPayload) : Order :=
  Order.recalculateTotal
    { id := ctx.uuid .order, client, service := data.service, address := data.address
      addressText := data.addressText, lat := data.lat, lng := data.lng
      scheduledDate := data.scheduledDate, scheduledTime := data.scheduledTime
      note := data.note, paymentType := data.paymentType, beforePhoto := data.beforePhoto }

/-- Validation and `create`. -/
def create (ctx : Context) (client : Uuid) (data : OrderPayload) : Code Order := do
  requirePk DB.services "service" (some data.service)
  requirePk DB.addresses "address" data.address
  requirePk DB.devices "device" data.device
  let device ← resolveDevice ctx client data
  let order := { newOrder ctx client data with device }
  createOrder order
  pure order

end OrderSerializer

/-- `OrderStartSerializer.save`: `order` is the instance the view has loaded. -/
def OrderStartSerializer.save (order : Order) : Code Order :=
  atomic do
    if order.status = .arrived then
      pure order
    else
      require (order.status = .onWay) (.validation "status"
        "Order faqat 'on_way' holatidan 'arrived' holatiga o'tadi")
      let arrived := { order with status := .arrived }
      saveOrder arrived
      pure arrived

/-- An element of `used_items`; its quantity is at least 0.01. -/
structure UsedItem where
  inventoryId : Uuid
  quantity : { q : Int // 0 < q }

/-- The fields of `OrderCompleteSerializer`. -/
structure OrderCompletePayload where
  serviceFee : Int
  completionPhoto : Option String := none
  comment : String := ""
  usedItems : List UsedItem := []

namespace OrderCompleteSerializer

/-- `validate`. -/
def validate (order : Order) : Code Unit :=
  if order.status ∈ activeOrderStatuses then
    pure ()
  else if order.status = .awaitingPayment ∨ order.status = .completed then
    raise (.validation none "Chek allaqachon yuborilgan")
  else
    raise (.validation none ("Buyurtmani bu holatda yakunlab bo'lmaydi " ++
      "(qabul qilingan / yo'lda / yetib kelgan bo'lishi kerak)"))

/-- One round of the `used_items` loop: the stock is deducted and the usage
recorded at the product's sale price. Returns the unrounded line total. -/
def useItem (ctx : Context) (order : Order) (i : Nat) (item : UsedItem) : Code Int := do
  let inventory ← fetch (fun db => db.inventory.find? item.inventoryId)
    (.serverError "DoesNotExist")
  require (some inventory.master = order.master) (.serverError "DoesNotExist")
  let product ← fetch (fun db => db.products.find? inventory.warehouseProduct)
    (.serverError "DoesNotExist")
  require (item.quantity ≤ inventory.quantity)
    (.validation none "Usta omborida yetarli mahsulot yo'q")
  saveInventory { inventory with quantity := inventory.quantity - item.quantity }
  createUsage
    (.of (ctx.uuid (.usage i)) order.id inventory.id item.quantity product.salePrice)
  pure (Money.times item.quantity product.salePrice)

/-- The `used_items` loop, from round `i` on; returns `inventory_total`. -/
def useItems (ctx : Context) (order : Order) (i : Nat) : List UsedItem → Code Int
  | [] => pure 0
  | item :: items => do
      let line ← useItem ctx order i item
      let rest ← useItems ctx order (i + 1) items
      pure (line + rest)

/-- The stored line totals of an order, summed by the database. -/
def usageTotal (db : DB) (order : Uuid) : Int :=
  db.usages.sum fun u => if u.order = order then u.totalPrice else 0

/-- The total of the parts with an unrounded inventory total, as it is stored. -/
def storedTotal (serviceFee bonusUsed inventoryTotal : Int) : Int :=
  Money.store (max (Money.toProduct serviceFee + inventoryTotal - Money.toProduct bonusUsed) 0)

/-- The row `save` writes, given the unrounded inventory total it computed. -/
def checked (ctx : Context) (data : OrderCompletePayload) (order : Order)
    (inventoryTotal : Int) : Order :=
  { order with
      serviceFee := data.serviceFee
      completionPhoto := data.completionPhoto.or order.completionPhoto
      completionNote := if data.comment = "" then order.completionNote else data.comment
      inventoryTotal := Money.store inventoryTotal
      totalAmount := storedTotal data.serviceFee order.bonusUsed inventoryTotal
      status := .awaitingPayment
      receiptApprovedAt := some ctx.now
      receiptApprovedBy := order.master }

/-- `save`: the order is locked and its status checked again. -/
def save (ctx : Context) (pk : Uuid) (data : OrderCompletePayload) : Code Order :=
  atomic do
    let order ← fetch (fun db => db.orders.find? pk) (.serverError "DoesNotExist")
    require (order.status ∈ activeOrderStatuses)
      (.validation none "Chek allaqachon yuborilgan")
    let inMemory ← useItems ctx order 0 data.usedItems
    let db ← get
    -- `aggregate(...) or inventory_total`: a zero sum falls back to the loop's total
    let inventoryTotal :=
      if usageTotal db order.id = 0 then inMemory
      else Money.toProduct (usageTotal db order.id)
    let saved := checked ctx data order inventoryTotal
    saveOrder saved
    record (.checkSubmitted saved)
    pure saved

end OrderCompleteSerializer

end Orders

end Homex
