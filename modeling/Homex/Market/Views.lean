import Homex.Market.Models
import Homex.Transition.Run

/-!
# Market orders

Both create endpoints go through `placeMarketOrder`, which takes the stock under
a lock of the product. The dashboard's update and delete are the generic ones:
they write the order row and nothing else.
-/

namespace Homex

namespace Market

open Relational Action

/-- What the client may set on an order. -/
structure OrderFields where
  product : Uuid
  quantity : Nat
  deliveryAddress : String
  phone : String
  note : String := ""
  deriving DecidableEq, Repr

/-- `place_market_order`: `pk` and `client` are keys the serializer has checked. -/
def placeMarketOrder (ctx : Context) (client : Uuid) (fields : OrderFields)
    (status : MarketStatus) : MarketCode MarketOrder :=
  atomic do
    let product ← fetch (fun db => db.products.find? fields.product)
      (.serverError "MarketProduct.DoesNotExist")
    require (product.isActive ∧ product.isModerated)
      (.validation "product" "Mahsulot mavjud emas")
    require (fields.quantity ≤ product.quantity)
      (.validation "quantity" "Omborda yetarli mahsulot yo'q")
    saveProduct { product with quantity := product.quantity - fields.quantity }
    let order : MarketOrder :=
      { id := ctx.uuid .order, client, product := fields.product, quantity := fields.quantity
        deliveryAddress := fields.deliveryAddress, phone := fields.phone, note := fields.note
        status }
    createOrder order product
    pure (order.priced product)

/-- A `PrimaryKeyRelatedField`, which a PATCH may leave out. -/
def requirePk {ρ : Type} [Keyed ρ Uuid] (table : MarketTables → Table ρ) (field : String) :
    Option Uuid → MarketCode Unit
  | none => pure ()
  | some pk => do
      let db ← get
      require (((table db).find? pk).isSome) (.invalidPk field pk)

/-- `user` is the client who is logged in; the status is read-only. -/
def MarketOrderListCreateView.post (ctx : Context) (user : Uuid) (data : OrderFields) :
    MarketCode MarketOrder := do
  requirePk MarketTables.products "product" (some data.product)
  placeMarketOrder ctx user data .pending

/-- The dashboard also names the client and may set the status. -/
def DashboardMarketOrderListCreateAPIView.post (ctx : Context) (client : Uuid)
    (data : OrderFields) (status : MarketStatus) : MarketCode MarketOrder := do
  requirePk MarketTables.clients "client" (some client)
  requirePk MarketTables.products "product" (some data.product)
  placeMarketOrder ctx client data status

/-- `DashboardMarketOrderSerializer`, every field optional as in a PATCH. -/
structure OrderPatch where
  client : Option Uuid := none
  product : Option Uuid := none
  quantity : Option Nat := none
  deliveryAddress : Option String := none
  phone : Option String := none
  note : Option String := none
  status : Option MarketStatus := none
  deriving DecidableEq, Repr

/-- The fields of the payload set on an order; the total is read-only. -/
def OrderPatch.apply (data : OrderPatch) (order : MarketOrder) : MarketOrder :=
  { order with
      client := data.client.getD order.client
      product := data.product.getD order.product
      quantity := data.quantity.getD order.quantity
      deliveryAddress := data.deliveryAddress.getD order.deliveryAddress
      phone := data.phone.getD order.phone
      note := data.note.getD order.note
      status := data.status.getD order.status }

@[simp] theorem OrderPatch.id_apply (data : OrderPatch) (order : MarketOrder) :
    (data.apply order).id = order.id := rfl

@[simp] theorem OrderPatch.totalAmount_apply (data : OrderPatch) (order : MarketOrder) :
    (data.apply order).totalAmount = order.totalAmount := rfl

/-- The order of a detail view. -/
def getOrder (pk : Uuid) : MarketCode MarketOrder :=
  fetch (fun db => db.orders.find? pk) (.notFound "MarketOrder")

/-- PUT and PATCH: a PUT is a payload with its required fields present. -/
def DashboardMarketOrderDetailAPIView.update (pk : Uuid) (data : OrderPatch) :
    MarketCode MarketOrder := do
  let order ← getOrder pk
  requirePk MarketTables.clients "client" data.client
  requirePk MarketTables.products "product" data.product
  saveOrder (data.apply order)
  pure (data.apply order)

def DashboardMarketOrderDetailAPIView.destroy (pk : Uuid) : MarketCode Unit := do
  let order ← getOrder pk
  deleteOrder order.id

/-- A request to a market order endpoint. -/
inductive MarketRequest
  | clientCreate (user : Uuid) (data : OrderFields)
  | dashboardCreate (client : Uuid) (data : OrderFields) (status : MarketStatus)
  | dashboardUpdate (pk : Uuid) (data : OrderPatch)
  | dashboardDestroy (pk : Uuid)
  deriving DecidableEq, Repr

/-- The view of a request; the body of its answer is dropped. -/
def MarketRequest.view (ctx : Context) : MarketRequest → MarketCode Unit
  | .clientCreate user data => (fun _ => ()) <$> MarketOrderListCreateView.post ctx user data
  | .dashboardCreate client data status =>
      (fun _ => ()) <$> DashboardMarketOrderListCreateAPIView.post ctx client data status
  | .dashboardUpdate pk data =>
      (fun _ => ()) <$> DashboardMarketOrderDetailAPIView.update pk data
  | .dashboardDestroy pk => DashboardMarketOrderDetailAPIView.destroy pk

/-- The tables after a request. -/
def MarketTables.next (db : MarketTables) (l : Context × MarketRequest) : MarketTables :=
  (l.2.view l.1 db).2

/-- The tables after some requests. -/
def MarketTables.run (db : MarketTables) (ls : List (Context × MarketRequest)) : MarketTables :=
  ls.foldl MarketTables.next db

/-- Every sequence of market order requests, from these clients and products and no order. -/
def marketplace (opening : MarketTables) :
    Transition.System MarketTables (Context × MarketRequest) where
  init db := db = { opening with orders := .empty }
  step db l db' := db' = db.next l

end Market

end Homex
