import Homex.Common.Store

/-!
# The marketplace

Products that clients buy, and their orders. The marketplace shares only the
clients with the rest of the backend, so its code runs against tables of its own.
The checks on the shape of a payload (required fields, lengths, choices) are in
the types of the requests; quantities are natural numbers, as in the
`PositiveIntegerField` columns.
-/

namespace Homex

namespace Market

open Relational Profiles

/-- `MarketOrder.STATUSES`. -/
inductive MarketStatus
  | pending
  | confirmed
  | delivered
  | cancelled
  deriving DecidableEq, Repr

/-- `market.MarketProduct`. -/
structure MarketProduct where
  id : Uuid
  price : Int
  quantity : Nat := 1
  isActive : Bool := true
  isModerated : Bool := true
  deriving DecidableEq, Repr

/-- `market.MarketOrder`. -/
structure MarketOrder where
  id : Uuid
  client : Uuid
  product : Uuid
  quantity : Nat
  deliveryAddress : String
  phone : String
  note : String := ""
  totalAmount : Int := 0
  status : MarketStatus := .pending
  deriving DecidableEq, Repr

instance : Keyed MarketProduct Uuid := ⟨MarketProduct.id⟩

instance : Keyed MarketOrder Uuid := ⟨MarketOrder.id⟩

@[simp] theorem key_marketProduct (p : MarketProduct) : key p = p.id := rfl

@[simp] theorem key_marketOrder (o : MarketOrder) : key o = o.id := rfl

/-- The tables. -/
structure MarketTables where
  clients : Table Client := .empty
  products : Table MarketProduct := .empty
  orders : Table MarketOrder := .empty

/-- Request code of the marketplace. -/
abbrev MarketCode (α : Type) := Action MarketTables Error α

/-- `MarketOrder.save` of a row that is being added: the price is the product's. -/
def MarketOrder.priced (order : MarketOrder) (product : MarketProduct) : MarketOrder :=
  { order with totalAmount := product.price * order.quantity }

/-- `MarketOrder.objects.create`. -/
def createOrder (order : MarketOrder) (product : MarketProduct) : MarketCode Unit :=
  .write
    (fun db => (db.orders.insert? (order.priced product)).map fun t => { db with orders := t })
    Code.integrityError

/-- `save` of an order that exists leaves the total as it is. -/
def saveOrder (order : MarketOrder) : MarketCode Unit :=
  .modify fun db => { db with orders := db.orders.save order }

def deleteOrder (pk : Uuid) : MarketCode Unit :=
  .modify fun db => { db with orders := db.orders.delete pk }

def saveProduct (product : MarketProduct) : MarketCode Unit :=
  .modify fun db => { db with products := db.products.save product }

end Market

end Homex
