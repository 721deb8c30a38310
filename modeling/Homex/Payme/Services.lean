import Homex.Orders.Services

/-!
# What a payment does to an order

`markOrderPaid` completes the order of a performed transaction when it awaits
payment, and otherwise sets the paid flag alone. `buildFiscalItems` splits the
charged amount into receipt lines.
-/

namespace Homex

namespace Payme

open Relational Action Code Orders Warehouse

/-- `to_tiyin`: a two-decimal amount of so'm is a whole number of tiyin, and is
kept as such. -/
def toTiyin (amount : Int) : Int := amount

def orderAmountTiyin (order : Order) : Int := toTiyin order.totalAmount

/-- `order` is the instance the caller has loaded. -/
def markOrderPaid (ctx : Context) (order : Order) : Code Unit :=
  if order.isPaid = true then
    pure ()
  else do
    let completed ← completePaidOrder ctx order.id .online
    if completed = false then
      saveOrder { order with isPaid := true, paidAt := some ctx.now }

def markOrderPaymentCancelled (order : Order) : Code Unit :=
  if order.isPaid = false then
    pure ()
  else
    saveOrder { order with isPaid := false }

/-- A line of the fiscal receipt. -/
structure Item where
  title : String
  price : Int
  count : Int
  code : String
  vatPercent : Nat
  packageCode : String
  deriving DecidableEq, Repr

/-- The line of one usage: a fractional quantity becomes one piece at the line
total. -/
def usageItem (usage : OrderInventoryUsage) (product : WarehouseProduct) : Item :=
  if 0 < usage.quantity ∧ usage.quantity % 100 = 0 then
    { title := product.name, price := toTiyin usage.unitPrice, count := usage.quantity / 100
      code := product.mxik, vatPercent := product.vatPercent
      packageCode := product.packageCode }
  else
    { title := product.name, price := toTiyin usage.totalPrice, count := 1
      code := product.mxik, vatPercent := product.vatPercent
      packageCode := product.packageCode }

/-- The lines of the usages, or `none` when a product has no MXIK code. -/
def usageItems (db : DB) : List OrderInventoryUsage → Option (List Item)
  | [] => some []
  | usage :: usages =>
      match (db.inventory.find? usage.inventory).bind
          fun i => db.products.find? i.warehouseProduct with
      | none => none
      | some product =>
          if product.mxik = "" then none
          else (usageItems db usages).map fun items => usageItem usage product :: items

/-- What the lines charge. -/
def itemsTotal (items : List Item) : Int :=
  (items.map fun item => item.price * item.count).sum

def buildFiscalItems (db : DB) (order : Order) : List Item :=
  match db.services.find? order.service with
  | none => []
  | some service =>
      if service.mxik = "" then []
      else
        match usageItems db (db.usages.rows.filter fun u => u.order = order.id) with
        | none => []
        | some items =>
            let servicePrice := orderAmountTiyin order - itemsTotal items
            if servicePrice < 0 then []
            else
              let all :=
                { title := service.name, price := servicePrice, count := 1
                  code := service.mxik, vatPercent := service.vatPercent
                  packageCode := service.packageCode } :: items
              if itemsTotal all ≠ orderAmountTiyin order then [] else all

end Payme

end Homex
