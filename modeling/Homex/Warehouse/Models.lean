import Homex.Common.Money
import Homex.Relational.Table

/-!
# Warehouse rows

The products of the central warehouse, the movements of their stock, and the
stock handed to the masters. Quantities are two-decimal amounts like the prices.

`origin` is a history variable of a movement: which code wrote the row. No code
reads it.
-/

namespace Homex

namespace Warehouse

open Relational

/-- `warehouse.WarehouseCategory`. -/
structure WarehouseCategory where
  id : Uuid
  deriving DecidableEq, Repr

/-- `warehouse.WarehouseProduct`. -/
structure WarehouseProduct where
  id : Uuid
  category : Option Uuid := none
  name : String
  unit : String := "dona"
  quantity : Int := 0
  lowThreshold : Int := 0
  costPrice : Int := 0
  salePrice : Int := 0
  mxik : String := ""
  packageCode : String := ""
  vatPercent : Nat := 12
  image : Option String := none
  isActive : Bool := true
  deriving DecidableEq, Repr

/-- `StockMovement.TYPES`. -/
inductive MovementType
  | in
  | out
  deriving DecidableEq, Repr

/-- Which code wrote a movement. -/
inductive Origin
  /-- The opening stock of a product. -/
  | opening
  /-- A movement entered by hand. -/
  | manual
  /-- An edit of the quantity of a product. -/
  | correction
  /-- Stock handed to a master, returned by one, or adjusted. -/
  | transfer
  deriving DecidableEq, Repr

/-- `warehouse.StockMovement`. -/
structure StockMovement where
  id : Uuid
  product : Uuid
  movementType : MovementType
  quantity : Int
  note : String := ""
  master : Option Uuid := none
  origin : Origin
  deriving DecidableEq, Repr

/-- What a movement adds to the stock on hand: IN adds, OUT removes. -/
def MovementType.delta (type : MovementType) (quantity : Int) : Int :=
  match type with
  | .in => quantity
  | .out => -quantity

/-- The effect of a movement on the stock on hand. -/
def StockMovement.signed (m : StockMovement) : Int := m.movementType.delta m.quantity

/-- `warehouse.MasterInventory`: what a master holds of a product. -/
structure MasterInventory where
  id : Uuid
  master : Uuid
  warehouseProduct : Uuid
  quantity : Int
  unit : String := "dona"
  lowThreshold : Int := 0
  image : Option String := none
  deriving DecidableEq, Repr

instance : Keyed WarehouseCategory Uuid := ⟨WarehouseCategory.id⟩

instance : Keyed WarehouseProduct Uuid := ⟨WarehouseProduct.id⟩

instance : Keyed StockMovement Uuid := ⟨StockMovement.id⟩

instance : Keyed MasterInventory Uuid := ⟨MasterInventory.id⟩

end Warehouse

end Homex
