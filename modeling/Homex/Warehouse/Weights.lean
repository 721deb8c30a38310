import Homex.Concurrency.Settlement
import Homex.System.StockStatements
import Homex.Warehouse.Stock
import Mathlib.Tactic.LinearCombination

/-!
# Weighted stock

A law of stock weighs every unit of a product by where it is: on hand, in a
movement of the ledger, with a master, or used on an order. A request keeps the
law when the weights of what it moves make up for each other. The weighted total
is an account of the interleavings; every statement that moves stock moves it by
the weight of what it moves.

What masters hold is weighed by the master. The rows of the masters are told
apart by their ids: `owns` says of which master and product a row may be. A row
is written from an instance that was loaded without a lock only when it still
weighs what it did.
-/

namespace Homex

open Relational Concurrency Orders Warehouse

/-- The request is about rows of these masters, and draws the id of a row of its master. -/
def TransferRequest.On (masters : Uuid → Prop) (owns : Uuid → Uuid → Uuid → Prop) (ctx : Context) :
    TransferRequest → Prop
  | .adminAssign master data =>
      masters master ∧ owns (ctx.uuid .inventory) master data.warehouseProductId
  | .adminUpdate master _ _ => masters master
  | .adminDelete master _ => masters master
  | .inventoryCreate master product _ =>
      masters master ∧ owns (ctx.uuid .inventory) master product
  | .inventoryUpdate pk _ => ∀ m p, owns pk m p → masters m
  | .inventoryDestroy pk => ∀ m p, owns pk m p → masters m

namespace Warehouse

/-- What a unit of the product weighs on hand, in a movement and with a master.
Where `loads` holds, products are saved and movements deleted as they were loaded. -/
structure Law where
  product : Uuid
  onHand : Int
  net : Int
  held : Uuid → Int
  owns : Uuid → Uuid → Uuid → Prop
  loads : Prop

namespace Law

variable (L : Law)

/-- A unit of a product on hand. -/
def stock (product : Uuid) : Int := if product = L.product then L.onHand else 0

/-- A unit of a product in a movement. -/
def journal (product : Uuid) : Int := if product = L.product then L.net else 0

/-- A unit of a product with a master. -/
def unit (master product : Uuid) : Int := if product = L.product then L.held master else 0

/-- What a movement weighs. -/
def weight (m : StockMovement) : Int := L.journal m.product * m.signed

/-- What a unit of the row and all of it weigh. -/
def weights (i : MasterInventory) : Int × Int :=
  (L.unit i.master i.warehouseProduct, L.unit i.master i.warehouseProduct * i.quantity)

/-- A unit of a master's row. -/
def unitOf (inventory : Table MasterInventory) (item : Uuid) : Int :=
  (inventory.find? item).elim 0 fun i => L.unit i.master i.warehouseProduct

/-- What the stock weighs. -/
def total (db : DB) : Int :=
  (db.products.sum fun p => L.stock p.id * p.quantity) +
    db.movements.sum L.weight + (db.inventory.sum fun i => (L.weights i).2) +
      db.usages.sum fun u => L.unitOf db.inventory u.inventory * u.quantity

/-- What these masters hold weighs as much as what is on hand and its movement. -/
def Exchanges (masters : Uuid → Prop) : Prop :=
  ∀ item m p m' p', masters m → L.owns item m p → L.owns item m' p' →
    L.unit m' p' = L.stock p + L.journal p

end Law

/-- What is observed of a row. Of a product: what a unit weighs, and the quantity. Of
a master's row: what a unit and all of it weigh, and whether orders have used it. Of a
movement: what it weighs. -/
inductive StockRow
  | product (unit : Int) (quantity : Option Int)
  | item (row : Option (Int × Int)) (used : Bool)
  | movement (weight : Option Int)
  | usage (found : Bool)
  | other

namespace Law

variable (L : Law)

/-- A product as it is observed. -/
def productRow (db : DB) (pk : Uuid) : StockRow :=
  .product (L.stock pk) ((db.products.find? pk).map fun p => p.quantity)

/-- A master's row as it is observed. -/
def itemRow (db : DB) (pk : Uuid) : StockRow :=
  .item ((db.inventory.find? pk).map L.weights) (usagesExist db pk)

/-- A movement as it is observed. -/
def movementRow (db : DB) (pk : Uuid) : StockRow :=
  .movement ((db.movements.find? pk).map L.weight)

/-- The row weighs what it did when it was read; usages do not count. -/
def Like : StockRow → StockRow → Prop
  | .product u q, .product u' q' => L.loads → u * q.getD 0 = u' * q'.getD 0
  | .item row _, .item row' _ => row.elim 0 Prod.snd = row'.elim 0 Prod.snd
  | .movement w, .movement w' => L.loads → w.getD 0 = w'.getD 0
  | _, _ => True

/-- The account of a law. -/
def account : Account DB RowKey StockRow Int where
  obs db
    | .product id => L.productRow db id
    | .inventory id => L.itemRow db id
    | .movement id => L.movementRow db id
    | .usage id => .usage (db.usages.find? id).isSome
    | _ => .other
  valid db := db.UsagesRefer ∧ ∀ i ∈ db.inventory.rows, L.owns i.id i.master i.warehouseProduct
  like := L.Like
  closing k := L.loads ∧ ∃ id, k = .movement id
  total := L.total

end Law

/-- What a program settles of a law. -/
abbrev Weighs {α : Type} (L : Law) (p : Statements α)
    (Q : α → Books RowKey StockRow Int → Prop) (b : Books RowKey StockRow Int) : Prop :=
  Program.Settles L.account Q p b

/-- The program has written or read the row `k`, and owes `d` more. -/
structure Moves (b b' : Books RowKey StockRow Int) (k : RowKey) (d : Int) : Prop where
  inTx : b'.inTx = b.inTx
  debt : b'.debt = b.debt + d
  read : ∀ k', k' ≠ k → b'.read k' = b.read k'
  held : b.inTx = true → ∀ k', k' ≠ k → b'.held k' = b.held k'

/-- A unit on hand weighs one. -/
theorem Law.sum_stock {L : Law} (honHand : L.onHand = 1) (db : DB) :
    (db.products.sum fun p => L.stock p.id * p.quantity) = db.onHand L.product := by
  refine Table.sum_congr _ fun p _ => ?_
  rw [Law.stock, honHand, ite_mul, one_mul, zero_mul]
  rfl

section Totals

variable {L : Law} {db : DB} {pk : Uuid}

/-- A product is saved. -/
theorem Law.total_saveProduct (L : Law) (db : DB) (new : WarehouseProduct) :
    L.total { db with products := db.products.upsert new } =
      L.total db + (L.stock new.id * new.quantity -
        (db.products.find? new.id).elim 0 fun p => L.stock p.id * p.quantity) := by
  have hsum := Table.sum_upsert db.products new fun p => L.stock p.id * p.quantity
  rw [show key new = new.id from rfl] at hsum
  change (db.products.upsert new).sum _ + _ + _ + _ = _
  unfold Law.total
  linear_combination hsum

theorem Law.total_insertMovement {m : StockMovement} {t : Table StockMovement}
    (h : db.movements.insert? m = some t) :
    L.total { db with movements := t } = L.total db + L.weight m := by
  have hsum := Table.sum_insert? h L.weight
  change _ + t.sum _ + _ + _ = _
  unfold Law.total
  linear_combination hsum

theorem Law.total_deleteMovement (L : Law) (db : DB) (pk : Uuid) :
    L.total { db with movements := db.movements.delete pk } =
      L.total db + -(db.movements.find? pk).elim 0 L.weight := by
  have hsum := Table.sum_delete_add db.movements pk L.weight
  change _ + (db.movements.delete pk).sum L.weight + _ + _ = _
  unfold Law.total
  linear_combination hsum

/-- The rows of the masters may change, when those that orders have used stay. -/
theorem Law.total_of_inventory {t : Table MasterInventory} {d : Int}
    (hsum : (t.sum fun i => (L.weights i).2) =
      (db.inventory.sum fun i => (L.weights i).2) + d)
    (hunit : ∀ u ∈ db.usages.rows,
      L.unitOf t u.inventory = L.unitOf db.inventory u.inventory) :
    L.total { db with inventory := t } = L.total db + d := by
  have husages : (db.usages.sum fun u =>
      L.unitOf t u.inventory * u.quantity) =
        db.usages.sum fun u => L.unitOf db.inventory u.inventory * u.quantity :=
    Table.sum_congr _ fun u hu => by rw [hunit u hu]
  change _ + _ + t.sum _ + _ = _
  unfold Law.total
  rw [hsum]
  linear_combination husages

/-- A master's row is saved: it stays one of masters with the same unit. -/
theorem Law.total_saveItem {new : MasterInventory} (hrefer : db.UsagesRefer)
    (hunit : ∀ i, db.inventory.find? new.id = some i →
      L.unit i.master i.warehouseProduct = L.unit new.master new.warehouseProduct) :
    L.total { db with inventory := db.inventory.upsert new } =
      L.total db + ((L.weights new).2 -
        (db.inventory.find? new.id).elim 0 fun i => (L.weights i).2) := by
  refine Law.total_of_inventory ?_ fun u hu => ?_
  · have hsum := Table.sum_upsert db.inventory new fun i => (L.weights i).2
    rw [show key new = new.id from rfl] at hsum
    linear_combination hsum
  · unfold Law.unitOf
    rw [Table.find?_upsert]
    by_cases hne : key new = u.inventory
    · obtain ⟨i, hfind⟩ := Option.isSome_iff_exists.mp (hrefer u hu)
      rw [if_pos hne, hfind]
      rw [← hne] at hfind
      exact (hunit i hfind).symm
    · rw [if_neg hne]

theorem Law.total_insertItem {i : MasterInventory} {t : Table MasterInventory}
    (hrefer : db.UsagesRefer) (h : db.inventory.insert? i = some t) :
    L.total { db with inventory := t } =
      L.total db + (L.weights i).2 := by
  refine Law.total_of_inventory (Table.sum_insert? h _) fun u hu => ?_
  have hne : key i ≠ u.inventory := by
    intro hkey
    have hsome := hrefer u hu
    rw [← hkey, (Table.insert?_eq_some_iff.mp h).1] at hsome
    cases hsome
  unfold Law.unitOf
  rw [Table.find?_insert? h, if_neg hne]

theorem Law.total_deleteItem (hunused : usagesExist db pk = false) :
    L.total { db with inventory := db.inventory.delete pk } =
      L.total db + -(db.inventory.find? pk).elim 0 fun i => (L.weights i).2 := by
  refine Law.total_of_inventory ?_ fun u hu => ?_
  · have hsum := Table.sum_delete_add db.inventory pk fun i => (L.weights i).2
    linear_combination hsum
  · have hne : pk ≠ u.inventory := by
      rintro rfl
      rw [usagesExist, List.any_eq_false] at hunused
      exact hunused u hu (decide_eq_true rfl)
    unfold Law.unitOf
    rw [Table.find?_delete, if_neg hne]

theorem Law.total_insertUsage {u : OrderInventoryUsage} {t : Table OrderInventoryUsage}
    (h : db.usages.insert? u = some t) :
    L.total { db with usages := t } =
      L.total db + L.unitOf db.inventory u.inventory * u.quantity := by
  have hsum := Table.sum_insert? h fun u => L.unitOf db.inventory u.inventory * u.quantity
  change _ + _ + _ + t.sum _ = _
  unfold Law.total
  linear_combination hsum

end Totals

end Warehouse

end Homex
