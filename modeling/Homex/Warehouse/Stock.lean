import Homex.System.Handling
import Mathlib.Logic.Relation

/-!
# Accounts of stock

Five totals say where the stock of a product is: on hand in the warehouse, the
net of the movements in its ledger, the part of the ledger that came from
outside, what the masters hold, and what orders have used. An `Entry` says by
how much a write moves each. Two laws are linear in them: the ledger is the
stock on hand, and what is on hand, held or used came from outside.

`Posts` is the faithful side of an entry: the writes to the four tables that
move the totals by it.
-/

namespace Homex

open Relational Orders Warehouse

/-- The effect of a movement that is not a transfer. -/
def Warehouse.StockMovement.external (m : StockMovement) : Int :=
  if m.origin = .transfer then 0 else m.signed

namespace DB

variable (db : DB)

/-- The quantity of the product. -/
def onHand (product : Uuid) : Int := db.products.total key (fun p => p.quantity) product

/-- IN minus OUT over the movements of the product. -/
def net (product : Uuid) : Int :=
  db.movements.total (fun m => m.product) StockMovement.signed product

/-- IN minus OUT over the movements of the product that are not transfers. -/
def external (product : Uuid) : Int :=
  db.movements.total (fun m => m.product) StockMovement.external product

/-- What the masters hold of the product. -/
def held (product : Uuid) : Int :=
  db.inventory.total (fun i => i.warehouseProduct) (fun i => i.quantity) product

/-- The product a row of a master's stock is of. -/
def productOf (inventory : Uuid) : Option Uuid :=
  (db.inventory.find? inventory).map fun i => i.warehouseProduct

/-- What orders have used of the product. -/
def used (product : Uuid) : Int :=
  db.usages.total (fun u => db.productOf u.inventory) (fun u => u.quantity) (some product)

/-- The foreign key of the usages. -/
def UsagesRefer : Prop := ∀ u ∈ db.usages.rows, (db.inventory.find? u.inventory).isSome

/-- No product and no master has a negative quantity. -/
structure Nonnegative : Prop where
  products : ∀ p ∈ db.products.rows, 0 ≤ p.quantity
  inventory : ∀ i ∈ db.inventory.rows, 0 ≤ i.quantity

variable {db} in
theorem Nonnegative.item (h : db.Nonnegative) {pk : Uuid} {i : MasterInventory}
    (hfind : db.inventory.find? pk = some i) : 0 ≤ i.quantity :=
  h.inventory i (Table.mem_of_find? hfind)

variable {db} in
theorem Nonnegative.product (h : db.Nonnegative) {pk : Uuid} {p : WarehouseProduct}
    (hfind : db.products.find? pk = some p) : 0 ≤ p.quantity :=
  h.products p (Table.mem_of_find? hfind)

end DB

namespace Warehouse

/-- By how much a write moves the totals of a product. -/
structure Entry where
  onHand : Int := 0
  net : Int := 0
  external : Int := 0
  held : Int := 0
  used : Int := 0

/-- The ledger moves with the stock on hand. -/
def Entry.Journaled (e : Entry) : Prop := e.onHand = e.net

/-- What is on hand, held or used moves with what came from outside. -/
def Entry.Conserves (e : Entry) : Prop := e.onHand + e.held + e.used = e.external

/-- The writes that an entry of the product stands for. -/
structure Posts (db db' : DB) (product : Uuid) (e : Entry) : Prop where
  products : Table.Shift key (fun p => p.quantity) db.products db'.products product e.onHand
  net : Table.Shift (fun m => m.product) StockMovement.signed db.movements db'.movements product
    e.net
  external : Table.Shift (fun m => m.product) StockMovement.external db.movements db'.movements
    product e.external
  held : Table.Shift (fun i => i.warehouseProduct) (fun i => i.quantity) db.inventory
    db'.inventory product e.held
  used : db.UsagesRefer →
    (∀ pk, db'.used pk = db.used pk + if product = pk then e.used else 0) ∧ db'.UsagesRefer

section Totals

variable {db db' : DB} {product : Uuid} {e : Entry}

/-- The ledger stays the stock on hand under journaled entries. -/
theorem Posts.journaled (h : Posts db db' product e) (he : e.Journaled)
    (hi : ∀ pk, db.onHand pk = db.net pk) (pk : Uuid) : db'.onHand pk = db'.net pk := by
  have honHand : db'.onHand pk = db.onHand pk + if product = pk then e.onHand else 0 :=
    h.products.total pk
  have hnet : db'.net pk = db.net pk + if product = pk then e.net else 0 := h.net.total pk
  rw [honHand, hnet, hi, he]

/-- The goods stay accounted for under conserving entries. -/
theorem Posts.conserves (h : Posts db db' product e) (he : e.Conserves) (hrefer : db.UsagesRefer)
    (hi : ∀ pk, db.onHand pk + db.held pk + db.used pk = db.external pk) (pk : Uuid) :
    db'.onHand pk + db'.held pk + db'.used pk = db'.external pk := by
  have honHand : db'.onHand pk = db.onHand pk + if product = pk then e.onHand else 0 :=
    h.products.total pk
  have hexternal : db'.external pk = db.external pk + if product = pk then e.external else 0 :=
    h.external.total pk
  have hheld : db'.held pk = db.held pk + if product = pk then e.held else 0 := h.held.total pk
  have hused := (h.used hrefer).1 pk
  have hpk := hi pk
  unfold Entry.Conserves at he
  by_cases hproduct : product = pk
  · rw [if_pos hproduct] at honHand hexternal hheld hused
    omega
  · rw [if_neg hproduct] at honHand hexternal hheld hused
    omega

/-- Entries posted one after another, each of which meets a condition. -/
def Posting (P : Entry → Prop) : DB → DB → Prop :=
  Relation.ReflTransGen fun db db' => ∃ product e, Posts db db' product e ∧ P e

theorem Posting.single {P : Entry → Prop} (h : Posts db db' product e) (he : P e) :
    Posting P db db' :=
  Relation.ReflTransGen.single ⟨product, e, h, he⟩

end Totals

section Usages

variable {db db' : DB} {product : Uuid}

theorem isSome_productOf (db : DB) (inventory : Uuid) :
    (db.productOf inventory).isSome = (db.inventory.find? inventory).isSome :=
  Option.isSome_map

/-- The rows that usages refer to stay, as rows of the same products. -/
theorem used_of_productOf (husages : db'.usages = db.usages)
    (hproduct : ∀ u ∈ db.usages.rows, (db.inventory.find? u.inventory).isSome →
      db'.productOf u.inventory = db.productOf u.inventory) (hrefer : db.UsagesRefer) :
    (∀ pk, db'.used pk = db.used pk + if product = pk then 0 else 0) ∧ db'.UsagesRefer := by
  constructor
  · intro pk
    rw [ite_self, add_zero, DB.used, DB.used, Table.total, Table.total, husages]
    refine Table.sum_congr _ fun u hu => ?_
    rw [hproduct u hu (hrefer u hu)]
  · intro u hu
    rw [husages] at hu
    rw [← isSome_productOf, hproduct u hu (hrefer u hu), isSome_productOf]
    exact hrefer u hu

theorem productOf_of_inventory (h : db'.inventory = db.inventory) (inventory : Uuid) :
    db'.productOf inventory = db.productOf inventory := by
  rw [DB.productOf, h, DB.productOf]

theorem productOf_of_insert {row : MasterInventory}
    (h : db.inventory.insert? row = some db'.inventory) {inventory : Uuid}
    (hsome : (db.inventory.find? inventory).isSome) :
    db'.productOf inventory = db.productOf inventory := by
  have hne : key row ≠ inventory := by
    rintro rfl
    rw [(Table.insert?_eq_some_iff.mp h).1] at hsome
    cases hsome
  rw [DB.productOf, Table.find?_insert? h, if_neg hne, DB.productOf]

theorem productOf_of_save {old : MasterInventory} (new : MasterInventory)
    (hfind : db.inventory.find? (key new) = some old)
    (hproduct : new.warehouseProduct = old.warehouseProduct)
    (h : db'.inventory = db.inventory.save new) (inventory : Uuid) :
    db'.productOf inventory = db.productOf inventory := by
  rw [DB.productOf, h, DB.productOf]
  exact Table.rel_of_save (R := fun r? r'? => r'?.map (fun i => i.warehouseProduct) =
    r?.map fun i => i.warehouseProduct) (fun _ => rfl) hfind (congrArg some hproduct) inventory

theorem productOf_of_delete {item : Uuid} (hunused : usagesExist db item = false)
    (h : db'.inventory = db.inventory.delete item) {u : OrderInventoryUsage}
    (hu : u ∈ db.usages.rows) : db'.productOf u.inventory = db.productOf u.inventory := by
  have hne : u.inventory ≠ item := by
    intro heq
    rw [usagesExist, List.any_eq_false] at hunused
    exact hunused u hu (decide_eq_true heq)
  rw [DB.productOf, h, Table.find?_delete, if_neg hne.symm, DB.productOf]

/-- A usage of a row of the product. -/
theorem used_of_insert {u : OrderInventoryUsage} {row : MasterInventory}
    (husages : db.usages.insert? u = some db'.usages)
    (hfind : db.inventory.find? u.inventory = some row) (hrow : row.warehouseProduct = product)
    (hproduct : ∀ inventory, db'.productOf inventory = db.productOf inventory)
    (hrefer : db.UsagesRefer) :
    (∀ pk, db'.used pk = db.used pk + if product = pk then u.quantity else 0) ∧
      db'.UsagesRefer := by
  have hof : db.productOf u.inventory = some product := by
    rw [DB.productOf, hfind, Option.map_some, hrow]
  constructor
  · intro pk
    rw [DB.used, DB.used, Table.total, Table.sum_insert? husages, hproduct, hof, Table.total]
    simp only [hproduct, Option.some.injEq]
  · intro v hv
    rw [← isSome_productOf, hproduct, isSome_productOf]
    rcases (Table.mem_insert? husages).mp hv with hv | rfl
    · exact hrefer v hv
    · rw [hfind]
      rfl

end Usages

end Warehouse

end Homex
