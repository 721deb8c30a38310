import Homex.System.Handling

/-!
# The items a check uses

One round of the `used_items` loop deducts a row of the master's stock and
inserts a usage. The prices of the rows do not change under it, so what the loop
adds to the totals of the order can be read off the payload and the database it
starts in.
-/

namespace Homex

namespace Orders

open Relational Action Code Warehouse

namespace OrderCompleteSerializer

variable {ctx : Context} {db db' : DB} {o : Order} {i : Nat} {line total : Int}

/-- The sale price of the product a row of master stock is of. -/
def salePriceOf (db : DB) (inventory : Uuid) : Int :=
  (((db.inventory.find? inventory).bind fun row => db.products.find? row.warehouseProduct).map
    fun product => product.salePrice).getD 0

/-- The unrounded line totals of a list of items. -/
def lines (db : DB) (items : List UsedItem) : List Int :=
  items.map fun item => Money.times item.quantity (salePriceOf db item.inventoryId)

/-- What one round of the loop does. -/
structure UsesItem (ctx : Context) (o : Order) (i : Nat) (item : UsedItem) (db db' : DB)
    (row : MasterInventory) (product : WarehouseProduct) : Prop where
  found : db.inventory.find? item.inventoryId = some row
  master : some row.master = o.master
  ofProduct : db.products.find? row.warehouseProduct = some product
  covered : item.quantity ≤ row.quantity
  inserted : ∃ usages,
    db.usages.insert?
      (.of (ctx.uuid (.usage i)) o.id row.id item.quantity product.salePrice) = some usages ∧
    db' = { db with
      inventory := db.inventory.save { row with quantity := row.quantity - item.quantity }
      usages := usages }

theorem useItem_ok {item : UsedItem} (h : useItem ctx o i item db = (.ok line, db')) :
    ∃ row product, UsesItem ctx o i item db db' row product ∧
      line = Money.times item.quantity product.salePrice := by
  simp only [useItem, saveInventory, createUsage, bind_eq_ok, fetch_eq_ok, require_eq_ok,
    modify_eq_ok, write_eq_ok, Option.map_eq_some_iff, pure_eq_ok] at h
  obtain ⟨row, _, ⟨hfind, rfl⟩, _, _, ⟨hmaster, rfl⟩, product, _, ⟨hproduct, rfl⟩, _, _,
    ⟨hcovered, rfl⟩, _, _, rfl, _, _, ⟨usages, hins, rfl⟩, rfl, rfl⟩ := h
  exact ⟨row, product, ⟨hfind, hmaster, hproduct, hcovered, usages, hins, rfl⟩, rfl⟩

section Item

variable {item : UsedItem} {row : MasterInventory} {product : WarehouseProduct}

/-- The row is the one that is saved with the new quantity. -/
theorem UsesItem.find?_key (h : UsesItem ctx o i item db db' row product) :
    db.inventory.find? (key { row with quantity := row.quantity - item.quantity.1 }) =
      some row := by
  have hid : row.id = item.inventoryId := Table.key_of_find? h.found
  change db.inventory.find? row.id = some row
  rw [hid]
  exact h.found

/-- A round keeps what every row of master stock is a row of. -/
theorem UsesItem.warehouseProduct (h : UsesItem ctx o i item db db' row product) (pk : Uuid) :
    (db'.inventory.find? pk).map (fun row => row.warehouseProduct) =
      (db.inventory.find? pk).map fun row => row.warehouseProduct := by
  obtain ⟨usages, -, rfl⟩ := h.inserted
  exact Table.rel_of_save (R := fun r? r'? => r'?.map (fun row => row.warehouseProduct) =
    r?.map fun row => row.warehouseProduct) (fun _ => rfl) h.find?_key rfl pk

theorem salePriceOf_eq (db : DB) (pk : Uuid) :
    salePriceOf db pk =
      ((((db.inventory.find? pk).map fun row => row.warehouseProduct).bind
        fun pk => db.products.find? pk).map fun product => product.salePrice).getD 0 := by
  unfold salePriceOf
  cases db.inventory.find? pk with
  | none => rfl
  | some row => rfl

theorem UsesItem.products (h : UsesItem ctx o i item db db' row product) :
    db'.products = db.products := by
  obtain ⟨usages, -, rfl⟩ := h.inserted
  rfl

theorem UsesItem.salePriceOf (h : UsesItem ctx o i item db db' row product) (pk : Uuid) :
    salePriceOf db' pk = salePriceOf db pk := by
  rw [salePriceOf_eq, salePriceOf_eq, h.warehouseProduct, h.products]

theorem UsesItem.salePrice (h : UsesItem ctx o i item db db' row product) :
    OrderCompleteSerializer.salePriceOf db item.inventoryId = product.salePrice := by
  rw [OrderCompleteSerializer.salePriceOf, h.found, Option.bind_some, h.ofProduct]
  rfl

/-- A round adds its rounded line total to what the database sums up. -/
theorem UsesItem.usageTotal (h : UsesItem ctx o i item db db' row product) :
    usageTotal db' o.id =
      usageTotal db o.id + Money.store (Money.times item.quantity product.salePrice) := by
  obtain ⟨usages, hins, rfl⟩ := h.inserted
  unfold OrderCompleteSerializer.usageTotal
  rw [Table.sum_insert? hins]
  exact congrArg _ (if_pos rfl)

end Item

/-- What the loop returns, and what it adds to the stored line totals. -/
theorem useItems_ok {items : List UsedItem} (h : useItems ctx o i items db = (.ok total, db')) :
    total = (lines db items).sum ∧
      usageTotal db' o.id = usageTotal db o.id + ((lines db items).map Money.store).sum := by
  induction items generalizing i db total with
  | nil =>
      simp only [useItems, pure_eq_ok] at h
      obtain ⟨rfl, rfl⟩ := h
      simp [lines]
  | cons item items ih =>
      simp only [useItems, bind_eq_ok, pure_eq_ok] at h
      obtain ⟨line, db₁, hitem, rest, _, hrest, rfl, rfl⟩ := h
      obtain ⟨row, product, huses, rfl⟩ := useItem_ok hitem
      obtain ⟨rfl, htotal⟩ := ih hrest
      have hlines : lines db₁ items = lines db items :=
        List.map_congr_left fun item _ => by rw [huses.salePriceOf]
      have hhead : lines db (item :: items) =
          Money.times item.quantity product.salePrice :: lines db items := by
        rw [lines, List.map_cons, huses.salePrice]
        rfl
      rw [hhead, htotal, huses.usageTotal, hlines, List.map_cons, List.sum_cons, List.sum_cons,
        Int.add_assoc]
      exact ⟨rfl, rfl⟩

end OrderCompleteSerializer

end Orders

end Homex
