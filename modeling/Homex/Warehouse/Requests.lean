import Homex.Orders.UsedItems
import Homex.Warehouse.Moves

/-!
# What the stock requests post

A request runs its service once; the PATCH of a product or of a master's row
saves the other columns before it. Deleting a movement takes its effect on the
stock on hand back, so the entry is in balance only when the movement came from
outside.
-/

namespace Homex

open Relational Action Code Orders Profiles Wallet Warehouse Dashboard

/-- A request that moves stock. -/
def Request.movesStock : Request → Bool
  | .stock _ => true
  | .useInventory _ _ _ => true
  | .masterComplete _ _ _ => true
  | _ => false

namespace Warehouse

variable {ctx : Context} {db db' : DB}

section Columns

/-- Writes that leave the four stock tables alone. -/
theorem moved_of_tables (hproducts : db'.products = db.products)
    (hmovements : db'.movements = db.movements) (hinventory : db'.inventory = db.inventory)
    (husages : db'.usages = db.usages) : Moved Entry.Balanced db db' := by
  have hposts : Posts db db' 0 {} :=
    { products := .same hproducts
      net := .same hmovements
      external := .same hmovements
      held := .same hinventory
      used := used_of_productOf husages fun _ _ _ => productOf_of_inventory hinventory _ }
  refine .single hposts ⟨rfl, rfl⟩ fun hn => ⟨?_, ?_⟩
  · rw [hproducts]
    exact hn.products
  · rw [hinventory]
    exact hn.inventory

/-- The columns of a product other than its quantity. -/
theorem moved_saveProduct {product new : WarehouseProduct}
    (hfind : db.products.find? (key new) = some product)
    (hquantity : new.quantity = product.quantity) :
    Moved Entry.Balanced db { db with products := db.products.save new } := by
  have hshift := Table.Shift.save (f := fun p : WarehouseProduct => p.quantity) hfind
    (Table.key_of_find? hfind) rfl rfl
  have hposts : Posts db { db with products := db.products.save new } (key new)
      { onHand := new.quantity - product.quantity } :=
    { products := hshift
      net := .same rfl
      external := .same rfl
      held := .same rfl
      used := used_of_productOf rfl fun _ _ _ => rfl }
  rw [hquantity, sub_self] at hposts
  refine .single hposts ⟨rfl, rfl⟩ fun hn => ⟨?_, hn.inventory⟩
  exact Table.forall_save hn.products (hquantity ▸ hn.product hfind)

/-- The columns of a master's row other than its product and quantity. -/
theorem moved_saveInventory {item new : MasterInventory}
    (hfind : db.inventory.find? (key new) = some item)
    (hproduct : new.warehouseProduct = item.warehouseProduct)
    (hquantity : new.quantity = item.quantity) :
    Moved Entry.Balanced db { db with inventory := db.inventory.save new } := by
  have hshift := Table.shift_save (fun i : MasterInventory => i.warehouseProduct)
    (fun i => i.quantity) new hfind hproduct
  have hposts : Posts db { db with inventory := db.inventory.save new } item.warehouseProduct
      { held := new.quantity - item.quantity } :=
    { products := .same rfl
      net := .same rfl
      external := .same rfl
      held := hshift
      used := used_of_productOf rfl fun _ _ _ => productOf_of_save new hfind hproduct rfl _ }
  rw [hquantity, sub_self] at hposts
  refine .single hposts ⟨rfl, rfl⟩ fun hn => ⟨hn.products, ?_⟩
  exact Table.forall_save hn.inventory (hquantity ▸ hn.item hfind)

/-- The note of a movement. -/
theorem moved_saveMovement {movement : StockMovement} {pk : Uuid} {note : String}
    (hfind : db.movements.find? pk = some movement) :
    Moved Entry.Balanced db
      { db with movements := db.movements.save { movement with note := note } } := by
  obtain rfl : movement.id = pk := Table.key_of_find? hfind
  have hshift : ∀ f : StockMovement → Int, f { movement with note := note } = f movement →
      Table.Shift (fun m : StockMovement => m.product) f db.movements
        (db.movements.save { movement with note := note }) movement.product 0 := by
    intro f hf
    have hsave := Table.shift_save (fun m : StockMovement => m.product) f
      { movement with note := note } hfind rfl
    rwa [hf, sub_self] at hsave
  have hposts : Posts db { db with movements := db.movements.save { movement with note := note } }
      movement.product {} :=
    { products := .same rfl
      net := hshift _ rfl
      external := hshift _ rfl
      held := .same rfl
      used := used_of_productOf rfl fun _ _ _ => rfl }
  exact .single hposts ⟨rfl, rfl⟩ fun hn => ⟨hn.products, hn.inventory⟩

end Columns

section Uses

open OrderCompleteSerializer

variable {o : Order} {i : Nat}

/-- A row of the product goes from the master to the order. -/
theorem moved_uses {row : MasterInventory} {pk : Uuid} {u : OrderInventoryUsage} {q : Int}
    {usages : Table OrderInventoryUsage} (hfind : db.inventory.find? pk = some row)
    (hcovered : q ≤ row.quantity) (hins : db.usages.insert? u = some usages)
    (hinventory : u.inventory = row.id) (hquantity : u.quantity = q) :
    Moved Entry.Balanced db { db with
      inventory := db.inventory.save { row with quantity := row.quantity - q }
      usages := usages } := by
  obtain rfl : row.id = pk := Table.key_of_find? hfind
  generalize hdb : ({ db with
      inventory := db.inventory.save { row with quantity := row.quantity - q }
      usages := usages } : DB) = db'
  have hsaved : db'.inventory = db.inventory.save { row with quantity := row.quantity - q } :=
    hdb ▸ rfl
  have hrestocks : Restocks db db' row.warehouseProduct (-q) := restocks_save hfind rfl hsaved
  have hposts : Posts db db' row.warehouseProduct { held := -q, used := u.quantity } :=
    { products := .same (hdb ▸ rfl)
      net := .same (hdb ▸ rfl)
      external := .same (hdb ▸ rfl)
      held := hrestocks.shift
      used := used_of_insert (hdb ▸ hins) (hinventory ▸ hfind) rfl
        (productOf_of_save { row with quantity := row.quantity - q } hfind rfl hsaved) }
  refine .single hposts ⟨rfl, ?_⟩ fun hn => ⟨?_, ?_⟩
  · simp [Entry.Conserves, hquantity]
  · exact hdb ▸ hn.products
  · rw [hsaved]
    exact Table.forall_save hn.inventory (sub_nonneg.mpr hcovered)

theorem moved_useItems {items : List UsedItem} {total : Int}
    (h : useItems ctx o i items db = (.ok total, db')) : Moved Entry.Balanced db db' := by
  induction items generalizing i db total with
  | nil =>
      obtain ⟨-, rfl⟩ := pure_eq_ok.mp h
      exact Std.Refl.refl _
  | cons item items ih =>
      simp only [useItems, bind_eq_ok, pure_eq_ok] at h
      obtain ⟨line, db₁, hitem, rest, _, hrest, rfl, rfl⟩ := h
      obtain ⟨row, product, huses, rfl⟩ := useItem_ok hitem
      obtain ⟨usages, hins, rfl⟩ := huses.inserted
      exact trans_of (Moved Entry.Balanced)
        (moved_uses huses.found huses.covered hins rfl rfl) (ih hrest)

end Uses

section Products

variable {pk : Uuid} {product : WarehouseProduct} {data : ProductPayload}

/-- The columns are saved, if there are any. -/
theorem run_saveColumns (data : ProductPayload) (hfind : db.products.find? pk = some product) :
    ∃ db₁, saveColumns product data.withoutQuantity db = (.ok (), db₁) ∧
      (db₁ = db ∨ ∃ new, db.products.find? (key new) = some product ∧
        new.quantity = product.quantity ∧ db₁ = { db with products := db.products.save new }) := by
  obtain rfl : product.id = pk := Table.key_of_find? hfind
  unfold saveColumns
  by_cases hdata : data.withoutQuantity = {}
  · rw [if_pos hdata]
    exact ⟨db, rfl, Or.inl rfl⟩
  · rw [if_neg hdata]
    exact ⟨_, rfl, Or.inr ⟨data.withoutQuantity.apply product, hfind, rfl, rfl⟩⟩

theorem moved_correctQuantity {q : Option Int} :
    Within (Moved Entry.Balanced) (correctQuantity ctx product q) := by
  cases q with
  | none => exact within_pure
  | some q =>
      exact within_ite within_pure (.bind moved_adjustWarehouseStock fun _ => within_pure)

/-- The checks refuse the payload, or the columns are saved and the quantity is moved. -/
theorem productUpdate_cases {r : Except Error WarehouseProduct}
    (h : DashboardWarehouseProductDetailAPIView.performUpdate ctx pk data db = (r, db')) :
    db = db' ∨ ∃ product db₁, db.products.find? pk = some product ∧
      (db₁ = db ∨ ∃ new, db.products.find? (key new) = some product ∧
        new.quantity = product.quantity ∧ db₁ = { db with products := db.products.save new }) ∧
      (correctQuantity ctx product data.quantity >>= fun _ =>
        fetch (fun db => db.products.find? pk) (.serverError "DoesNotExist")) db₁ = (r, db') := by
  rcases bind_of_reads within_fetch h with rfl | ⟨product, hget, h⟩
  · exact Or.inl rfl
  rcases bind_of_reads within_requirePk h with rfl | ⟨_, -, h⟩
  · exact Or.inl rfl
  obtain ⟨hfind, -⟩ := fetch_eq_ok.mp hget
  obtain ⟨db₁, hrun, hsaved⟩ := run_saveColumns data hfind
  rw [run_bind_ok hrun] at h
  exact Or.inr ⟨product, db₁, hfind, hsaved, h⟩

theorem moved_productUpdate :
    Within (Moved Entry.Balanced)
      (DashboardWarehouseProductDetailAPIView.performUpdate ctx pk data) := by
  intro db r db' h
  rcases productUpdate_cases h with rfl | ⟨product, db₁, hfind, hsaved, h⟩
  · exact Std.Refl.refl _
  have hrest := (moved_correctQuantity.bind fun _ => within_fetch) db₁ r db' h
  rcases hsaved with rfl | ⟨new, hnew, hquantity, rfl⟩
  · exact hrest
  · exact trans_of (Moved Entry.Balanced) (moved_saveProduct hnew hquantity) hrest

theorem posting_opening {products : Table WarehouseProduct} {r : Except Error WarehouseProduct}
    (hfresh : db.movements.find? (ctx.uuid .movement) = none)
    (hins : db.products.insert? product = some products)
    (h : (journalOpening ctx product >>= fun _ => pure product)
      { db with products := products } = (r, db')) : Posting Entry.Balanced db db' := by
  have hshift : Table.Shift key (fun p : WarehouseProduct => p.quantity) db.products products
      (key product) product.quantity := .insert hins rfl
  by_cases hzero : product.quantity = 0
  · have hopening : journalOpening ctx product { db with products := products } =
        (.ok (), { db with products := products }) := by
      rw [journalOpening, if_pos hzero]
      rfl
    rw [run_bind_ok hopening] at h
    obtain rfl := congrArg Prod.snd h
    have hposts : Posts db { db with products := products } (key product)
        { onHand := product.quantity } :=
      { products := hshift
        net := .same rfl
        external := .same rfl
        held := .same rfl
        used := used_of_productOf rfl fun _ _ _ => rfl }
    rw [hzero] at hposts
    exact .single hposts ⟨rfl, rfl⟩
  · rw [journalOpening, if_neg hzero] at h
    obtain ⟨movements, hmovements⟩ : ∃ movements,
        db.movements.insert? (openingMovement ctx product) = some movements :=
      Table.exists_insert? hfresh
    have hopening : createMovement (openingMovement ctx product) { db with products := products } =
        (.ok (), { db with products := products, movements := movements }) :=
      run_write (congrArg (Option.map _) hmovements)
    rw [run_bind_ok hopening] at h
    obtain rfl := congrArg Prod.snd h
    have hposts : Posts db { db with products := products, movements := movements } (key product)
        { onHand := product.quantity, net := product.quantity, external := product.quantity } :=
      { products := hshift
        net := .insert hmovements rfl
        external := .insert (f := StockMovement.external) hmovements rfl
        held := .same rfl
        used := used_of_productOf rfl fun _ _ _ => rfl }
    exact .single hposts (balanced_external _)

/-- The product is journaled with its opening stock. -/
theorem posting_productCreate (hfresh : db.movements.find? (ctx.uuid .movement) = none)
    {r : Except Error WarehouseProduct}
    (h : DashboardWarehouseProductListCreateAPIView.performCreate ctx data db = (r, db')) :
    Posting Entry.Balanced db db' := by
  rcases bind_of_reads within_requirePk h with rfl | ⟨_, -, h⟩
  · exact .refl
  rcases bind_of_reads within_fetch h with rfl | ⟨name, -, h⟩
  · exact .refl
  generalize hproduct : data.apply { id := ctx.uuid .product, name } = product at h
  cases hins : db.products.insert? product with
  | none =>
      have herror : createProduct product db = (.error integrityError, db) := by
        simp only [createProduct, write, hins, Option.map_none]
      rw [run_bind_error herror] at h
      obtain rfl := congrArg Prod.snd h
      exact .refl
  | some products =>
      have hcreate : createProduct product db = (.ok (), { db with products := products }) :=
        run_write (congrArg (Option.map _) hins)
      rw [run_bind_ok hcreate] at h
      exact posting_opening hfresh hins h

end Products

section Movements

variable {pk : Uuid}

theorem moved_movementCreate {data : MovementPayload} :
    Within (Moved Entry.Balanced)
      (DashboardStockMovementListCreateAPIView.performCreate ctx data) := by
  refine .bind within_requirePk fun _ => .bind within_requirePk fun _ =>
    within_atomic_of_ok fun db movement db' h => ?_
  simp only [applyStockMovementEffect, createMovement, bind_eq_ok, atomic_eq_ok, write_eq_ok,
    Option.map_eq_some_iff, pure_eq_ok] at h
  obtain ⟨p, db₁, hmove, _, _, ⟨movements, hins, rfl⟩, rfl, rfl⟩ := h
  obtain ⟨product, ⟨hfind, hnonneg, rfl⟩, hid⟩ := moveProductQuantity_ok hmove
  have hproduct : data.product = product.id := (Table.key_of_find? hfind).symm
  exact .single (posts_external hfind rfl hins hproduct rfl (by simp) rfl rfl)
    (balanced_external _) fun hn => ⟨Table.forall_save hn.products hnonneg, hn.inventory⟩

theorem moved_movementUpdate {data : MovementPatch} :
    Within (Moved Entry.Balanced)
      (DashboardStockMovementDetailAPIView.performUpdate pk data) := by
  intro db r db' h
  rcases bind_of_reads within_fetch h with rfl | ⟨movement, hget, h⟩
  · exact Std.Refl.refl _
  obtain ⟨hfind, -⟩ := fetch_eq_ok.mp hget
  rcases bind_of_reads within_requirePk h with rfl | ⟨_, -, h⟩
  · exact Std.Refl.refl _
  rcases bind_of_reads within_requirePk h with rfl | ⟨_, -, h⟩
  · exact Std.Refl.refl _
  rcases bind_of_reads within_require h with rfl | ⟨_, -, h⟩
  · exact Std.Refl.refl _
  rcases bind_of_reads within_require h with rfl | ⟨_, -, h⟩
  · exact Std.Refl.refl _
  rcases bind_of_reads within_require h with rfl | ⟨_, -, h⟩
  · exact Std.Refl.refl _
  rcases bind_of_reads within_require h with rfl | ⟨_, -, h⟩
  · exact Std.Refl.refl _
  obtain rfl := congrArg Prod.snd h
  exact moved_saveMovement hfind

/-- The entry of a movement that is deleted: the ledger and the stock on hand lose
the effect, the stock from outside loses it unless the movement was a transfer. -/
theorem posts_movementDestroy {movement : StockMovement} {product : WarehouseProduct} {p : Uuid}
    (hfind : db.movements.find? pk = some movement)
    (hproduct : db.products.find? p = some product) (hid : product.id = movement.product) :
    Posts db
      { db with
        products := db.products.save { product with quantity := product.quantity - movement.signed }
        movements := db.movements.delete pk } movement.product
      { onHand := -movement.signed, net := -movement.signed, external := -movement.external } := by
  obtain rfl : movement.id = pk := Table.key_of_find? hfind
  constructor
  case products => exact hid ▸ shift_products hproduct (by rw [sub_eq_add_neg])
  case net => exact .delete hfind rfl rfl
  case external => exact .delete hfind rfl rfl
  case held => exact .same rfl
  case used => exact used_of_productOf rfl fun _ _ _ => rfl

/-- Reversing the movement would not bring back stock that went to a master or
came from one: it did not, or the stock on hand does not cover it. -/
def Reversible (db : DB) (m : StockMovement) : Prop :=
  m.origin = .transfer → m.signed = 0 ∨ db.onHand m.product < m.signed

instance (m : StockMovement) : Decidable (Reversible db m) :=
  inferInstanceAs (Decidable (_ → _))

/-- Deleting a movement keeps the ledger, and the goods too unless it takes back
one side of a transfer. -/
theorem moved_movementDestroy {r : Except Error Unit}
    (h : DashboardStockMovementDetailAPIView.performDestroy pk db = (r, db')) :
    Moved (fun e => e.Journaled ∧
      ((∀ m, db.movements.find? pk = some m → Reversible db m) → e.Conserves)) db db' := by
  rcases bind_of_reads within_fetch h with rfl | ⟨movement, hget, h⟩
  · exact Std.Refl.refl _
  obtain ⟨hfind, -⟩ := fetch_eq_ok.mp hget
  rcases hrun : reverseStockMovement movement db with ⟨e | p, db₁⟩
  · rw [run_bind_error hrun] at h
    obtain rfl := congrArg Prod.snd h
    rw [atomic_error hrun]
    exact Std.Refl.refl _
  · rw [run_bind_ok hrun] at h
    obtain rfl := congrArg Prod.snd h
    obtain ⟨product, ⟨hproduct, hnonneg, rfl⟩, -⟩ := moveProductQuantity_ok (atomic_eq_ok.mp hrun)
    have hid : product.id = movement.product := Table.key_of_find? hproduct
    have honHand : db.onHand movement.product = product.quantity :=
      Table.total_of_find? hproduct _
    refine .single (posts_movementDestroy hfind hproduct hid) ⟨rfl, fun hgoods => ?_⟩
      fun hn => ⟨Table.forall_save hn.products hnonneg, hn.inventory⟩
    have hexternal : movement.external = movement.signed := by
      by_cases horigin : movement.origin = .transfer
      · rw [StockMovement.external, if_pos horigin]
        rcases hgoods movement hfind horigin with hzero | hshort
        · exact hzero.symm
        · rw [honHand] at hshort
          omega
      · rw [StockMovement.external, if_neg horigin]
    simp [Entry.Conserves, hexternal]

end Movements

section Inventory

variable {pk : Uuid}

/-- The checks of a PATCH read only. -/
theorem within_checkInventory {R : DB → DB → Prop} [Std.Refl R] [IsTrans DB R]
    {item : MasterInventory} {data : InventoryPayload} : Within R (checkInventory item data) :=
  .bind within_requirePk fun _ => .bind within_requirePk fun _ => .bind within_get fun _ =>
    .bind within_require fun _ => .bind within_require fun _ => within_require

theorem checkInventory_ok {item : MasterInventory} {data : InventoryPayload} {u : Unit}
    (h : checkInventory item data db = (.ok u, db')) :
    data.master.getD item.master = item.master ∧
      data.warehouseProduct.getD item.warehouseProduct = item.warehouseProduct := by
  simp only [checkInventory, bind_eq_ok, require_eq_ok] at h
  obtain ⟨_, _, -, _, _, -, _, _, -, _, _, -, _, _, ⟨hmaster, -⟩, hproduct, -⟩ := h
  exact ⟨hmaster, hproduct⟩

/-- The columns are saved, if there are any. -/
theorem run_saveItemColumns {item : MasterInventory} {data : InventoryPayload}
    (hfind : db.inventory.find? pk = some item)
    (hproduct : data.warehouseProduct.getD item.warehouseProduct = item.warehouseProduct) :
    ∃ db₁, saveItemColumns item data.withoutQuantity db = (.ok (), db₁) ∧
      (db₁ = db ∨ ∃ new, db.inventory.find? (key new) = some item ∧
        new.warehouseProduct = item.warehouseProduct ∧ new.quantity = item.quantity ∧
        db₁ = { db with inventory := db.inventory.save new }) := by
  obtain rfl : item.id = pk := Table.key_of_find? hfind
  unfold saveItemColumns
  by_cases hdata : data.withoutQuantity = {}
  · rw [if_pos hdata]
    exact ⟨db, rfl, Or.inl rfl⟩
  · rw [if_neg hdata]
    exact ⟨_, rfl, Or.inr ⟨data.withoutQuantity.apply item, hfind, hproduct, rfl, rfl⟩⟩

theorem moved_adjustItem {item : MasterInventory} {q : Option Int} {r : Except Error Unit}
    (hrow : ∀ row, db.inventory.find? item.id = some row →
      row.warehouseProduct = item.warehouseProduct)
    (h : adjustItem ctx item q db = (r, db')) : Moved Entry.Balanced db db' := by
  cases q with
  | none => exact within_pure _ _ _ h
  | some q =>
      by_cases hq : q = item.quantity
      · simp only [adjustItem, if_pos hq] at h
        exact within_pure _ _ _ h
      · simp only [adjustItem, if_neg hq] at h
        exact rel_bind (fun _ _ => moved_adjustInventory hrow) (fun _ => within_pure) h

/-- The checks refuse the payload, or the columns are saved and the quantity is moved. -/
theorem inventoryUpdate_cases {data : InventoryPayload} {r : Except Error MasterInventory}
    (h : DashboardMasterInventoryDetailAPIView.performUpdate ctx pk data db = (r, db')) :
    db = db' ∨ ∃ item db₁, db.inventory.find? pk = some item ∧
      (db₁ = db ∨ ∃ new, db.inventory.find? (key new) = some item ∧
        new.warehouseProduct = item.warehouseProduct ∧ new.quantity = item.quantity ∧
        db₁ = { db with inventory := db.inventory.save new }) ∧
      (adjustItem ctx item data.quantity >>= fun _ =>
        fetch (fun db => db.inventory.find? pk) (.serverError "DoesNotExist")) db₁ = (r, db') := by
  rcases bind_of_reads within_fetch h with rfl | ⟨item, hget, h⟩
  · exact Or.inl rfl
  rcases bind_of_reads within_checkInventory h with rfl | ⟨_, hcheck, h⟩
  · exact Or.inl rfl
  obtain ⟨hfind, -⟩ := fetch_eq_ok.mp hget
  obtain ⟨db₁, hrun, hsaved⟩ := run_saveItemColumns hfind (checkInventory_ok hcheck).2
  rw [run_bind_ok hrun] at h
  exact Or.inr ⟨item, db₁, hfind, hsaved, h⟩

theorem moved_inventoryUpdate {data : InventoryPayload} :
    Within (Moved Entry.Balanced)
      (DashboardMasterInventoryDetailAPIView.performUpdate ctx pk data) := by
  intro db r db' h
  rcases inventoryUpdate_cases h with rfl | ⟨item, db₁, hfind, hsaved, h⟩
  · exact Std.Refl.refl _
  obtain rfl : item.id = pk := Table.key_of_find? hfind
  have hrest : (∀ row, db₁.inventory.find? item.id = some row →
      row.warehouseProduct = item.warehouseProduct) → Moved Entry.Balanced db₁ db' :=
    fun hrow => rel_bind (fun _ _ => moved_adjustItem hrow) (fun _ => within_fetch) h
  rcases hsaved with rfl | ⟨new, hnew, hproduct, hquantity, rfl⟩
  · refine hrest fun row hfound => ?_
    rw [hfind, Option.some.injEq] at hfound
    rw [hfound]
  · refine trans_of (Moved Entry.Balanced) (moved_saveInventory hnew hproduct hquantity)
      (hrest fun row hfound => ?_)
    have hid : key new = item.id := (Table.key_of_find? hnew).symm
    rw [Table.find?_save hnew, if_pos hid, Option.some.injEq] at hfound
    rw [← hfound, hproduct]

theorem moved_inventoryDestroy :
    Within (Moved Entry.Balanced)
      (DashboardMasterInventoryDetailAPIView.performDestroy ctx pk) := by
  intro db r db' h
  rcases bind_of_reads within_fetch h with rfl | ⟨item, hget, h⟩
  · exact Std.Refl.refl _
  obtain ⟨hfind, -⟩ := fetch_eq_ok.mp hget
  exact rel_bind (fun _ _ => moved_returnInventory hfind) (fun _ => within_pure) h

theorem getMasterItem_ok {master item : Uuid} {row : MasterInventory}
    (h : getMasterItem master item db = (.ok row, db')) :
    db.inventory.find? item = some row ∧ db' = db := by
  obtain ⟨hfind, rfl⟩ := fetch_eq_ok.mp h
  exact ⟨(Option.filter_eq_some_iff.mp hfind).1, rfl⟩

theorem moved_adminUpdate {master item : Uuid} {q : { q : Int // 0 ≤ q }} :
    Within (Moved Entry.Balanced) (AdminUpdateInventoryView.put ctx master item q) := by
  intro db r db' h
  rcases bind_of_reads within_fetch h with rfl | ⟨row, hget, hput⟩
  · exact Std.Refl.refl _
  obtain ⟨hfind, -⟩ := getMasterItem_ok hget
  obtain rfl : row.id = item := Table.key_of_find? hfind
  refine moved_adjustInventory (fun row' hfound => ?_) hput
  rw [hfind, Option.some.injEq] at hfound
  rw [hfound]

theorem moved_adminDelete {master item : Uuid} :
    Within (Moved Entry.Balanced) (AdminUpdateInventoryView.delete ctx master item) := by
  intro db r db' h
  rcases bind_of_reads within_fetch h with rfl | ⟨row, hget, h⟩
  · exact Std.Refl.refl _
  obtain ⟨hfind, -⟩ := getMasterItem_ok hget
  exact rel_bind (fun _ _ => moved_returnInventory hfind) (fun _ => within_pure) h

end Inventory

section Orders

theorem moved_useInventory {user pk : Uuid} {data : UseInventoryPayload} :
    Within (Moved Entry.Balanced) (UseInventoryView.post ctx user pk data) := by
  refine within_atomic_of_ok fun db item db' h => ?_
  simp only [UseInventorySerializer.save, getOrder, saveInventory, createUsage, saveOrder,
    bind_eq_ok, fetch_eq_ok, require_eq_ok, modify_eq_ok, write_eq_ok, Option.map_eq_some_iff,
    get_eq_ok, pure_eq_ok] at h
  obtain ⟨row, _, ⟨hfind, rfl⟩, _, _, ⟨-, rfl⟩, order, _, ⟨-, rfl⟩, _, _, ⟨-, rfl⟩, _, _,
    ⟨_, _, ⟨hcovered, rfl⟩, _, _, rfl, rfl, rfl⟩, product, _, ⟨-, rfl⟩, _, _,
    ⟨usages, hins, rfl⟩, _, _, ⟨rfl, rfl⟩, _, _, rfl, rfl, rfl⟩ := h
  refine trans_of (Moved Entry.Balanced) (moved_uses hfind hcovered hins rfl rfl) ?_
  exact moved_of_tables rfl rfl rfl rfl

theorem moved_masterComplete {user pk : Uuid} {data : OrderCompletePayload} :
    Within (Moved Entry.Balanced) (MasterOrderCompleteView.post ctx user pk data) := by
  intro db r db' h
  cases r with
  | error e =>
      have hclean : Clean Eq (MasterOrderCompleteView.post ctx user pk data) :=
        .bind within_getMasterOrder fun _ => .bind within_completeValidate fun _ => clean_atomic
      rw [hclean db e db' h]
      exact Std.Refl.refl _
  | ok o' =>
      obtain ⟨o, inMemory, db₁, -, -, -, -, hitems, -, rfl⟩ := masterComplete_ok h
      refine trans_of (Moved Entry.Balanced) (moved_useItems hitems) ?_
      exact moved_of_tables rfl rfl rfl rfl

end Orders

/-- Every stock request but the two of which more has to be said. -/
theorem moved_stock {request : StockRequest} (hcreate : ∀ data, request ≠ .productCreate data)
    (hdestroy : ∀ pk, request ≠ .movementDestroy pk) :
    Within (Moved Entry.Balanced) (request.view ctx) := by
  cases request with
  | productCreate data => exact absurd rfl (hcreate data)
  | productUpdate pk data => exact .map moved_productUpdate
  | movementCreate data => exact .map moved_movementCreate
  | movementUpdate pk data => exact .map moved_movementUpdate
  | movementDestroy pk => exact absurd rfl (hdestroy pk)
  | inventoryCreate master product quantity =>
      exact .map (.bind within_fetch fun _ => .bind within_fetch fun _ =>
        moved_assignInventory quantity.2.le)
  | inventoryUpdate pk data => exact .map moved_inventoryUpdate
  | inventoryDestroy pk => exact .map moved_inventoryDestroy
  | adminAssign master data =>
      exact .map (.bind within_fetch fun _ => .bind within_fetch fun _ =>
        moved_assignInventory data.quantity.2.le)
  | adminUpdate master item quantity => exact .map moved_adminUpdate
  | adminDelete master item => exact .map moved_adminDelete

end Warehouse

end Homex
