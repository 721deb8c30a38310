import Homex.Warehouse.Stock

/-!
# What the stock services post

Each service, run through, posts one entry: stock that enters or leaves the
warehouse is journaled, and stock that goes to a master or comes back is
journaled on the warehouse side. None of them makes a quantity negative.
-/

namespace Homex

namespace Warehouse

open Relational Action Code Orders Profiles

/-- Entries that meet the condition, and no quantity made negative. -/
def Moved (P : Entry → Prop) (db db' : DB) : Prop :=
  Posting P db db' ∧ (db.Nonnegative → db'.Nonnegative)

/-- Both laws are kept. -/
def Entry.Balanced (e : Entry) : Prop := e.Journaled ∧ e.Conserves

theorem balanced_transfer (q : Int) :
    Entry.Balanced { onHand := -q, net := -q, held := q } := by
  simp [Entry.Balanced, Entry.Journaled, Entry.Conserves]

theorem balanced_external (q : Int) :
    Entry.Balanced { onHand := q, net := q, external := q } := by
  simp [Entry.Balanced, Entry.Journaled, Entry.Conserves]

section Moved

variable {P : Entry → Prop} {db db' : DB} {product : Uuid} {e : Entry}

instance : Std.Refl (Moved P) := ⟨fun _ => ⟨.refl, id⟩⟩

instance : IsTrans DB (Moved P) := ⟨fun _ _ _ h h' => ⟨h.1.trans h'.1, h'.2 ∘ h.2⟩⟩

theorem Moved.single (h : Posts db db' product e) (he : P e)
    (hn : db.Nonnegative → db'.Nonnegative) : Moved P db db' :=
  ⟨.single h he, hn⟩

theorem Moved.mono {Q : Entry → Prop} (hPQ : ∀ e, P e → Q e) (h : Moved P db db') :
    Moved Q db db' :=
  ⟨Relation.ReflTransGen.mono
    (fun _ _ ⟨product, e, hposts, he⟩ => ⟨product, e, hposts, hPQ e he⟩) _ _ h.1, h.2⟩

/-- An action in a transaction that ends well within a relation. -/
theorem within_atomic_of_ok {R : DB → DB → Prop} [Std.Refl R] {α : Type} {x : Code α}
    (h : ∀ db a db', x db = (.ok a, db') → R db db') : Within R (atomic x) := by
  intro db r db' hx
  cases r with
  | error e =>
      rw [atomic_error hx]
      exact Std.Refl.refl db
  | ok a => exact h db a db' (atomic_eq_ok.mp hx)

end Moved

/-- The stock that the masters hold of the product moves by `q`; the rows that
orders have used stay. -/
structure Restocks (db db' : DB) (product : Uuid) (q : Int) : Prop where
  shift : Table.Shift (fun i => i.warehouseProduct) (fun i => i.quantity) db.inventory
    db'.inventory product q
  productOf : ∀ u ∈ db.usages.rows, (db.inventory.find? u.inventory).isSome →
    db'.productOf u.inventory = db.productOf u.inventory

section Restocks

variable {db db' : DB} {row : MasterInventory} {product : Uuid} {q : Int}

theorem restocks_save {pk : Uuid} (hfind : db.inventory.find? pk = some row)
    (hproduct : row.warehouseProduct = product)
    (h : db'.inventory = db.inventory.save { row with quantity := row.quantity + q }) :
    Restocks db db' product q where
  shift := by
    obtain rfl : row.id = pk := Table.key_of_find? hfind
    have hshift := Table.shift_save (fun i : MasterInventory => i.warehouseProduct)
      (fun i => i.quantity) { row with quantity := row.quantity + q } hfind rfl
    rw [add_sub_cancel_left] at hshift
    rw [h]
    exact hproduct ▸ hshift
  productOf _ _ _ := by
    obtain rfl : row.id = pk := Table.key_of_find? hfind
    exact productOf_of_save { row with quantity := row.quantity + q } hfind rfl h _

theorem restocks_insert (h : db.inventory.insert? row = some db'.inventory)
    (hproduct : row.warehouseProduct = product) (hq : row.quantity = q) :
    Restocks db db' product q where
  shift := hq ▸ .insert h hproduct
  productOf _ _ hsome := productOf_of_insert h hsome

theorem restocks_delete {pk : Uuid} (hfind : db.inventory.find? pk = some row)
    (hproduct : row.warehouseProduct = product) (hunused : usagesExist db pk = false)
    (h : db'.inventory = db.inventory.delete pk) : Restocks db db' product (-row.quantity) where
  shift := by
    obtain rfl : row.id = pk := Table.key_of_find? hfind
    exact .delete hfind hproduct h
  productOf _ hu _ := productOf_of_delete hunused h hu

end Restocks

section Parts

variable {db db' : DB} {product : WarehouseProduct} {m : StockMovement} {delta : Int}

/-- The quantity of a product moved by `delta`. -/
theorem shift_products {pk : Uuid} (hfind : db.products.find? pk = some product)
    (h : db'.products = db.products.save { product with quantity := product.quantity + delta }) :
    Table.Shift key (fun p => p.quantity) db.products db'.products product.id delta := by
  obtain rfl : product.id = pk := Table.key_of_find? hfind
  have hshift := Table.shift_save key (fun p : WarehouseProduct => p.quantity)
    { product with quantity := product.quantity + delta } hfind rfl
  rw [add_sub_cancel_left] at hshift
  rwa [h]

theorem shift_movements {f : StockMovement → Int} {pk : Uuid}
    (h : db.movements.insert? m = some db'.movements) (hm : m.product = pk) :
    Table.Shift (fun m => m.product) f db.movements db'.movements pk (f m) :=
  .insert h hm

/-- Stock that enters or leaves the warehouse from outside. -/
theorem posts_external {pk : Uuid} (hfind : db.products.find? pk = some product)
    (hproducts : db'.products =
      db.products.save { product with quantity := product.quantity + delta })
    (hmovements : db.movements.insert? m = some db'.movements) (hm : m.product = product.id)
    (hsigned : m.signed = delta) (horigin : m.origin ≠ .transfer)
    (hinventory : db'.inventory = db.inventory) (husages : db'.usages = db.usages) :
    Posts db db' product.id { onHand := delta, net := delta, external := delta } where
  products := shift_products hfind hproducts
  net := hsigned ▸ shift_movements hmovements hm
  external := by
    have hshift := shift_movements (f := StockMovement.external) hmovements hm
    rwa [StockMovement.external, if_neg horigin, hsigned] at hshift
  held := .same hinventory
  used := used_of_productOf husages fun _ _ _ => productOf_of_inventory hinventory _

/-- Stock that goes from the warehouse to a master; negative when it comes back. -/
theorem posts_transfer {pk : Uuid} {q : Int} (hfind : db.products.find? pk = some product)
    (hproducts : db'.products = db.products.save { product with quantity := product.quantity - q })
    (hmovements : db.movements.insert? m = some db'.movements) (hm : m.product = product.id)
    (hsigned : m.signed = -q) (horigin : m.origin = .transfer)
    (hinventory : Restocks db db' product.id q) (husages : db'.usages = db.usages) :
    Posts db db' product.id { onHand := -q, net := -q, held := q } where
  products := shift_products hfind hproducts
  net := hsigned ▸ shift_movements hmovements hm
  external := by
    have hshift := shift_movements (f := StockMovement.external) hmovements hm
    rwa [StockMovement.external, if_pos horigin] at hshift
  held := hinventory.shift
  used := used_of_productOf husages hinventory.productOf

/-- Stock of a master that changes without the warehouse. -/
theorem posts_restock {pk : Uuid} {q : Int} (hproducts : db'.products = db.products)
    (hmovements : db'.movements = db.movements) (hinventory : Restocks db db' pk q)
    (husages : db'.usages = db.usages) : Posts db db' pk { held := q } where
  products := .same hproducts
  net := .same hmovements
  external := .same hmovements
  held := hinventory.shift
  used := used_of_productOf husages hinventory.productOf

end Parts

section Warehouse

variable {ctx : Context} {db db' : DB} {pk : Uuid} {delta : Int}

/-- The quantity of the product is set to one that is not negative. -/
structure MovesProduct (db db' : DB) (pk : Uuid) (delta : Int) (product : WarehouseProduct) :
    Prop where
  found : db.products.find? pk = some product
  nonneg : 0 ≤ product.quantity + delta
  moved : db' =
    { db with products := db.products.save { product with quantity := product.quantity + delta } }

theorem moveProductQuantity_ok {p : WarehouseProduct}
    (h : moveProductQuantity pk delta db = (.ok p, db')) :
    ∃ product, MovesProduct db db' pk delta product ∧ p.id = product.id := by
  simp only [moveProductQuantity, lockProduct, saveProduct, bind_eq_ok, fetch_eq_ok,
    require_eq_ok, modify_eq_ok, pure_eq_ok] at h
  obtain ⟨product, _, ⟨hfind, rfl⟩, _, _, ⟨hnonneg, rfl⟩, _, _, rfl, rfl, rfl⟩ := h
  exact ⟨product, ⟨hfind, hnonneg, rfl⟩, rfl⟩

theorem delta_abs (d : Int) : MovementType.delta (if 0 ≤ d then .in else .out) |d| = d := by
  by_cases hd : 0 ≤ d
  · rw [if_pos hd, MovementType.delta, abs_of_nonneg hd]
  · rw [if_neg hd, MovementType.delta, abs_of_neg (not_le.mp hd), neg_neg]

theorem delta_abs_neg (d : Int) : MovementType.delta (if 0 < d then .out else .in) |d| = -d := by
  by_cases hd : 0 < d
  · rw [if_pos hd, MovementType.delta, abs_of_pos hd]
  · rw [if_neg hd, MovementType.delta, abs_of_nonpos (not_lt.mp hd)]

/-- A correction of the quantity is journaled from outside. -/
theorem moved_adjustWarehouseStock {note : String} :
    Within (Moved Entry.Balanced) (adjustWarehouseStock ctx pk delta note) := by
  refine within_atomic_of_ok fun db movement db' h => ?_
  simp only [createMovement, bind_eq_ok, write_eq_ok, Option.map_eq_some_iff, pure_eq_ok] at h
  obtain ⟨p, db₁, hmove, _, _, ⟨movements, hins, rfl⟩, rfl, rfl⟩ := h
  obtain ⟨product, ⟨hfind, hnonneg, rfl⟩, hid⟩ := moveProductQuantity_ok hmove
  exact .single (posts_external hfind rfl hins hid (delta_abs delta) (by simp) rfl rfl)
    (balanced_external delta) fun hn => ⟨Table.forall_save hn.products hnonneg, hn.inventory⟩

end Warehouse

section Transfers

variable {ctx : Context} {db db' : DB}

/-- The row of the master and the product after an assignment: topped up, or new. -/
theorem getOrCreateInventory_ok {master : Uuid} {product : WarehouseProduct}
    {item : MasterInventory} (h : getOrCreateInventory ctx master product db = (.ok item, db')) :
    item.warehouseProduct = product.id ∧
      (db' = db ∧ db.inventory.find? item.id = some item ∨
        item.quantity = 0 ∧ ∃ inventory, db.inventory.insert? item = some inventory ∧
          db' = { db with inventory := inventory }) := by
  unfold getOrCreateInventory at h
  rw [bind_eq_ok] at h
  obtain ⟨s, s', hget, h⟩ := h
  obtain ⟨hs, hs'⟩ := get_eq_ok.mp hget
  subst hs hs'
  cases hof : inventoryOf db master product.id with
  | some row =>
      simp only [hof, pure_eq_ok] at h
      obtain ⟨rfl, rfl⟩ := h
      have hrow := List.find?_some hof
      have hmem := List.mem_of_find?_eq_some hof
      simp only [decide_eq_true_eq] at hrow
      exact ⟨hrow.2, Or.inl ⟨rfl, Table.find?_of_mem hmem⟩⟩
  | none =>
      simp only [hof, createInventory, bind_eq_ok, write_eq_ok, Option.map_eq_some_iff,
        pure_eq_ok] at h
      obtain ⟨_, _, ⟨inventory, hins, rfl⟩, rfl, rfl⟩ := h
      exact ⟨rfl, Or.inr ⟨rfl, inventory, hins, rfl⟩⟩

/-- Stock handed to a master. -/
theorem moved_assignInventory {master : Master} {pk : Uuid} {q : Int} (hq : 0 ≤ q) :
    Within (Moved Entry.Balanced) (assignInventoryToMaster ctx master pk q) := by
  refine within_atomic_of_ok fun db row db' h => ?_
  simp only [lockProduct, saveInventory, saveProduct, createMovement, bind_eq_ok, fetch_eq_ok,
    require_eq_ok, modify_eq_ok, write_eq_ok, Option.map_eq_some_iff, pure_eq_ok] at h
  obtain ⟨product, _, ⟨hfind, rfl⟩, _, _, ⟨hcovered, rfl⟩, item, db₁, hitem, _, _, rfl, _, _, rfl,
    _, _, ⟨movements, hins, rfl⟩, rfl, rfl⟩ := h
  have hproducts : db.Nonnegative → ∀ p ∈
      (db.products.save { product with quantity := product.quantity - q }).rows, 0 ≤ p.quantity :=
    fun hn => Table.forall_save hn.products (sub_nonneg.mpr hcovered)
  obtain ⟨hof, ⟨rfl, hfound⟩ | ⟨hzero, inventory, hnew, rfl⟩⟩ := getOrCreateInventory_ok hitem
  · refine .single (posts_transfer hfind rfl hins rfl rfl rfl (restocks_save hfound hof rfl) rfl)
      (balanced_transfer q) fun hn => ⟨hproducts hn, ?_⟩
    exact Table.forall_save hn.inventory (add_nonneg (hn.item hfound) hq)
  · have hadded : db.inventory.insert? { item with quantity := item.quantity + q } =
        some (inventory.save { item with quantity := item.quantity + q }) :=
      Table.insert?_save hnew rfl
    have hq' : item.quantity + q = q := by rw [hzero, zero_add]
    refine .single (posts_transfer hfind rfl hins rfl rfl rfl (restocks_insert hadded hof hq') rfl)
      (balanced_transfer q) fun hn => ⟨hproducts hn, ?_⟩
    exact Table.forall_insert? hn.inventory hadded (hq'.symm ▸ hq)

/-- Adjusting a row hands out or takes back the difference. -/
theorem moved_adjustInventory {item pk : Uuid} {q : Int} {r : Except Error MasterInventory}
    (hrow : ∀ row, db.inventory.find? item = some row → row.warehouseProduct = pk)
    (h : adjustMasterInventory ctx item pk q db = (r, db')) : Moved Entry.Balanced db db' := by
  cases r with
  | error e =>
      rw [atomic_error h]
      exact Std.Refl.refl db
  | ok adjusted =>
      simp only [adjustMasterInventory, lockProduct, masterOf, saveInventory, saveProduct,
        createMovement, atomic_eq_ok, bind_eq_ok, fetch_eq_ok, require_eq_ok, ite_eq_ok,
        modify_eq_ok, write_eq_ok, Option.map_eq_some_iff, pure_eq_ok] at h
      obtain ⟨_, _, ⟨hnonneg, rfl⟩, product, _, ⟨hfind, rfl⟩, row, _, ⟨hfound, rfl⟩,
        ⟨-, rfl, rfl⟩ | ⟨-, _, _, ⟨hcovered, rfl⟩, _, _, rfl, _, _, rfl, master, _, ⟨-, rfl⟩, _, _,
          ⟨movements, hins, rfl⟩, rfl, rfl⟩⟩ := h
      · exact Std.Refl.refl db
      · have hof : row.warehouseProduct = product.id :=
          (hrow row hfound).trans (Table.key_of_find? hfind).symm
        have hquantity : row.quantity + (q - row.quantity) = q := by rw [add_sub_cancel]
        refine .single (posts_transfer hfind rfl hins rfl (delta_abs_neg _) rfl
          (restocks_save hfound hof (by rw [hquantity])) rfl) (balanced_transfer _)
          fun hn => ⟨Table.forall_save hn.products ?_, Table.forall_save hn.inventory hnonneg⟩
        have hstock := hn.product hfind
        change 0 ≤ product.quantity - (q - row.quantity)
        omega

/-- The row that is returned is zeroed or deleted. -/
theorem removeItem_ok {item : MasterInventory} {pk : Uuid} {u : Unit}
    (h : removeItem item db = (.ok u, db')) (hfound : db.inventory.find? pk = some item) :
    ∃ inventory, db' = { db with inventory := inventory } ∧
      Restocks db db' item.warehouseProduct (-item.quantity) ∧
      (db.Nonnegative → ∀ i ∈ inventory.rows, 0 ≤ i.quantity) := by
  obtain rfl : item.id = pk := Table.key_of_find? hfound
  simp only [removeItem, saveInventory, deleteInventory, bind_eq_ok, get_eq_ok, ite_eq_ok,
    modify_eq_ok] at h
  obtain ⟨_, _, ⟨rfl, rfl⟩, ⟨-, rfl⟩ | ⟨hunused, rfl⟩⟩ := h
  · refine ⟨_, rfl, restocks_save hfound rfl (by rw [add_neg_cancel]), fun hn => ?_⟩
    exact Table.forall_save hn.inventory le_rfl
  · refine ⟨_, rfl, restocks_delete hfound rfl (Bool.eq_false_iff.mpr hunused) rfl, fun hn => ?_⟩
    exact Table.forall_delete hn.inventory item.id

/-- Returning a row takes back what the master has of it. -/
theorem moved_returnInventory {item : MasterInventory} {pk : Uuid} {r : Except Error Int}
    (hfound : db.inventory.find? pk = some item)
    (h : returnInventoryToWarehouse ctx item db = (r, db')) : Moved Entry.Balanced db db' := by
  cases r with
  | error e =>
      rw [atomic_error h]
      exact Std.Refl.refl db
  | ok returned =>
      simp only [returnInventoryToWarehouse, lockProduct, creditReturned, masterOf, saveProduct,
        createMovement, atomic_eq_ok, bind_eq_ok, fetch_eq_ok, ite_eq_ok, modify_eq_ok,
        write_eq_ok, Option.map_eq_some_iff, pure_eq_ok] at h
      obtain ⟨product, _, ⟨hfind, rfl⟩, _, db₁, hcredit, _, db₂, hremove, rfl, rfl⟩ := h
      have hid : product.id = item.warehouseProduct := Table.key_of_find? hfind
      rcases hcredit with ⟨hzero, -, rfl⟩ | ⟨-, _, _, rfl, _, _, ⟨-, rfl⟩, movements, hins, rfl⟩
      · obtain ⟨inventory, rfl, hrestocks, hnonneg⟩ := removeItem_ok hremove hfound
        refine .single (posts_restock rfl rfl hrestocks rfl) ?_
          fun hn => ⟨hn.products, hnonneg hn⟩
        simp [Entry.Balanced, Entry.Journaled, Entry.Conserves, hzero]
      · obtain ⟨inventory, rfl, hrestocks, hnonneg⟩ := removeItem_ok hremove hfound
        have hsigned : item.quantity = - -item.quantity := (neg_neg _).symm
        refine .single (posts_transfer hfind (by rw [sub_neg_eq_add]) hins rfl hsigned rfl
          (hid ▸ ⟨hrestocks.shift, hrestocks.productOf⟩) rfl) (balanced_transfer _) fun hn => ?_
        have hproducts : ∀ p ∈ (db.products.save
            { product with quantity := product.quantity + item.quantity }).rows, 0 ≤ p.quantity :=
          Table.forall_save hn.products (add_nonneg (hn.product hfind) (hn.item hfound))
        exact ⟨hproducts, hnonneg ⟨hproducts, hn.inventory⟩⟩

end Transfers

end Warehouse

end Homex
