import Homex.Warehouse.Weights

/-!
# Statements that move stock

What each statement owes to a law of stock, and what its program then knows. A
row that is locked is known until the transaction ends; a row that was loaded
without a lock is known as it was read, when the statement that writes it finds
it so.
-/

namespace Homex

open Relational Concurrency Orders Warehouse

namespace Statements

variable {L : Law} {b b' : Books RowKey StockRow Int} {pk : Uuid} {d q q' : Int}

section Moves

variable {k : RowKey} {x y : StockRow}

theorem moves_note : Moves b (b.note k x) k 0 where
  inTx := rfl
  debt := (add_zero _).symm
  read _ hk := Function.update_of_ne hk _ _
  held _ _ _ := rfl

theorem moves_lock : Moves b ((b.hold k x).note k y) k 0 where
  inTx := rfl
  debt := (add_zero _).symm
  read _ hk := Function.update_of_ne hk _ _
  held _ _ hk := Function.update_of_ne hk _ _

theorem moves_wrote : Moves b (b.wrote k d (Function.update b.held k (some y))) k d where
  inTx := rfl
  debt := rfl
  read _ hk := Function.update_of_ne hk _ _
  held hin k' hk := by
    simp only [Books.wrote, if_pos hin]
    exact Function.update_of_ne hk _ _

theorem held_wrote (hin : b.inTx = true) :
    (b.wrote k d (Function.update b.held k (some y))).held k = some y := by
  simp only [Books.wrote, if_pos hin]
  exact Function.update_self ..

end Moves

/-- The product is held, with this quantity. -/
def HoldsProduct (L : Law) (b : Books RowKey StockRow Int) (pk : Uuid) (q : Int) : Prop :=
  b.held (.product pk) = some (.product (L.stock pk) (some q))

/-- The master's row is held, with this quantity of units of this weight. -/
def HoldsItem (b : Books RowKey StockRow Int) (pk : Uuid) (u q : Int) : Prop :=
  ∃ used, b.held (.inventory pk) = some (.item (some (u, u * q)) used)

/-- The master's row was loaded without a lock, and weighed `w`. -/
def LoadedItem (b : Books RowKey StockRow Int) (pk : Uuid) (w : Int) : Prop :=
  b.held (.inventory pk) = none ∧
    ∃ row used, b.read (.inventory pk) = some (.item row used) ∧ row.elim 0 Prod.snd = w

section Known

variable {k : RowKey} {u w : Int}

theorem HoldsProduct.of_moves (h : HoldsProduct L b pk q) (hin : b.inTx = true)
    (hm : Moves b b' k d) (hk : .product pk ≠ k) : HoldsProduct L b' pk q :=
  (hm.held hin _ hk).trans h

theorem HoldsItem.of_moves (h : HoldsItem b pk u q) (hin : b.inTx = true) (hm : Moves b b' k d)
    (hk : .inventory pk ≠ k) : HoldsItem b' pk u q := by
  obtain ⟨used, hheld⟩ := h
  exact ⟨used, (hm.held hin _ hk).trans hheld⟩

theorem LoadedItem.of_moves (h : LoadedItem b pk w) (hin : b.inTx = true) (hm : Moves b b' k d)
    (hk : .inventory pk ≠ k) : LoadedItem b' pk w := by
  obtain ⟨hheld, row, used, hread, hw⟩ := h
  exact ⟨(hm.held hin _ hk).trans hheld, row, used, (hm.read _ hk).trans hread, hw⟩

/-- A row that was loaded and is written as it was read weighs what it did. -/
theorem LoadedItem.weight {s : DB} (h : LoadedItem b pk w)
    (hfinds : L.account.Finds b (.inventory pk) s) :
    (s.inventory.find? pk).elim 0 (fun i => (L.weights i).2) = w := by
  obtain ⟨hheld, row, used, hread, rfl⟩ := h
  have hlike : row.elim 0 Prod.snd =
      ((s.inventory.find? pk).map L.weights).elim 0 Prod.snd := hfinds hheld _ hread
  rw [hlike]
  cases s.inventory.find? pk with
  | none => rfl
  | some i => rfl

/-- Rows that are observed alike weigh alike. -/
theorem weight_of_itemRow {s t : DB} (h : L.itemRow t pk = L.itemRow s pk) :
    (t.inventory.find? pk).elim 0 (fun i => (L.weights i).2) =
      (s.inventory.find? pk).elim 0 fun i => (L.weights i).2 := by
  have hrow := congrArg (fun row => row.elim 0 Prod.snd) (StockRow.item.inj h).1
  revert hrow
  cases t.inventory.find? pk <;> cases s.inventory.find? pk <;> exact id

theorem find?_of_itemRow {s : DB} {x : Int × Int} {used : Bool}
    (h : L.itemRow s pk = .item (some x) used) :
    (∃ i, s.inventory.find? pk = some i ∧ L.weights i = x) ∧ usagesExist s pk = used := by
  obtain ⟨hrow, hused⟩ := StockRow.item.inj h
  exact ⟨Option.map_eq_some_iff.mp hrow, hused⟩

end Known

/-- A write of the row `k` that may fail. -/
theorem weighs_create {k : RowKey} {f : DB → Option DB} {e : Error}
    {Q : Unit → Books RowKey StockRow Int → Prop} (hsettled : b.Settled)
    (hframe : ∀ t t', f t = some t' → ∀ k', k' ≠ k → L.account.obs t' k' = L.account.obs t k')
    (h : ∀ s s', L.account.Sees b s → L.account.Finds b k s → f s = some s' → ∃ d y,
      (∀ t, L.account.valid t → L.account.obs t k = L.account.obs s k → ∃ t', f t = some t' ∧
        L.account.valid t' ∧ L.total t' = L.total t + d ∧ L.account.obs t' k = y) ∧
      Q () (b.wrote k d (Function.update b.held k (some y)))) :
    Weighs L (Program.create k f e) Q b := by
  refine Program.settles_create.mpr ⟨hsettled, fun s s' hs hfinds hf => ?_⟩
  obtain ⟨d, y, hrow, hQ⟩ := h s s' hs hfinds hf
  exact ⟨d, _, .row_of_some hrow hframe, hQ⟩

/-- A write of the row `k`. -/
theorem weighs_write {k : RowKey} {f : DB → DB} {Q : Unit → Books RowKey StockRow Int → Prop}
    (hsettled : ¬L.account.closing k → b.Settled)
    (hframe : ∀ t k', k' ≠ k → L.account.obs (f t) k' = L.account.obs t k')
    (h : ∀ s, L.account.Sees b s → L.account.Finds b k s → ∃ d y,
      (∀ t, L.account.valid t → L.account.obs t k = L.account.obs s k →
        L.account.valid (f t) ∧ L.total (f t) = L.total t + d ∧ L.account.obs (f t) k = y) ∧
      Q () (b.wrote k d (Function.update b.held k (some y)))) :
    Weighs L (Program.write k f) Q b := by
  refine Program.settles_write.mpr ⟨hsettled, fun s hs hfinds => ?_⟩
  obtain ⟨d, y, hrow, hQ⟩ := h s hs hfinds
  refine ⟨d, _, .row ?_ ?_ ?_ hframe, hQ⟩
  · exact fun t ht hx => (hrow t ht hx).1
  · exact fun t ht hx => (hrow t ht hx).2.1
  · exact fun t ht hx => (hrow t ht hx).2.2

/-- A write that no law of stock depends on. -/
theorem weighs_unseen {k : RowKey} {f : DB → DB} {Q : Unit → Books RowKey StockRow Int → Prop}
    (hin : b.inTx = true) (hproducts : ∀ t, (f t).products = t.products)
    (hmovements : ∀ t, (f t).movements = t.movements)
    (hinventory : ∀ t, (f t).inventory = t.inventory) (husages : ∀ t, (f t).usages = t.usages)
    (hQ : ∀ b', b'.inTx = true → b'.debt = b.debt → Q () b') :
    Weighs L (Program.write k f) Q b := by
  refine Program.settles_write.mpr ⟨fun _ => Books.settled_of_inTx hin, fun s _ _ => ?_⟩
  refine ⟨0, _, .same ?_ ?_ ?_, hQ _ hin (add_zero _)⟩
  · intro t ht
    refine ⟨fun u hu => ?_, fun i hi => ?_⟩
    · rw [hinventory]
      exact ht.1 u (by rwa [husages] at hu)
    · exact ht.2 i (by rwa [hinventory] at hi)
  · intro t
    change L.total (f t) = L.total t
    unfold Law.total
    rw [hproducts, hmovements, hinventory, husages]
  · intro t
    funext k
    cases k with
    | product id =>
        change L.productRow (f t) id = L.productRow t id
        unfold Law.productRow
        rw [hproducts]
    | inventory id =>
        change L.itemRow (f t) id = L.itemRow t id
        unfold Law.itemRow usagesExist
        rw [hinventory, husages]
    | movement id =>
        change L.movementRow (f t) id = L.movementRow t id
        unfold Law.movementRow
        rw [hmovements]
    | usage id =>
        change StockRow.usage ((f t).usages.find? id).isSome = _
        rw [husages]
        rfl
    | _ => rfl

/-! ### Products -/

theorem weighs_lockProduct {Q : WarehouseProduct → Books RowKey StockRow Int → Prop}
    (hin : b.inTx = true)
    (hQ : ∀ product b', product.id = pk → Moves b b' (.product pk) 0 →
      HoldsProduct L b' pk product.quantity → Q product b') :
    Weighs L (lockProduct pk) Q b := by
  refine Program.settles_fetchForUpdate.mpr ⟨Books.settled_of_inTx hin, fun s _ product hfind => ?_⟩
  refine hQ product _ (Table.key_of_find? hfind) moves_lock ?_
  refine (Books.held_hold_self b _ _).trans (congrArg some ?_)
  change L.productRow s pk = _
  rw [Law.productRow, hfind, Option.map_some]

/-- What the account sees of the rows but one product. -/
theorem obs_of_products {t : DB} {products : Table WarehouseProduct} {k : RowKey}
    (hfind : ∀ id, .product id = k → products.find? id = t.products.find? id) :
    L.account.obs { t with products := products } k = L.account.obs t k := by
  cases k with
  | product id =>
      change StockRow.product _ (Option.map _ (products.find? id)) = _
      rw [hfind id rfl]
      rfl
  | _ => rfl

/-- A product that is held is saved. -/
theorem weighs_saveProductQuantity {Q : Unit → Books RowKey StockRow Int → Prop}
    (hin : b.inTx = true) (hheld : HoldsProduct L b pk q)
    (hQ : ∀ b', Moves b b' (.product pk) (L.stock pk * (q' - q)) → HoldsProduct L b' pk q' →
      Q () b') : Weighs L (saveProductQuantity pk q') Q b := by
  have hkey : ∀ row : WarehouseProduct, key { row with quantity := q' } = key row := fun _ => rfl
  refine weighs_create (Books.settled_of_inTx hin) ?_ fun s _ hs _ _ => ?_
  · intro t t' ht k' hk'
    obtain ⟨p, hfind, rfl⟩ := Option.map_eq_some_iff.mp ht
    refine obs_of_products fun id hid => ?_
    subst hid
    exact (Table.find?_update hkey id).trans (if_neg fun h => hk' (congrArg RowKey.product h))
  · have hrow : L.productRow s pk = .product (L.stock pk) (some q) := hs.agrees _ _ hheld
    refine ⟨L.stock pk * (q' - q), .product (L.stock pk) (some q'), fun t ht hx => ?_,
      hQ _ moves_wrote (held_wrote hin)⟩
    obtain ⟨p, hfind, hq⟩ := Option.map_eq_some_iff.mp (StockRow.product.inj (hx.trans hrow)).2
    obtain rfl : p.id = pk := Table.key_of_find? hfind
    have hsame : t.products.update p.id (fun row => { row with quantity := q' }) =
        t.products.upsert { p with quantity := q' } := by
      rw [Table.update_of_find? hfind]
      exact (Table.upsert_of_find? (r := { p with quantity := q' }) hfind).symm
    refine ⟨_, congrArg (Option.map _) hfind, ht, ?_, ?_⟩
    · rw [hsame]
      refine (L.total_saveProduct t _).trans (congrArg (L.total t + ·) ?_)
      change L.stock p.id * q' - (t.products.find? p.id).elim 0 _ = _
      rw [hfind, Option.elim_some, hq, mul_sub]
    · rw [hsame]
      refine congrArg (fun row => StockRow.product _ (Option.map _ row))
        ((Table.find?_upsert t.products { p with quantity := q' } p.id).trans (if_pos rfl))

/-- A product that was loaded is saved whole. -/
theorem weighs_saveProduct {product new : WarehouseProduct}
    {Q : Unit → Books RowKey StockRow Int → Prop} (hloads : L.loads) (hsettled : b.Settled)
    (hheld : b.held (.product product.id) = none)
    (hread : b.read (.product product.id) =
      some (.product (L.stock product.id) (some product.quantity)))
    (hid : new.id = product.id) (hquantity : new.quantity = product.quantity)
    (hQ : ∀ b', Moves b b' (.product product.id) 0 → Q () b') :
    Weighs L (saveProduct new) Q b := by
  rw [← hid] at hheld hread hQ
  refine weighs_write (fun _ => hsettled) ?_ fun s _ hfinds => ?_
  · intro t k' hk'
    refine obs_of_products fun id hid => ?_
    subst hid
    exact (Table.find?_upsert _ _ id).trans
      (if_neg fun h => hk' (congrArg RowKey.product (show id = new.id from h.symm)))
  · have hlike : L.stock new.id * product.quantity =
        L.stock new.id * ((s.products.find? new.id).map fun p => p.quantity).getD 0 :=
      hfinds hheld _ hread hloads
    refine ⟨0, .product (L.stock new.id) (some product.quantity), fun t ht hx => ?_,
      hQ _ moves_wrote⟩
    have hrow := (StockRow.product.inj hx).2
    refine ⟨ht, ?_, ?_⟩
    · refine (L.total_saveProduct t new).trans (congrArg (L.total t + ·) ?_)
      have hold : ((t.products.find? new.id).elim 0 fun p => L.stock p.id * p.quantity) =
          L.stock new.id * ((t.products.find? new.id).map fun p => p.quantity).getD 0 := by
        cases hfind : t.products.find? new.id with
        | none => exact (mul_zero _).symm
        | some p =>
            have hkey : p.id = new.id := Table.key_of_find? hfind
            rw [Option.elim_some, hkey]
            rfl
      rw [hold, hrow, ← hlike, hquantity, sub_self]
    · change StockRow.product _ (Option.map _ ((t.products.upsert new).find? new.id)) = _
      rw [Table.find?_upsert, if_pos (show key new = new.id from rfl), Option.map_some, hquantity]

/-! ### Rows of masters -/

/-- A master's row that is locked is held. -/
theorem weighs_lockItem {row : DB → Option MasterInventory} {e : Error}
    {Q : MasterInventory → Books RowKey StockRow Int → Prop} (hin : b.inTx = true)
    (hrow : ∀ s i, row s = some i → s.inventory.find? pk = some i)
    (hQ : ∀ i b', i.id = pk → L.owns pk i.master i.warehouseProduct →
      Moves b b' (.inventory pk) 0 →
      HoldsItem b' pk (L.unit i.master i.warehouseProduct) i.quantity → Q i b') :
    Weighs L (Program.fetchForUpdate (.inventory pk) row e) Q b := by
  refine Program.settles_fetchForUpdate.mpr ⟨Books.settled_of_inTx hin, fun s hs i hi => ?_⟩
  have hfind := hrow s i hi
  obtain rfl : i.id = pk := Table.key_of_find? hfind
  refine hQ i _ rfl (hs.valid.2 i (Table.mem_of_find? hfind)) moves_lock ⟨usagesExist s i.id, ?_⟩
  refine (Books.held_hold_self b _ _).trans (congrArg some ?_)
  change L.itemRow s i.id = _
  rw [Law.itemRow, hfind, Option.map_some, Law.weights]

/-- A master's row that is loaded without a lock. -/
theorem weighs_loadItem {row : DB → Option MasterInventory} {e : Error}
    {Q : MasterInventory → Books RowKey StockRow Int → Prop} (hsettled : b.Settled)
    (hheld : b.held (.inventory pk) = none)
    (hrow : ∀ s i, row s = some i → s.inventory.find? pk = some i)
    (hQ : ∀ s i b', row s = some i → i.id = pk → L.owns pk i.master i.warehouseProduct →
      Moves b b' (.inventory pk) 0 → LoadedItem b' pk (L.weights i).2 → Q i b') :
    Weighs L (Program.fetch (.inventory pk) row e) Q b := by
  refine Program.settles_fetch.mpr ⟨hsettled, fun s hs i hi => ?_⟩
  have hfind := hrow s i hi
  obtain rfl : i.id = pk := Table.key_of_find? hfind
  refine hQ s i _ hi rfl (hs.valid.2 i (Table.mem_of_find? hfind)) moves_note
    ⟨hheld, some (L.weights i), usagesExist s i.id, ?_, rfl⟩
  refine (Books.read_note_self b _ _).trans (congrArg some ?_)
  change L.itemRow s i.id = _
  rw [Law.itemRow, hfind, Option.map_some]

/-- What the account sees of the rows but one master's row. -/
theorem obs_of_inventory {t : DB} {inventory : Table MasterInventory} {k : RowKey}
    (hfind : ∀ id, .inventory id = k → inventory.find? id = t.inventory.find? id) :
    L.account.obs { t with inventory := inventory } k = L.account.obs t k := by
  cases k with
  | inventory id =>
      change StockRow.item (Option.map _ (inventory.find? id)) _ = _
      rw [hfind id rfl]
      rfl
  | _ => rfl

/-- A row of the masters is saved with the master and the product that it has. -/
theorem valid_upsertItem {t : DB} {new : MasterInventory} (ht : L.account.valid t)
    (howns : L.owns new.id new.master new.warehouseProduct) :
    L.account.valid { t with inventory := t.inventory.upsert new } := by
  refine ⟨fun u hu => ?_, Table.forall_upsert ht.2 howns⟩
  change ((t.inventory.upsert new).find? u.inventory).isSome
  rw [Table.find?_upsert]
  split
  · rfl
  · exact ht.1 u hu

theorem itemRow_upsertItem {t : DB} (new : MasterInventory) :
    L.itemRow { t with inventory := t.inventory.upsert new } new.id =
      .item (some (L.weights new)) (usagesExist t new.id) := by
  change StockRow.item (Option.map _ ((t.inventory.upsert new).find? new.id)) _ = _
  rw [Table.find?_upsert, if_pos (show key new = new.id from rfl), Option.map_some]
  rfl

/-- A quantity of a row that is found is set. -/
theorem saveQuantity_of_find? {t : DB} {i : MasterInventory}
    (hfind : t.inventory.find? i.id = some i) (hvalid : L.account.valid t) (q : Int) :
    t.inventory.update i.id (fun row => { row with quantity := q }) =
        t.inventory.upsert { i with quantity := q } ∧
      L.account.valid { t with inventory := t.inventory.upsert { i with quantity := q } } ∧
      L.total { t with inventory := t.inventory.upsert { i with quantity := q } } =
        L.total t + (L.unit i.master i.warehouseProduct * q - (L.weights i).2) := by
  refine ⟨?_, valid_upsertItem hvalid (hvalid.2 i (Table.mem_of_find? hfind)), ?_⟩
  · rw [Table.update_of_find? hfind]
    exact (Table.upsert_of_find? (r := { i with quantity := q }) hfind).symm
  · refine (Law.total_saveItem hvalid.1 fun j hj => ?_).trans (congrArg (L.total t + ·) ?_)
    · obtain rfl := Option.some.inj (hfind.symm.trans hj)
      rfl
    · change _ - (t.inventory.find? i.id).elim 0 _ = _
      rw [hfind]
      rfl

/-- What a save of a quantity leaves alone. -/
theorem obs_saveQuantity {t t' : DB} {q : Int}
    (ht : ((t.inventory.find? pk).map fun _ =>
      { t with inventory := t.inventory.update pk fun row => { row with quantity := q } }) =
        some t')
    (k' : RowKey) (hk' : k' ≠ .inventory pk) : L.account.obs t' k' = L.account.obs t k' := by
  obtain ⟨i, hfind, rfl⟩ := Option.map_eq_some_iff.mp ht
  refine obs_of_inventory fun id hid => ?_
  subst hid
  have hkey : ∀ row : MasterInventory, key { row with quantity := q } = key row := fun _ => rfl
  refine (Table.find?_update hkey id).trans (if_neg fun h => hk' ?_)
  exact congrArg RowKey.inventory h

/-- The quantity of a row that is held is saved. -/
theorem weighs_saveInventoryQuantity {u : Int} {Q : Unit → Books RowKey StockRow Int → Prop}
    (hin : b.inTx = true) (hheld : HoldsItem b pk u q)
    (hQ : ∀ b', Moves b b' (.inventory pk) (u * (q' - q)) → HoldsItem b' pk u q' → Q () b') :
    Weighs L (saveInventoryQuantity pk q') Q b := by
  obtain ⟨used, hheld⟩ := hheld
  refine weighs_create (Books.settled_of_inTx hin) (fun t t' => obs_saveQuantity) ?_
  intro s _ hs _ _
  have hrow : L.itemRow s pk = .item (some (u, u * q)) used := hs.agrees _ _ hheld
  refine ⟨u * (q' - q), .item (some (u, u * q')) used, fun t ht hx => ?_,
    hQ _ moves_wrote ⟨used, held_wrote hin⟩⟩
  obtain ⟨⟨i, hfind, hweights⟩, hused⟩ := find?_of_itemRow (hx.trans hrow)
  obtain rfl : i.id = pk := Table.key_of_find? hfind
  obtain ⟨hsame, hvalid, htotal⟩ := saveQuantity_of_find? hfind ht q'
  have hunit : L.unit i.master i.warehouseProduct = u := congrArg Prod.fst hweights
  refine ⟨_, congrArg (Option.map _) hfind, ?_⟩
  rw [hsame]
  refine ⟨hvalid, htotal.trans (congrArg (L.total t + ·) ?_), (itemRow_upsertItem _).trans ?_⟩
  · rw [hweights, hunit, mul_sub]
  · rw [← hunit, ← hused]
    rfl

/-- A row that was loaded is emptied. -/
theorem weighs_emptyInventory {w : Int} {Q : Unit → Books RowKey StockRow Int → Prop}
    (hin : b.inTx = true) (hloaded : LoadedItem b pk w)
    (hQ : ∀ b', Moves b b' (.inventory pk) (-w) → Q () b') :
    Weighs L (saveInventoryQuantity pk 0) Q b := by
  refine weighs_create (Books.settled_of_inTx hin) (fun t t' => obs_saveQuantity) ?_
  intro s s' _ hfinds hf
  obtain ⟨i, hfind, -⟩ := Option.map_eq_some_iff.mp hf
  have hw := hloaded.weight hfinds
  rw [hfind, Option.elim_some] at hw
  refine ⟨-w, .item (some (L.unit i.master i.warehouseProduct, 0)) (usagesExist s pk),
    fun t ht hx => ?_, hQ _ moves_wrote⟩
  have hrow : L.itemRow s pk = .item (some (L.weights i)) (usagesExist s pk) := by
    rw [Law.itemRow, hfind, Option.map_some]
  obtain ⟨⟨j, hfindj, hweights⟩, hused⟩ := find?_of_itemRow (hx.trans hrow)
  obtain rfl : j.id = pk := Table.key_of_find? hfindj
  obtain ⟨hsame, hvalid, htotal⟩ := saveQuantity_of_find? hfindj ht 0
  have hunit : L.unit j.master j.warehouseProduct = L.unit i.master i.warehouseProduct :=
    congrArg Prod.fst hweights
  refine ⟨_, congrArg (Option.map _) hfindj, ?_⟩
  rw [hsame]
  refine ⟨hvalid, htotal.trans (congrArg (L.total t + ·) ?_), (itemRow_upsertItem _).trans ?_⟩
  · rw [hweights, hw, mul_zero, zero_sub]
  · rw [← hunit, ← hused, Law.weights, mul_zero]

/-- A master's row that was loaded is saved whole. -/
theorem weighs_saveInventory {item new : MasterInventory}
    {Q : Unit → Books RowKey StockRow Int → Prop} (hsettled : b.Settled)
    (hloaded : LoadedItem b item.id (L.weights item).2) (hid : new.id = item.id)
    (hweights : L.weights new = L.weights item)
    (howns : L.owns item.id new.master new.warehouseProduct)
    (hunit : ∀ m p, L.owns item.id m p → L.unit m p = L.unit new.master new.warehouseProduct)
    (hQ : ∀ b', Moves b b' (.inventory item.id) 0 → Q () b') :
    Weighs L (saveInventory new) Q b := by
  rw [← hid] at hloaded howns hunit hQ
  refine weighs_write (fun _ => hsettled) ?_ fun s _ hfinds => ?_
  · intro t k' hk'
    refine obs_of_inventory fun id hid => ?_
    subst hid
    exact (Table.find?_upsert _ _ id).trans
      (if_neg fun h => hk' (congrArg RowKey.inventory (show id = new.id from h.symm)))
  · refine ⟨0, .item (some (L.weights new)) (usagesExist s new.id), fun t ht hx => ?_,
      hQ _ moves_wrote⟩
    refine ⟨valid_upsertItem ht howns, ?_, (itemRow_upsertItem new).trans ?_⟩
    · refine (Law.total_saveItem ht.1 fun i hfind => ?_).trans (congrArg (L.total t + ·) ?_)
      · have howner := ht.2 i (Table.mem_of_find? hfind)
        rw [show i.id = new.id from Table.key_of_find? hfind] at howner
        exact hunit _ _ howner
      · rw [weight_of_itemRow hx, hloaded.weight hfinds, hweights, sub_self]
    · rw [(StockRow.item.inj hx).2]

theorem weighs_createInventory {item : MasterInventory}
    {Q : Unit → Books RowKey StockRow Int → Prop} (hin : b.inTx = true)
    (howns : L.owns item.id item.master item.warehouseProduct)
    (hQ : ∀ b', Moves b b' (.inventory item.id) (L.weights item).2 →
      HoldsItem b' item.id (L.unit item.master item.warehouseProduct) item.quantity → Q () b') :
    Weighs L (createInventory item) Q b := by
  refine weighs_create (Books.settled_of_inTx hin) ?_ fun s _ hs _ hf => ?_
  · intro t t' ht k' hk'
    obtain ⟨inventory, hins, rfl⟩ := Option.map_eq_some_iff.mp ht
    refine obs_of_inventory fun id hid => ?_
    subst hid
    exact (Table.find?_insert? hins id).trans
      (if_neg fun h => hk' (congrArg RowKey.inventory (show id = item.id from h.symm)))
  · obtain ⟨_, hins, -⟩ := Option.map_eq_some_iff.mp hf
    have hrow : L.itemRow s item.id = .item none (usagesExist s item.id) := by
      rw [Law.itemRow,
        show s.inventory.find? item.id = none from (Table.insert?_eq_some_iff.mp hins).1]
      rfl
    refine ⟨_, .item (some (L.weights item)) (usagesExist s item.id), fun t ht hx => ?_,
      hQ _ moves_wrote ⟨_, held_wrote hin⟩⟩
    obtain ⟨hnone, hused⟩ := StockRow.item.inj (hx.trans hrow)
    have hins := Table.insert?_of_upsert (r := item) (Option.map_eq_none_iff.mp hnone)
    refine ⟨_, congrArg (Option.map _) hins, valid_upsertItem ht howns,
      Law.total_insertItem ht.1 hins, (itemRow_upsertItem item).trans ?_⟩
    rw [hused]

/-- A row that was loaded and that no order has used is deleted. -/
theorem weighs_deleteInventory {w : Int} {Q : Unit → Books RowKey StockRow Int → Prop}
    (hin : b.inTx = true) (hloaded : LoadedItem b pk w)
    (hQ : ∀ b', Moves b b' (.inventory pk) (-w) → Q () b') :
    Weighs L (deleteInventory pk) Q b := by
  refine weighs_create (Books.settled_of_inTx hin) ?_ fun s s' _ hfinds hf => ?_
  · intro t t' ht k' hk'
    split at ht
    · cases ht
    · cases ht
      refine obs_of_inventory fun id hid => ?_
      subst hid
      rw [Table.find?_delete, if_neg fun h => hk' (congrArg RowKey.inventory h.symm)]
  · have hunused : usagesExist s pk = false := by
      split at hf
      · cases hf
      · next hfalse => exact Bool.eq_false_iff.mpr hfalse
    refine ⟨-w, .item none false, fun t ht hx => ?_, hQ _ moves_wrote⟩
    have hused : usagesExist t pk = false := (StockRow.item.inj hx).2.trans hunused
    refine ⟨_, if_neg (by rw [hused]; simp), ⟨fun u hu => ?_, ?_⟩, ?_, ?_⟩
    · have hne : pk ≠ u.inventory := by
        rintro rfl
        rw [usagesExist, List.any_eq_false] at hused
        exact hused u hu (decide_eq_true rfl)
      change (Table.find? _ u.inventory).isSome
      rw [Table.find?_delete, if_neg hne]
      exact ht.1 u hu
    · exact Table.forall_delete ht.2 pk
    · refine (Law.total_deleteItem hused).trans (congrArg (fun x => L.total t + -x) ?_)
      exact (weight_of_itemRow hx).trans (hloaded.weight hfinds)
    · change StockRow.item (Option.map _ (Table.find? _ pk)) (usagesExist t pk) = _
      rw [Table.find?_delete, if_pos rfl, hused]
      rfl

/-! ### Movements and usages -/

/-- What the account sees of the rows but one movement. -/
theorem obs_of_movements {t : DB} {movements : Table StockMovement} {k : RowKey}
    (hfind : ∀ id, .movement id = k → movements.find? id = t.movements.find? id) :
    L.account.obs { t with movements := movements } k = L.account.obs t k := by
  cases k with
  | movement id =>
      change StockRow.movement (Option.map _ (movements.find? id)) = _
      rw [hfind id rfl]
      rfl
  | _ => rfl

theorem weighs_createMovement {movement : StockMovement}
    {Q : Unit → Books RowKey StockRow Int → Prop} (hin : b.inTx = true)
    (hQ : ∀ b', Moves b b' (.movement movement.id) (L.weight movement) → Q () b') :
    Weighs L (createMovement movement) Q b := by
  refine weighs_create (Books.settled_of_inTx hin) ?_ fun s _ _ _ hf => ?_
  · intro t t' ht k' hk'
    obtain ⟨movements, hins, rfl⟩ := Option.map_eq_some_iff.mp ht
    refine obs_of_movements fun id hid => ?_
    subst hid
    exact (Table.find?_insert? hins id).trans
      (if_neg fun h => hk' (congrArg RowKey.movement (show id = movement.id from h.symm)))
  · obtain ⟨_, hins, -⟩ := Option.map_eq_some_iff.mp hf
    have hrow : L.movementRow s movement.id = .movement none := by
      rw [Law.movementRow, show s.movements.find? movement.id = none from
        (Table.insert?_eq_some_iff.mp hins).1]
      rfl
    refine ⟨_, .movement (some (L.weight movement)), fun t ht hx => ?_, hQ _ moves_wrote⟩
    have hnone := Option.map_eq_none_iff.mp (StockRow.movement.inj (hx.trans hrow))
    obtain ⟨movements, hins⟩ := Table.exists_insert? (r := movement) hnone
    refine ⟨_, congrArg (Option.map _) hins, ht, L.total_insertMovement hins, ?_⟩
    exact congrArg (fun row => StockRow.movement (Option.map _ row))
      ((Table.find?_insert? hins movement.id).trans (if_pos rfl))

/-- A movement that was loaded is deleted. -/
theorem weighs_deleteMovement {movement : StockMovement}
    {Q : Unit → Books RowKey StockRow Int → Prop} (hloads : L.loads)
    (hheld : b.held (.movement pk) = none)
    (hread : b.read (.movement pk) = some (.movement (some (L.weight movement))))
    (hQ : ∀ b', Moves b b' (.movement pk) (-L.weight movement) → Q () b') :
    Weighs L (Program.write (.movement pk) fun db =>
      { db with movements := db.movements.delete pk }) Q b := by
  refine weighs_write (fun h => absurd ⟨hloads, pk, rfl⟩ h) ?_ fun s _ hfinds => ?_
  · intro t k' hk'
    refine obs_of_movements fun id hid => ?_
    subst hid
    exact (Table.find?_delete _ pk id).trans
      (if_neg fun h => hk' (congrArg RowKey.movement h.symm))
  · have hlike : L.weight movement = ((s.movements.find? pk).map L.weight).getD 0 :=
      hfinds hheld _ hread hloads
    refine ⟨_, .movement none, fun t ht hx => ⟨ht, ?_, ?_⟩, hQ _ moves_wrote⟩
    · refine (L.total_deleteMovement t pk).trans (congrArg (fun x => L.total t + -x) ?_)
      have hrow := congrArg (fun row => row.getD 0) (StockRow.movement.inj hx)
      rw [hlike, ← hrow]
      cases t.movements.find? pk with
      | none => rfl
      | some m => rfl
    · change StockRow.movement (Option.map _ ((t.movements.delete pk).find? pk)) = _
      rw [Table.find?_delete, if_pos rfl]
      rfl

/-- The store with one more usage. -/
theorem getD_createUsage {db : DB} {usage : OrderInventoryUsage}
    {usages : Table OrderInventoryUsage} (hins : db.usages.insert? usage = some usages) :
    (((db.usages.insert? usage).map fun usages => { db with usages := usages }).getD db) =
      { db with usages := usages } := by
  rw [hins]
  rfl

/-- A usage of a row that is held. -/
theorem weighs_createUsage {usage : OrderInventoryUsage} {u : Int}
    {Q : Unit → Books RowKey StockRow Int → Prop} (hin : b.inTx = true)
    (hheld : HoldsItem b usage.inventory u q)
    (hQ : ∀ b', b'.inTx = true → b'.debt = b.debt + u * usage.quantity → Q () b') :
    Weighs L (createUsage usage) Q b := by
  obtain ⟨used, hheld⟩ := hheld
  refine Program.settles_create.mpr ⟨Books.settled_of_inTx hin, fun s s' hs _ hf => ?_⟩
  obtain ⟨_, hins, -⟩ := Option.map_eq_some_iff.mp hf
  have hx : L.account.obs s (.usage usage.id) = .usage false := by
    change StockRow.usage (s.usages.find? usage.id).isSome = _
    rw [show s.usages.find? usage.id = none from (Table.insert?_eq_some_iff.mp hins).1]
    rfl
  rw [hx]
  refine ⟨u * usage.quantity,
    Function.update (Function.update b.held (.inventory usage.inventory)
      (some (.item (some (u, u * q)) true))) (.usage usage.id) (some (.usage true)),
    .pair hheld (fun h => by cases h) ?_ ?_, hQ _ hin rfl⟩
  · intro t ht hz hx
    obtain ⟨⟨i, hfind, hweights⟩, -⟩ := find?_of_itemRow hz
    have hunit : L.unit i.master i.warehouseProduct = u := congrArg Prod.fst hweights
    have hnone : t.usages.find? usage.id = none :=
      Option.isNone_iff_eq_none.mp (by simpa using StockRow.usage.inj hx)
    obtain ⟨usages, hins⟩ := Table.exists_insert? (r := usage) hnone
    rw [getD_createUsage hins]
    refine ⟨⟨fun u hu => ?_, ht.2⟩, ?_, ?_, ?_⟩
    · rcases (Table.mem_insert? hins).mp hu with hu | rfl
      · exact ht.1 u hu
      · exact Option.isSome_iff_exists.mpr ⟨i, hfind⟩
    · change L.total { t with usages := usages } = _
      rw [L.total_insertUsage hins, Law.unitOf, hfind, Option.elim_some, hunit]
      rfl
    · change StockRow.item (Option.map _ (t.inventory.find? usage.inventory))
        (usagesExist { t with usages := usages } usage.inventory) = _
      rw [hfind, Option.map_some, hweights]
      refine congrArg (StockRow.item _) (List.any_eq_true.mpr ⟨usage, ?_, decide_eq_true rfl⟩)
      exact (Table.mem_insert? hins).mpr (Or.inr rfl)
    · exact congrArg (fun row => StockRow.usage row.isSome)
        ((Table.find?_insert? hins usage.id).trans (if_pos rfl))
  · intro t k' hk' hk''
    cases hins : t.usages.insert? usage with
    | none => rfl
    | some usages =>
        cases k' with
        | usage id =>
            have hne : key usage ≠ id := fun h => hk'' (congrArg RowKey.usage h.symm)
            change StockRow.usage (usages.find? id).isSome = _
            rw [Table.find?_insert? hins, if_neg hne]
            rfl
        | inventory id =>
            have hne : ¬usage.inventory = id := fun h => hk' (congrArg RowKey.inventory h.symm)
            refine congrArg (StockRow.item _) ?_
            change usages.rows.any _ = t.usages.rows.any _
            rw [(Table.insert?_eq_some_iff.mp hins).2, List.any_append]
            simp [hne]
        | _ => rfl

end Statements

end Homex
