import Homex.Warehouse.Requests
import Homex.Warehouse.Settling
import Mathlib.Tactic.Ring

/-!
# Exchanges of stock

The services settle a law of stock when what they exchange weighs the same: a
unit with a master as much as one on hand and its movement, and a correction of
the stock on hand nothing with its movement. A service locks what it moves, but
for the master's row of a return, which its view has loaded.
-/

namespace Homex

open Relational Concurrency Orders Profiles Wallet Warehouse

namespace Statements

variable {L : Law} {ctx : Context} {b b' b'' : Books RowKey StockRow Int} {pk : Uuid} {d e q : Int}

theorem moves_trans {k : RowKey} (h : Moves b b' k d) (h' : Moves b' b'' k e) :
    Moves b b'' k (d + e) where
  inTx := h'.inTx.trans h.inTx
  debt := by rw [h'.debt, h.debt, add_assoc]
  read k' hk := (h'.read k' hk).trans (h.read k' hk)
  held hin k' hk := (h'.held (h.inTx.trans hin) k' hk).trans (h.held hin k' hk)

/-- The row of a master is held once it is found, or created. -/
theorem weighs_getOrCreateInventory {master : Uuid} {product : WarehouseProduct}
    {Q : MasterInventory → Books RowKey StockRow Int → Prop} (hin : b.inTx = true)
    (hdrawn : L.owns (ctx.uuid .inventory) master product.id)
    (hheld : HoldsProduct L b product.id q)
    (hQ : ∀ item b', b'.inTx = true → b'.debt = b.debt → HoldsProduct L b' product.id q →
      HoldsItem b' item.id (L.unit master product.id) item.quantity → Q item b') :
    Weighs L (getOrCreateInventory ctx master product) Q b := by
  have hcreate : ∀ b₁ : Books RowKey StockRow Int, b₁.inTx = true → b₁.debt = b.debt →
      HoldsProduct L b₁ product.id q →
      Weighs L (createInventory (newInventory ctx master product) >>= fun _ =>
        pure (newInventory ctx master product)) Q b₁ := by
    intro b₁ hin₁ hdebt₁ hheld₁
    refine Program.settles_bind.mpr (weighs_createInventory hin₁ hdrawn fun b₂ h₂ hitem => ?_)
    refine hQ _ b₂ (h₂.inTx.trans hin₁) ?_ (hheld₁.of_moves hin₁ h₂ fun h => by cases h) hitem
    rw [h₂.debt, hdebt₁]
    change b.debt + L.unit master product.id * 0 = b.debt
    rw [mul_zero, add_zero]
  unfold getOrCreateInventory
  refine Program.settles_bind.mpr (settles_select.mpr ⟨Books.settled_of_inTx hin, ?_⟩)
  intro _ _ found? _
  cases found? with
  | none => exact hcreate b hin rfl hheld
  | some item =>
      refine Program.settles_lock.mpr ⟨Books.settled_of_inTx hin, fun s _ => ?_⟩
      refine ⟨fun hlocked => ?_, fun hlocked => ?_⟩
      · obtain ⟨row, hrow⟩ := Option.isSome_iff_exists.mp hlocked
        simp only [hrow]
        refine hQ row _ hin rfl (hheld.of_moves hin moves_lock fun h => by cases h) ?_
        obtain ⟨hfind, howner⟩ := Option.filter_eq_some_iff.mp hrow
        obtain ⟨hmaster, hproduct⟩ := of_decide_eq_true howner
        rw [show row.id = item.id from Table.key_of_find? hfind]
        refine ⟨usagesExist s item.id, (Books.held_hold_self b _ _).trans (congrArg some ?_)⟩
        change L.itemRow s item.id = _
        rw [Law.itemRow, hfind, Option.map_some, Law.weights, hmaster, hproduct]
      · have hnone : inventoryAt s item.id master product.id = none := by simpa using hlocked
        simp only [hnone]
        exact hcreate _ hin rfl (hheld.of_moves hin moves_note fun h => by cases h)

/-- What is handed to a master weighs as much as what leaves the warehouse. -/
theorem weighs_assignInventoryToMaster {master : Master} {quantity : Int} (hdebt : b.debt = 0)
    (hdrawn : L.owns (ctx.uuid .inventory) master.id pk)
    (hlaw : L.unit master.id pk = L.stock pk + L.journal pk) :
    Weighs L (assignInventoryToMaster ctx master pk quantity) (fun _ b' => b'.debt = 0) b := by
  unfold assignInventoryToMaster
  simp only [Weighs, Program.settles_atomic, Program.settles_bind, Program.settles_require]
  refine ⟨hdebt, weighs_lockProduct rfl fun product b₁ hid h₁ hheld₁ => ?_⟩
  subst hid
  have hin₁ : b₁.inTx = true := h₁.inTx.trans rfl
  refine ⟨fun _ => ?_, fun _ => Books.settled_of_inTx hin₁⟩
  refine weighs_getOrCreateInventory hin₁ hdrawn hheld₁ fun item b₂ hin₂ hdebt₂ hheld₂ hitem₂ => ?_
  refine weighs_saveInventoryQuantity hin₂ hitem₂ fun b₃ h₃ _ => ?_
  have hin₃ : b₃.inTx = true := h₃.inTx.trans hin₂
  have hheld₃ := hheld₂.of_moves hin₂ h₃ fun h => by cases h
  refine weighs_saveProductQuantity hin₃ hheld₃ fun b₄ h₄ _ => ?_
  refine weighs_createMovement (h₄.inTx.trans hin₃) fun b₅ h₅ => ?_
  refine ⟨Books.settled_of_inTx (h₅.inTx.trans (h₄.inTx.trans hin₃)), ?_⟩
  change b₅.debt = 0
  rw [h₅.debt, h₄.debt, h₃.debt, hdebt₂, h₁.debt, show b.start.debt = 0 from hdebt, hlaw]
  simp only [Law.weight, StockMovement.signed, MovementType.delta]
  ring

/-- What a master's row has given back to the product is owed. -/
theorem weighs_creditReturned {item : MasterInventory} {product : WarehouseProduct}
    {Q : Unit → Books RowKey StockRow Int → Prop} (hin : b.inTx = true)
    (hheld : HoldsProduct L b product.id product.quantity)
    (hloaded : LoadedItem b item.id (L.weights item).2)
    (hQ : ∀ b', b'.inTx = true →
      b'.debt = b.debt + (L.stock product.id + L.journal product.id) * item.quantity →
      LoadedItem b' item.id (L.weights item).2 → Q () b') :
    Weighs L (creditReturned ctx item product) Q b := by
  unfold creditReturned
  simp only [Weighs, Program.settles_ite, Program.settles_pure, Program.settles_bind]
  refine ⟨fun hzero => hQ b hin ?_ hloaded, fun _ => ?_⟩
  · rw [hzero, mul_zero, add_zero]
  · refine weighs_saveProductQuantity hin hheld fun b₁ h₁ _ => ?_
    have hin₁ : b₁.inTx = true := h₁.inTx.trans hin
    refine settles_select.mpr ⟨Books.settled_of_inTx hin₁, fun _ _ _ _ => ?_⟩
    refine weighs_createMovement hin₁ fun b₂ h₂ => ?_
    have hloaded₁ := hloaded.of_moves hin h₁ fun h => by cases h
    refine hQ b₂ (h₂.inTx.trans hin₁) ?_ (hloaded₁.of_moves hin₁ h₂ fun h => by cases h)
    rw [h₂.debt, h₁.debt]
    simp only [Law.weight, StockMovement.signed, MovementType.delta]
    ring

/-- A row that is emptied or deleted is owed as it was loaded. -/
theorem weighs_removeItem {item : MasterInventory} {Q : Unit → Books RowKey StockRow Int → Prop}
    (hin : b.inTx = true) (hloaded : LoadedItem b item.id (L.weights item).2)
    (hQ : ∀ b', b'.inTx = true → b'.debt = b.debt + -(L.weights item).2 → Q () b') :
    Weighs L (removeItem item) Q b := by
  unfold removeItem
  simp only [Weighs, Program.settles_bind, settles_select, Program.settles_ite]
  refine ⟨Books.settled_of_inTx hin, fun _ _ used _ => ⟨fun _ => ?_, fun _ => ?_⟩⟩
  · refine weighs_emptyInventory hin hloaded fun b₁ h₁ => ?_
    exact hQ b₁ (h₁.inTx.trans hin) h₁.debt
  · refine weighs_deleteInventory hin hloaded fun b₁ h₁ => ?_
    exact hQ b₁ (h₁.inTx.trans hin) h₁.debt

theorem weighs_returnInventoryToWarehouse {item : MasterInventory} (hdebt : b.debt = 0)
    (hloaded : LoadedItem b item.id (L.weights item).2)
    (hlaw : L.unit item.master item.warehouseProduct =
      L.stock item.warehouseProduct + L.journal item.warehouseProduct) :
    Weighs L (returnInventoryToWarehouse ctx item) (fun _ b' => b'.debt = 0) b := by
  unfold returnInventoryToWarehouse
  simp only [Weighs, Program.settles_atomic, Program.settles_bind, Program.settles_pure]
  refine ⟨hdebt, weighs_lockProduct rfl fun product b₁ hid h₁ hheld₁ => ?_⟩
  have hin₁ : b₁.inTx = true := h₁.inTx.trans rfl
  have hloaded₁ := hloaded.of_moves (b := b.start) rfl h₁ fun h => by cases h
  rw [← hid] at hheld₁
  refine weighs_creditReturned hin₁ hheld₁ hloaded₁ fun b₂ hin₂ hdebt₂ hloaded₂ => ?_
  refine weighs_removeItem hin₂ hloaded₂ fun b₃ hin₃ hdebt₃ => ?_
  refine ⟨Books.settled_of_inTx hin₃, ?_⟩
  change b₃.debt = 0
  rw [hdebt₃, hdebt₂, h₁.debt, show b.start.debt = 0 from hdebt, Law.weights, hlaw, hid]
  ring

/-- The two rows are moved by the same amount. -/
theorem weighs_adjustMasterInventory {item product : Uuid} {newQuantity : Int} (hdebt : b.debt = 0)
    (hlaw : ∀ m p, L.owns item m p → L.unit m p = L.stock product + L.journal product) :
    Weighs L (adjustMasterInventory ctx item product newQuantity) (fun _ b' => b'.debt = 0) b := by
  unfold adjustMasterInventory
  simp only [Weighs, Program.settles_atomic, Program.settles_bind, Program.settles_require]
  refine ⟨hdebt, fun _ => ?_, fun _ => Books.settled_of_inTx rfl⟩
  refine weighs_lockProduct rfl fun p b₁ hid h₁ hheld₁ => ?_
  subst hid
  have hin₁ : b₁.inTx = true := h₁.inTx.trans rfl
  refine weighs_lockItem hin₁ (fun _ _ h => h) fun row b₂ hid howns h₂ hitem₂ => ?_
  subst hid
  have hin₂ : b₂.inTx = true := h₂.inTx.trans hin₁
  have hdebt₂ : b₂.debt = 0 := by
    rw [h₂.debt, h₁.debt, show b.start.debt = 0 from hdebt]
    rfl
  simp only [Program.settles_ite, Program.settles_pure, Program.settles_bind,
    Program.settles_require]
  refine ⟨fun _ => ⟨Books.settled_of_inTx hin₂, hdebt₂⟩, fun _ => ⟨fun _ => ?_, fun _ =>
    Books.settled_of_inTx hin₂⟩⟩
  have hheld₂ := hheld₁.of_moves hin₁ h₂ fun h => by cases h
  refine weighs_saveProductQuantity hin₂ hheld₂ fun b₃ h₃ _ => ?_
  have hin₃ : b₃.inTx = true := h₃.inTx.trans hin₂
  have hitem₃ := hitem₂.of_moves hin₂ h₃ fun h => by cases h
  refine weighs_saveInventoryQuantity hin₃ hitem₃ fun b₄ h₄ _ => ?_
  have hin₄ : b₄.inTx = true := h₄.inTx.trans hin₃
  refine settles_select.mpr ⟨Books.settled_of_inTx hin₄, fun _ _ _ _ => ?_⟩
  refine weighs_createMovement hin₄ fun b₅ h₅ => ?_
  refine ⟨Books.settled_of_inTx (h₅.inTx.trans hin₄), ?_⟩
  change b₅.debt = 0
  rw [h₅.debt, h₄.debt, h₃.debt, hdebt₂, hlaw _ _ howns]
  change 0 + _ + _ + L.journal p.id * MovementType.delta _ _ = 0
  rw [delta_abs_neg]
  ring

/-! ### Transfers -/

section Transfers

variable {masters : Uuid → Prop} {master product : Uuid}

theorem weighs_adminAssign (hlaw : L.Exchanges masters) {data : AdminAssignPayload}
    (hon : TransferRequest.On masters L.owns ctx (.adminAssign master data)) :
    Weighs L (AdminMasterInventoryListView.post ctx master data) (fun _ b' => b'.debt = 0)
      Books.blank := by
  obtain ⟨hmaster, howns⟩ := hon
  unfold AdminMasterInventoryListView.post
  simp only [Weighs, Program.settles_bind, settles_select, Program.settles_fetch]
  refine ⟨Books.settled_blank, fun s _ m hm => ⟨Books.settled_blank, fun t _ p hp => ?_⟩⟩
  obtain rfl : m.id = master := Table.key_of_find? (Action.fetch_eq_ok.mp (Prod.ext hm rfl)).1
  rw [show p.id = data.warehouseProductId from
    Table.key_of_find? (Option.filter_eq_some_iff.mp hp).1]
  exact weighs_assignInventoryToMaster rfl howns (hlaw _ _ _ _ _ hmaster howns howns)

theorem weighs_inventoryCreate (hlaw : L.Exchanges masters) {quantity : Amount}
    (hon : TransferRequest.On masters L.owns ctx (.inventoryCreate master product quantity)) :
    Weighs L (DashboardMasterInventoryListCreateAPIView.create ctx master product quantity)
      (fun _ b' => b'.debt = 0) Books.blank := by
  obtain ⟨hmaster, howns⟩ := hon
  unfold DashboardMasterInventoryListCreateAPIView.create
  simp only [Weighs, Program.settles_bind, settles_select, Program.settles_fetch]
  refine ⟨Books.settled_blank, fun s _ m hm => ⟨Books.settled_blank, fun t _ p hp => ?_⟩⟩
  obtain rfl : m.id = master := Table.key_of_find? (Action.fetch_eq_ok.mp (Prod.ext hm rfl)).1
  obtain rfl : p.id = product := Table.key_of_find? (Option.filter_eq_some_iff.mp hp).1
  exact weighs_assignInventoryToMaster rfl howns (hlaw _ _ _ _ _ hmaster howns howns)

/-- The row that the view loads is one of the master's. -/
theorem weighs_getMasterItem {Q : MasterInventory → Books RowKey StockRow Int → Prop}
    (hQ : ∀ i b', i.id = pk → i.master = master → L.owns pk master i.warehouseProduct →
      b'.debt = 0 → LoadedItem b' pk (L.weights i).2 → Q i b') :
    Weighs L (getMasterItem master pk) Q Books.blank := by
  refine weighs_loadItem Books.settled_blank rfl
    (fun _ _ h => (Option.filter_eq_some_iff.mp h).1) fun s i b' hi hid howns h hloaded => ?_
  obtain rfl : i.master = master := of_decide_eq_true (Option.filter_eq_some_iff.mp hi).2
  exact hQ i b' hid rfl howns h.debt hloaded

theorem weighs_adminUpdate (hlaw : L.Exchanges masters) (hmaster : masters master)
    {quantity : { q : Int // 0 ≤ q }} :
    Weighs L (AdminUpdateInventoryView.put ctx master pk quantity) (fun _ b' => b'.debt = 0)
      Books.blank := by
  refine Program.settles_bind.mpr (weighs_getMasterItem fun i b hid _ howns hdebt _ => ?_)
  subst hid
  exact weighs_adjustMasterInventory hdebt fun m' p' => hlaw _ _ _ m' p' hmaster howns

theorem weighs_adminDelete (hlaw : L.Exchanges masters) (hmaster : masters master) :
    Weighs L (AdminUpdateInventoryView.delete ctx master pk) (fun _ b' => b'.debt = 0)
      Books.blank := by
  refine Program.settles_bind.mpr (weighs_getMasterItem fun i b hid hm howns hdebt hloaded => ?_)
  subst hid hm
  refine Program.settles_map.mpr (weighs_returnInventoryToWarehouse hdebt hloaded ?_)
  exact hlaw _ _ _ _ _ hmaster howns howns

theorem weighs_inventoryDestroy (hlaw : L.Exchanges masters)
    (hon : TransferRequest.On masters L.owns ctx (.inventoryDestroy pk)) :
    Weighs L (DashboardMasterInventoryDetailAPIView.performDestroy ctx pk)
      (fun _ b' => b'.debt = 0) Books.blank := by
  refine Program.settles_bind.mpr (weighs_loadItem Books.settled_blank rfl (fun _ _ h => h) ?_)
  intro s i b _ hid howns h hloaded
  subst hid
  refine Program.settles_map.mpr (weighs_returnInventoryToWarehouse h.debt hloaded ?_)
  exact hlaw _ _ _ _ _ (hon _ _ howns) howns howns

/-- The columns of the row that was loaded are saved as they were. -/
theorem weighs_saveItemColumns {item : MasterInventory} {data : Dashboard.InventoryPayload}
    {Q : Unit → Books RowKey StockRow Int → Prop} (hdebt : b.debt = 0)
    (hloaded : LoadedItem b item.id (L.weights item).2)
    (howns : L.owns item.id item.master item.warehouseProduct)
    (hunit : ∀ m p, L.owns item.id m p → L.unit m p = L.unit item.master item.warehouseProduct)
    (hmaster : data.master.getD item.master = item.master)
    (hproduct : data.warehouseProduct.getD item.warehouseProduct = item.warehouseProduct)
    (hQ : ∀ b', b'.debt = 0 → Q () b') :
    Weighs L (saveItemColumns item data) Q b := by
  unfold saveItemColumns
  refine Program.settles_ite.mpr ⟨fun _ => hQ b hdebt, fun _ => ?_⟩
  have hweights : L.weights (data.apply item) = L.weights item := by
    unfold Law.weights Dashboard.InventoryPayload.apply
    simp only [hmaster, hproduct]
  rw [← hmaster, ← hproduct] at howns hunit
  refine weighs_saveInventory (fun _ => hdebt) hloaded rfl hweights howns hunit fun b' h => ?_
  refine hQ b' ?_
  rw [h.debt, add_zero, hdebt]

theorem weighs_adjustItem {item : MasterInventory} {quantity : Option Int} (hdebt : b.debt = 0)
    (hlaw : ∀ m p, L.owns item.id m p →
      L.unit m p = L.stock item.warehouseProduct + L.journal item.warehouseProduct) :
    Weighs L (adjustItem ctx item quantity) (fun _ b' => b'.debt = 0) b := by
  cases quantity with
  | none => exact hdebt
  | some q =>
      refine Program.settles_ite.mpr ⟨fun _ => hdebt, fun _ => ?_⟩
      exact Program.settles_map.mpr (weighs_adjustMasterInventory hdebt hlaw)

theorem weighs_inventoryUpdate (hlaw : L.Exchanges masters) {data : Dashboard.InventoryPayload}
    (hon : TransferRequest.On masters L.owns ctx (.inventoryUpdate pk data)) :
    Weighs L (DashboardMasterInventoryDetailAPIView.performUpdate ctx pk data)
      (fun _ b' => b'.debt = 0) Books.blank := by
  refine Program.settles_bind.mpr (weighs_loadItem Books.settled_blank rfl (fun _ _ h => h) ?_)
  intro s i b _ hid howns h hloaded
  subst hid
  have hdebt : b.debt = 0 := h.debt
  simp only [Program.settles_bind, settles_select]
  refine ⟨fun _ => hdebt, fun t _ u hcheck => ?_⟩
  obtain ⟨hmaster, hproduct⟩ := checkInventory_ok (Prod.ext hcheck rfl)
  have hunit : ∀ m p, L.owns i.id m p → L.unit m p = L.unit i.master i.warehouseProduct := by
    intro m p hmp
    rw [hlaw _ i.master i.warehouseProduct m p (hon _ _ howns) howns hmp,
      hlaw _ _ _ _ _ (hon _ _ howns) howns howns]
  refine weighs_saveItemColumns hdebt hloaded howns hunit hmaster hproduct fun b₁ hdebt₁ => ?_
  refine (weighs_adjustItem hdebt₁ fun m' p' =>
    hlaw _ _ _ m' p' (hon _ _ howns) howns).mono fun _ b₂ hdebt₂ => ?_
  exact Program.settles_fetch.mpr ⟨fun _ => hdebt₂, fun _ _ _ _ => hdebt₂⟩

/-- A request that moves stock between the warehouse and a master settles. -/
theorem weighs_transferRequest (hlaw : L.Exchanges masters) {r : TransferRequest}
    (hon : r.On masters L.owns ctx) :
    Weighs L (r.statements ctx) (fun _ b' => b'.debt = 0) Books.blank := by
  cases r with
  | adminAssign master data => exact Program.settles_map.mpr (weighs_adminAssign hlaw hon)
  | adminUpdate master item quantity =>
      exact Program.settles_map.mpr (weighs_adminUpdate hlaw hon)
  | adminDelete master item => exact weighs_adminDelete hlaw hon
  | inventoryCreate master product quantity =>
      exact Program.settles_map.mpr (weighs_inventoryCreate hlaw hon)
  | inventoryUpdate pk data => exact Program.settles_map.mpr (weighs_inventoryUpdate hlaw hon)
  | inventoryDestroy pk => exact weighs_inventoryDestroy hlaw hon

end Transfers

end Statements

end Homex
