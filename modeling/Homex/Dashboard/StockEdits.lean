import Homex.Dashboard.Warehouse
import Homex.Relational.Stamped
import Homex.System.Runs
import Homex.Warehouse.Requests

/-!
# Rejected stock edits

A PATCH of a product, or of a master's row, saves the named columns and then has
the stock service move the quantity. The service is a transaction, the two
together are not: when it refuses the new quantity, the request is answered with
a validation error and the columns stay saved, `updated_at` among them.
-/

namespace Homex

open Relational Action Code Orders Warehouse

/-- The errors that are answered as a 400. -/
def Error.IsValidation : Error → Prop
  | .validation _ _ => True
  | .invalidPk _ _ => True
  | .notFound _ => False
  | .serverError _ => False
  | .payme _ _ => False

namespace Dashboard

/-- The `updated_at` of the products and of the masters' rows. -/
@[ext]
structure Stamps where
  product : Uuid → Int
  item : Uuid → Int

namespace Stamps

def touchProduct (now : Int) (pk : Uuid) (stamps : Stamps) : Stamps :=
  { stamps with product := Function.update stamps.product pk now }

def touchItem (now : Int) (pk : Uuid) (stamps : Stamps) : Stamps :=
  { stamps with item := Function.update stamps.item pk now }

variable {stamps : Stamps} {now : Int} {pk : Uuid}

theorem touchProduct_eq_self : stamps.touchProduct now pk = stamps ↔ stamps.product pk = now := by
  simp [touchProduct, Stamps.ext_iff, eq_comm]

theorem touchItem_eq_self : stamps.touchItem now pk = stamps ↔ stamps.item pk = now := by
  simp [touchItem, Stamps.ext_iff, eq_comm]

end Stamps

namespace DashboardWarehouseProductDetailAPIView

/-- `updated_at` of the product when the columns are saved. -/
def columnsStamp (ctx : Context) (pk : Uuid) (data : ProductPayload) : Stamps → Stamps :=
  if data = {} then id else Stamps.touchProduct ctx.now pk

/-- `updated_at` of the product when the quantity is moved. -/
def quantityStamp (ctx : Context) (product : WarehouseProduct) (newQuantity : Option Int) :
    Stamps → Stamps :=
  if newQuantity.getD product.quantity = product.quantity then id
  else Stamps.touchProduct ctx.now product.id

/-- `perform_update`, with the column `updated_at`. -/
def patch (ctx : Context) (pk : Uuid) (data : ProductPayload) :
    Action (DB × Stamps) Error WarehouseProduct := do
  let product ← unstamped (fetch (fun db => db.products.find? pk) (.notFound "WarehouseProduct"))
  unstamped (requirePk DB.categories "category" (data.category.getD none))
  stamped (columnsStamp ctx pk data.withoutQuantity) (saveColumns product data.withoutQuantity)
  stamped (quantityStamp ctx product data.quantity) (correctQuantity ctx product data.quantity)
  unstamped (fetch (fun db => db.products.find? pk) (.serverError "DoesNotExist"))

theorem erases_patch (ctx : Context) (pk : Uuid) (data : ProductPayload) :
    Erases (patch ctx pk data) (performUpdate ctx pk data) :=
  erases_bind erases_stamped fun _ => erases_bind erases_stamped fun _ =>
    erases_bind erases_stamped fun _ => erases_bind erases_stamped fun _ => erases_stamped

end DashboardWarehouseProductDetailAPIView

namespace DashboardMasterInventoryDetailAPIView

def columnsStamp (ctx : Context) (pk : Uuid) (data : InventoryPayload) : Stamps → Stamps :=
  if data = {} then id else Stamps.touchItem ctx.now pk

/-- `updated_at` of the product and of the row when the quantity is moved. -/
def quantityStamp (ctx : Context) (item : MasterInventory) (newQuantity : Option Int) :
    Stamps → Stamps :=
  if newQuantity.getD item.quantity = item.quantity then id
  else Stamps.touchItem ctx.now item.id ∘ Stamps.touchProduct ctx.now item.warehouseProduct

/-- `perform_update`, with the columns `updated_at`. -/
def patch (ctx : Context) (pk : Uuid) (data : InventoryPayload) :
    Action (DB × Stamps) Error MasterInventory := do
  let item ← unstamped (fetch (fun db => db.inventory.find? pk) (.notFound "MasterInventory"))
  unstamped (checkInventory item data)
  stamped (columnsStamp ctx pk data.withoutQuantity) (saveItemColumns item data.withoutQuantity)
  stamped (quantityStamp ctx item data.quantity) (adjustItem ctx item data.quantity)
  unstamped (fetch (fun db => db.inventory.find? pk) (.serverError "DoesNotExist"))

theorem erases_patch (ctx : Context) (pk : Uuid) (data : InventoryPayload) :
    Erases (patch ctx pk data) (performUpdate ctx pk data) :=
  erases_bind erases_stamped fun _ => erases_bind erases_stamped fun _ =>
    erases_bind erases_stamped fun _ => erases_bind erases_stamped fun _ => erases_stamped

end DashboardMasterInventoryDetailAPIView

/-- No product, row of a master or movement differs. -/
structure SameStock (s s' : DB × Stamps) : Prop where
  products : s'.1.products = s.1.products
  inventory : s'.1.inventory = s.1.inventory
  movements : s'.1.movements = s.1.movements
  stamps : s'.2 = s.2

theorem SameStock.refl (s : DB × Stamps) : SameStock s s := ⟨rfl, rfl, rfl, rfl⟩

/-- Answered with a validation error, the request changes nothing. -/
def Unchanged {α : Type} (x : Action (DB × Stamps) Error α) (s : DB × Stamps) : Prop :=
  ∀ e s', x s = (.error e, s') → e.IsValidation → SameStock s s'

section Unchanged

variable {α : Type} {x : Action (DB × Stamps) Error α} {s s₁ : DB × Stamps} {e : Error}

theorem unchanged_of_error (h : x s = (.error e, s)) : Unchanged x s := by
  intro e' s' hrun _
  rw [h] at hrun
  cases hrun
  exact SameStock.refl s

/-- A request that is refused only after it has saved. -/
theorem unchanged_iff_of_refused {Refused : Prop}
    (hrefused : Refused → ∃ e, e.IsValidation ∧ x s = (.error e, s₁))
    (hmoved : ¬Refused → FailsWith (fun e => ¬e.IsValidation) x s) :
    Unchanged x s ↔ (Refused → SameStock s s₁) := by
  constructor
  · intro h hr
    obtain ⟨e, hvalid, hrun⟩ := hrefused hr
    exact h e s₁ hrun hvalid
  · intro h e' s' hrun hvalid
    by_cases hr : Refused
    · obtain ⟨e, -, hrefused⟩ := hrefused hr
      rw [hrefused] at hrun
      cases hrun
      exact h hr
    · exact absurd hvalid (hmoved hr e' s' hrun)

/-- The end of both requests: the quantity is moved in the store with the columns saved, and
the row is read again. -/
theorem unchanged_iff_of_moves {Refused : Prop} {correct : Code Unit} {stamp : Stamps → Stamps}
    {row : DB → Option α} {e : Error} (hread : ¬e.IsValidation)
    (hrun : x s = (do stamped stamp correct; unstamped (fetch row e)) s₁)
    (hrefused : Refused → ∃ e, e.IsValidation ∧ correct s₁.1 = (.error e, s₁.1))
    (hmoved : ¬Refused → FailsWith (fun e => ¬e.IsValidation) correct s₁.1) :
    Unchanged x s ↔ (Refused → SameStock s s₁) := by
  refine unchanged_iff_of_refused (fun hr => ?_) fun hr => ?_
  · obtain ⟨e, hvalid, hcorrect⟩ := hrefused hr
    refine ⟨e, hvalid, ?_⟩
    rw [hrun]
    exact run_bind_error (run_stamped_error hcorrect)
  · unfold FailsWith
    rw [hrun]
    exact failsWith_bind (failsWith_stamped (hmoved hr)) fun _ _ _ =>
      failsWith_stamped (failsWith_fetch hread)

end Unchanged

/-- The foreign key, when there is one, is of a row. -/
def PkFound {ρ : Type} [Keyed ρ Uuid] (table : Table ρ) (pk : Option Uuid) : Prop :=
  ∀ id, pk = some id → (table.find? id).isSome

theorem run_requirePk {ρ : Type} [Keyed ρ Uuid] {table : DB → Table ρ} {field : String}
    {pk : Option Uuid} {db : DB} :
    requirePk table field pk db = (.ok (), db) ↔ PkFound (table db) pk := by
  cases pk with
  | none => simp [requirePk, PkFound]
  | some id => simp [requirePk, PkFound]

theorem run_requirePk_not {ρ : Type} [Keyed ρ Uuid] {table : DB → Table ρ} (field : String)
    {pk : Option Uuid} {db : DB} (h : ¬PkFound (table db) pk) :
    ∃ e, requirePk table field pk db = (.error e, db) := by
  rcases hrun : requirePk table field pk db with ⟨e | _, db'⟩
  · obtain rfl : db = db' := within_requirePk (R := Eq) _ _ _ hrun
    exact ⟨e, rfl⟩
  · obtain rfl : db = db' := within_requirePk (R := Eq) _ _ _ hrun
    exact absurd (run_requirePk.mp hrun) h

section Product

open DashboardWarehouseProductDetailAPIView

variable {ctx : Context} {pk : Uuid} {data : ProductPayload} {product : WarehouseProduct}
  {s : DB × Stamps}

/-- The service refuses a quantity that is negative, and not the one there is. -/
def ProductPayload.Refused (data : ProductPayload) (product : WarehouseProduct) : Prop :=
  ∃ newQuantity, data.quantity = some newQuantity ∧ newQuantity ≠ product.quantity ∧
    newQuantity < 0

/-- The store with the columns of the payload saved. -/
def savedProduct (ctx : Context) (data : ProductPayload) (product : WarehouseProduct)
    (s : DB × Stamps) : DB × Stamps :=
  if data.withoutQuantity = {} then s
  else ({ s.1 with products := s.1.products.save (data.withoutQuantity.apply product) },
    s.2.touchProduct ctx.now product.id)

theorem stamped_saveColumns :
    stamped (columnsStamp ctx product.id data.withoutQuantity)
        (saveColumns product data.withoutQuantity) s =
      (.ok (), savedProduct ctx data product s) := by
  unfold columnsStamp saveColumns savedProduct
  by_cases hdata : data.withoutQuantity = {}
  · simp only [if_pos hdata]
    exact run_stamped_ok rfl
  · simp only [if_neg hdata]
    exact run_stamped_ok rfl

/-- The product is there as it was, or with the columns of the payload. -/
theorem find?_savedProduct (ctx : Context) (data : ProductPayload)
    (h : s.1.products.find? product.id = some product) :
    ∃ saved, (savedProduct ctx data product s).1.products.find? product.id = some saved ∧
      saved.quantity = product.quantity := by
  unfold savedProduct
  by_cases hdata : data.withoutQuantity = {}
  · rw [if_pos hdata]
    exact ⟨product, h, rfl⟩
  · rw [if_neg hdata]
    have hsaved := Table.find?_save (r := data.withoutQuantity.apply product) h product.id
    exact ⟨_, hsaved.trans (if_pos rfl), rfl⟩

/-- Saving changes nothing when nothing is named, or all of it is there already. -/
def ProductPayload.SavesNothing (ctx : Context) (data : ProductPayload)
    (product : WarehouseProduct) (stamps : Stamps) : Prop :=
  data.withoutQuantity = {} ∨
    data.withoutQuantity.apply product = product ∧ stamps.product product.id = ctx.now

theorem sameStock_savedProduct (h : s.1.products.find? product.id = some product) :
    SameStock s (savedProduct ctx data product s) ↔ data.SavesNothing ctx product s.2 := by
  unfold savedProduct ProductPayload.SavesNothing
  by_cases hdata : data.withoutQuantity = {}
  · rw [if_pos hdata]
    exact iff_of_true (SameStock.refl s) (Or.inl hdata)
  · rw [if_neg hdata, or_iff_right hdata]
    have hsave : s.1.products.save (data.withoutQuantity.apply product) = s.1.products ↔
        data.withoutQuantity.apply product = product := Table.save_eq_self_iff h
    rw [← hsave, ← Stamps.touchProduct_eq_self]
    constructor
    · intro hsame
      exact ⟨hsame.products, hsame.stamps⟩
    · rintro ⟨hproducts, hstamps⟩
      exact ⟨hproducts, rfl, rfl, hstamps⟩

theorem run_moveProductQuantity_neg {db : DB} {saved : WarehouseProduct} {delta : Int}
    (h : db.products.find? pk = some saved) (hneg : saved.quantity + delta < 0) :
    ∃ e, e.IsValidation ∧ moveProductQuantity pk delta db = (.error e, db) := by
  refine ⟨.validation "quantity" "Ombor qoldig'i manfiy bo'lishi mumkin emas", trivial, ?_⟩
  have hlock : lockProduct pk db = (.ok saved, db) := run_fetch_some h
  unfold moveProductQuantity
  rw [run_bind_ok hlock]
  exact run_bind_error (run_require_not (not_le.mpr hneg))

theorem correctQuantity_refused {db : DB} {saved : WarehouseProduct}
    (h : db.products.find? product.id = some saved) (hsaved : saved.quantity = product.quantity)
    (hrefused : data.Refused product) :
    ∃ e, e.IsValidation ∧ correctQuantity ctx product data.quantity db = (.error e, db) := by
  obtain ⟨newQuantity, hquantity, hne, hneg⟩ := hrefused
  have hneg' : saved.quantity + (newQuantity - product.quantity) < 0 := by omega
  obtain ⟨e, hvalid, hrun⟩ := run_moveProductQuantity_neg h hneg'
  refine ⟨e, hvalid, ?_⟩
  rw [hquantity]
  change (if newQuantity = product.quantity then pure () else do
    let _ ← adjustWarehouseStock ctx product.id (newQuantity - product.quantity)
      "Admin qoldiqni to'g'riladi") db = _
  rw [if_neg hne]
  exact run_bind_error (run_atomic_error (run_bind_error hrun))

theorem failsWith_adjustWarehouseStock {db : DB} {saved : WarehouseProduct} {delta : Int}
    {note : String} (h : db.products.find? pk = some saved) (hnonneg : 0 ≤ saved.quantity + delta) :
    FailsWith (fun e => ¬e.IsValidation) (adjustWarehouseStock ctx pk delta note) db := by
  have hmove : FailsWith (fun e => ¬Error.IsValidation e) (moveProductQuantity pk delta) db := by
    refine failsWith_bind (failsWith_fetch not_false) fun found s' hfound => ?_
    obtain ⟨hfound', rfl⟩ := fetch_eq_ok.mp hfound
    obtain rfl : saved = found := Option.some.inj (h.symm.trans hfound')
    exact failsWith_bind (failsWith_require (Or.inl hnonneg)) fun _ _ _ =>
      failsWith_bind failsWith_modify fun _ _ _ => failsWith_pure
  exact failsWith_atomic (failsWith_bind hmove fun _ _ _ =>
    failsWith_bind (failsWith_write not_false) fun _ _ _ => failsWith_pure)

theorem correctQuantity_moved {db : DB} {saved : WarehouseProduct}
    (h : db.products.find? product.id = some saved) (hsaved : saved.quantity = product.quantity)
    (hmoved : ¬data.Refused product) :
    FailsWith (fun e => ¬e.IsValidation) (correctQuantity ctx product data.quantity) db := by
  cases hquantity : data.quantity with
  | none => exact failsWith_pure
  | some newQuantity =>
      unfold correctQuantity
      by_cases hsame : newQuantity = product.quantity
      · simp only [if_pos hsame]
        exact failsWith_pure
      · simp only [if_neg hsame]
        have hnonneg : 0 ≤ newQuantity := by
          by_contra hneg
          exact hmoved ⟨newQuantity, hquantity, hsame, not_le.mp hneg⟩
        exact failsWith_bind (failsWith_adjustWarehouseStock h (by omega)) fun _ _ _ =>
          failsWith_pure

/-- A PATCH of a product that passes the field checks. -/
theorem product_unchanged_iff (hfind : s.1.products.find? pk = some product)
    (hcategory : PkFound s.1.categories (data.category.getD none)) :
    Unchanged (patch ctx pk data) s ↔
      (data.Refused product → data.SavesNothing ctx product s.2) := by
  obtain rfl : product.id = pk := (Table.find?_eq_some_iff.mp hfind).2
  obtain ⟨saved, hsaved, hquantity⟩ := find?_savedProduct ctx data hfind
  have hrun : patch ctx product.id data s =
      (do
        stamped (quantityStamp ctx product data.quantity)
          (correctQuantity ctx product data.quantity)
        unstamped (fetch (fun db => db.products.find? product.id) (.serverError "DoesNotExist")))
        (savedProduct ctx data product s) := by
    unfold patch
    rw [run_bind_ok (run_unstamped_read (run_fetch_some hfind)),
      run_bind_ok (run_unstamped_read (run_requirePk.mpr hcategory)),
      run_bind_ok stamped_saveColumns]
  rw [← sameStock_savedProduct hfind]
  exact unchanged_iff_of_moves (e := .serverError "DoesNotExist") not_false hrun
    (correctQuantity_refused hsaved hquantity)
    (correctQuantity_moved hsaved hquantity)

end Product

section Item

open DashboardMasterInventoryDetailAPIView

variable {ctx : Context} {pk : Uuid} {data : InventoryPayload} {item : MasterInventory}
  {s : DB × Stamps}

/-- The field checks of the serializer and of the view. -/
structure InventoryPayload.Accepted (db : DB) (item : MasterInventory)
    (data : InventoryPayload) : Prop where
  master : PkFound db.masters data.master
  warehouseProduct : PkFound db.products data.warehouseProduct
  untaken : taken db (data.apply item) = false
  sameMaster : data.master.getD item.master = item.master
  sameProduct : data.warehouseProduct.getD item.warehouseProduct = item.warehouseProduct

theorem run_checkInventory {db : DB} (h : data.Accepted db item) :
    checkInventory item data db = (.ok (), db) := by
  unfold checkInventory
  rw [run_bind_ok (run_requirePk.mpr h.master),
    run_bind_ok (run_requirePk.mpr h.warehouseProduct), run_bind_ok run_get,
    run_bind_ok (run_require h.untaken), run_bind_ok (run_require h.sameMaster)]
  exact run_require h.sameProduct

/-- Anything else is refused before anything is saved. -/
theorem run_checkInventory_not {db : DB} (h : ¬data.Accepted db item) :
    ∃ e, checkInventory item data db = (.error e, db) := by
  rcases hrun : checkInventory item data db with ⟨e | _, db'⟩
  · obtain rfl : db = db' := within_checkInventory (R := Eq) _ _ _ hrun
    exact ⟨e, rfl⟩
  · simp only [checkInventory, bind_eq_ok, get_eq_ok, require_eq_ok] at hrun
    obtain ⟨_, db₁, hmaster, _, db₂, hproduct, _, _, ⟨rfl, rfl⟩, _, _, ⟨htaken, rfl⟩, _, _,
      ⟨hsameMaster, rfl⟩, hsameProduct, rfl⟩ := hrun
    obtain rfl : db = db₁ := within_requirePk (R := Eq) _ _ _ hmaster
    obtain rfl : db = db₂ := within_requirePk (R := Eq) _ _ _ hproduct
    exact absurd ⟨run_requirePk.mp hmaster, run_requirePk.mp hproduct, htaken, hsameMaster,
      hsameProduct⟩ h

/-- The service refuses a quantity that is negative, or more than the warehouse has. -/
def InventoryPayload.Refused (db : DB) (data : InventoryPayload) (item : MasterInventory) : Prop :=
  ∃ newQuantity, data.quantity = some newQuantity ∧ newQuantity ≠ item.quantity ∧
    (newQuantity < 0 ∨ ∃ product, db.products.find? item.warehouseProduct = some product ∧
      item.quantity < newQuantity ∧ product.quantity < newQuantity - item.quantity)

/-- The store with the columns of the payload saved. -/
def savedItem (ctx : Context) (data : InventoryPayload) (item : MasterInventory)
    (s : DB × Stamps) : DB × Stamps :=
  if data.withoutQuantity = {} then s
  else ({ s.1 with inventory := s.1.inventory.save (data.withoutQuantity.apply item) },
    s.2.touchItem ctx.now item.id)

theorem stamped_saveItemColumns :
    stamped (columnsStamp ctx item.id data.withoutQuantity)
        (saveItemColumns item data.withoutQuantity) s =
      (.ok (), savedItem ctx data item s) := by
  unfold columnsStamp saveItemColumns savedItem
  by_cases hdata : data.withoutQuantity = {}
  · simp only [if_pos hdata]
    exact run_stamped_ok rfl
  · simp only [if_neg hdata]
    exact run_stamped_ok rfl

theorem savedItem_products : (savedItem ctx data item s).1.products = s.1.products := by
  unfold savedItem
  by_cases hdata : data.withoutQuantity = {}
  · rw [if_pos hdata]
  · rw [if_neg hdata]

/-- The row is there as it was, or with the columns of the payload. -/
theorem find?_savedItem (ctx : Context) (data : InventoryPayload)
    (h : s.1.inventory.find? item.id = some item) :
    ∃ saved, (savedItem ctx data item s).1.inventory.find? item.id = some saved ∧
      saved.quantity = item.quantity := by
  unfold savedItem
  by_cases hdata : data.withoutQuantity = {}
  · rw [if_pos hdata]
    exact ⟨item, h, rfl⟩
  · rw [if_neg hdata]
    have hsaved := Table.find?_save (r := data.withoutQuantity.apply item) h item.id
    exact ⟨_, hsaved.trans (if_pos rfl), rfl⟩

/-- Saving changes nothing when nothing is named, or all of it is there already. -/
def InventoryPayload.SavesNothing (ctx : Context) (data : InventoryPayload)
    (item : MasterInventory) (stamps : Stamps) : Prop :=
  data.withoutQuantity = {} ∨
    data.withoutQuantity.apply item = item ∧ stamps.item item.id = ctx.now

theorem sameStock_savedItem (h : s.1.inventory.find? item.id = some item) :
    SameStock s (savedItem ctx data item s) ↔ data.SavesNothing ctx item s.2 := by
  unfold savedItem InventoryPayload.SavesNothing
  by_cases hdata : data.withoutQuantity = {}
  · rw [if_pos hdata]
    exact iff_of_true (SameStock.refl s) (Or.inl hdata)
  · rw [if_neg hdata, or_iff_right hdata]
    have hsave : s.1.inventory.save (data.withoutQuantity.apply item) = s.1.inventory ↔
        data.withoutQuantity.apply item = item := Table.save_eq_self_iff h
    rw [← hsave, ← Stamps.touchItem_eq_self]
    constructor
    · intro hsame
      exact ⟨hsame.inventory, hsame.stamps⟩
    · rintro ⟨hinventory, hstamps⟩
      exact ⟨rfl, hinventory, rfl, hstamps⟩

theorem adjustItem_refused {db : DB} {saved : MasterInventory}
    (h : db.inventory.find? item.id = some saved) (hsaved : saved.quantity = item.quantity)
    (hrefused : data.Refused db item) :
    ∃ e, e.IsValidation ∧ adjustItem ctx item data.quantity db = (.error e, db) := by
  obtain ⟨newQuantity, hquantity, hne, hwhy⟩ := hrefused
  have hadjust : ∃ e, e.IsValidation ∧
      adjustMasterInventory ctx item.id item.warehouseProduct newQuantity db = (.error e, db) := by
    by_cases hneg : newQuantity < 0
    · refine ⟨_, ?_, run_atomic_error (run_bind_error (run_require_not (not_le.mpr hneg)))⟩
      trivial
    · obtain ⟨product, hproduct, hmore, hshort⟩ := hwhy.resolve_left hneg
      have hlock : lockProduct item.warehouseProduct db = (.ok product, db) :=
        run_fetch_some hproduct
      have hitem : (fetch (fun db => db.inventory.find? item.id)
          (.serverError "DoesNotExist") : Code MasterInventory) db = (.ok saved, db) :=
        run_fetch_some h
      have hdelta : newQuantity - saved.quantity ≠ 0 := by omega
      have hcover : ¬¬(0 < newQuantity - saved.quantity ∧
          product.quantity < newQuantity - saved.quantity) := by omega
      refine ⟨_, ?_, run_atomic_error ((run_bind_ok (run_require (not_lt.mp hneg))).trans
        ((run_bind_ok hlock).trans ((run_bind_ok hitem).trans
          ((congrFun (if_neg hdelta) db).trans (run_bind_error (run_require_not hcover))))))⟩
      trivial
  obtain ⟨e, hvalid, hrun⟩ := hadjust
  refine ⟨e, hvalid, ?_⟩
  rw [hquantity]
  change (if newQuantity = item.quantity then pure () else do
    let _ ← adjustMasterInventory ctx item.id item.warehouseProduct newQuantity) db = _
  rw [if_neg hne]
  exact run_bind_error hrun

theorem failsWith_adjustMasterInventory {db : DB} {saved : MasterInventory} {newQuantity : Int}
    (h : db.inventory.find? pk = some saved) (hnonneg : 0 ≤ newQuantity)
    (hcover : ∀ product, db.products.find? item.warehouseProduct = some product →
      ¬(0 < newQuantity - saved.quantity ∧ product.quantity < newQuantity - saved.quantity)) :
    FailsWith (fun e => ¬e.IsValidation)
      (adjustMasterInventory ctx pk item.warehouseProduct newQuantity) db := by
  refine failsWith_atomic (failsWith_bind (failsWith_require (Or.inl hnonneg)) fun _ s' hs' => ?_)
  obtain ⟨-, rfl⟩ := require_eq_ok.mp hs'
  refine failsWith_bind (failsWith_fetch not_false) fun product s' hproduct => ?_
  obtain ⟨hproduct', rfl⟩ := fetch_eq_ok.mp hproduct
  refine failsWith_bind (failsWith_fetch not_false) fun found s' hfound => ?_
  obtain ⟨hfound', rfl⟩ := fetch_eq_ok.mp hfound
  obtain rfl : saved = found := Option.some.inj (h.symm.trans hfound')
  by_cases hdelta : newQuantity - saved.quantity = 0
  · simp only [if_pos hdelta]
    exact failsWith_pure
  · simp only [if_neg hdelta]
    exact failsWith_bind (failsWith_require (Or.inl (hcover product hproduct'))) fun _ _ _ =>
      failsWith_bind failsWith_modify fun _ _ _ => failsWith_bind failsWith_modify fun _ _ _ =>
        failsWith_bind (failsWith_fetch not_false) fun _ _ _ =>
          failsWith_bind (failsWith_write not_false) fun _ _ _ => failsWith_pure

theorem adjustItem_moved {db : DB} {saved : MasterInventory}
    (h : db.inventory.find? item.id = some saved) (hsaved : saved.quantity = item.quantity)
    (hmoved : ¬data.Refused db item) :
    FailsWith (fun e => ¬e.IsValidation) (adjustItem ctx item data.quantity) db := by
  cases hquantity : data.quantity with
  | none => exact failsWith_pure
  | some newQuantity =>
      unfold adjustItem
      by_cases hsame : newQuantity = item.quantity
      · simp only [if_pos hsame]
        exact failsWith_pure
      · simp only [if_neg hsame]
        have hnonneg : 0 ≤ newQuantity := by
          by_contra hneg
          exact hmoved ⟨newQuantity, hquantity, hsame, Or.inl (not_le.mp hneg)⟩
        refine failsWith_bind (failsWith_adjustMasterInventory h hnonneg ?_) fun _ _ _ =>
          failsWith_pure
        rintro product hproduct ⟨hmore, hshort⟩
        exact hmoved ⟨newQuantity, hquantity, hsame,
          Or.inr ⟨product, hproduct, by omega, by omega⟩⟩

/-- A PATCH of a master's row that passes the field checks. -/
theorem item_unchanged_iff (hfind : s.1.inventory.find? pk = some item)
    (haccepted : data.Accepted s.1 item) :
    Unchanged (patch ctx pk data) s ↔
      (data.Refused s.1 item → data.SavesNothing ctx item s.2) := by
  obtain rfl : item.id = pk := (Table.find?_eq_some_iff.mp hfind).2
  obtain ⟨saved, hsaved, hquantity⟩ := find?_savedItem ctx data hfind
  have hrun : patch ctx item.id data s =
      (do
        stamped (quantityStamp ctx item data.quantity) (adjustItem ctx item data.quantity)
        unstamped (fetch (fun db => db.inventory.find? item.id) (.serverError "DoesNotExist")))
        (savedItem ctx data item s) := by
    unfold patch
    rw [run_bind_ok (run_unstamped_read (run_fetch_some hfind)),
      run_bind_ok (run_unstamped_read (run_checkInventory haccepted)),
      run_bind_ok stamped_saveItemColumns]
  have hrefused : data.Refused (savedItem ctx data item s).1 item ↔ data.Refused s.1 item := by
    unfold InventoryPayload.Refused
    rw [savedItem_products]
  rw [← sameStock_savedItem hfind, ← hrefused]
  exact unchanged_iff_of_moves (e := .serverError "DoesNotExist") not_false hrun
    (adjustItem_refused hsaved hquantity)
    (adjustItem_moved hsaved hquantity)

end Item

/-- A PATCH of one of the two endpoints. -/
inductive StockEdit
  | product (pk : Uuid) (data : ProductPayload)
  | item (pk : Uuid) (data : InventoryPayload)

namespace StockEdit

/-- When the PATCH is answered with a validation error, it changes nothing. -/
def RejectedUnchanged (ctx : Context) (s : DB × Stamps) : StockEdit → Prop
  | .product pk data => Unchanged (DashboardWarehouseProductDetailAPIView.patch ctx pk data) s
  | .item pk data => Unchanged (DashboardMasterInventoryDetailAPIView.patch ctx pk data) s

/-- There is a row, the field checks pass, and the stock service refuses the quantity. -/
def RefusedLate (s : DB × Stamps) : StockEdit → Prop
  | .product pk data => ∃ product, s.1.products.find? pk = some product ∧
      PkFound s.1.categories (data.category.getD none) ∧ data.Refused product
  | .item pk data => ∃ item, s.1.inventory.find? pk = some item ∧
      data.Accepted s.1 item ∧ data.Refused s.1 item

/-- The payload names the quantity alone, or columns that are saved so already. -/
def SavesNothing (ctx : Context) (s : DB × Stamps) : StockEdit → Prop
  | .product pk data => ∀ product, s.1.products.find? pk = some product →
      data.SavesNothing ctx product s.2
  | .item pk data => ∀ item, s.1.inventory.find? pk = some item →
      data.SavesNothing ctx item s.2

variable {ctx : Context} {pk : Uuid} {s : DB × Stamps}

theorem product_rejectedUnchanged (data : ProductPayload) :
    (StockEdit.product pk data).RejectedUnchanged ctx s ↔
      ((StockEdit.product pk data).RefusedLate s →
        (StockEdit.product pk data).SavesNothing ctx s) := by
  simp only [RejectedUnchanged, RefusedLate, SavesNothing]
  cases hfind : s.1.products.find? pk with
  | none =>
      refine iff_of_true (unchanged_of_error (e := .notFound "WarehouseProduct") ?_) (by simp)
      exact run_bind_error (run_stamped_error (run_fetch_none hfind))
  | some product =>
      by_cases hcategory : PkFound s.1.categories (data.category.getD none)
      · rw [product_unchanged_iff hfind hcategory]
        simp [hcategory]
      · obtain ⟨e, hcheck⟩ := run_requirePk_not "category" hcategory
        refine iff_of_true (unchanged_of_error (e := e) ?_) (by simp [hcategory])
        exact (run_bind_ok (run_unstamped_read (run_fetch_some hfind))).trans
          (run_bind_error (run_stamped_error hcheck))

theorem item_rejectedUnchanged (data : InventoryPayload) :
    (StockEdit.item pk data).RejectedUnchanged ctx s ↔
      ((StockEdit.item pk data).RefusedLate s → (StockEdit.item pk data).SavesNothing ctx s) := by
  simp only [RejectedUnchanged, RefusedLate, SavesNothing]
  cases hfind : s.1.inventory.find? pk with
  | none =>
      refine iff_of_true (unchanged_of_error (e := .notFound "MasterInventory") ?_) (by simp)
      exact run_bind_error (run_stamped_error (run_fetch_none hfind))
  | some item =>
      by_cases haccepted : data.Accepted s.1 item
      · rw [item_unchanged_iff hfind haccepted]
        simp [haccepted]
      · obtain ⟨e, hcheck⟩ := run_checkInventory_not haccepted
        refine iff_of_true (unchanged_of_error (e := e) ?_) (by simp [haccepted])
        exact (run_bind_ok (run_unstamped_read (run_fetch_some hfind))).trans
          (run_bind_error (run_stamped_error hcheck))

/-- A rejected edit changes nothing exactly when it saves no columns, or is not rejected
by the stock service, after they are saved. -/
theorem rejected_edit_changes_nothing (ctx : Context) (edit : StockEdit) (s : DB × Stamps) :
    edit.RejectedUnchanged ctx s ↔ (edit.RefusedLate s → edit.SavesNothing ctx s) := by
  cases edit with
  | product pk data => exact product_rejectedUnchanged data
  | item pk data => exact item_rejectedUnchanged data

/-- A new name is saved with a quantity that is refused. -/
theorem rejected_edit_renames :
    ¬∀ (ctx : Context) (edit : StockEdit) (s : DB × Stamps), edit.RejectedUnchanged ctx s := by
  intro h
  have hunchanged := h (Sample.at_ 20)
    (.product 5 { name := some "Yangi filtr", quantity := some (-100) })
    (Sample.db, ⟨fun _ => 0, fun _ => 0⟩)
  have hsame := hunchanged _ _ rfl trivial
  have hname := congrArg (fun t => (t.find? 5).map WarehouseProduct.name) hsame.products
  revert hname
  decide

end StockEdit

end Dashboard

end Homex
