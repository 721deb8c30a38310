import Homex.Common.Money
import Homex.Relational.Cascade

/-!
# The foreign keys of the models

`foreignKeys` lists the foreign keys of every app with their `on_delete`. A row is kept
here as its foreign keys only; what a deletion takes with it depends on nothing else.

The models alone, with the keys between them, already say much: which models can lose rows
when a row of a given model is deleted (`cascadeModels`), and which keys can protect it
(`protectors`). Both are computed from the list.
-/

namespace Homex

namespace Schema

open Relational Relational.Table

/-- The models that have or are the target of a foreign key. -/
inductive Model
  | user
  | client
  | master
  | fcmDevice
  | clientAddress
  | clientDevice
  | tariff
  | tariffFeature
  | masterCertificate
  | masterDocument
  | serviceCategory
  | service
  | servicePrice
  | order
  | orderMaster
  | orderInventoryUsage
  | orderTracking
  | review
  | reviewPhoto
  | paymeTransaction
  | masterWallet
  | walletTransaction
  | withdrawRequest
  | masterExpense
  | warehouseCategory
  | warehouseProduct
  | stockMovement
  | masterInventory
  | notification
  | supportChat
  | supportMessage
  | marketCategory
  | marketProduct
  | marketProductImage
  | marketFavorite
  | marketOrder
  | dashboardStaffProfile
  | dashboardOrderAssistant
  | dashboardLiveStream
  | dashboardWarehouseExpense
  | dashboardBackup
  deriving DecidableEq, Repr

/-- The names of the foreign keys. -/
inductive Column
  | user
  | client
  | master
  | currentTariff
  | address
  | device
  | tariff
  | category
  | service
  | receiptApprovedBy
  | order
  | assignedBy
  | assistant
  | inventory
  | review
  | warehouseProduct
  | product
  | seller
  | chat
  | admin
  | createdBy
  deriving DecidableEq, Repr

/-- `models.ForeignKey`, or a `OneToOneField`. -/
structure ForeignKey where
  model : Model
  column : Column
  target : Model
  onDelete : OnDelete
  deriving DecidableEq, Repr

def foreignKeys : List ForeignKey :=
  [⟨.client, .currentTariff, .tariff, .setNull⟩,
   ⟨.fcmDevice, .client, .client, .cascade⟩,
   ⟨.fcmDevice, .master, .master, .cascade⟩,
   ⟨.clientAddress, .client, .client, .cascade⟩,
   ⟨.clientDevice, .client, .client, .cascade⟩,
   ⟨.clientDevice, .address, .clientAddress, .cascade⟩,
   ⟨.tariffFeature, .tariff, .tariff, .cascade⟩,
   ⟨.masterCertificate, .master, .master, .cascade⟩,
   ⟨.masterDocument, .master, .master, .cascade⟩,
   ⟨.service, .category, .serviceCategory, .cascade⟩,
   ⟨.servicePrice, .service, .service, .cascade⟩,
   ⟨.order, .client, .client, .cascade⟩,
   ⟨.order, .master, .master, .setNull⟩,
   ⟨.order, .service, .service, .protect⟩,
   ⟨.order, .address, .clientAddress, .setNull⟩,
   ⟨.order, .device, .clientDevice, .setNull⟩,
   ⟨.order, .receiptApprovedBy, .master, .setNull⟩,
   ⟨.orderMaster, .order, .order, .cascade⟩,
   ⟨.orderMaster, .master, .master, .protect⟩,
   ⟨.orderMaster, .assignedBy, .user, .setNull⟩,
   ⟨.orderInventoryUsage, .order, .order, .cascade⟩,
   ⟨.orderInventoryUsage, .inventory, .masterInventory, .protect⟩,
   ⟨.orderTracking, .order, .order, .cascade⟩,
   ⟨.review, .order, .order, .cascade⟩,
   ⟨.review, .master, .master, .cascade⟩,
   ⟨.review, .client, .client, .cascade⟩,
   ⟨.reviewPhoto, .review, .review, .cascade⟩,
   ⟨.paymeTransaction, .order, .order, .protect⟩,
   ⟨.masterWallet, .master, .master, .cascade⟩,
   ⟨.walletTransaction, .master, .master, .cascade⟩,
   ⟨.walletTransaction, .order, .order, .setNull⟩,
   ⟨.withdrawRequest, .master, .master, .cascade⟩,
   ⟨.masterExpense, .master, .master, .cascade⟩,
   ⟨.warehouseProduct, .category, .warehouseCategory, .setNull⟩,
   ⟨.stockMovement, .product, .warehouseProduct, .cascade⟩,
   ⟨.stockMovement, .master, .master, .setNull⟩,
   ⟨.masterInventory, .master, .master, .cascade⟩,
   ⟨.masterInventory, .warehouseProduct, .warehouseProduct, .protect⟩,
   ⟨.notification, .client, .client, .cascade⟩,
   ⟨.notification, .master, .master, .cascade⟩,
   ⟨.supportChat, .client, .client, .cascade⟩,
   ⟨.supportChat, .master, .master, .cascade⟩,
   ⟨.supportMessage, .chat, .supportChat, .cascade⟩,
   ⟨.supportMessage, .client, .client, .cascade⟩,
   ⟨.supportMessage, .master, .master, .cascade⟩,
   ⟨.supportMessage, .admin, .user, .setNull⟩,
   ⟨.marketProduct, .category, .marketCategory, .setNull⟩,
   ⟨.marketProduct, .seller, .client, .setNull⟩,
   ⟨.marketProductImage, .product, .marketProduct, .cascade⟩,
   ⟨.marketFavorite, .client, .client, .cascade⟩,
   ⟨.marketFavorite, .product, .marketProduct, .cascade⟩,
   ⟨.marketOrder, .client, .client, .cascade⟩,
   ⟨.marketOrder, .product, .marketProduct, .protect⟩,
   ⟨.dashboardStaffProfile, .user, .user, .cascade⟩,
   ⟨.dashboardOrderAssistant, .order, .order, .cascade⟩,
   ⟨.dashboardOrderAssistant, .assistant, .master, .protect⟩,
   ⟨.dashboardOrderAssistant, .assignedBy, .user, .setNull⟩,
   ⟨.dashboardLiveStream, .master, .master, .setNull⟩,
   ⟨.dashboardLiveStream, .client, .client, .setNull⟩,
   ⟨.dashboardLiveStream, .order, .order, .setNull⟩,
   ⟨.dashboardWarehouseExpense, .product, .warehouseProduct, .setNull⟩,
   ⟨.dashboardBackup, .createdBy, .user, .setNull⟩]

/-- The foreign key of a column. -/
def foreignKey? (model : Model) (column : Column) : Option ForeignKey :=
  foreignKeys.find? fun fk => fk.model = model ∧ fk.column = column

/-- No model has two foreign keys of one name. -/
theorem foreignKey?_of_mem {fk : ForeignKey} (h : fk ∈ foreignKeys) :
    foreignKey? fk.model fk.column = some fk := by
  revert fk
  decide +kernel

/-- A model and a primary key. -/
abbrev Key := Model × Uuid

/-- A row of any table, with its foreign keys. -/
structure Row where
  model : Model
  id : Uuid
  column : Column → Option Uuid := fun _ => none

def Row.key (r : Row) : Key := (r.model, r.id)

/-- The references of a row, each with its `on_delete`. -/
def Row.refs (r : Row) : List (OnDelete × Key) :=
  foreignKeys.filterMap fun fk =>
    if fk.model = r.model then (r.column fk.column).map fun pk => (fk.onDelete, fk.target, pk)
    else none

/-- `on_delete=SET_NULL` of the references into a set of keys. -/
def Row.setNull (p : Key → Bool) (r : Row) : Row :=
  { r with
      column := fun column =>
        match foreignKey? r.model column with
        | some ⟨_, _, target, .setNull⟩ => (r.column column).filter fun pk => !p (target, pk)
        | _ => r.column column }

theorem Row.mem_refs {r : Row} {ref : OnDelete × Key} :
    ref ∈ r.refs ↔ ∃ fk ∈ foreignKeys, fk.model = r.model ∧
      r.column fk.column = some ref.2.2 ∧ fk.onDelete = ref.1 ∧ fk.target = ref.2.1 := by
  obtain ⟨action, target, pk⟩ := ref
  simp only [refs, List.mem_filterMap]
  constructor
  · rintro ⟨fk, hfk, h⟩
    split at h
    · next hmodel =>
        rw [Option.map_eq_some_iff] at h
        obtain ⟨pk', hcolumn, h⟩ := h
        cases h
        exact ⟨fk, hfk, hmodel, hcolumn, rfl, rfl⟩
    · exact nomatch h
  · rintro ⟨fk, hfk, hmodel, hcolumn, rfl, rfl⟩
    refine ⟨fk, hfk, ?_⟩
    rw [if_pos hmodel, hcolumn]
    rfl

theorem Row.column_setNull {p : Key → Bool} {r : Row} {fk : ForeignKey} (hfk : fk ∈ foreignKeys)
    (hmodel : fk.model = r.model) (pk : Uuid) :
    (r.setNull p).column fk.column = some pk ↔
      r.column fk.column = some pk ∧ ¬(fk.onDelete = .setNull ∧ p (fk.target, pk) = true) := by
  have hkey := foreignKey?_of_mem hfk
  rw [hmodel] at hkey
  obtain ⟨_, _, target, action⟩ := fk
  simp only [setNull]
  rw [hkey]
  cases action <;> simp [Option.filter_eq_some_iff]

instance : Linked Row Key where
  key := Row.key
  refs := Row.refs
  clear := Row.setNull
  key_clear _ _ := rfl
  mem_refs_clear p r ref := by
    obtain ⟨action, target, pk⟩ := ref
    rw [Row.mem_refs, Row.mem_refs]
    constructor
    · rintro ⟨fk, hfk, hmodel, hcolumn, rfl, rfl⟩
      obtain ⟨hcolumn, hclear⟩ := (Row.column_setNull (r := r) hfk hmodel pk).mp hcolumn
      exact ⟨⟨fk, hfk, hmodel, hcolumn, rfl, rfl⟩, hclear⟩
    · rintro ⟨⟨fk, hfk, hmodel, hcolumn, rfl, rfl⟩, hclear⟩
      have hkept := (Row.column_setNull (r := r) hfk hmodel pk).mpr ⟨hcolumn, hclear⟩
      exact ⟨fk, hfk, hmodel, hkept, rfl, rfl⟩

theorem key_row (r : Row) : key r = (r.model, r.id) := rfl

/-! ### The models alone -/

/-- The cascading foreign keys of a model. -/
def cascadeKeys (model : Model) : List ForeignKey :=
  foreignKeys.filter fun fk => fk.model = model ∧ fk.onDelete = .cascade

/-- Adds, `n` times, the models that cascade into those in the list. -/
def spread : ℕ → List Model → List Model
  | 0, models => models
  | n + 1, models =>
      spread n (models ++
        ((foreignKeys.filter fun fk => fk.onDelete = .cascade ∧ fk.target ∈ models ∧
          fk.model ∉ models).map ForeignKey.model).eraseDups)

/-- The models that can lose rows when a row of `model` is deleted: no chain of cascades
has more than three keys. -/
def cascadeModels (model : Model) : List Model := spread 3 [model]

/-- No cascade leads out of `cascadeModels`. -/
theorem model_mem_cascadeModels {fk : ForeignKey} (hfk : fk ∈ foreignKeys)
    (haction : fk.onDelete = .cascade) {model : Model} (htarget : fk.target ∈ cascadeModels model) :
    fk.model ∈ cascadeModels model := by
  have hclosed : ∀ fk ∈ foreignKeys.filter (·.onDelete = .cascade),
      fk.target ∈ cascadeModels model → fk.model ∈ cascadeModels model := by
    cases model <;> decide +kernel
  exact hclosed fk (List.mem_filter.mpr ⟨hfk, decide_eq_true haction⟩) htarget

/-- The foreign keys that can protect a row of `model`, or a row that goes with it. -/
def protectors (model : Model) : List ForeignKey :=
  foreignKeys.filter fun fk => fk.onDelete = .protect ∧ fk.target ∈ cascadeModels model

/-- A key of the row leads to a row that goes. -/
def LeadsToGone (t : Table Row) (root : Key) (r : Row) (fk : ForeignKey) : Prop :=
  ∃ pk, r.column fk.column = some pk ∧ (fk.target, pk) ∈ t.gone root

section Gone

variable {t t' : Table Row} {root : Key} {model : Model} {pk : Uuid}

/-- Only rows of `cascadeModels` go. -/
theorem model_of_mem_gone (h : (model, pk) ∈ t.gone root) : model ∈ cascadeModels root.1 := by
  refine gone_induction (P := fun k => k.1 ∈ cascadeModels root.1) ?_ ?_ h
  · generalize root.1 = model
    cases model <;> decide +kernel
  · intro r _ k hk href
    obtain ⟨fk, hfk, hmodel, -, haction, htarget⟩ := Row.mem_refs.mp href
    rw [key_row, ← hmodel]
    exact model_mem_cascadeModels hfk haction (htarget ▸ hk)

/-- A row goes if it is the one deleted, or by one of the cascading keys of its model. -/
theorem key_mem_gone_iff_cascadeKeys {r : Row} (hr : r ∈ t.rows) :
    key r ∈ t.gone root ↔
      key r = root ∨ ∃ fk ∈ cascadeKeys r.model, LeadsToGone t root r fk := by
  rw [key_mem_gone_iff hr]
  refine or_congr_right ⟨?_, ?_⟩
  · rintro ⟨⟨target, pk'⟩, hgone, href⟩
    obtain ⟨fk, hfk, hmodel, hcolumn, haction, htarget⟩ := Row.mem_refs.mp href
    obtain rfl : fk.target = target := htarget
    exact ⟨fk, List.mem_filter.mpr ⟨hfk, decide_eq_true ⟨hmodel, haction⟩⟩, pk', hcolumn, hgone⟩
  · rintro ⟨fk, hfk, pk', hcolumn, hgone⟩
    obtain ⟨hfk, hkey⟩ := List.mem_filter.mp hfk
    rw [decide_eq_true_eq] at hkey
    exact ⟨_, hgone, Row.mem_refs.mpr ⟨fk, hfk, hkey.1, hcolumn, hkey.2, rfl⟩⟩

/-- A deletion is refused exactly for a row that one of the `protectors` names. -/
theorem refused_iff_protectors :
    t.deleteCascade? (model, pk) = none ↔ ∃ fk ∈ protectors model,
      ∃ r ∈ t.rows, r.model = fk.model ∧ LeadsToGone t (model, pk) r fk := by
  rw [deleteCascade?_eq_none_iff]
  constructor
  · rintro ⟨r, hr, ⟨target, pk⟩, hgone, href⟩
    obtain ⟨fk, hfk, hmodel, hcolumn, haction, htarget⟩ := Row.mem_refs.mp href
    obtain rfl : fk.target = target := htarget
    refine ⟨fk, ?_, r, hr, hmodel.symm, pk, hcolumn, hgone⟩
    exact List.mem_filter.mpr ⟨hfk, decide_eq_true ⟨haction, model_of_mem_gone hgone⟩⟩
  · rintro ⟨fk, hfk, r, hr, hmodel, pk, hcolumn, hgone⟩
    obtain ⟨hfk, hkey⟩ := List.mem_filter.mp hfk
    rw [decide_eq_true_eq] at hkey
    exact ⟨r, hr, (fk.target, pk), hgone,
      Row.mem_refs.mpr ⟨fk, hfk, hmodel.symm, hcolumn, hkey.1, rfl⟩⟩

end Gone

end Schema

end Homex
