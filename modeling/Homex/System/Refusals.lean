import Homex.System.Requests

/-!
# Refused requests

A request that is answered with an error leaves the orders, the payments, the
wallets and the journal as they were: its writes were rolled back, or it had made
none yet. Two webhook methods are the exception, because they commit the
cancellation of a timed-out transaction before they answer.
-/

namespace Homex

open Relational Action Code Orders Wallet Warehouse Payme

/-- The orders, payments, wallets and the journal are the same. -/
structure Frame (db db' : DB) : Prop where
  orders : db'.orders = db.orders
  payme : db'.payme = db.payme
  wallet : db'.wallet = db.wallet
  journal : db'.journal = db.journal

namespace Frame

instance : Std.Refl Frame := ⟨fun _ => ⟨rfl, rfl, rfl, rfl⟩⟩

instance : IsTrans DB Frame :=
  ⟨fun _ _ _ h h' => ⟨h'.orders.trans h.orders, h'.payme.trans h.payme,
    h'.wallet.trans h.wallet, h'.journal.trans h.journal⟩⟩

theorem rfl (db : DB) : Frame db db := Std.Refl.refl db

end Frame

section Reads

variable {R : DB → DB → Prop} [Std.Refl R] [IsTrans DB R]

theorem within_requirePk {ρ : Type} [Keyed ρ Uuid] {table : DB → Table ρ} {field : String}
    {pk : Option Uuid} : Within R (requirePk table field pk) := by
  cases pk with
  | none => exact within_pure
  | some pk => exact .bind within_get fun _ => within_require

omit [IsTrans DB R] in
theorem within_getOrder {pk : Uuid} : Within R (getOrder pk) := within_fetch

theorem within_getMasterOrder {pk user : Uuid} : Within R (getMasterOrder pk user) :=
  .bind within_getOrder fun _ => .bind within_require fun _ => within_pure

omit [IsTrans DB R] in
theorem within_completeValidate {order : Order} :
    Within R (OrderCompleteSerializer.validate order) :=
  within_ite within_pure (within_ite within_raise within_raise)

theorem within_checkFields {data : Dashboard.OrderPayload} :
    Within R (Dashboard.DashboardOrderSerializer.checkFields data) :=
  .bind within_requirePk fun _ => .bind within_requirePk fun _ =>
    .bind within_requirePk fun _ => within_requirePk

theorem within_dashboardValidate {client address : Option Uuid} {data : Dashboard.OrderPayload} :
    Within R (Dashboard.DashboardOrderSerializer.validate client address data) := by
  unfold Dashboard.DashboardOrderSerializer.validate
  cases (data.address.getD none).or address with
  | none => exact within_pure
  | some pk => exact .bind within_fetch fun _ => .bind within_require fun _ => within_pure

theorem within_checkMasters {field : String} {masters : List Uuid} :
    Within R (Dashboard.DashboardOrderAssignSerializer.checkMasters field masters) := by
  induction masters with
  | nil => exact within_pure
  | cons pk pks ih => exact .bind within_fetch fun _ => .bind within_require fun _ => ih

theorem within_internalValidate {ctx : Context} {current : OrderStatus}
    {data : InternalApi.OrderPayload} :
    Within R (InternalApi.InternalOrderWriteSerializer.validate ctx current data) := by
  have hmaster : ∀ field pk, Within R
      (InternalApi.InternalOrderWriteSerializer.checkMaster field pk) := by
    intro field pk
    cases pk with
    | none => exact within_pure
    | some pk => exact .bind within_fetch fun _ => within_require
  have hservice : ∀ pk, Within R
      (InternalApi.InternalOrderWriteSerializer.checkService pk) := by
    intro pk
    cases pk with
    | none => exact within_pure
    | some pk => exact .bind within_fetch fun _ => within_require
  have hschedule : Within R (InternalApi.InternalOrderWriteSerializer.schedule ctx data) := by
    unfold InternalApi.InternalOrderWriteSerializer.schedule
    cases data.scheduledAt with
    | some at_ => exact within_fetch
    | none => exact .bind within_fetch fun _ => .map within_fetch
  exact .bind within_requirePk fun _ => .bind (hmaster _ _) fun _ => .bind (hservice _) fun _ =>
    .bind hschedule fun _ => .bind within_require fun _ => within_pure

theorem within_fetchAccount {cfg : Settings} {account : List (String × Uuid)} :
    Within R (fetchAccount cfg account) :=
  .bind within_fetch fun _ => within_fetch

theorem within_validateAmount {order : Order} {amount : Option Int} :
    Within R (validateAmount order amount) :=
  .bind within_fetch fun _ => .bind within_require fun _ => within_pure

omit [IsTrans DB R] in
theorem within_createAnswer {id : String} {tx? : Option PaymeTransaction} :
    Within R (PaymeWebHookAPIView.createAnswer id tx?) := by
  cases tx? with
  | none => exact within_raise
  | some tx => exact within_pure

omit [IsTrans DB R] in
theorem within_performAnswer {id : String} {result? : Option Result} :
    Within R (PaymeWebHookAPIView.performAnswer id result?) := by
  cases result? with
  | none => exact within_raise
  | some result => exact within_pure

theorem within_checkPerform {cfg : Settings} {params : Params} :
    Within R (PaymeWebHookAPIView.checkPerformTransaction cfg params) :=
  .bind within_fetch fun _ => .bind within_fetch fun _ => .bind within_fetchAccount fun _ =>
    .bind within_validateAmount fun _ => .bind within_get fun _ => within_pure

theorem within_checkTransaction {params : Params} :
    Within R (PaymeWebHookAPIView.checkTransaction params) :=
  .bind within_fetch fun _ => .bind within_fetch fun _ => within_pure

theorem within_getStatement {params : Params} :
    Within R (PaymeWebHookAPIView.getStatement params) :=
  .bind within_fetch fun _ => .bind within_fetch fun _ => .bind within_get fun _ => within_pure

end Reads

section Frames

theorem within_insert {db' : DB} {α : Type} {t : Option α} {set : α → DB} {db : DB}
    (hset : ∀ a, Frame db (set a)) (h : t.map set = some db') : Frame db db' := by
  obtain ⟨a, -, rfl⟩ := Option.map_eq_some_iff.mp h
  exact hset a

theorem within_createAddress {a : Profiles.ClientAddress} : Within Frame (createAddress a) :=
  within_write fun _ _ => within_insert fun _ => ⟨rfl, rfl, rfl, rfl⟩

theorem within_createDevice {d : Profiles.ClientDevice} : Within Frame (createDevice d) :=
  within_write fun _ _ => within_insert fun _ => ⟨rfl, rfl, rfl, rfl⟩

theorem within_createClient {c : Profiles.Client} : Within Frame (createClient c) :=
  within_write fun _ _ => within_insert fun _ => ⟨rfl, rfl, rfl, rfl⟩

theorem within_createAssignedMaster {a : Assignment} : Within Frame (createAssignedMaster a) :=
  within_write fun _ _ => within_insert fun _ => ⟨rfl, rfl, rfl, rfl⟩

theorem within_createAssistant {a : Assignment} : Within Frame (createAssistant a) :=
  within_write fun _ _ => within_insert fun _ => ⟨rfl, rfl, rfl, rfl⟩

theorem within_saveAssignedMaster {a : Assignment} : Within Frame (saveAssignedMaster a) :=
  within_modify fun _ => ⟨rfl, rfl, rfl, rfl⟩

theorem within_saveAssistant {a : Assignment} : Within Frame (saveAssistant a) :=
  within_modify fun _ => ⟨rfl, rfl, rfl, rfl⟩

theorem within_deviceAddress {ctx : Context} {client : Uuid} {data : Orders.OrderPayload} :
    Within Frame (OrderSerializer.deviceAddress ctx client data) := by
  unfold OrderSerializer.deviceAddress
  cases data.address with
  | some address => exact within_pure
  | none =>
      refine .bind within_require fun _ => .bind within_get fun db => ?_
      split
      · exact .bind within_createAddress fun _ => within_pure
      · exact within_pure
      · exact within_raise

theorem within_resolveDevice {ctx : Context} {client : Uuid} {data : Orders.OrderPayload} :
    Within Frame (OrderSerializer.resolveDevice ctx client data) := by
  unfold OrderSerializer.resolveDevice
  cases data.device with
  | some pk => exact .bind within_fetch fun _ => .bind within_require fun _ => within_pure
  | none =>
      refine within_ite within_pure ?_
      exact .bind within_deviceAddress fun _ => .bind within_createDevice fun _ => within_pure

theorem within_deactivate {save : Assignment → Code Unit} (hsave : ∀ a, Within Frame (save a))
    {wanted : List Uuid} {rows : List Assignment} :
    Within Frame (Dashboard.DashboardOrderAssignSerializer.deactivate save wanted rows) := by
  induction rows with
  | nil => exact within_pure
  | cons row rows ih =>
      exact within_ite (.bind (hsave _) fun _ => ih) ih

theorem within_activate {save create : Assignment → Code Unit}
    (hsave : ∀ a, Within Frame (save a)) (hcreate : ∀ a, Within Frame (create a))
    {order : Uuid} {admin : Option Uuid} {existing : List Assignment} {wanted : List Uuid} :
    Within Frame (Dashboard.DashboardOrderAssignSerializer.activate save create order admin
      existing wanted) := by
  induction wanted generalizing existing with
  | nil => exact within_pure
  | cons master wanted ih =>
      unfold Dashboard.DashboardOrderAssignSerializer.activate
      split
      · exact .bind (hcreate _) fun _ => .bind ih fun _ => within_pure
      · exact within_ite ih (.bind (hsave _) fun _ => .bind ih fun _ => within_pure)

theorem within_syncSet {table : DB → Table Assignment} {save create : Assignment → Code Unit}
    (hsave : ∀ a, Within Frame (save a)) (hcreate : ∀ a, Within Frame (create a))
    {order : Uuid} {wanted : List Uuid} {admin : Option Uuid} :
    Within Frame (Dashboard.DashboardOrderAssignSerializer.syncSet table save create order
      wanted admin) :=
  .bind within_get fun _ => .bind (within_deactivate hsave) fun _ =>
    within_activate hsave hcreate

theorem within_useItem {ctx : Context} {order : Order} {i : Nat} {item : UsedItem} :
    Within Frame (OrderCompleteSerializer.useItem ctx order i item) :=
  .bind within_fetch fun _ => .bind within_require fun _ => .bind within_fetch fun _ =>
    .bind within_require fun _ => .bind (within_modify fun _ => ⟨rfl, rfl, rfl, rfl⟩) fun _ =>
    .bind (within_write fun _ _ => within_insert fun _ => ⟨rfl, rfl, rfl, rfl⟩) fun _ =>
    within_pure

/-- Deducting the used equipment touches the stock and the usages only. -/
theorem within_useItems {ctx : Context} {order : Order} {i : Nat} {items : List UsedItem} :
    Within Frame (OrderCompleteSerializer.useItems ctx order i items) := by
  induction items generalizing i with
  | nil => exact within_pure
  | cons item items ih => exact .bind within_useItem fun _ => .bind ih fun _ => within_pure

/-- The dashboard's assign endpoint writes assignment rows only. -/
theorem within_dashboardAssign {admin : Option Uuid} {pk : Uuid}
    {data : Dashboard.OrderAssignPayload} :
    Within Frame (Dashboard.DashboardOrderAssignAPIView.patch admin pk data) := by
  unfold Dashboard.DashboardOrderAssignAPIView.patch
  refine .bind within_getOrder fun _ => .bind within_require fun _ =>
    .bind within_checkMasters fun _ => .bind within_checkMasters fun _ =>
    .bind within_checkMasters fun _ => ?_
  have hmasters : ∀ masters, Within Frame
      (Dashboard.DashboardOrderAssignSerializer.syncSet DB.assignedMasters saveAssignedMaster
        createAssignedMaster pk masters admin) := fun _ =>
    within_syncSet (fun _ => within_saveAssignedMaster) fun _ => within_createAssignedMaster
  have hassistants : ∀ masters, Within Frame
      (Dashboard.DashboardOrderAssignSerializer.syncSet DB.assistants saveAssistant
        createAssistant pk masters admin) := fun _ =>
    within_syncSet (fun _ => within_saveAssistant) fun _ => within_createAssistant
  cases Dashboard.DashboardOrderAssignSerializer.wantedMasters data <;>
    cases data.assistants
  · exact .bind within_pure fun _ => within_pure
  · exact .bind within_pure fun _ => .bind (hassistants _) fun _ => within_pure
  · exact .bind (hmasters _) fun _ => within_pure
  · exact .bind (hmasters _) fun _ => .bind (hassistants _) fun _ => within_pure

theorem within_getOrCreateClient {ctx : Context} {phone : Option String} {firstName : String} :
    Within Frame (InternalApi.getOrCreateClient ctx phone firstName) := by
  unfold InternalApi.getOrCreateClient
  refine .bind within_fetch fun _ => .bind within_get fun _ => ?_
  split
  · exact within_pure
  · exact .bind within_createClient fun _ => within_pure

theorem within_saveProduct {p : WarehouseProduct} : Within Frame (saveProduct p) :=
  within_modify fun _ => ⟨rfl, rfl, rfl, rfl⟩

theorem within_createMovement {m : StockMovement} : Within Frame (createMovement m) :=
  within_write fun _ _ => within_insert fun _ => ⟨rfl, rfl, rfl, rfl⟩

theorem within_saveInventory {i : MasterInventory} : Within Frame (saveInventory i) :=
  within_modify fun _ => ⟨rfl, rfl, rfl, rfl⟩

theorem within_assignInventory {ctx : Context} {master : Profiles.Master} {product : Uuid}
    {quantity : Int} : Within Frame (assignInventoryToMaster ctx master product quantity) := by
  refine .atomic (.bind within_fetch fun product => .bind within_require fun _ =>
    .bind (.bind within_get fun db => ?_) fun _ => .bind within_saveInventory fun _ =>
    .bind within_saveProduct fun _ => .bind within_createMovement fun _ => within_pure)
  cases inventoryOf db master.id product.id with
  | some item => exact within_pure
  | none =>
      exact .bind (within_write fun _ _ => within_insert fun _ => ⟨rfl, rfl, rfl, rfl⟩)
        fun _ => within_pure

theorem within_returnInventory {ctx : Context} {item : MasterInventory} :
    Within Frame (returnInventoryToWarehouse ctx item) :=
  .atomic (.bind within_fetch fun _ =>
    .bind (within_ite within_pure (.bind within_saveProduct fun _ =>
      .bind within_fetch fun _ => within_createMovement)) fun _ =>
    .bind (.bind within_get fun _ => within_ite within_saveInventory
      (within_modify fun _ => ⟨rfl, rfl, rfl, rfl⟩)) fun _ => within_pure)

theorem within_adjustInventory {ctx : Context} {item product : Uuid} {newQuantity : Int} :
    Within Frame (adjustMasterInventory ctx item product newQuantity) :=
  .atomic (.bind within_require fun _ => .bind within_fetch fun _ => .bind within_fetch fun _ =>
    within_ite within_pure (.bind within_require fun _ => .bind within_saveProduct fun _ =>
      .bind within_saveInventory fun _ => .bind within_fetch fun _ =>
      .bind within_createMovement fun _ => within_pure))

theorem within_moveProductQuantity {product : Uuid} {delta : Int} :
    Within Frame (moveProductQuantity product delta) :=
  .bind within_fetch fun _ => .bind within_require fun _ => .bind within_saveProduct fun _ =>
    within_pure

theorem within_productUpdate {ctx : Context} {pk : Uuid} {data : Dashboard.ProductPayload} :
    Within Frame
      (Dashboard.DashboardWarehouseProductDetailAPIView.performUpdate ctx pk data) := by
  refine .bind within_fetch fun product => .bind within_requirePk fun _ =>
    .bind (within_ite within_pure within_saveProduct) fun _ => .bind ?_ fun _ => within_fetch
  cases data.quantity with
  | none => exact within_pure
  | some q =>
      exact within_ite within_pure (.bind (.atomic (.bind within_moveProductQuantity fun _ =>
        .bind within_createMovement fun _ => within_pure)) fun _ => within_pure)

theorem within_inventoryUpdate {ctx : Context} {pk : Uuid} {data : Dashboard.InventoryPayload} :
    Within Frame
      (Dashboard.DashboardMasterInventoryDetailAPIView.performUpdate ctx pk data) := by
  refine .bind within_fetch fun item => .bind ?_ fun _ =>
    .bind (within_ite within_pure within_saveInventory) fun _ => .bind ?_ fun _ => within_fetch
  · exact .bind within_requirePk fun _ => .bind within_requirePk fun _ =>
      .bind within_get fun _ => .bind within_require fun _ => .bind within_require fun _ =>
      within_require
  · cases data.quantity with
    | none => exact within_pure
    | some q =>
        exact within_ite within_pure (.bind within_adjustInventory fun _ => within_pure)

/-- The stock requests touch products, movements and the masters' stock only. -/
theorem within_stock {ctx : Context} (r : StockRequest) : Within Frame (r.view ctx) := by
  cases r with
  | productCreate data =>
      exact .map (.bind within_requirePk fun _ => .bind within_fetch fun _ =>
        .bind (within_write fun _ _ => within_insert fun _ => ⟨rfl, rfl, rfl, rfl⟩) fun _ =>
        .bind (within_ite within_pure within_createMovement) fun _ => within_pure)
  | productUpdate pk data => exact .map within_productUpdate
  | movementCreate data =>
      exact .map (.bind within_requirePk fun _ => .bind within_requirePk fun _ =>
        .atomic (.bind (.atomic within_moveProductQuantity) fun _ =>
          .bind within_createMovement fun _ => within_pure))
  | movementUpdate pk data =>
      exact .map (.bind within_fetch fun _ => .bind within_requirePk fun _ =>
        .bind within_requirePk fun _ => .bind within_require fun _ =>
        .bind within_require fun _ => .bind within_require fun _ =>
        .bind within_require fun _ => .bind (within_modify fun _ => ⟨rfl, rfl, rfl, rfl⟩) fun _ =>
        within_pure)
  | movementDestroy pk =>
      exact .map (.bind within_fetch fun _ => .bind (.atomic within_moveProductQuantity) fun _ =>
        within_modify fun _ => ⟨rfl, rfl, rfl, rfl⟩)
  | inventoryCreate master product quantity =>
      exact .map (.bind within_fetch fun _ => .bind within_fetch fun _ => within_assignInventory)
  | inventoryUpdate pk data => exact .map within_inventoryUpdate
  | inventoryDestroy pk =>
      exact .map (.bind within_fetch fun _ => .bind within_returnInventory fun _ => within_pure)
  | adminAssign master data =>
      exact .map (.bind within_fetch fun _ => .bind within_fetch fun _ => within_assignInventory)
  | adminUpdate master item quantity =>
      exact .map (.bind within_fetch fun _ => within_adjustInventory)
  | adminDelete master item =>
      exact .map (.bind within_fetch fun _ => .bind within_returnInventory fun _ => within_pure)

end Frames

section Writes

theorem clean_internalCreate {ctx : Context} {data : InternalApi.OrderPayload} :
    Clean Frame (InternalApi.InternalOrderWriteSerializer.create ctx data) :=
  .bind within_internalValidate fun _ => .bind within_require fun _ =>
    .bind within_require fun _ => .bind within_fetch fun _ => .bind within_fetch fun _ =>
    .bind_total clean_write fun _ => .bind total_modify fun _ => total_pure

theorem clean_getOrCreateWallet {master : Uuid} : Clean Frame (getOrCreateWallet master) := by
  unfold getOrCreateWallet
  refine .bind within_get fun db => ?_
  cases db.wallet.wallets.find? master with
  | some wallet => exact within_pure.clean
  | none => exact .bind_total clean_write fun _ => total_pure

theorem clean_withdrawUpdate {ctx : Context} {pk : Uuid} {data : WithdrawPayload} :
    Clean Frame (DashboardWithdrawRequestDetailAPIView.performUpdate ctx pk data) :=
  .bind within_fetch fun _ => .bind within_requirePk fun _ =>
    clean_ite (.bind_total clean_atomic fun _ => total_pure)
      (clean_ite (.bind_total clean_atomic fun _ => total_pure)
        (.bind within_require fun _ => total_modify.clean))

theorem clean_transactionUpdate {pk : Uuid} {data : TransactionPatch} :
    Clean Frame (DashboardWalletTransactionDetailAPIView.performUpdate pk data) :=
  .bind within_fetch fun _ => .bind within_requirePk fun _ => .bind within_requirePk fun _ =>
    .bind within_require fun _ => .bind within_require fun _ => .bind within_require fun _ =>
    .bind within_require fun _ => .bind within_require fun _ => total_modify.clean

/-- A request other than the webhook's Create and Perform that fails leaves the
orders, payments, wallets and the journal alone. -/
theorem clean_view {cfg : Settings} {ctx : Context} {r : Request}
    (hcreate : ∀ params, r ≠ .paymeCreate params)
    (hperform : ∀ params, r ≠ .paymePerform params) : Clean Frame (view cfg ctx r) := by
  cases r with
  | clientCreate user data =>
      exact .map (.bind within_requirePk fun _ => .bind within_requirePk fun _ =>
        .bind within_requirePk fun _ => .bind within_resolveDevice fun _ =>
        .bind_total clean_write fun _ => total_pure)
  | clientCancel user pk reason => exact .map clean_atomic
  | clientPay user pk method => exact .map clean_atomic
  | masterAccept user pk => exact .map clean_atomic
  | masterOnWay user pk => exact .map clean_atomic
  | masterStart user pk => exact .map (.bind within_getMasterOrder fun _ => clean_atomic)
  | masterReject user pk reason => exact .map clean_atomic
  | masterComplete user pk data =>
      exact .map (.bind within_getMasterOrder fun _ =>
        .bind within_completeValidate fun _ => clean_atomic)
  | masterReceiptConfirm user pk =>
      exact .map (.bind within_getMasterOrder fun _ => .bind within_require fun _ =>
        clean_ite total_pure.clean (total_modify.bind fun _ => total_pure).clean)
  | useInventory user pk data => exact .map clean_atomic
  | dashboardCreate data =>
      exact .map (.bind within_checkFields fun _ => .bind within_fetch fun _ =>
        .bind within_fetch fun _ => .bind within_fetch fun _ => .bind within_fetch fun _ =>
        .bind within_require fun _ => .bind within_dashboardValidate fun _ =>
        .bind within_fetch fun _ => .bind within_fetch fun _ => .bind within_fetch fun _ =>
        .bind_total clean_write fun _ => total_pure)
  | dashboardUpdate pk data =>
      exact .map (.bind within_getOrder fun _ => .bind within_checkFields fun _ =>
        .bind within_require fun _ => .bind within_dashboardValidate fun _ =>
        (total_modify.bind fun _ => total_pure).clean)
  | dashboardStatus pk data => exact .map (.bind within_getOrder fun _ => clean_atomic)
  | dashboardAssign admin pk data => exact .map within_dashboardAssign.clean
  | internalCreate data => exact .map clean_internalCreate
  | internalExpress data =>
      exact .map (.bind within_getOrCreateClient fun _ => .bind within_fetch fun _ =>
        .bind within_fetch fun _ => clean_internalCreate)
  | internalUpdate pk data =>
      exact .map (.bind within_getOrder fun _ => .bind within_internalValidate fun _ =>
        .bind within_require fun _ => (total_modify.bind fun _ => total_pure).clean)
  | internalAssign pk master =>
      refine .map (.bind within_getOrder fun _ => ?_)
      cases master with
      | none =>
          exact (total_modify.bind fun _ => total_pure).clean
      | some id =>
          exact .bind within_fetch fun _ => .bind within_require fun _ =>
            (total_modify.bind fun _ => total_pure).clean
  | paymeCheckPerform params =>
      exact .map within_checkPerform.clean
  | paymeCreate params => exact absurd rfl (hcreate params)
  | paymePerform params => exact absurd rfl (hperform params)
  | paymeCancel params =>
      exact .map (.bind within_fetch fun _ => .bind_total clean_atomic fun _ => total_pure)
  | paymeCheck params => exact .map within_checkTransaction.clean
  | paymeStatement params => exact .map within_getStatement.clean
  | walletView master => exact .map clean_getOrCreateWallet
  | withdrawCreate user amount => exact .map clean_atomic
  | dashboardWithdrawCreate master amount status adminNote =>
      exact .map (.bind within_requirePk fun _ => clean_atomic)
  | dashboardWithdrawUpdate pk data => exact .map clean_withdrawUpdate
  | dashboardWithdrawDestroy pk =>
      exact .map (.bind within_fetch fun _ => .bind within_require fun _ => total_modify.clean)
  | handoverAccept pk note => exact .map (.bind within_fetch fun _ => clean_atomic)
  | handoverReject pk note => exact .map (.bind within_fetch fun _ => clean_atomic)
  | transactionCreate data =>
      exact .map (.bind within_requirePk fun _ => .bind within_requirePk fun _ => clean_atomic)
  | transactionUpdate pk data => exact .map clean_transactionUpdate
  | transactionDestroy pk =>
      exact .map (.bind within_fetch fun _ => .bind_total clean_atomic fun _ => total_modify)
  | stock r => exact (within_stock r).clean

end Writes

end Homex
