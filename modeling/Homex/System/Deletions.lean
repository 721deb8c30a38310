import Homex.Accounts.Deletion
import Homex.Payme.StateMachine
import Homex.Wallet.Balance

/-!
# Requests and deletions

The rows of the database, each with the foreign keys it has in the schema, and the
deletions of the accounts and of the staff between the other requests. A master's wallet
goes with its transactions, so that every wallet that is left still equals its ledger; and a
row of Payme is never deleted, nor the order it is for.
-/

namespace Homex

open Relational Relational.Table Orders Profiles Wallet Warehouse Payme

/-- A row of one of the tables. -/
inductive DBRow
  | client (row : Client)
  | master (row : Master)
  | service (row : Service)
  | clientAddress (row : ClientAddress)
  | clientDevice (row : ClientDevice)
  | warehouseCategory (row : WarehouseCategory)
  | warehouseProduct (row : WarehouseProduct)
  | stockMovement (row : StockMovement)
  | masterInventory (row : MasterInventory)
  | order (row : Order)
  | orderMaster (row : Assignment)
  | orderAssistant (row : Assignment)
  | orderInventoryUsage (row : OrderInventoryUsage)
  | masterWallet (row : MasterWallet)
  | walletTransaction (row : WalletTransaction)
  | withdrawRequest (row : WithdrawRequest)
  | paymeTransaction (row : PaymeTransaction)

/-- The key of a row. -/
inductive DBKey
  | client (id : Uuid)
  | master (id : Uuid)
  | service (id : Uuid)
  | clientAddress (id : Uuid)
  | clientDevice (id : Uuid)
  | warehouseCategory (id : Uuid)
  | warehouseProduct (id : Uuid)
  | stockMovement (id : Uuid)
  | masterInventory (id : Uuid)
  | order (id : Uuid)
  | orderMaster (key : Uuid × Uuid)
  | orderAssistant (key : Uuid × Uuid)
  | orderInventoryUsage (id : Uuid)
  | masterWallet (master : Uuid)
  | walletTransaction (id : Uuid)
  | withdrawRequest (id : Uuid)
  | paymeTransaction (transactionId : String)
  deriving DecidableEq

namespace DBRow

def key : DBRow → DBKey
  | .client row => .client (Relational.key row)
  | .master row => .master (Relational.key row)
  | .service row => .service (Relational.key row)
  | .clientAddress row => .clientAddress (Relational.key row)
  | .clientDevice row => .clientDevice (Relational.key row)
  | .warehouseCategory row => .warehouseCategory (Relational.key row)
  | .warehouseProduct row => .warehouseProduct (Relational.key row)
  | .stockMovement row => .stockMovement (Relational.key row)
  | .masterInventory row => .masterInventory (Relational.key row)
  | .order row => .order (Relational.key row)
  | .orderMaster row => .orderMaster (Relational.key row)
  | .orderAssistant row => .orderAssistant (Relational.key row)
  | .orderInventoryUsage row => .orderInventoryUsage (Relational.key row)
  | .masterWallet row => .masterWallet (Relational.key row)
  | .walletTransaction row => .walletTransaction (Relational.key row)
  | .withdrawRequest row => .withdrawRequest (Relational.key row)
  | .paymeTransaction row => .paymeTransaction (Relational.key row)

/-- A nullable foreign key. -/
def nullable (key : Uuid → DBKey) (pk : Option Uuid) : List (OnDelete × DBKey) :=
  pk.toList.map fun pk => (.setNull, key pk)

def refs : DBRow → List (OnDelete × DBKey)
  | .clientAddress row => [(.cascade, .client row.client)]
  | .clientDevice row => [(.cascade, .client row.client), (.cascade, .clientAddress row.address)]
  | .warehouseProduct row => nullable .warehouseCategory row.category
  | .stockMovement row =>
      (.cascade, .warehouseProduct row.product) :: nullable .master row.master
  | .masterInventory row =>
      [(.cascade, .master row.master), (.protect, .warehouseProduct row.warehouseProduct)]
  | .order row =>
      [(.cascade, .client row.client), (.protect, .service row.service)] ++
        nullable .master row.master ++ nullable .clientAddress row.address ++
        nullable .clientDevice row.device ++ nullable .master row.receiptApprovedBy
  | .orderMaster row => [(.cascade, .order row.order), (.protect, .master row.master)]
  | .orderAssistant row => [(.cascade, .order row.order), (.protect, .master row.master)]
  | .orderInventoryUsage row =>
      [(.cascade, .order row.order), (.protect, .masterInventory row.inventory)]
  | .masterWallet row => [(.cascade, .master row.master)]
  | .walletTransaction row => (.cascade, .master row.master) :: nullable .order row.order
  | .withdrawRequest row => [(.cascade, .master row.master)]
  | .paymeTransaction row => [(.protect, .order row.order)]
  | _ => []

/-- A nullable foreign key, set to null if it is one of a set of keys. -/
def unset (p : DBKey → Bool) (key : Uuid → DBKey) (pk : Option Uuid) : Option Uuid :=
  pk.filter fun pk => !p (key pk)

def clearProduct (p : DBKey → Bool) (row : WarehouseProduct) : WarehouseProduct :=
  { row with category := unset p .warehouseCategory row.category }

def clearMovement (p : DBKey → Bool) (row : StockMovement) : StockMovement :=
  { row with master := unset p .master row.master }

def clearOrder (p : DBKey → Bool) (row : Order) : Order :=
  { row with
      master := unset p .master row.master
      address := unset p .clientAddress row.address
      device := unset p .clientDevice row.device
      receiptApprovedBy := unset p .master row.receiptApprovedBy }

def clearTransaction (p : DBKey → Bool) (row : WalletTransaction) : WalletTransaction :=
  { row with order := unset p .order row.order }

theorem key_clearProduct (p : DBKey → Bool) (row : WarehouseProduct) :
    Relational.key (clearProduct p row) = Relational.key row := rfl

theorem key_clearMovement (p : DBKey → Bool) (row : StockMovement) :
    Relational.key (clearMovement p row) = Relational.key row := rfl

theorem key_clearOrder (p : DBKey → Bool) (row : Order) :
    Relational.key (clearOrder p row) = Relational.key row := rfl

theorem key_clearTransaction (p : DBKey → Bool) (row : WalletTransaction) :
    Relational.key (clearTransaction p row) = Relational.key row := rfl

def clear (p : DBKey → Bool) : DBRow → DBRow
  | .warehouseProduct row => .warehouseProduct (clearProduct p row)
  | .stockMovement row => .stockMovement (clearMovement p row)
  | .order row => .order (clearOrder p row)
  | .walletTransaction row => .walletTransaction (clearTransaction p row)
  | row => row

/-- The second list has the references of the first, less the nullable ones into a set. -/
def Cleared (p : DBKey → Bool) (l l' : List (OnDelete × DBKey)) : Prop :=
  ∀ ref, ref ∈ l' ↔ ref ∈ l ∧ ¬(ref.1 = .setNull ∧ p ref.2 = true)

namespace Cleared

variable {p : DBKey → Bool} {l l' m m' : List (OnDelete × DBKey)}

theorem nil : Cleared p [] [] := fun _ => by simp

theorem cons {action : OnDelete} (k : DBKey) (haction : action ≠ .setNull)
    (h : Cleared p l l') : Cleared p ((action, k) :: l) ((action, k) :: l') := by
  intro ref
  rw [List.mem_cons, List.mem_cons, h ref, or_and_right]
  refine or_congr_left ⟨?_, And.left⟩
  rintro rfl
  exact ⟨rfl, fun hnull => haction hnull.1⟩

theorem append (h : Cleared p l l') (h' : Cleared p m m') : Cleared p (l ++ m) (l' ++ m') := by
  intro ref
  rw [List.mem_append, List.mem_append, h ref, h' ref, or_and_right]

theorem nullable (key : Uuid → DBKey) (pk : Option Uuid) :
    Cleared p (DBRow.nullable key pk) (DBRow.nullable key (unset p key pk)) := by
  intro ref
  simp only [DBRow.nullable, unset, List.mem_map, Option.mem_toList, Option.filter_eq_some_iff]
  constructor
  · rintro ⟨pk, ⟨hpk, hp⟩, rfl⟩
    exact ⟨⟨pk, hpk, rfl⟩, by simpa using hp⟩
  · rintro ⟨⟨pk, hpk, rfl⟩, hp⟩
    exact ⟨pk, ⟨hpk, by simpa using hp⟩, rfl⟩

end Cleared

theorem cleared_refs (p : DBKey → Bool) (row : DBRow) :
    Cleared p row.refs (row.clear p).refs := by
  have hcascade : OnDelete.cascade ≠ .setNull := by decide
  have hprotect : OnDelete.protect ≠ .setNull := by decide
  cases row with
  | client _ => exact .nil
  | master _ => exact .nil
  | service _ => exact .nil
  | clientAddress _ => exact .cons _ hcascade .nil
  | clientDevice _ => exact .cons _ hcascade (.cons _ hcascade .nil)
  | warehouseCategory _ => exact .nil
  | warehouseProduct row => exact .nullable .warehouseCategory row.category
  | stockMovement row => exact .cons _ hcascade (.nullable .master row.master)
  | masterInventory _ => exact .cons _ hcascade (.cons _ hprotect .nil)
  | order row =>
      refine .append (.append (.append (.append ?_ ?_) ?_) ?_) ?_
      · exact .cons _ hcascade (.cons _ hprotect .nil)
      · exact .nullable .master row.master
      · exact .nullable .clientAddress row.address
      · exact .nullable .clientDevice row.device
      · exact .nullable .master row.receiptApprovedBy
  | orderMaster _ => exact .cons _ hcascade (.cons _ hprotect .nil)
  | orderAssistant _ => exact .cons _ hcascade (.cons _ hprotect .nil)
  | orderInventoryUsage _ => exact .cons _ hcascade (.cons _ hprotect .nil)
  | masterWallet _ => exact .cons _ hcascade .nil
  | walletTransaction row => exact .cons _ hcascade (.nullable .order row.order)
  | withdrawRequest _ => exact .cons _ hcascade .nil
  | paymeTransaction _ => exact .cons _ hprotect .nil

end DBRow

instance : Linked DBRow DBKey where
  key := DBRow.key
  refs := DBRow.refs
  clear := DBRow.clear
  key_clear p row := by cases row <;> rfl
  mem_refs_clear := DBRow.cleared_refs

/-! ### The foreign keys of the schema -/

namespace DBRow

open Schema (Model Column)

def model : DBRow → Model
  | .client _ => .client
  | .master _ => .master
  | .service _ => .service
  | .clientAddress _ => .clientAddress
  | .clientDevice _ => .clientDevice
  | .warehouseCategory _ => .warehouseCategory
  | .warehouseProduct _ => .warehouseProduct
  | .stockMovement _ => .stockMovement
  | .masterInventory _ => .masterInventory
  | .order _ => .order
  | .orderMaster _ => .orderMaster
  | .orderAssistant _ => .dashboardOrderAssistant
  | .orderInventoryUsage _ => .orderInventoryUsage
  | .masterWallet _ => .masterWallet
  | .walletTransaction _ => .walletTransaction
  | .withdrawRequest _ => .withdrawRequest
  | .paymeTransaction _ => .paymeTransaction

/-- The foreign keys of a row that are columns of its table here. -/
def columns : DBRow → List (Column × Uuid)
  | .clientAddress row => [(.client, row.client)]
  | .clientDevice row => [(.client, row.client), (.address, row.address)]
  | .warehouseProduct row => row.category.toList.map fun pk => (.category, pk)
  | .stockMovement row => (.product, row.product) :: row.master.toList.map fun pk => (.master, pk)
  | .masterInventory row => [(.master, row.master), (.warehouseProduct, row.warehouseProduct)]
  | .order row =>
      [(.client, row.client), (.service, row.service)] ++
        row.master.toList.map (fun pk => (.master, pk)) ++
        row.address.toList.map (fun pk => (.address, pk)) ++
        row.device.toList.map (fun pk => (.device, pk)) ++
        row.receiptApprovedBy.toList.map (fun pk => (.receiptApprovedBy, pk))
  | .orderMaster row => [(.order, row.order), (.master, row.master)]
  | .orderAssistant row => [(.order, row.order), (.assistant, row.master)]
  | .orderInventoryUsage row => [(.order, row.order), (.inventory, row.inventory)]
  | .masterWallet row => [(.master, row.master)]
  | .walletTransaction row => (.master, row.master) :: row.order.toList.map fun pk => (.order, pk)
  | .withdrawRequest row => [(.master, row.master)]
  | .paymeTransaction row => [(.order, row.order)]
  | _ => []

end DBRow

/-- The key in the schema of a row that others refer to. -/
def DBKey.ofSchema : Schema.Key → Option DBKey
  | (.client, pk) => some (.client pk)
  | (.master, pk) => some (.master pk)
  | (.service, pk) => some (.service pk)
  | (.clientAddress, pk) => some (.clientAddress pk)
  | (.clientDevice, pk) => some (.clientDevice pk)
  | (.warehouseCategory, pk) => some (.warehouseCategory pk)
  | (.warehouseProduct, pk) => some (.warehouseProduct pk)
  | (.masterInventory, pk) => some (.masterInventory pk)
  | (.order, pk) => some (.order pk)
  | _ => none

/-- The references of a row are those that the schema gives its columns. -/
theorem DBRow.refs_eq_schema (row : DBRow) :
    row.refs.map (fun ref => (ref.1, some ref.2)) =
      row.columns.map fun column =>
        match Schema.foreignKey? row.model column.1 with
        | some fk => (fk.onDelete, DBKey.ofSchema (fk.target, column.2))
        | none => (.cascade, none) := by
  have hnullable : ∀ (key : Uuid → DBKey) (model : Schema.Model) (column : Schema.Column)
      (target : Schema.Model) (pk : Option Uuid),
      Schema.foreignKey? model column = some ⟨model, column, target, .setNull⟩ →
      (∀ pk, DBKey.ofSchema (target, pk) = some (key pk)) →
      (DBRow.nullable key pk).map (fun ref => (ref.1, some ref.2)) =
        (pk.toList.map fun pk => (column, pk)).map fun column =>
          match Schema.foreignKey? model column.1 with
          | some fk => (fk.onDelete, DBKey.ofSchema (fk.target, column.2))
          | none => (.cascade, none) := by
    intro key model column target pk hkey htarget
    rw [DBRow.nullable, List.map_map, List.map_map]
    refine List.map_congr_left fun pk _ => ?_
    simp only [Function.comp_apply, hkey, htarget]
  cases row with
  | client _ => rfl
  | master _ => rfl
  | service _ => rfl
  | clientAddress _ => rfl
  | clientDevice _ => rfl
  | warehouseCategory _ => rfl
  | warehouseProduct row =>
      exact hnullable _ .warehouseProduct .category .warehouseCategory _ rfl fun _ => rfl
  | stockMovement row =>
      exact congrArg _ (hnullable _ .stockMovement .master .master _ rfl fun _ => rfl)
  | masterInventory _ => rfl
  | order row =>
      simp only [DBRow.refs, DBRow.columns, DBRow.model, List.map_append]
      rw [hnullable _ .order .master .master _ rfl fun _ => rfl,
        hnullable _ .order .address .clientAddress _ rfl fun _ => rfl,
        hnullable _ .order .device .clientDevice _ rfl fun _ => rfl,
        hnullable _ .order .receiptApprovedBy .master _ rfl fun _ => rfl]
      rfl
  | orderMaster _ => rfl
  | orderAssistant _ => rfl
  | orderInventoryUsage _ => rfl
  | masterWallet _ => rfl
  | walletTransaction row =>
      exact congrArg _ (hnullable _ .walletTransaction .order .order _ rfl fun _ => rfl)
  | withdrawRequest _ => rfl
  | paymeTransaction _ => rfl

/-! ### The tables as one -/

namespace DB

open Schema (Model)

/-- The rows of a model. -/
def rowsOf (db : DB) : Model → List DBRow
  | .client => db.clients.rows.map .client
  | .master => db.masters.rows.map .master
  | .service => db.services.rows.map .service
  | .clientAddress => db.addresses.rows.map .clientAddress
  | .clientDevice => db.devices.rows.map .clientDevice
  | .warehouseCategory => db.categories.rows.map .warehouseCategory
  | .warehouseProduct => db.products.rows.map .warehouseProduct
  | .stockMovement => db.movements.rows.map .stockMovement
  | .masterInventory => db.inventory.rows.map .masterInventory
  | .order => db.orders.rows.map .order
  | .orderMaster => db.assignedMasters.rows.map .orderMaster
  | .dashboardOrderAssistant => db.assistants.rows.map .orderAssistant
  | .orderInventoryUsage => db.usages.rows.map .orderInventoryUsage
  | .masterWallet => db.wallet.wallets.rows.map .masterWallet
  | .walletTransaction => db.wallet.transactions.rows.map .walletTransaction
  | .withdrawRequest => db.wallet.withdraws.rows.map .withdrawRequest
  | .paymeTransaction => db.payme.rows.map .paymeTransaction
  | _ => []

/-- The models of the tables. -/
def models : List Model :=
  [.client, .master, .service, .clientAddress, .clientDevice, .warehouseCategory,
   .warehouseProduct, .stockMovement, .masterInventory, .order, .orderMaster,
   .dashboardOrderAssistant, .orderInventoryUsage, .masterWallet, .walletTransaction,
   .withdrawRequest, .paymeTransaction]

theorem model_of_mem_rowsOf {db : DB} {model : Model} {row : DBRow}
    (h : row ∈ db.rowsOf model) : row.model = model := by
  cases model <;> first
    | (obtain ⟨_, -, rfl⟩ := List.mem_map.mp h; rfl)
    | exact absurd h List.not_mem_nil

/-- The rows of one table have different keys. -/
theorem nodup_map_key {ρ κ : Type} [Keyed ρ κ] (t : Table ρ) (row : ρ → DBRow) (k : κ → DBKey)
    (hk : Function.Injective k) (hkey : ∀ r, (row r).key = k (key r)) :
    ((t.rows.map row).map DBRow.key).Nodup := by
  rw [List.map_map, show DBRow.key ∘ row = k ∘ key from funext hkey, ← List.map_map]
  exact t.nodup_keys.map hk

theorem nodup_rowsOf (db : DB) (model : Model) : ((db.rowsOf model).map DBRow.key).Nodup := by
  cases model <;> first
    | exact nodup_map_key _ _ _ (fun _ _ h => by injection h) fun _ => rfl
    | exact List.nodup_nil

/-- Every row of the tables, table by table. -/
def table (db : DB) : Table DBRow :=
  ⟨models.flatMap db.rowsOf, by
    rw [List.map_flatMap, List.nodup_flatMap]
    refine ⟨fun model _ => db.nodup_rowsOf model, ?_⟩
    refine List.Nodup.pairwise_of_forall_ne (by decide) fun model _ model' _ hne => ?_
    intro k hk hk'
    obtain ⟨row, hrow, rfl⟩ := List.mem_map.mp hk
    obtain ⟨row', hrow', hkey⟩ := List.mem_map.mp hk'
    apply hne
    rw [← model_of_mem_rowsOf hrow, ← model_of_mem_rowsOf hrow']
    cases row <;> cases row' <;> first | rfl | exact nomatch hkey⟩

theorem mem_table {db : DB} {row : DBRow} :
    row ∈ db.table.rows ↔ ∃ model ∈ models, row ∈ db.rowsOf model :=
  List.mem_flatMap

/-- The database without the rows in `ks`, the nullable foreign keys into `ks` set to null. -/
def without (db : DB) (ks : List DBKey) : DB :=
  { db with
      clients := db.clients.retain (fun r => decide (.client (key r) ∉ ks)) id fun _ => rfl
      masters := db.masters.retain (fun r => decide (.master (key r) ∉ ks)) id fun _ => rfl
      services := db.services.retain (fun r => decide (.service (key r) ∉ ks)) id fun _ => rfl
      addresses :=
        db.addresses.retain (fun r => decide (.clientAddress (key r) ∉ ks)) id fun _ => rfl
      devices := db.devices.retain (fun r => decide (.clientDevice (key r) ∉ ks)) id fun _ => rfl
      categories :=
        db.categories.retain (fun r => decide (.warehouseCategory (key r) ∉ ks)) id fun _ => rfl
      products :=
        db.products.retain (fun r => decide (.warehouseProduct (key r) ∉ ks))
          (DBRow.clearProduct (inside ks)) (DBRow.key_clearProduct _)
      movements :=
        db.movements.retain (fun r => decide (.stockMovement (key r) ∉ ks))
          (DBRow.clearMovement (inside ks)) (DBRow.key_clearMovement _)
      inventory :=
        db.inventory.retain (fun r => decide (.masterInventory (key r) ∉ ks)) id fun _ => rfl
      orders :=
        db.orders.retain (fun r => decide (.order (key r) ∉ ks)) (DBRow.clearOrder (inside ks))
          (DBRow.key_clearOrder _)
      assignedMasters :=
        db.assignedMasters.retain (fun r => decide (.orderMaster (key r) ∉ ks)) id fun _ => rfl
      assistants :=
        db.assistants.retain (fun r => decide (.orderAssistant (key r) ∉ ks)) id fun _ => rfl
      usages :=
        db.usages.retain (fun r => decide (.orderInventoryUsage (key r) ∉ ks)) id fun _ => rfl
      wallet :=
        { wallets :=
            db.wallet.wallets.retain (fun r => decide (.masterWallet (key r) ∉ ks)) id fun _ => rfl
          transactions :=
            db.wallet.transactions.retain (fun r => decide (.walletTransaction (key r) ∉ ks))
              (DBRow.clearTransaction (inside ks)) (DBRow.key_clearTransaction _)
          withdraws :=
            db.wallet.withdraws.retain (fun r => decide (.withdrawRequest (key r) ∉ ks)) id
              fun _ => rfl }
      payme := db.payme.retain (fun r => decide (.paymeTransaction (key r) ∉ ks)) id fun _ => rfl }

/-- `DELETE` of a row, with what follows from it; nothing when a row is protected. -/
def deleteCascade? (db : DB) (k : DBKey) : Option DB :=
  if ∃ row ∈ db.table.rows, ProtectsIn (db.table.gone k) row then none
  else some (db.without (db.table.gone k))

theorem orders_without (db : DB) (ks : List DBKey) :
    (db.without ks).orders =
      db.orders.retain (fun r => decide (.order (key r) ∉ ks)) (DBRow.clearOrder (inside ks))
        (DBRow.key_clearOrder _) := rfl

theorem transactions_without (db : DB) (ks : List DBKey) :
    (db.without ks).wallet.transactions =
      db.wallet.transactions.retain (fun r => decide (.walletTransaction (key r) ∉ ks))
        (DBRow.clearTransaction (inside ks)) (DBRow.key_clearTransaction _) := rfl

/-- One table after a deletion. -/
theorem map_retain {ρ κ : Type} [Keyed ρ κ] (ks : List DBKey) (t : Table ρ)
    (row : ρ → DBRow) (k : κ → DBKey) (set : ρ → ρ) (hset : ∀ r, key (set r) = key r)
    (hkey : ∀ r, (row r).key = k (key r)) (hclear : ∀ r, row (set r) = (row r).clear (inside ks)) :
    (t.retain (fun r => decide (k (key r) ∉ ks)) set hset).rows.map row =
      ((t.rows.map row).filter fun r => decide (key r ∉ ks)).map (Linked.clear (inside ks)) := by
  rw [retain, List.map_map, List.filter_map, List.map_map]
  have hfilter : ((fun r => decide (key r ∉ ks)) ∘ row) = fun r => decide (k (key r) ∉ ks) := by
    funext r
    rw [Function.comp_apply, show key (row r) = k (key r) from hkey r]
  rw [hfilter]
  exact List.map_congr_left fun r _ => hclear r

theorem rowsOf_without (db : DB) (ks : List DBKey) (model : Model) :
    (db.without ks).rowsOf model =
      ((db.rowsOf model).filter fun r => decide (key r ∉ ks)).map (Linked.clear (inside ks)) := by
  cases model with
  | client =>
      exact map_retain ks db.clients .client .client id (fun _ => rfl) (fun _ => rfl) fun _ => rfl
  | master =>
      exact map_retain ks db.masters .master .master id (fun _ => rfl) (fun _ => rfl) fun _ => rfl
  | service =>
      exact map_retain ks db.services .service .service id
        (fun _ => rfl) (fun _ => rfl) fun _ => rfl
  | clientAddress =>
      exact map_retain ks db.addresses .clientAddress .clientAddress id
        (fun _ => rfl) (fun _ => rfl) fun _ => rfl
  | clientDevice =>
      exact map_retain ks db.devices .clientDevice .clientDevice id
        (fun _ => rfl) (fun _ => rfl) fun _ => rfl
  | warehouseCategory =>
      exact map_retain ks db.categories .warehouseCategory .warehouseCategory id
        (fun _ => rfl) (fun _ => rfl) fun _ => rfl
  | warehouseProduct =>
      exact map_retain ks db.products .warehouseProduct .warehouseProduct (DBRow.clearProduct _)
        (fun _ => rfl) (fun _ => rfl) fun _ => rfl
  | stockMovement =>
      exact map_retain ks db.movements .stockMovement .stockMovement (DBRow.clearMovement _)
        (fun _ => rfl) (fun _ => rfl) fun _ => rfl
  | masterInventory =>
      exact map_retain ks db.inventory .masterInventory .masterInventory id
        (fun _ => rfl) (fun _ => rfl) fun _ => rfl
  | order =>
      exact map_retain ks db.orders .order .order (DBRow.clearOrder _)
        (fun _ => rfl) (fun _ => rfl) fun _ => rfl
  | orderMaster =>
      exact map_retain ks db.assignedMasters .orderMaster .orderMaster id
        (fun _ => rfl) (fun _ => rfl) fun _ => rfl
  | dashboardOrderAssistant =>
      exact map_retain ks db.assistants .orderAssistant .orderAssistant id
        (fun _ => rfl) (fun _ => rfl) fun _ => rfl
  | orderInventoryUsage =>
      exact map_retain ks db.usages .orderInventoryUsage .orderInventoryUsage id
        (fun _ => rfl) (fun _ => rfl) fun _ => rfl
  | masterWallet =>
      exact map_retain ks db.wallet.wallets .masterWallet .masterWallet id
        (fun _ => rfl) (fun _ => rfl) fun _ => rfl
  | walletTransaction =>
      exact map_retain ks db.wallet.transactions .walletTransaction .walletTransaction
        (DBRow.clearTransaction _) (fun _ => rfl) (fun _ => rfl) fun _ => rfl
  | withdrawRequest =>
      exact map_retain ks db.wallet.withdraws .withdrawRequest .withdrawRequest id
        (fun _ => rfl) (fun _ => rfl) fun _ => rfl
  | paymeTransaction =>
      exact map_retain ks db.payme .paymeTransaction .paymeTransaction id
        (fun _ => rfl) (fun _ => rfl) fun _ => rfl
  | _ => rfl

/-- The tables after a deletion are what the deletion leaves of the tables. -/
theorem table_without (db : DB) (ks : List DBKey) :
    (db.without ks).table = db.table.without ks := by
  apply Table.ext
  change models.flatMap (db.without ks).rowsOf =
    ((models.flatMap db.rowsOf).filter fun r => decide (key r ∉ ks)).map
      (Linked.clear (inside ks))
  rw [List.filter_flatMap, List.map_flatMap]
  congr 1
  funext model
  exact db.rowsOf_without ks model

theorem deleteCascade?_table (db : DB) (k : DBKey) :
    (db.deleteCascade? k).map table = db.table.deleteCascade? k := by
  unfold deleteCascade? Table.deleteCascade?
  split
  · rfl
  · exact congrArg some (db.table_without _)

end DB

/-! ### What a deletion leaves -/

/-- The rows that the accounts and the staff delete with nothing but `delete`. -/
inductive Deletion
  | client (pk : Uuid)
  | master (pk : Uuid)
  | order (pk : Uuid)
  | service (pk : Uuid)
  | warehouseCategory (pk : Uuid)
  | warehouseProduct (pk : Uuid)
  deriving DecidableEq

/-- The key of the row that is deleted. -/
def Deletion.target : Deletion → DBKey
  | .client pk => .client pk
  | .master pk => .master pk
  | .order pk => .order pk
  | .service pk => .service pk
  | .warehouseCategory pk => .warehouseCategory pk
  | .warehouseProduct pk => .warehouseProduct pk

/-- `destroy` of a detail view. -/
def Deletion.destroy (d : Deletion) : Code Unit := do
  let db ← Action.get
  Action.require (∃ row ∈ db.table.rows, key row = d.target) (.notFound "Http404")
  Action.write (fun db => db.deleteCascade? d.target) (.serverError "ProtectedError")

section Effects

variable {d : Deletion} {db db' : DB}

theorem destroy_eq_ok {u : Unit} (h : d.destroy db = (.ok u, db')) :
    db.deleteCascade? d.target = some db' := by
  simp only [Deletion.destroy, Action.bind_eq_ok, Action.get_eq_ok, Action.require_eq_ok,
    Action.write_eq_ok] at h
  obtain ⟨_, _, ⟨rfl, rfl⟩, _, _, ⟨-, rfl⟩, h⟩ := h
  exact h

/-- A deletion that fails changes nothing. -/
theorem clean_destroy (d : Deletion) : Action.Clean Eq d.destroy :=
  Action.Clean.bind Action.within_get fun _ =>
    Action.Clean.bind Action.within_require fun _ => Action.clean_write

theorem deleteCascade?_eq_some_iff {k : DBKey} :
    db.deleteCascade? k = some db' ↔
      (∀ row ∈ db.table.rows, ∀ k' ∈ db.table.gone k, (OnDelete.protect, k') ∉ refs row) ∧
        db' = db.without (db.table.gone k) := by
  unfold DB.deleteCascade?
  split
  · next h =>
      obtain ⟨row, hrow, k', hk', href⟩ := h
      exact ⟨fun h => (nomatch h), fun h => absurd href (h.1 row hrow k' hk')⟩
  · next h =>
      rw [Option.some.injEq]
      exact ⟨fun hdb => ⟨fun row hrow k' hk' href => h ⟨row, hrow, k', hk', href⟩, hdb.symm⟩,
        fun hdb => hdb.2.symm⟩

theorem transaction_mem_table {row : WalletTransaction}
    (h : row ∈ db.wallet.transactions.rows) : DBRow.walletTransaction row ∈ db.table.rows :=
  DB.mem_table.mpr ⟨.walletTransaction, by decide, List.mem_map_of_mem h⟩

theorem wallet_mem_table {row : MasterWallet} (h : row ∈ db.wallet.wallets.rows) :
    DBRow.masterWallet row ∈ db.table.rows :=
  DB.mem_table.mpr ⟨.masterWallet, by decide, List.mem_map_of_mem h⟩

theorem payme_mem_table {row : PaymeTransaction} (h : row ∈ db.payme.rows) :
    DBRow.paymeTransaction row ∈ db.table.rows :=
  DB.mem_table.mpr ⟨.paymeTransaction, by decide, List.mem_map_of_mem h⟩

/-- A transaction goes with its master, and only so. -/
theorem transaction_mem_gone {row : WalletTransaction} (h : row ∈ db.wallet.transactions.rows) :
    DBKey.walletTransaction row.id ∈ db.table.gone d.target ↔
      DBKey.master row.master ∈ db.table.gone d.target := by
  refine (key_mem_gone_iff (transaction_mem_table h)).trans ?_
  constructor
  · rintro (hroot | ⟨k, hk, href⟩)
    · cases d <;> cases hroot
    · rcases List.mem_cons.mp href with href | href
      · rw [(Prod.mk.inj href).2] at hk
        exact hk
      · obtain ⟨_, -, hpk⟩ := List.mem_map.mp href
        cases hpk
  · exact fun hmaster => Or.inr ⟨_, hmaster, List.mem_cons_self⟩

/-- A wallet goes with its master, and only so. -/
theorem wallet_mem_gone {row : MasterWallet} (h : row ∈ db.wallet.wallets.rows) :
    DBKey.masterWallet row.master ∈ db.table.gone d.target ↔
      DBKey.master row.master ∈ db.table.gone d.target := by
  refine (key_mem_gone_iff (wallet_mem_table h)).trans ?_
  constructor
  · rintro (hroot | ⟨k, hk, href⟩)
    · cases d <;> cases hroot
    · rw [(Prod.mk.inj (List.mem_singleton.mp href)).2] at hk
      exact hk
  · exact fun hmaster => Or.inr ⟨_, hmaster, List.mem_singleton.mpr rfl⟩

/-- A row of Payme stays. -/
theorem payme_not_mem_gone {row : PaymeTransaction} (h : row ∈ db.payme.rows) :
    DBKey.paymeTransaction row.transactionId ∉ db.table.gone d.target := by
  intro hgone
  rcases (key_mem_gone_iff (payme_mem_table h)).mp hgone with hroot | ⟨k, -, href⟩
  · cases d <;> cases hroot
  · cases (Prod.mk.inj (List.mem_singleton.mp href)).1

theorem payme_of_destroy {u : Unit} (h : d.destroy db = (.ok u, db')) : db'.payme = db.payme := by
  obtain ⟨-, rfl⟩ := deleteCascade?_eq_some_iff.mp (destroy_eq_ok h)
  exact retain_eq_self (fun _ => rfl)
    (fun row hrow => decide_eq_true (payme_not_mem_gone hrow)) fun _ _ => rfl

/-- The order of a row of Payme stays: a deletion that would take it is refused. -/
theorem order_of_destroy {u : Unit} (h : d.destroy db = (.ok u, db')) {tx : PaymeTransaction}
    (htx : tx ∈ db.payme.rows) (horder : ∃ o, db.orders.find? tx.order = some o) :
    ∃ o, db'.orders.find? tx.order = some o := by
  obtain ⟨hprotect, rfl⟩ := deleteCascade?_eq_some_iff.mp (destroy_eq_ok h)
  obtain ⟨o, ho⟩ := horder
  refine ⟨DBRow.clearOrder (inside (db.table.gone d.target)) o, ?_⟩
  rw [DB.orders_without, find?_retain, ho, Option.filter_some_pos, Option.map_some]
  rw [Table.key_of_find? ho]
  refine decide_eq_true fun hgone => ?_
  exact hprotect _ (payme_mem_table htx) _ hgone (List.mem_singleton.mpr rfl)

/-- A wallet that goes reads as a new one; the others read as before. -/
theorem wallet_of_destroy {u : Unit} (h : d.destroy db = (.ok u, db')) (m : Uuid) :
    db'.wallet.wallet m =
      if DBKey.master m ∈ db.table.gone d.target then { master := m } else db.wallet.wallet m := by
  obtain ⟨-, rfl⟩ := deleteCascade?_eq_some_iff.mp (destroy_eq_ok h)
  change ((db.wallet.wallets.retain _ id fun _ => rfl).find? m).getD _ = _
  rw [find?_retain, WalletTables.wallet]
  cases hfind : db.wallet.wallets.find? m with
  | none => simp
  | some wallet =>
      obtain rfl : wallet.master = m := Table.key_of_find? hfind
      have hgone := wallet_mem_gone (d := d) (Table.mem_of_find? hfind)
      by_cases hmaster : DBKey.master wallet.master ∈ db.table.gone d.target
      · rw [if_pos hmaster, Option.filter_some_neg]
        · rfl
        · simpa using hgone.mpr hmaster
      · rw [if_neg hmaster, Option.filter_some_pos]
        · rfl
        · simpa using fun hwallet => hmaster (hgone.mp hwallet)

/-- A deletion keeps the ledger: with a master go the wallet and the transactions. -/
theorem ledger_of_destroy {u : Unit} (h : d.destroy db = (.ok u, db'))
    (hl : Ledger db.wallet) : Ledger db'.wallet := by
  have hwallet := wallet_of_destroy h
  obtain ⟨-, rfl⟩ := deleteCascade?_eq_some_iff.mp (destroy_eq_ok h)
  have hp : ∀ row ∈ db.wallet.transactions.rows,
      decide (DBKey.walletTransaction (key row) ∉ db.table.gone d.target) = true ↔
        ¬DBKey.master row.master ∈ db.table.gone d.target := by
    intro row hrow
    rw [decide_eq_true_eq, not_iff_not]
    exact transaction_mem_gone hrow
  constructor
  · rw [DB.transactions_without]
    refine caches_retain (fun g => DBKey.master g.1 ∈ db.table.gone d.target)
      (DBRow.key_clearTransaction _) hl.balances (fun g => ?_) hp (fun _ => rfl) fun _ => rfl
    rw [hwallet]
    split
    · cases g.2 <;> rfl
    · rfl
  · rw [DB.transactions_without]
    refine caches_retain (fun m => DBKey.master m ∈ db.table.gone d.target)
      (DBRow.key_clearTransaction _) hl.earned (fun m => ?_) hp (fun _ => rfl) fun _ => rfl
    rw [hwallet]
    split <;> rfl
  · rw [DB.transactions_without]
    refine caches_retain (fun m => DBKey.master m ∈ db.table.gone d.target)
      (DBRow.key_clearTransaction _) hl.withdrawn (fun m => ?_) hp (fun _ => rfl) fun _ => rfl
    rw [hwallet]
    split <;> rfl
  · intro m method
    rw [hwallet]
    split
    · cases method <;> exact le_refl _
    · exact hl.balance_nonneg m method
  · intro row hrow
    rw [DB.transactions_without] at hrow
    obtain ⟨row', hrow', -, rfl⟩ := mem_retain.mp hrow
    exact hl.amount_pos row' hrow'

/-! ### Deletions between the requests -/

/-- The wallets equal their ledgers, and the rows of Payme have their orders and stamps. -/
structure BooksKept (db : DB) : Prop where
  ledger : Ledger db.wallet
  sound : Sound db
  stamped : ∀ id tx, db.payme.find? id = some tx → Stamped tx

theorem BooksKept.of_effect {cfg : Settings} {ctx : Context} {r : Request} (hb : BooksKept db)
    (h : Effect cfg ctx db db' r) : BooksKept db' where
  ledger := ledger_of_effect h hb.ledger
  sound := hb.sound.effect h
  stamped id tx hfind := by
    have hrow := rowStep_of_effect hb.sound h id
    rw [hfind] at hrow
    exact Stamped.step hrow fun tx htx => hb.stamped id tx htx

theorem BooksKept.of_destroy {u : Unit} (hb : BooksKept db) (h : d.destroy db = (.ok u, db')) :
    BooksKept db' where
  ledger := ledger_of_destroy h hb.ledger
  sound := by
    have hpayme := payme_of_destroy h
    refine ⟨fun tx htx => ?_, fun tx htx => ?_⟩
    · rw [hpayme] at htx
      exact order_of_destroy h htx (hb.sound.order_exists tx htx)
    · rw [hpayme] at htx
      exact hb.sound.started tx htx
  stamped id tx hfind := by
    rw [payme_of_destroy h] at hfind
    exact hb.stamped id tx hfind

end Effects

/-- A request, or the deletion of a row. -/
abbrev Operation := Request ⊕ Deletion

/-- The database after an operation. -/
def perform (cfg : Settings) (ctx : Context) (db : DB) : Operation → DB
  | .inl r => (handle cfg ctx r db).2
  | .inr d => (d.destroy db).2

/-- The backend, with the deletions of the accounts and of the staff between the requests. -/
def backendWithDeletions (cfg : Settings) : Transition.System World (Context × Operation) where
  init := World.Initial
  step w l w' := w.clock ≤ l.1.now ∧ w'.clock = l.1.now ∧ w'.db = perform cfg l.1 w.db l.2

section Runs

variable {cfg : Settings}

theorem destroy_cases (d : Deletion) (db : DB) :
    (d.destroy db).2 = db ∨ d.destroy db = (.ok (), (d.destroy db).2) := by
  have hclean := clean_destroy d db
  generalize d.destroy db = result at hclean ⊢
  match result with
  | (.ok (), _) => exact Or.inr rfl
  | (.error _, _) => exact Or.inl (hclean _ _ rfl).symm

theorem BooksKept.perform {ctx : Context} {db : DB} (hb : BooksKept db) (op : Operation) :
    BooksKept (perform cfg ctx db op) := by
  match op with
  | .inl r => exact hb.of_effect (effect_handle cfg ctx r db)
  | .inr d =>
      rcases destroy_cases d db with heq | heq
      · rw [Homex.perform, heq]
        exact hb
      · exact hb.of_destroy heq

theorem books_of_reachable {w : World} (h : (backendWithDeletions cfg).Reachable w) :
    BooksKept w.db := by
  refine h.invariant (I := fun w => BooksKept w.db) ?_ ?_
  · rintro w ⟨-, hpayme, hwallet, -⟩
    refine ⟨hwallet ▸ .empty, ⟨fun tx htx => ?_, fun tx htx => ?_⟩, fun id tx htx => ?_⟩
    all_goals
      rw [hpayme] at htx
      cases htx
  · rintro w l w' - hb ⟨-, -, hdb⟩
    rw [hdb]
    exact hb.perform l.2

theorem reachable_of_backend {w : World} (h : (backend cfg).Reachable w) :
    (backendWithDeletions cfg).Reachable w := by
  induction h with
  | init h => exact .init h
  | step _ h ih => exact ih.step (l := (_, .inl _)) ⟨h.clock_le, h.clock, h.db⟩

/-- A row of Payme goes on under every operation. -/
theorem continues_of_perform {ctx : Context} {db : DB} (hb : BooksKept db) (op : Operation)
    {id : String} {tx : PaymeTransaction} (hfind : db.payme.find? id = some tx) :
    ∃ tx', (perform cfg ctx db op).payme.find? id = some tx' ∧ Continues tx tx' := by
  match op with
  | .inl r =>
      have hrow := rowStep_of_effect hb.sound (effect_handle cfg ctx r db) id
      rw [hfind] at hrow
      exact hrow.continues (hb.stamped id tx hfind)
  | .inr d =>
      refine ⟨tx, ?_, .rfl tx⟩
      rcases destroy_cases d db with heq | heq
      · rw [perform, heq]
        exact hfind
      · rw [perform, payme_of_destroy heq]
        exact hfind

/-- In every run of requests and deletions the wallets that are left equal their ledgers with
no balance below zero; and a row of Payme stays with its order, amount and past. -/
theorem books_survive_deletions {w w' : World} (h : (backendWithDeletions cfg).Reachable w)
    (hl : (backendWithDeletions cfg).Leads w w') :
    (EqualsLedger w'.db.wallet ∧ ∀ m method, 0 ≤ (w'.db.wallet.wallet m).balance method) ∧
      ∀ id tx, w.db.payme.find? id = some tx →
        ∃ tx' o, w'.db.payme.find? id = some tx' ∧ Continues tx tx' ∧
          w'.db.orders.find? tx.order = some o := by
  have hb := books_of_reachable (h.leads hl)
  refine ⟨⟨hb.ledger.equalsLedger, hb.ledger.balance_nonneg⟩, fun id tx hfind => ?_⟩
  have hcont : ∃ tx', w'.db.payme.find? id = some tx' ∧ Continues tx tx' := by
    refine hl.stable
      (P := fun w' => ∃ tx', w'.db.payme.find? id = some tx' ∧ Continues tx tx') ?_ h
      ⟨tx, hfind, .rfl tx⟩
    rintro s l s' hs ⟨tx', hfind', hcont⟩ ⟨-, -, hdb⟩
    rw [hdb]
    obtain ⟨tx'', hfind'', hcont'⟩ := continues_of_perform (books_of_reachable hs) l.2 hfind'
    exact ⟨tx'', hfind'', hcont.trans hcont'⟩
  obtain ⟨tx', hfind', hcont⟩ := hcont
  obtain ⟨o, ho⟩ := hb.sound.order_exists tx' (Table.mem_of_find? hfind')
  exact ⟨tx', o, hfind', hcont, hcont.order ▸ ho⟩

/-- Each master gets an advance, and the client prepays the order of master 2. -/
def Sample.creditedAndPrepaid : List (Context × Request) :=
  [(Sample.at_ 15, .transactionCreate
      { master := 2, transactionType := .in, amount := 100000
        description := ⟨"Avans", Sample.advance_described⟩, paymentMethod := .cash }),
    (Sample.at_ 16, .transactionCreate
      { master := 3, transactionType := .in, amount := 50000
        description := ⟨"Avans", Sample.advance_described⟩, paymentMethod := .online })] ++
    Sample.prepaid

/-- The client deletes the account, which the row of Payme forbids, and then master 2 does. -/
def Sample.clientKept : World where
  db := perform {} (Sample.at_ 24) (Sample.world.run {} Sample.creditedAndPrepaid).db
    (.inr (.client 1))
  clock := 24

def Sample.masterGone : World where
  db := perform {} (Sample.at_ 25) Sample.clientKept.db (.inr (.master 2))
  clock := 25

theorem books_survive_deletions_sample :
    Sample.masterGone.db.masters.find? 2 = none ∧
      Sample.masterGone.db.wallet.transactions.rows.map WalletTransaction.id = [16] ∧
      EqualsLedger Sample.masterGone.db.wallet ∧
      (Sample.masterGone.db.wallet.wallet 3).balanceOnline = 50000 ∧
      ∃ tx' o, Sample.masterGone.db.payme.find? "tx" = some tx' ∧
        tx'.performedAt = some 23 ∧ Sample.masterGone.db.orders.find? 10 = some o := by
  have hreach : (backendWithDeletions {}).Reachable
      (Sample.world.run {} Sample.creditedAndPrepaid) :=
    reachable_of_backend (reachable_run Sample.reachable (by decide))
  have hfind : (Sample.world.run {} Sample.creditedAndPrepaid).db.payme.find? "tx" =
      some Sample.performedTx := by decide
  have hkept : (backendWithDeletions {}).Leads (Sample.world.run {} Sample.creditedAndPrepaid)
      Sample.clientKept :=
    .step .refl (l := (Sample.at_ 24, .inr (.client 1))) ⟨by decide, rfl, rfl⟩
  have hl : (backendWithDeletions {}).Leads (Sample.world.run {} Sample.creditedAndPrepaid)
      Sample.masterGone :=
    .step hkept (l := (Sample.at_ 25, .inr (.master 2))) ⟨by decide, rfl, rfl⟩
  obtain ⟨⟨hledger, -⟩, hpayme⟩ := books_survive_deletions hreach hl
  obtain ⟨tx', o, hfind', hcont, ho⟩ := hpayme "tx" _ hfind
  exact ⟨by decide, by decide, hledger, by decide, tx', o, hfind', hcont.performedAt (by decide),
    ho⟩

end Runs

end Homex
