import Homex.Concurrency.Waiting
import Homex.System.Runs
import Homex.System.StockStatements

/-!
# Deadlocks among money and stock requests

A payment locks the order, then a wallet; a check locks the order, then the
master's rows and their products in the order in which the client lists them.
Three pairs of rows are taken both ways: an order and a Payme transaction, an
order and a row of stock, and two rows of stock. While every wait for one of
these is in one order of the rows, no requests wait for each other in a circle.

The rows that a request inserts have ids that it has drawn; no other request
draws the same.
-/

namespace Homex

open Relational Concurrency Orders Profiles Wallet Warehouse Payme

/-- The requests that lock money and stock, on any number of connections. -/
def LockRequest.program (cfg : Settings) (l : Context × LockRequest) :
    Program DB RowKey Error Unit :=
  l.2.statements cfg l.1

/-- Every interleaving of these requests, with their waits. -/
def lockTraffic (cfg : Settings) :
    Transition.System (Contended DB RowKey Error ℕ) (Contention (Context × LockRequest) ℕ) :=
  contentions ℕ (LockRequest.program cfg)

namespace RowKey

/-- What a row is of; `drawn` rows are inserted under an id that was drawn. -/
inductive Kind
  | drawn
  | payme
  | order
  | stock
  | wallet
  | other
  deriving DecidableEq

def kind : RowKey → Kind
  | .usage _ | .movement _ | .walletTransaction _ => .drawn
  | .payme _ => .payme
  | .order _ => .order
  | .product _ | .inventory _ => .stock
  | .wallet _ => .wallet
  | .assignedMaster _ _ | .assistant _ _ | .master _ | .withdraw _ => .other

/-- The place of a kind in the order of all rows. -/
def Kind.level : Kind → ℕ
  | .drawn => 0
  | .payme => 1
  | .order => 2
  | .stock => 3
  | .wallet => 4
  | .other => 5

/-- The kinds that the requests take, `k` while they hold a row of `k'`. -/
def Kind.Follows (k' k : Kind) : Prop :=
  match k with
  | .drawn => True
  | .payme => k' = .drawn ∨ k' = .order
  | .order => k' = .drawn ∨ k' = .payme ∨ k' = .stock
  | .stock | .wallet => k' ≠ .wallet ∧ k' ≠ .other
  | .other => False

/-- A request that holds `k'` may go on to take `k`. -/
def May (k' k : RowKey) : Prop := k'.kind.Follows k.kind

variable {ι : Type} [Preorder ι]

/-- The order of all rows; `rank` orders the rows of stock. -/
def Before (rank : RowKey → ι) (k' k : RowKey) : Prop :=
  k'.kind.level < k.kind.level ∨ k'.kind = .stock ∧ k.kind = .stock ∧ rank k' < rank k

instance (rank : RowKey → ι) : IsStrictOrder RowKey (Before rank) where
  irrefl k h := by
    rcases h with hlt | ⟨-, -, hlt⟩
    · exact lt_irrefl _ hlt
    · exact lt_irrefl _ hlt
  trans k k' k'' h h' := by
    rcases h with hlt | ⟨hk, hk', hlt⟩
    · rcases h' with hlt' | ⟨hk', hk'', -⟩
      · exact Or.inl (hlt.trans hlt')
      · exact Or.inl (by rwa [hk', ← hk''] at hlt)
    · rcases h' with hlt' | ⟨-, hk'', hlt'⟩
      · exact Or.inl (by rwa [hk', ← hk] at hlt')
      · exact Or.inr ⟨hk, hk'', hlt.trans hlt'⟩

/-- A wait for the row is in the order, when the rows in `held` are held. -/
def InOrder (rank : RowKey → ι) (held : RowKey → Prop) (k : RowKey) : Prop :=
  match k.kind with
  | .drawn => False
  | .payme => ∀ k', held k' → k'.kind ≠ .order
  | .order => ∀ k', held k' → k'.kind ≠ .stock
  | .stock => ∀ k', held k' → k'.kind = .stock → rank k' < rank k
  | .wallet | .other => True

/-- What the code does not rule out is in the order when the wait is. -/
theorem before_of_inOrder {rank : RowKey → ι} {held : RowKey → Prop} {k k' : RowKey}
    (h : InOrder rank held k) (hk' : held k') (hmay : May k' k) : Before rank k' k := by
  unfold InOrder at h
  unfold May Kind.Follows at hmay
  unfold Before
  cases hk : k.kind with
  | drawn => simp [hk] at h
  | payme =>
      simp only [hk] at h hmay
      have hne := h k' hk'
      rcases hmay with hd | ho
      · exact Or.inl (by rw [hd]; decide)
      · exact absurd ho hne
  | order =>
      simp only [hk] at h hmay
      have hne := h k' hk'
      rcases hmay with hd | hp | hs
      · exact Or.inl (by rw [hd]; decide)
      · exact Or.inl (by rw [hp]; decide)
      · exact absurd hs hne
  | stock =>
      simp only [hk] at h hmay
      cases hkind : k'.kind with
      | stock => exact Or.inr ⟨rfl, rfl, h k' hk' hkind⟩
      | wallet => exact absurd hkind hmay.1
      | other => exact absurd hkind hmay.2
      | _ => exact Or.inl (by decide)
  | wallet =>
      simp only [hk] at hmay
      cases hkind : k'.kind with
      | wallet => exact absurd hkind hmay.1
      | other => exact absurd hkind hmay.2
      | _ => exact Or.inl (by decide)
  | other => simp [hk] at hmay

end RowKey

/-- Every wait is for a row in the order: a Payme transaction while no order is
held, an order while no stock is held, and a row of stock that comes after those
that are held. No wait is for an id that another request has drawn. -/
def WaitsInOrder {ι : Type} [Preorder ι] (rank : RowKey → ι) (σ : Contended DB RowKey Error ℕ) :
    Contention (Context × LockRequest) ℕ → Prop
  | .event _ => True
  | .wait p => ∀ k ∈ (σ.state.proc p).code.bind Program.wanted,
      RowKey.InOrder rank (fun k' => σ.state.owner k' = some p) k

namespace Statements

open Program

/-- What a program takes, and what its request holds in the end. -/
abbrev Takes {α : Type} (p : Statements α) (Q : α → Set RowKey → Prop) (held : Set RowKey) :
    Prop :=
  Program.Follows RowKey.May Q p held

/-- The rows that are held, but for the order `pk`, are drawn, of a Payme
transaction or of stock. -/
def Ready (pk : Uuid) (held : Set RowKey) : Prop :=
  ∀ k ∈ held, k = .order pk ∨ k.kind = .drawn ∨ k.kind = .payme ∨ k.kind = .stock

/-- A row that may be taken by a request that is ready, and leaves it so. -/
def Takable (pk : Uuid) (k : RowKey) : Prop :=
  k = .order pk ∨ k.kind = .drawn ∨ k.kind = .stock

section Ready

variable {α : Type} {pk : Uuid} {held : Set RowKey} {k : RowKey} {Q : α → Set RowKey → Prop}

@[simp] theorem follows_select {x : Code α} :
    Takes (select x) Q held ↔ ∀ s a, (x s).1 = .ok a → Q a held :=
  forall_congr' fun _ => follows_done

theorem ready_empty : Ready pk ∅ := fun _ h => h.elim

theorem Ready.insert (h : Ready pk held) (hk : Takable pk k) : Ready pk (held ∪ {k}) := by
  rintro k' (hk' | rfl)
  · exact h k' hk'
  · rcases hk with horder | hdrawn | hstock
    · exact Or.inl horder
    · exact Or.inr (Or.inl hdrawn)
    · exact Or.inr (Or.inr (Or.inr hstock))

/-- No wallet is held. -/
theorem Ready.kind (h : Ready pk held) : ∀ k ∈ held, k.kind ≠ .wallet ∧ k.kind ≠ .other := by
  intro k hk
  rcases h k hk with rfl | hkind | hkind | hkind
  · simp [RowKey.kind]
  · simp [hkind]
  · simp [hkind]
  · simp [hkind]

theorem Ready.may (h : Ready pk held) (hk : Takable pk k) :
    ∀ k' ∈ held, k' ≠ k → RowKey.May k' k := by
  intro k' hk' hne
  unfold RowKey.May
  rcases hk with rfl | hdrawn | hstock
  · rcases h k' hk' with rfl | hrest
    · exact absurd rfl hne
    · exact hrest
  · rw [hdrawn]
    trivial
  · rw [hstock]
    exact h.kind k' hk'

/-- A row that is ready to be taken is locked. -/
theorem takes_fetchForUpdate {row : DB → Option α} {e : Error} (h : Ready pk held)
    (hk : Takable pk k) (hQ : ∀ s a, row s = some a → ∀ held, Ready pk held → Q a held) :
    Takes (fetchForUpdate k row e) Q held :=
  follows_fetchForUpdate.mpr ⟨h.may hk, fun s a ha => hQ s a ha _ (h.insert hk)⟩

theorem takes_write {f : DB → DB} {Q : Unit → Set RowKey → Prop} (h : Ready pk held)
    (hk : Takable pk k) (hQ : ∀ held, Ready pk held → Q () held) : Takes (write k f) Q held :=
  follows_write.mpr ⟨h.may hk, hQ _ (h.insert hk)⟩

theorem takes_createRow {f : DB → Option DB} {e : Error} {Q : Unit → Set RowKey → Prop}
    (h : Ready pk held) (hk : Takable pk k) (hQ : ∀ held, Ready pk held → Q () held) :
    Takes (create k f e) Q held :=
  follows_create.mpr ⟨h.may hk, hQ _ (h.insert hk)⟩

end Ready

section Stock

variable {pk : Uuid} {held : Set RowKey} {ctx : Context}

theorem takable_stock {k : RowKey} (hk : k.kind = .stock) : Takable pk k := Or.inr (Or.inr hk)

theorem takable_drawn {k : RowKey} (hk : k.kind = .drawn) : Takable pk k := Or.inr (Or.inl hk)

theorem takes_lockProduct {product : Uuid} {Q : WarehouseProduct → Set RowKey → Prop}
    (h : Ready pk held) (hQ : ∀ product held, Ready pk held → Q product held) :
    Takes (lockProduct product) Q held :=
  takes_fetchForUpdate h (takable_stock rfl) fun _ product _ => hQ product

theorem takes_saveProductQuantity {product : Uuid} {quantity : Int}
    {Q : Unit → Set RowKey → Prop} (h : Ready pk held) (hQ : ∀ held, Ready pk held → Q () held) :
    Takes (saveProductQuantity product quantity) Q held :=
  takes_createRow h (takable_stock rfl) hQ

theorem takes_saveInventoryQuantity {item : Uuid} {quantity : Int}
    {Q : Unit → Set RowKey → Prop} (h : Ready pk held) (hQ : ∀ held, Ready pk held → Q () held) :
    Takes (saveInventoryQuantity item quantity) Q held :=
  takes_createRow h (takable_stock rfl) hQ

theorem takes_createMovement {movement : StockMovement} {Q : Unit → Set RowKey → Prop}
    (h : Ready pk held) (hQ : ∀ held, Ready pk held → Q () held) :
    Takes (createMovement movement) Q held :=
  takes_createRow h (takable_drawn rfl) hQ

theorem takes_createUsage {usage : OrderInventoryUsage} {Q : Unit → Set RowKey → Prop}
    (h : Ready pk held) (hQ : ∀ held, Ready pk held → Q () held) :
    Takes (createUsage usage) Q held :=
  takes_createRow h (takable_drawn rfl) hQ

theorem takes_createInventory {item : MasterInventory} {Q : Unit → Set RowKey → Prop}
    (h : Ready pk held) (hQ : ∀ held, Ready pk held → Q () held) :
    Takes (createInventory item) Q held :=
  takes_createRow h (takable_stock rfl) hQ

theorem takes_updateOrder {set : Order → Order} {Q : Unit → Set RowKey → Prop}
    (h : Ready pk held) (hQ : ∀ held, Ready pk held → Q () held) :
    Takes (updateOrder pk set) Q held :=
  takes_write h (Or.inl rfl) hQ

theorem takes_getOrCreateInventory {master : Uuid} {product : WarehouseProduct}
    {Q : MasterInventory → Set RowKey → Prop} (h : Ready pk held)
    (hQ : ∀ item held, Ready pk held → Q item held) :
    Takes (getOrCreateInventory ctx master product) Q held := by
  refine follows_bind.mpr (follows_select.mpr fun s item? _ => ?_)
  have hcreate : ∀ held, Ready pk held →
      Takes (createInventory (newInventory ctx master product) >>= fun _ =>
        pure (newInventory ctx master product)) Q held := fun _ h =>
    follows_bind.mpr (takes_createInventory h fun _ h => hQ _ _ h)
  cases item? with
  | none => exact hcreate held h
  | some item =>
      refine ⟨h.may (takable_stock rfl), fun s => ?_⟩
      have hlocked := h.insert (k := .inventory item.id) (takable_stock rfl)
      dsimp only
      cases inventoryAt s item.id master product.id with
      | none => exact hcreate _ hlocked
      | some item => exact hQ _ _ hlocked

theorem takes_assignInventoryToMaster {master : Master} {product : Uuid} {quantity : Int} :
    Takes (assignInventoryToMaster ctx master product quantity) (fun _ _ => True) ∅ := by
  unfold assignInventoryToMaster
  simp only [Takes, follows_atomic, follows_bind, follows_require, follows_pure]
  have h : Ready 0 ∅ := ready_empty
  refine takes_lockProduct h fun product held h _ => ?_
  refine takes_getOrCreateInventory h fun item held h => ?_
  refine takes_saveInventoryQuantity h fun held h => ?_
  refine takes_saveProductQuantity h fun held h => ?_
  exact takes_createMovement h fun _ _ => trivial

theorem takes_creditReturned {item : MasterInventory} {product : WarehouseProduct}
    {Q : Unit → Set RowKey → Prop} (h : Ready pk held) (hQ : ∀ held, Ready pk held → Q () held) :
    Takes (creditReturned ctx item product) Q held := by
  unfold creditReturned
  simp only [Takes, follows_ite, follows_bind, follows_select, follows_pure]
  refine ⟨fun _ => hQ held h, fun _ => ?_⟩
  exact takes_saveProductQuantity h fun held h _ master _ => takes_createMovement h hQ

theorem takes_removeItem {item : MasterInventory} {Q : Unit → Set RowKey → Prop}
    (h : Ready pk held) (hQ : ∀ held, Ready pk held → Q () held) :
    Takes (removeItem item) Q held := by
  unfold removeItem deleteInventory
  simp only [Takes, follows_bind, follows_select, follows_ite]
  refine fun _ used _ => ⟨fun _ => takes_saveInventoryQuantity h hQ, fun _ => ?_⟩
  exact takes_createRow h (takable_stock rfl) hQ

theorem takes_returnInventoryToWarehouse {item : MasterInventory} :
    Takes (returnInventoryToWarehouse ctx item) (fun _ _ => True) ∅ := by
  unfold returnInventoryToWarehouse
  simp only [Takes, follows_atomic, follows_bind, follows_pure]
  have h : Ready 0 ∅ := ready_empty
  refine takes_lockProduct h fun product held h => ?_
  refine takes_creditReturned h fun held h => ?_
  exact takes_removeItem h fun _ _ => trivial

theorem takes_adjustMasterInventory {item product : Uuid} {newQuantity : Int}
    {Q : MasterInventory → Set RowKey → Prop} (h : Ready pk held) (hQ : ∀ item, Q item ∅) :
    Takes (adjustMasterInventory ctx item product newQuantity) Q held := by
  unfold adjustMasterInventory
  simp only [Takes, follows_atomic, follows_bind, follows_require, follows_ite, follows_select,
    follows_pure]
  refine fun _ => takes_lockProduct h fun product held h => ?_
  refine takes_fetchForUpdate h (takable_stock rfl) fun _ item _ held h =>
    ⟨fun _ => hQ item, fun _ _ => ?_⟩
  refine takes_saveProductQuantity h fun held h => ?_
  refine takes_saveInventoryQuantity h fun held h _ master _ => ?_
  exact takes_createMovement h fun _ _ => hQ _

theorem takes_saveItemColumns {item : MasterInventory} {data : Dashboard.InventoryPayload}
    {Q : Unit → Set RowKey → Prop} (h : Ready pk held) (hQ : ∀ held, Ready pk held → Q () held) :
    Takes (saveItemColumns item data) Q held :=
  follows_ite.mpr ⟨fun _ => hQ held h, fun _ => takes_write h (takable_stock rfl) hQ⟩

theorem takes_adjustItem {item : MasterInventory} {quantity : Option Int}
    {Q : Unit → Set RowKey → Prop} (h : Ready pk held) (hQ : ∀ held, Q () held) :
    Takes (adjustItem ctx item quantity) Q held := by
  cases quantity with
  | none => exact hQ held
  | some newQuantity =>
      refine follows_ite.mpr ⟨fun _ => hQ held, fun _ => follows_bind.mpr ?_⟩
      exact takes_adjustMasterInventory h fun _ => hQ ∅

theorem takes_transfer (r : TransferRequest) :
    Takes (r.statements ctx) (fun _ _ => True) ∅ := by
  have h : Ready 0 ∅ := ready_empty
  cases r with
  | adminAssign master data =>
      refine follows_map.mpr (follows_bind.mpr (follows_select.mpr fun _ _ _ => ?_))
      refine follows_bind.mpr (follows_fetch.mpr fun _ _ _ => ?_)
      exact takes_assignInventoryToMaster
  | adminUpdate master item quantity =>
      refine follows_map.mpr (follows_bind.mpr (follows_fetch.mpr fun _ _ _ => ?_))
      exact takes_adjustMasterInventory h fun _ => trivial
  | adminDelete master item =>
      refine follows_bind.mpr (follows_fetch.mpr fun _ _ _ => follows_bind.mpr ?_)
      exact takes_returnInventoryToWarehouse
  | inventoryCreate master product quantity =>
      refine follows_map.mpr (follows_bind.mpr (follows_select.mpr fun _ _ _ => ?_))
      refine follows_bind.mpr (follows_fetch.mpr fun _ _ _ => ?_)
      exact takes_assignInventoryToMaster
  | inventoryUpdate pk data =>
      refine follows_map.mpr (follows_bind.mpr (follows_fetch.mpr fun _ item _ => ?_))
      refine follows_bind.mpr (follows_select.mpr fun _ _ _ => follows_bind.mpr ?_)
      refine takes_saveItemColumns h fun held h => follows_bind.mpr ?_
      exact takes_adjustItem h fun _ => follows_fetch.mpr fun _ _ _ => trivial
  | inventoryDestroy pk =>
      refine follows_bind.mpr (follows_fetch.mpr fun _ _ _ => follows_bind.mpr ?_)
      exact takes_returnInventoryToWarehouse

end Stock

section Orders

variable {pk : Uuid} {held : Set RowKey} {ctx : Context}

theorem takes_useItem {order : Order} {i : ℕ} {item : UsedItem} {Q : Int → Set RowKey → Prop}
    (h : Ready pk held) (hQ : ∀ line held, Ready pk held → Q line held) :
    Takes (OrderCompleteSerializer.useItem ctx order i item) Q held := by
  unfold OrderCompleteSerializer.useItem
  simp only [Takes, follows_bind, follows_require, follows_pure]
  refine takes_fetchForUpdate h (takable_stock rfl) fun _ inventory _ held h => ?_
  refine takes_fetchForUpdate h (takable_stock rfl) fun _ product _ held h _ => ?_
  refine takes_saveInventoryQuantity h fun held h => ?_
  exact takes_createUsage h fun held h => hQ _ held h

/-- Any number of items, in any order. -/
theorem takes_useItems {order : Order} {i : ℕ} {items : List UsedItem}
    {Q : Int → Set RowKey → Prop} (h : Ready pk held)
    (hQ : ∀ total held, Ready pk held → Q total held) :
    Takes (OrderCompleteSerializer.useItems ctx order i items) Q held := by
  induction items generalizing i held Q with
  | nil => exact hQ 0 held h
  | cons item items ih =>
      refine follows_bind.mpr (takes_useItem h fun line held h => follows_bind.mpr ?_)
      exact ih h fun rest held h => hQ (line + rest) held h

theorem takes_useInventory {user item : Uuid} {data : UseInventoryPayload} :
    Takes (UseInventoryView.post ctx user item data) (fun _ _ => True) ∅ := by
  unfold UseInventoryView.post
  simp only [Takes, follows_atomic, follows_bind, follows_require, follows_select, follows_pure]
  have h : Ready data.orderId ∅ := ready_empty
  refine takes_fetchForUpdate h (takable_stock rfl) fun _ item _ held h => ?_
  refine takes_lockProduct h fun product held h => ?_
  refine takes_fetchForUpdate h (Or.inl rfl) fun s order hfind held h _ => ?_
  have hid : order.id = data.orderId :=
    Table.key_of_find? (Option.filter_eq_some_iff.mp hfind).1
  refine takes_saveInventoryQuantity h fun held h => ?_
  refine takes_createUsage h fun held h _ _ _ => ?_
  exact takes_updateOrder (hid.symm ▸ h) fun _ _ => trivial

theorem takes_complete {user : Uuid} {data : OrderCompletePayload} :
    Takes (MasterOrderCompleteView.post ctx user pk data) (fun _ _ => True) ∅ := by
  unfold MasterOrderCompleteView.post OrderCompleteSerializer.save
  simp only [Takes, follows_atomic, follows_bind, follows_require, follows_select, follows_fetch,
    follows_pure]
  intro _ _ _ _ _ _
  have h : Ready pk ∅ := ready_empty
  refine takes_fetchForUpdate h (Or.inl rfl) fun s order hfind held h _ => ?_
  obtain rfl : order.id = pk := Table.key_of_find? hfind
  refine takes_useItems h fun total held h _ db _ => ?_
  exact takes_write h (Or.inl rfl) fun _ _ => trivial

theorem takes_goods (r : GoodsRequest) : Takes (r.statements ctx) (fun _ _ => True) ∅ := by
  cases r with
  | transfer r => exact takes_transfer r
  | use user pk data => exact follows_map.mpr takes_useInventory
  | complete user pk data => exact follows_map.mpr takes_complete

end Orders

section Wallet

variable {pk master : Uuid} {held : Set RowKey} {ctx : Context}

/-- No wallet is held but that of the master. -/
def Paying (master : Uuid) (held : Set RowKey) : Prop :=
  ∀ k ∈ held, k ≠ .wallet master → k.kind ≠ .wallet ∧ k.kind ≠ .other

theorem Ready.paying (h : Ready pk held) : Paying master held := fun k hk _ => h.kind k hk

theorem Paying.insert (h : Paying master held) : Paying master (held ∪ {.wallet master}) := by
  rintro k (hk | rfl) hne
  · exact h k hk hne
  · exact absurd rfl hne

/-- The wallet of the master is written. -/
theorem takes_writeWallet {f : DB → DB} {Q : Unit → Set RowKey → Prop} (h : Paying master held)
    (hQ : ∀ held, Paying master held → Q () held) :
    Takes (write (.wallet master) f) Q held :=
  follows_write.mpr ⟨h, hQ _ h.insert⟩

theorem takes_getOrCreateWallet {Q : Unit → Set RowKey → Prop} (h : Paying master held)
    (hQ : ∀ held, Paying master held → Q () held) :
    Takes (getOrCreateWallet master) Q held := by
  intro s
  dsimp only
  cases s.wallet.wallets.find? master with
  | some wallet => exact hQ held h
  | none => exact takes_writeWallet h hQ

theorem takes_moveBalance {wallet : MasterWallet} {type : TransactionType} {amount : Int}
    {method : PaymentMethod} {Q : Unit → Set RowKey → Prop} (h : Paying wallet.master held)
    (hQ : ∀ held, Q () held) : Takes (moveBalance wallet type amount method) Q held := by
  cases type with
  | «in» => exact takes_writeWallet h fun held _ => hQ held
  | out =>
      refine follows_bind.mpr (follows_require.mpr fun _ => ?_)
      exact takes_writeWallet h fun held _ => hQ held

theorem takes_postWalletTransaction {type : TransactionType} {amount : Int}
    {method : PaymentMethod} {description : String} {order : Option Uuid}
    {Q : WalletTransaction → Set RowKey → Prop} (h : Paying master held)
    (hQ : ∀ row held, Q row held) :
    Takes (postWalletTransaction ctx master type amount method description order) Q held := by
  unfold postWalletTransaction
  simp only [Takes, follows_bind, follows_require, follows_fetchForUpdate, follows_pure]
  refine fun _ => takes_getOrCreateWallet h fun held h => ⟨h, fun s wallet hfind => ?_⟩
  obtain rfl : wallet.master = master := Table.key_of_find? hfind
  refine takes_moveBalance h.insert fun held => ?_
  exact follows_create.mpr ⟨fun _ _ _ => trivial, hQ _ _⟩

theorem takes_creditMaster {order : Order} {paymentMethod : PaymentType}
    {Q : Unit → Set RowKey → Prop} (h : Ready pk held) (hQ : ∀ held, Q () held) :
    Takes (creditMaster ctx order paymentMethod) Q held := by
  unfold creditMaster
  cases order.master with
  | none => exact hQ held
  | some master =>
      refine follows_ite.mpr ⟨fun _ => hQ held, fun _ => ?_⟩
      refine follows_bind.mpr (follows_select.mpr fun _ service _ => follows_bind.mpr ?_)
      exact takes_postWalletTransaction h.paying fun _ held => hQ held

/-- An order that is not completed leaves the wallets alone. -/
theorem takes_completePaidOrder {paymentMethod : PaymentType} {Q : Bool → Set RowKey → Prop}
    (h : Ready pk held) (htrue : ∀ held, Q true held)
    (hfalse : ∀ held, Ready pk held → Q false held) :
    Takes (completePaidOrder ctx pk paymentMethod) Q held := by
  unfold completePaidOrder
  simp only [Takes, follows_bind, follows_ite, follows_pure]
  refine takes_fetchForUpdate h (Or.inl rfl) fun _ order _ held h => ⟨fun _ => hfalse held h, ?_⟩
  exact fun _ => takes_updateOrder h fun held h => takes_creditMaster h htrue

theorem takes_clientPay {user : Uuid} {method : PaymentMethodField} :
    Takes (ClientOrderPayView.post ctx user pk method) (fun _ _ => True) ∅ := by
  have h : Ready pk ∅ := ready_empty
  refine follows_atomic.mpr (follows_bind.mpr ?_)
  refine takes_fetchForUpdate h (Or.inl rfl) fun _ order _ held h => ?_
  refine follows_bind.mpr (follows_require.mpr fun _ => ?_)
  refine follows_bind.mpr (follows_require.mpr fun _ => ?_)
  cases method with
  | missing => exact follows_bind.mpr (takes_updateOrder h fun _ _ => trivial)
  | invalid text => exact follows_bind.mpr (takes_updateOrder h fun _ _ => trivial)
  | choice method =>
      cases method with
      | cash =>
          have hread : ∀ held, Takes (getOrder pk) (fun _ _ => True) held := fun _ =>
            follows_fetch.mpr fun _ _ _ => trivial
          exact follows_bind.mpr (takes_completePaidOrder h
            (fun held => follows_bind.mpr (hread held)) fun held _ => follows_bind.mpr (hread held))
      | _ =>
          refine follows_bind.mpr (takes_updateOrder h fun held h => follows_bind.mpr ?_)
          exact takes_updateOrder h fun _ _ => trivial

end Wallet

section Payme

variable {pk : Uuid} {id : String} {held : Set RowKey} {cfg : Settings} {ctx : Context}

/-- The rows that are held are the order and the Payme transaction. -/
def Charging (pk : Uuid) (id : String) (held : Set RowKey) : Prop :=
  ∀ k ∈ held, k = .order pk ∨ k = .payme id

theorem Charging.ready (h : Charging pk id held) : Ready pk held := by
  intro k hk
  rcases h k hk with rfl | rfl
  · exact Or.inl rfl
  · exact Or.inr (Or.inr (Or.inl rfl))

theorem Charging.insert (h : Charging pk id held) : Charging pk id (held ∪ {.payme id}) := by
  rintro k (hk | rfl)
  · exact h k hk
  · exact Or.inr rfl

theorem Charging.may (h : Charging pk id held) :
    ∀ k ∈ held, k ≠ .payme id → RowKey.May k (.payme id) := by
  intro k hk hne
  rcases h k hk with rfl | rfl
  · exact Or.inr rfl
  · exact absurd rfl hne

theorem takes_updatePayme {set : PaymeTransaction → PaymeTransaction}
    {Q : Unit → Set RowKey → Prop} (h : Charging pk id held)
    (hQ : ∀ held, Charging pk id held → Q () held) : Takes (updatePayme id set) Q held :=
  follows_write.mpr ⟨h.may, hQ _ h.insert⟩

theorem takes_markAsCancelled {now : Int} {reason : Option Int} {state : Payme.State}
    {tx : PaymeTransaction} {Q : Unit → Set RowKey → Prop}
    (h : Charging pk tx.transactionId held)
    (hQ : ∀ held, Charging pk tx.transactionId held → Q () held) :
    Takes (PaymeWebHookAPIView.markAsCancelled now reason state tx) Q held :=
  follows_ite.mpr ⟨fun _ => hQ held h, fun _ => takes_updatePayme h hQ⟩

theorem takes_markAsPerformed {now : Int} {tx : PaymeTransaction} {Q : Unit → Set RowKey → Prop}
    (h : Charging pk tx.transactionId held)
    (hQ : ∀ held, Charging pk tx.transactionId held → Q () held) :
    Takes (PaymeWebHookAPIView.markAsPerformed now tx) Q held :=
  follows_ite.mpr ⟨fun _ => hQ held h, fun _ => takes_updatePayme h hQ⟩

theorem takes_markOrderPaid {order : Order} {Q : Unit → Set RowKey → Prop}
    (h : Ready order.id held) (hQ : ∀ held, Q () held) :
    Takes (markOrderPaid ctx order) Q held := by
  unfold markOrderPaid
  simp only [Takes, follows_bind, follows_ite, follows_pure]
  refine ⟨fun _ => hQ held, fun _ => ?_⟩
  refine takes_completePaidOrder h (fun held => ⟨fun h => ?_, fun _ => hQ held⟩) ?_
  · cases h
  · exact fun held h => ⟨fun _ => takes_updateOrder h fun held _ => hQ held, fun _ => hQ held⟩

/-- The Payme transaction is locked, and no other row is held. -/
theorem charging_locked (pk : Uuid) (tx : PaymeTransaction) :
    Charging pk tx.transactionId (∅ ∪ {.payme tx.transactionId}) := by
  rintro k (hk | rfl)
  · exact hk.elim
  · exact Or.inr rfl

theorem takes_perform {params : Params} :
    Takes (PaymeWebHookAPIView.performTransaction ctx params) (fun _ _ => True) ∅ := by
  unfold PaymeWebHookAPIView.performTransaction PaymeWebHookAPIView.performLocked
  simp only [Takes, follows_bind, follows_found, follows_atomic, follows_fetchForUpdate,
    follows_ite, follows_pure]
  refine fun id _ => ⟨fun _ hk => hk.elim, fun s tx hfind => ?_⟩
  obtain rfl : tx.transactionId = id := Table.key_of_find? hfind
  refine ⟨fun _ _ _ => trivial,
    fun _ => ⟨fun _ => follows_raise, fun _ => ⟨fun _ => ?_, fun _ => ?_⟩⟩⟩
  · exact takes_markAsCancelled (charging_locked 0 tx) fun _ _ _ _ => trivial
  · refine takes_markAsPerformed (charging_locked tx.order tx) fun held h => ?_
    refine follows_fetch.mpr fun s order hfind => ?_
    obtain hid : order.id = tx.order := Table.key_of_find? hfind
    exact takes_markOrderPaid (hid ▸ h.ready) fun _ _ _ => trivial

theorem takes_cancel {params : Params} :
    Takes (PaymeWebHookAPIView.cancelTransaction ctx params) (fun _ _ => True) ∅ := by
  unfold PaymeWebHookAPIView.cancelTransaction PaymeWebHookAPIView.cancelLocked
  simp only [Takes, follows_bind, follows_found, follows_atomic, follows_fetchForUpdate,
    follows_ite, follows_pure, follows_require]
  refine fun id _ => ⟨fun _ hk => hk.elim, fun s tx hfind => ⟨fun _ => trivial, fun _ => ?_⟩⟩
  obtain rfl : tx.transactionId = id := Table.key_of_find? hfind
  refine ⟨fun _ => follows_fetch.mpr fun s order hfind _ => ?_, fun _ => ?_⟩
  · refine takes_markAsCancelled (charging_locked tx.order tx) fun held h => ?_
    obtain hid : order.id = tx.order := Table.key_of_find? hfind
    refine follows_ite.mpr ⟨fun _ => trivial, fun _ => ?_⟩
    exact takes_updateOrder (hid ▸ h.ready) fun _ _ => trivial
  · exact takes_markAsCancelled (charging_locked 0 tx) fun _ _ => trivial

theorem takes_createLocked {order : Order} {amount : Int} :
    Takes (PaymeWebHookAPIView.createLocked cfg ctx order amount id) (fun _ _ => True) ∅ := by
  have h : Charging order.id id (∅ ∪ {.order order.id}) := by
    rintro k (hk | rfl)
    · exact hk.elim
    · exact Or.inl rfl
  refine ⟨fun _ hk => hk.elim, fun _ => ⟨h.may, fun s => ?_⟩⟩
  dsimp only
  cases hfind : s.payme.find? id with
  | some tx =>
      obtain rfl : tx.transactionId = id := Table.key_of_find? hfind
      refine follows_bind.mpr (follows_require.mpr fun _ => follows_ite.mpr ⟨fun _ => ?_, ?_⟩)
      · exact follows_bind.mpr (takes_markAsCancelled h.insert fun _ _ => trivial)
      · exact fun _ => trivial
  | none =>
      have hcreate : ∀ tx : PaymeTransaction, tx.transactionId = id →
          Takes (createPayme tx >>= fun _ => pure (some tx)) (fun _ _ => True)
            (∅ ∪ {.order order.id} ∪ {.payme id}) := by
        rintro tx rfl
        exact follows_bind.mpr (follows_create.mpr ⟨h.insert.may, trivial⟩)
      refine follows_bind.mpr (follows_select.mpr fun _ active? _ => ?_)
      cases active? with
      | none => exact hcreate _ rfl
      | some active =>
          exact follows_bind.mpr (follows_require.mpr fun _ => hcreate _ rfl)

theorem takes_create {params : Params} :
    Takes (PaymeWebHookAPIView.createTransaction cfg ctx params) (fun _ _ => True) ∅ := by
  unfold PaymeWebHookAPIView.createTransaction PaymeWebHookAPIView.fetchAccount
  simp only [Takes, follows_bind, follows_found, follows_fetch, follows_select]
  intro id _ amountParam _ account _ pk _ s order _ _ amount _
  exact follows_atomic.mpr (takes_createLocked.mono fun _ _ _ _ _ _ => trivial)

end Payme

/-- Every request takes its rows as it may. -/
theorem takes_lockRequest (cfg : Settings) (l : Context × LockRequest) :
    Takes (LockRequest.program cfg l) (fun _ _ => True) ∅ := by
  obtain ⟨ctx, r⟩ := l
  cases r with
  | paymeCreate params => exact follows_map.mpr takes_create
  | paymePerform params => exact follows_map.mpr takes_perform
  | paymeCancel params => exact follows_map.mpr takes_cancel
  | clientPay user pk method => exact follows_map.mpr takes_clientPay
  | goods r => exact takes_goods r

end Statements

open RowKey in
/-- The guard orders the waits that the code does not. -/
theorem ordersWaits_waitsInOrder {ι : Type} [Preorder ι] (rank : RowKey → ι) :
    Contended.OrdersWaits May (Before rank) (WaitsInOrder rank) :=
  fun _ _ _ _ hguard hwanted hheld hmay => before_of_inOrder (hguard _ hwanted) hheld hmay

/-- No requests wait for each other in a circle, in any state reached by a run
whose waits are in one order of the rows. -/
theorem no_deadlock (cfg : Settings) {ι : Type} [Preorder ι] (rank : RowKey → ι)
    {σ : Contended DB RowKey Error ℕ}
    (h : ((lockTraffic cfg).restrict (WaitsInOrder rank)).Reachable σ) (p : ℕ) :
    ¬Relation.TransGen σ.Waits p p :=
  Contended.acyclic_of_reachable (Statements.takes_lockRequest cfg)
    (ordersWaits_waitsInOrder rank) h p

namespace Sample

/-- The order of `accepted`, and no request under way. -/
def lockIdle : State DB RowKey Error ℕ := .idle (world.run {} accepted).db

/-- `p` sends its next `n` statements. -/
def locks (p n : ℕ) : List (Concurrency.Event (Context × LockRequest) ℕ) :=
  List.replicate n (.statement p)

/-- The master submits a check that uses row 6, and holds the order. -/
def checks : List (Concurrency.Event (Context × LockRequest) ℕ) :=
  .request 0 (at_ 30, .goods (.complete 2 10
    { serviceFee := 100000, usedItems := [{ inventoryId := 6, quantity := ⟨100, piece_pos⟩ }] })) ::
    locks 0 4

/-- On connection 1 the master uses row 6 on the order, and holds the row. -/
def uses : List (Concurrency.Event (Context × LockRequest) ℕ) :=
  .request 1 (at_ 31, .goods (.use 2 6 ⟨⟨100, piece_pos⟩, 10⟩)) :: locks 1 3

/-- On connection 1 the client pays in cash. -/
def pays : List (Concurrency.Event (Context × LockRequest) ℕ) :=
  .request 1 (at_ 31, .clientPay 1 10 (.choice .cash)) :: locks 1 1

theorem reachable_lockIdle
    {guard : Contended DB RowKey Error ℕ → Contention (Context × LockRequest) ℕ → Prop} :
    ((lockTraffic {}).restrict guard).Reachable { state := lockIdle, waiting := fun _ => none } :=
  .init ⟨_, rfl⟩

end Sample

open Sample in
/-- The payment waits for the order, which the check holds. -/
theorem no_deadlock_sample :
    ∃ σ : Contended DB RowKey Error ℕ,
      ((lockTraffic {}).restrict (WaitsInOrder fun _ => 0)).Reachable σ ∧ σ.Waits 1 0 ∧
        ¬Relation.TransGen σ.Waits 1 1 := by
  have hrun : ((lockIdle.run (LockRequest.program {}) (fun _ _ => True) (checks ++ pays)).map
      fun s => ((s.proc 1).code.bind Program.wanted, s.owner)) =
      some (some (.order 10), Function.update (fun _ => none) (.order 10) (some 0)) := by
    rfl
  obtain ⟨s, hs, heq⟩ := Option.map_eq_some_iff.mp hrun
  obtain ⟨hwanted, howner⟩ := Prod.mk.inj heq
  have hreach : ((lockTraffic {}).restrict (WaitsInOrder fun _ => 0)).Reachable
      { state := s, waiting := fun _ => none } :=
    Contended.reachable_of_run (fun _ _ => trivial) reachable_lockIdle hs
  have hblocked : s.owner (.order 10) = some 0 := by
    rw [howner, Function.update_self]
  have hguard : WaitsInOrder (fun _ => 0) { state := s, waiting := fun _ => none } (.wait 1) := by
    intro k hk
    rw [hwanted, Option.mem_some_iff] at hk
    subst hk
    intro k' hk'
    change s.owner k' = some 1 at hk'
    rw [howner, Function.update_apply] at hk'
    split at hk' <;> cases hk'
  have hwaits := Contended.reachable_wait hreach hguard hwanted (by simp [State.Free, hblocked])
  refine ⟨_, hwaits, ⟨.order 10, rfl, hblocked⟩, no_deadlock {} _ hwaits 1⟩

open Sample in
/-- The check holds the order and waits for the row of stock, which the use holds
while it waits for the order. -/
theorem check_and_use_deadlock :
    ¬∀ σ : Contended DB RowKey Error ℕ, (lockTraffic {}).Reachable σ →
      ∀ p, ¬Relation.TransGen σ.Waits p p := by
  have hrun : ((lockIdle.run (LockRequest.program {}) (fun _ _ => True) (checks ++ uses)).map
      fun s => (((s.proc 0).code.bind Program.wanted, (s.proc 1).code.bind Program.wanted),
        (s.owner (.order 10), s.owner (.inventory 6)))) =
      some ((some (.inventory 6), some (.order 10)), (some 0, some 1)) := by decide
  obtain ⟨s, hs, heq⟩ := Option.map_eq_some_iff.mp hrun
  obtain ⟨⟨hwanted₀, hwanted₁⟩, hheld₀, hheld₁⟩ : (_ ∧ _) ∧ _ ∧ _ := by simpa using heq
  have hreach : ((lockTraffic {}).restrict fun _ _ => True).Reachable
      { state := s, waiting := fun _ => none } :=
    Contended.reachable_of_run (fun _ _ => trivial) reachable_lockIdle hs
  have hwait₀ := Contended.reachable_wait hreach trivial hwanted₀ (by simp [State.Free, hheld₁])
  have hwait₁ := Contended.reachable_wait hwait₀ trivial hwanted₁ (by simp [State.Free, hheld₀])
  intro h
  refine h _ hwait₁.of_restrict 0
    (.tail (.single ⟨.inventory 6, ?_, hheld₁⟩) ⟨.order 10, ?_, hheld₀⟩)
  · rfl
  · rfl

end Homex
