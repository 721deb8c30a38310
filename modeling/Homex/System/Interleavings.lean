import Homex.Concurrency.RowLocks
import Homex.Orders.Lifecycle
import Homex.System.Statements

/-!
# Terminal orders under interleaving

Most requests lock an order before they check its status, and a terminal status
survives them in any interleaving. Four check the instance they have loaded
without a lock: the master's arrival, the two generic writes, which save the
whole row, and the internal assignment. Such a write may come to an order that
another request has finished meanwhile, and revives it.
-/

namespace Homex

open Relational Concurrency Orders Wallet Payme

/-- The requests that move orders, on any number of connections. -/
def OrderRequest.program (l : Context × OrderRequest) : Program DB RowKey Error Unit :=
  l.2.statements l.1 >>= fun _ => pure ()

/-- Every interleaving of the requests that move orders. -/
def orderTraffic : Transition.System (State DB RowKey Error ℕ)
    (Concurrency.Event (Context × OrderRequest) ℕ) :=
  interleavings ℕ OrderRequest.program

/-- What is observed of a row: the status, if it is an order. -/
def rowStatus (db : DB) : RowKey → Option OrderStatus
  | .order id => db.statusOf id
  | _ => none

/-- A terminal status is kept. -/
def KeepsTerminal (x y : Option OrderStatus) : Prop :=
  ∀ status, x = some status → status ∈ terminalOrderStatuses → y = some status

instance : Std.Refl KeepsTerminal := ⟨fun _ _ h _ => h⟩

instance : IsTrans (Option OrderStatus) KeepsTerminal :=
  ⟨fun _ _ _ hxy hyz status h hterm => hyz status (hxy status h hterm) hterm⟩

/-- What a program keeps of terminal orders. -/
abbrev Statements.Keeps {α : Type} (p : Statements α) (Q : α → (RowKey → Option DB) → Prop)
    (seen : RowKey → Option DB) : Prop :=
  Program.Keeps rowStatus KeepsTerminal Q p seen

namespace Statements

section Writes

variable {pk : Uuid} {set : Order → Order} {order : Order} {db : DB} {version : Option DB}
  {k : RowKey} {f : DB → DB}

/-- A write of another table. -/
theorem allowed_other (hf : ∀ db, (f db).orders = db.orders) :
    Allowed rowStatus KeepsTerminal k f version := by
  have hsame : ∀ db, rowStatus (f db) = rowStatus db := by
    intro db
    funext k'
    cases k' with
    | order id =>
        change ((f db).orders.find? id).map Order.status = _
        rw [hf]
        rfl
    | _ => rfl
  refine ⟨id, ⟨fun db => congrFun (hsame db) k, fun db k' _ => congrFun (hsame db) k'⟩,
    Or.inl fun _ => Std.Refl.refl _⟩

theorem writes_updateOrder {next : OrderStatus → OrderStatus}
    (hset : ∀ o, (set o).id = o.id ∧ (set o).status = next o.status) :
    Writes rowStatus (.order pk) (fun db => { db with orders := db.orders.update pk set })
      (Option.map next) := by
  have hkey : ∀ o : Order, key (set o) = key o := fun o => (hset o).1
  constructor
  case row =>
    intro db
    change ((db.orders.update pk set).find? pk).map Order.status =
      ((db.orders.find? pk).map Order.status).map next
    rw [Table.find?_update hkey, if_pos rfl, Option.map_map, Option.map_map]
    exact congrArg (fun g => Option.map g _) (funext fun o => (hset o).2)
  case frame =>
    intro db k' hk'
    cases k' with
    | order id =>
        change ((db.orders.update pk set).find? id).map Order.status = _
        rw [Table.find?_update hkey, if_neg fun h => hk' (congrArg RowKey.order h)]
        rfl
    | _ => rfl

/-- An update that sets no status. -/
theorem allowed_columns (hset : ∀ o, (set o).id = o.id ∧ (set o).status = o.status) :
    Allowed rowStatus KeepsTerminal (.order pk)
      (fun db => { db with orders := db.orders.update pk set }) version := by
  refine ⟨Option.map id, writes_updateOrder hset, Or.inl fun x => ?_⟩
  rw [Option.map_id_apply]
  exact Std.Refl.refl x

/-- An update to a status that the order, as it was read, may take. -/
theorem allowed_status {status : OrderStatus}
    (hset : ∀ o, (set o).id = o.id ∧ (set o).status = status)
    (hfind : db.orders.find? pk = some order)
    (hmove : order.status ∈ terminalOrderStatuses → status = order.status) :
    Allowed rowStatus KeepsTerminal (.order pk)
      (fun db => { db with orders := db.orders.update pk set }) (some db) := by
  refine ⟨Option.map fun _ => status, writes_updateOrder hset, Or.inr ⟨db, rfl, ?_⟩⟩
  change KeepsTerminal (db.statusOf pk) ((db.statusOf pk).map fun _ => status)
  rw [DB.statusOf_of_find hfind]
  rintro _ ⟨⟩ hterm
  rw [Option.map_some, hmove hterm]

/-- The order, as it was read, saved whole. -/
theorem allowed_save {saved : Order} (hfind : db.orders.find? saved.id = some order)
    (hmove : order.status ∈ terminalOrderStatuses → saved.status = order.status) :
    Allowed rowStatus KeepsTerminal (.order saved.id)
      (fun db => { db with orders := db.orders.save saved }) (some db) := by
  refine ⟨Option.map fun _ => saved.status, ?_, Or.inr ⟨db, rfl, ?_⟩⟩
  · constructor
    case row =>
      intro db
      change ((db.orders.save saved).find? (key saved)).map Order.status =
        ((db.orders.find? (key saved)).map Order.status).map fun _ => saved.status
      rw [Table.find?_save_self, Option.map_map, Option.map_map]
      rfl
    case frame =>
      intro db k' hk'
      cases k' with
      | order id =>
          change ((db.orders.save saved).find? id).map Order.status = _
          rw [Table.find?_save_of_ne fun h => hk' (congrArg RowKey.order h.symm)]
          rfl
      | _ => rfl
  · change KeepsTerminal (db.statusOf saved.id) ((db.statusOf saved.id).map fun _ => saved.status)
    rw [DB.statusOf_of_find hfind]
    rintro _ ⟨⟩ hterm
    rw [Option.map_some, hmove hterm]

end Writes

section Programs

variable {α : Type} {Q : α → (RowKey → Option DB) → Prop} {seen : RowKey → Option DB}

@[simp] theorem keeps_select {x : Code α} :
    (select x).Keeps Q seen ↔ ∀ db a db', x db = (.ok a, db') → Q a seen := by
  refine forall_congr' fun db => Program.keeps_done.trans ⟨?_, ?_⟩
  · intro h a db' hx
    exact h a (by rw [hx])
  · intro h a hx
    exact h a (x db).2 (Prod.ext hx rfl)

@[simp] theorem keeps_updateOrder {pk : Uuid} {set : Order → Order}
    {Q : Unit → (RowKey → Option DB) → Prop} :
    (updateOrder pk set).Keeps Q seen ↔
      Allowed rowStatus KeepsTerminal (.order pk)
        (fun db => { db with orders := db.orders.update pk set }) (seen (.order pk)) ∧
        Q () (Function.update seen (.order pk) none) := Iff.rfl

@[simp] theorem keeps_getOrder {pk : Uuid} {Q : Order → (RowKey → Option DB) → Prop} :
    (getOrder pk).Keeps Q seen ↔ ∀ db order, db.orders.find? pk = some order →
      Q order (Function.update seen (.order pk) (some db)) := Program.keeps_fetch

theorem find?_of_clientOrder {pk user : Uuid} {db : DB} {order : Order}
    (h : clientOrder pk user db = some order) : db.orders.find? pk = some order :=
  (Option.filter_eq_some_iff.mp h).1

theorem find?_of_masterOrder {pk user : Uuid} {db : DB} {order : Order}
    (h : masterOrder pk user db = some order) : db.orders.find? pk = some order :=
  (Option.filter_eq_some_iff.mp h).1

/-- The order is read under its lock, in one of the allowed statuses. -/
theorem keeps_lockOrderForTransition {pk : Uuid} {row : DB → Option Order}
    {allowed : List OrderStatus} {Q : Order → (RowKey → Option DB) → Prop}
    (h : ∀ db order, row db = some order → order.status ∈ allowed →
      Q order (Function.update seen (.order pk) (some db))) :
    (lockOrderForTransition pk row allowed).Keeps Q seen := by
  unfold lockOrderForTransition
  simp only [Program.keeps_bind, Program.keeps_fetchForUpdate, keeps_select, Program.keeps_pure]
  intro db order hrow _ _ _ hcheck
  exact h db order hrow (Action.require_eq_ok.mp hcheck).1

/-! ### Requests that lock the order -/

/-- A transition from statuses that are not terminal. -/
theorem keeps_transition {pk : Uuid} {row : DB → Option Order} {allowed : List OrderStatus}
    {set : Order → Order} {status : OrderStatus}
    (hset : ∀ o, (set o).id = o.id ∧ (set o).status = status)
    (hrow : ∀ db order, row db = some order → db.orders.find? pk = some order)
    (hallowed : ∀ s ∈ allowed, s ∉ terminalOrderStatuses) :
    Keeps (do
      let order ← lockOrderForTransition pk row allowed
      updateOrder pk set
      pure (set order)) (fun _ _ => True) seen := by
  simp only [Program.keeps_bind, keeps_updateOrder, Program.keeps_pure]
  refine keeps_lockOrderForTransition fun db order hfound hstatus => ⟨?_, trivial⟩
  rw [Function.update_self]
  exact allowed_status hset (hrow db order hfound) fun hterm => absurd hterm (hallowed _ hstatus)

theorem keeps_clientCancel (user pk : Uuid) (reason : String) :
    (ClientOrderCancelView.post user pk reason).Keeps (fun _ _ => True) seen :=
  Program.keeps_atomic.mpr
    (keeps_transition (fun _ => ⟨rfl, rfl⟩) (fun _ _ => find?_of_clientOrder) (by decide))

theorem keeps_masterOnWay (user pk : Uuid) :
    (MasterOrderOnWayView.post user pk).Keeps (fun _ _ => True) seen :=
  Program.keeps_atomic.mpr
    (keeps_transition (fun _ => ⟨rfl, rfl⟩) (fun _ _ => find?_of_masterOrder) (by decide))

theorem keeps_masterReject (user pk : Uuid) (reason : String) :
    (MasterOrderRejectView.post user pk reason).Keeps (fun _ _ => True) seen :=
  Program.keeps_atomic.mpr
    (keeps_transition (fun _ => ⟨rfl, rfl⟩) (fun _ _ => find?_of_masterOrder) (by decide))

theorem keeps_masterAccept (user pk : Uuid) :
    (MasterOrderAcceptView.post user pk).Keeps (fun _ _ => True) seen := by
  unfold MasterOrderAcceptView.post
  simp only [Program.keeps_atomic, Program.keeps_bind, Program.keeps_fetch,
    Program.keeps_fetchForUpdate, Program.keeps_ite, keeps_updateOrder, Program.keeps_write,
    Program.keeps_pure, implies_true, and_true]
  intro _ assignment _ db order hfind
  have hassigned : ∀ version, Allowed rowStatus KeepsTerminal (.assignedMaster pk user)
      (fun db : DB => { db with
        assignedMasters := db.assignedMasters.update (pk, user) fun row =>
          { row with hasAccepted := true } }) version :=
    fun _ => allowed_other fun _ => rfl
  refine ⟨fun hnew => ⟨?_, fun _ => hassigned _⟩, fun _ _ => hassigned _⟩
  rw [Function.update_self]
  refine allowed_status (fun _ => ⟨rfl, rfl⟩) hfind fun hterm => ?_
  rw [hnew] at hterm
  exact absurd hterm (by decide)

theorem keeps_dashboardStatus (pk : Uuid) (data : Dashboard.OrderStatusPayload) :
    (DashboardOrderStatusAPIView.patch pk data).Keeps (fun _ _ => True) seen := by
  unfold DashboardOrderStatusAPIView.patch
  simp only [Program.keeps_bind, keeps_getOrder, Program.keeps_atomic,
    Program.keeps_fetchForUpdate, Program.keeps_require, keeps_updateOrder, Program.keeps_pure,
    and_true]
  intro _ _ _ db order hfind hcan
  rw [Function.update_self]
  exact allowed_status (fun _ => ⟨rfl, rfl⟩) hfind (eq_of_canAdminSetStatus hcan)

theorem keeps_getOrCreateWallet (master : Uuid) :
    (getOrCreateWallet master).Keeps (fun _ _ => True) seen := by
  intro db
  dsimp only
  split
  · trivial
  · refine Program.keeps_write.mpr ⟨allowed_other fun db => ?_, trivial⟩
    split
    · rfl
    · rfl

/-- An insert into another table. -/
theorem rowStatus_of_orders {db db' : DB} (h : db'.orders = db.orders) :
    rowStatus db' = rowStatus db := by
  funext k
  cases k with
  | order id =>
      change (db'.orders.find? id).map Order.status = _
      rw [h]
      rfl
  | _ => rfl

theorem keeps_moveBalance (wallet : MasterWallet) (type : TransactionType) (amount : Int)
    (method : PaymentMethod) :
    (moveBalance wallet type amount method).Keeps (fun _ _ => True) seen := by
  unfold moveBalance moveWallet
  cases type with
  | «in» => exact ⟨allowed_other fun _ => rfl, trivial⟩
  | out =>
      simp only [Program.keeps_bind, Program.keeps_require, Program.keeps_write, and_true]
      exact fun _ => allowed_other fun _ => rfl

theorem keeps_postWalletTransaction (ctx : Context) (master : Uuid) (type : TransactionType)
    (amount : Int) (method : PaymentMethod) (description : String) (order : Option Uuid) :
    (postWalletTransaction ctx master type amount method description order).Keeps
      (fun _ _ => True) seen := by
  unfold postWalletTransaction createTransaction
  simp only [Program.keeps_bind, Program.keeps_require, Program.keeps_fetchForUpdate,
    Program.keeps_create, Program.keeps_pure, and_true]
  intro _
  refine (keeps_getOrCreateWallet master).mono fun _ _ _ _ wallet _ => ?_
  refine (keeps_moveBalance wallet type amount method).mono fun _ _ _ db db' h => ?_
  obtain ⟨_, _, rfl⟩ := Option.map_eq_some_iff.mp h
  exact rowStatus_of_orders rfl

theorem keeps_creditMaster (ctx : Context) (order : Order) (paymentMethod : PaymentType) :
    (creditMaster ctx order paymentMethod).Keeps (fun _ _ => True) seen := by
  unfold creditMaster
  split
  · trivial
  · split
    · trivial
    · simp only [Program.keeps_bind, keeps_select]
      intro _ _ _ _
      exact keeps_postWalletTransaction ..

/-- Completing starts from an order that, locked, awaits payment. -/
theorem keeps_completePaidOrder (ctx : Context) (pk : Uuid) (paymentMethod : PaymentType) :
    (completePaidOrder ctx pk paymentMethod).Keeps (fun _ _ => True) seen := by
  unfold completePaidOrder
  simp only [Program.keeps_bind, Program.keeps_fetchForUpdate, Program.keeps_ite,
    Program.keeps_pure, keeps_updateOrder, implies_true, true_and]
  intro db order hfind hawaiting
  refine ⟨?_, (keeps_creditMaster ..).mono fun _ _ _ => trivial⟩
  rw [Function.update_self]
  refine allowed_status (fun _ => ⟨rfl, rfl⟩) hfind fun hterm => ?_
  rw [not_not.mp hawaiting] at hterm
  exact absurd hterm (by decide)

theorem keeps_clientPay (ctx : Context) (user pk : Uuid) (paymentMethod : PaymentMethodField) :
    (ClientOrderPayView.post ctx user pk paymentMethod).Keeps (fun _ _ => True) seen := by
  unfold ClientOrderPayView.post
  simp only [Program.keeps_atomic, Program.keeps_bind, Program.keeps_fetchForUpdate,
    Program.keeps_require]
  intro db order _ _ _
  split
  · simp only [Program.keeps_bind, keeps_getOrder, Program.keeps_pure, implies_true]
    exact keeps_completePaidOrder ctx pk .cash
  · exact ⟨allowed_columns fun _ => ⟨rfl, rfl⟩, allowed_columns fun _ => ⟨rfl, rfl⟩, trivial⟩
  · exact ⟨allowed_columns fun _ => ⟨rfl, rfl⟩, trivial⟩
  · exact ⟨allowed_columns fun _ => ⟨rfl, rfl⟩, trivial⟩

theorem keeps_useItem (ctx : Context) (pk : Uuid) (order : Order) (i : Nat) (item : UsedItem) :
    (OrderCompleteSerializer.useItem ctx order i item).Keeps
      (fun _ seen' => seen' (.order pk) = seen (.order pk)) seen := by
  unfold OrderCompleteSerializer.useItem saveInventoryQuantity createUsage
  simp only [Program.keeps_bind, Program.keeps_fetchForUpdate,
    Program.keeps_require, Program.keeps_create, Program.keeps_pure]
  intro _ inventory _ _ product _ _
  refine ⟨fun db db' h => ?_, fun db db' h => ?_, ?_⟩
  · obtain ⟨_, _, rfl⟩ := Option.map_eq_some_iff.mp h
    exact rowStatus_of_orders rfl
  · obtain ⟨_, _, rfl⟩ := Option.map_eq_some_iff.mp h
    exact rowStatus_of_orders rfl
  · simp

theorem keeps_useItems (ctx : Context) (pk : Uuid) (order : Order) (i : Nat)
    (items : List UsedItem) :
    (OrderCompleteSerializer.useItems ctx order i items).Keeps
      (fun _ seen' => seen' (.order pk) = seen (.order pk)) seen := by
  induction items generalizing i seen with
  | nil => exact rfl
  | cons item items ih =>
      unfold OrderCompleteSerializer.useItems
      simp only [Program.keeps_bind, Program.keeps_pure]
      refine (keeps_useItem ctx pk order i item).mono fun _ _ hfirst => ?_
      exact (ih (i + 1)).mono fun _ _ hrest => hrest.trans hfirst

theorem keeps_masterComplete (ctx : Context) (user pk : Uuid) (data : OrderCompletePayload) :
    (MasterOrderCompleteView.post ctx user pk data).Keeps (fun _ _ => True) seen := by
  unfold MasterOrderCompleteView.post OrderCompleteSerializer.save
  simp only [Program.keeps_bind, Program.keeps_fetch, keeps_select, Program.keeps_atomic,
    Program.keeps_fetchForUpdate, Program.keeps_require]
  intro _ _ _ _ _ _ _ db order hfind hactive
  obtain rfl : order.id = pk := Table.key_of_find? hfind
  refine (keeps_useItems ctx order.id order 0 data.usedItems).mono
    fun _ seen hseen _ _ _ _ => ⟨?_, trivial⟩
  rw [Function.update_self] at hseen
  have hopen : ∀ saved : Order, saved.id = order.id →
      Allowed rowStatus KeepsTerminal (.order saved.id)
        (fun db => { db with orders := db.orders.save saved }) (seen (.order saved.id)) := by
    intro saved hid
    rw [hid, hseen, ← hid]
    exact allowed_save (hid ▸ hfind) fun hterm => absurd hterm (not_mem_terminal_of_active hactive)
  exact hopen _ rfl

theorem keeps_markOrderPaid (ctx : Context) (order : Order) :
    (markOrderPaid ctx order).Keeps (fun _ _ => True) seen := by
  unfold markOrderPaid
  simp only [Program.keeps_ite, Program.keeps_pure, Program.keeps_bind, implies_true, true_and]
  intro _
  refine (keeps_completePaidOrder ctx order.id .online).mono fun _ seen _ => ?_
  exact ⟨fun _ => ⟨allowed_columns fun _ => ⟨rfl, rfl⟩, trivial⟩, trivial⟩

theorem keeps_updatePayme (id : String) (set : PaymeTransaction → PaymeTransaction) :
    (updatePayme id set).Keeps (fun _ _ => True) seen :=
  ⟨allowed_other fun _ => rfl, trivial⟩

theorem keeps_paymePerform (ctx : Context) (params : Params) :
    (PaymeWebHookAPIView.performTransaction ctx params).Keeps (fun _ _ => True) seen := by
  unfold PaymeWebHookAPIView.performTransaction PaymeWebHookAPIView.performLocked
    PaymeWebHookAPIView.markAsCancelled PaymeWebHookAPIView.markAsPerformed
  simp only [Program.keeps_bind, Program.keeps_found, Program.keeps_atomic,
    Program.keeps_fetchForUpdate, Program.keeps_ite, Program.keeps_pure, Program.keeps_raise,
    Program.keeps_fetch, implies_true, true_and]
  intro id _ _ tx _ _ _
  refine ⟨fun _ _ => keeps_updatePayme .., fun _ => ⟨fun _ _ order _ => ?_, fun _ => ?_⟩⟩
  · exact keeps_markOrderPaid ctx order
  · refine (keeps_updatePayme ..).mono fun _ _ _ _ order _ => ?_
    exact keeps_markOrderPaid ctx order

/-! ### Requests that write what they loaded -/

theorem keeps_masterStart (user pk : Uuid) :
    (MasterOrderStartView.post user pk).Keeps (fun _ _ => True) seen := by
  unfold MasterOrderStartView.post
  simp only [Program.keeps_bind, Program.keeps_fetch, Program.keeps_atomic, Program.keeps_ite,
    Program.keeps_pure, Program.keeps_require, keeps_updateOrder, implies_true, true_and,
    and_true]
  intro db order hfind _ honWay
  rw [Function.update_self]
  refine allowed_status (fun _ => ⟨rfl, rfl⟩) (find?_of_masterOrder hfind) fun hterm => ?_
  rw [honWay] at hterm
  exact absurd hterm (by decide)

/-- The loaded order, saved whole with a status it may take. -/
theorem keeps_saveOrder {pk : Uuid} {db : DB} {order saved : Order}
    (hfind : db.orders.find? pk = some order) (hid : saved.id = order.id)
    (hcan : canAdminSetStatus order.status saved.status = true) :
    (saveOrder saved).Keeps (fun _ _ => True) (Function.update seen (.order pk) (some db)) := by
  obtain rfl : saved.id = pk := hid.trans (Table.key_of_find? hfind)
  refine Program.keeps_write.mpr ⟨?_, trivial⟩
  rw [Function.update_self]
  exact allowed_save hfind (eq_of_canAdminSetStatus hcan)

theorem keeps_dashboardUpdate (pk : Uuid) (data : Dashboard.OrderPayload) :
    (DashboardOrderSerializer.update pk data).Keeps (fun _ _ => True) seen := by
  have hcheck : ∀ {seen} {Q : Unit → (RowKey → Option DB) → Prop}, Q () seen →
      (DashboardOrderSerializer.checkFields data).Keeps Q seen := by
    intro seen Q hQ
    unfold DashboardOrderSerializer.checkFields
    simp only [Program.keeps_bind, keeps_select]
    intros
    exact hQ
  unfold DashboardOrderSerializer.update
  simp only [Program.keeps_bind, keeps_getOrder]
  intro db order hfind
  apply hcheck
  simp only [keeps_select, Program.keeps_pure]
  intro _ _ _ hstatus _ data' _ hvalid
  obtain ⟨hdata, -⟩ := dashboardValidate_ok hvalid
  refine keeps_saveOrder hfind ?_ ?_
  · obtain ⟨total, hupdated⟩ := Dashboard.DashboardOrderSerializer.updated_eq data' order
    rw [hupdated]
    rfl
  · rw [(dashboardUpdated_columns order hdata).1]
    exact (Action.require_eq_ok.mp hstatus).1

theorem keeps_internalUpdate (ctx : Context) (pk : Uuid) (data : InternalApi.OrderPayload) :
    (InternalOrderWriteSerializer.update ctx pk data).Keeps (fun _ _ => True) seen := by
  have hcheck : ∀ {seen} {Q : Unit → (RowKey → Option DB) → Prop}, Q () seen →
      (InternalOrderWriteSerializer.checkFields data).Keeps Q seen := by
    intro seen Q hQ
    unfold InternalOrderWriteSerializer.checkFields
    simp only [Program.keeps_bind, keeps_select]
    intros
    exact hQ
  unfold InternalOrderWriteSerializer.update
  simp only [Program.keeps_bind, keeps_getOrder]
  intro db order hfind
  apply hcheck
  simp only [keeps_select, Program.keeps_require, Program.keeps_pure]
  intro _ schedule _ _ hcan _
  exact keeps_saveOrder hfind rfl hcan

theorem keeps_internalAssign (pk : Uuid) (master : Option Uuid) :
    (OrderAssignAPIView.patch pk master).Keeps (fun _ _ => True) seen := by
  have hactive : ∀ {seen} {Q : Unit → (RowKey → Option DB) → Prop}, Q () seen →
      (activeMaster master).Keeps Q seen := by
    intro seen Q hQ
    cases master with
    | none => exact hQ
    | some id =>
        unfold activeMaster
        simp only [Program.keeps_bind, keeps_select, Program.keeps_pure]
        intros
        exact hQ
  unfold OrderAssignAPIView.patch
  simp only [Program.keeps_bind, keeps_getOrder]
  intro db order hfind
  apply hactive
  simp only [keeps_updateOrder, Program.keeps_pure, and_true]
  rw [Function.update_self]
  refine allowed_status (fun _ => ⟨rfl, rfl⟩) hfind fun hterm => if_neg ?_
  rintro ⟨-, hnew⟩
  rw [hnew] at hterm
  exact absurd hterm (by decide)

end Programs

end Statements

open Statements in
/-- Every request, run by itself, keeps terminal orders. -/
theorem keeps_program (l : Context × OrderRequest) :
    (OrderRequest.program l).Keeps rowStatus KeepsTerminal (fun _ _ => True) fun _ => none := by
  obtain ⟨ctx, r⟩ := l
  refine Program.keeps_bind.mpr ?_
  cases r with
  | clientCancel user pk reason => exact Program.keeps_map.mpr (keeps_clientCancel user pk reason)
  | clientPay user pk method => exact Program.keeps_map.mpr (keeps_clientPay ctx user pk method)
  | masterAccept user pk => exact Program.keeps_map.mpr (keeps_masterAccept user pk)
  | masterOnWay user pk => exact Program.keeps_map.mpr (keeps_masterOnWay user pk)
  | masterStart user pk => exact Program.keeps_map.mpr (keeps_masterStart user pk)
  | masterReject user pk reason => exact Program.keeps_map.mpr (keeps_masterReject user pk reason)
  | masterComplete user pk data =>
      exact Program.keeps_map.mpr (keeps_masterComplete ctx user pk data)
  | dashboardUpdate pk data => exact Program.keeps_map.mpr (keeps_dashboardUpdate pk data)
  | dashboardStatus pk data => exact Program.keeps_map.mpr (keeps_dashboardStatus pk data)
  | internalUpdate pk data => exact Program.keeps_map.mpr (keeps_internalUpdate ctx pk data)
  | internalAssign pk master => exact Program.keeps_map.mpr (keeps_internalAssign pk master)
  | paymePerform params => exact Program.keeps_map.mpr (keeps_paymePerform ctx params)

/-- The order that the next statement updates. -/
def updatedOrder : Option (Program DB RowKey Error Unit) → Option Uuid
  | some (.update (.order id) _ _) => some id
  | _ => none

/-- A request about to write an order it has not locked finds it in the status it
was loaded in, or in one that is not terminal. -/
def NotFinishedMeanwhile (σ : State DB RowKey Error ℕ) :
    Concurrency.Event (Context × OrderRequest) ℕ → Prop
  | .statement p =>
      ∀ id ∈ updatedOrder (σ.proc p).code,
        σ.owner (.order id) = some p ∨
          (∀ db ∈ (σ.proc p).seen (.order id), db.statusOf id = σ.store.statusOf id) ∨
          ∀ status ∈ σ.store.statusOf id, status ∉ terminalOrderStatuses
  | .request _ _ => True
  | .stop _ => True

instance decidableNotFinishedMeanwhile (σ : State DB RowKey Error ℕ) :
    (e : Concurrency.Event (Context × OrderRequest) ℕ) → Decidable (NotFinishedMeanwhile σ e)
  | .statement p =>
      inferInstanceAs (Decidable (∀ id ∈ updatedOrder (σ.proc p).code,
        σ.owner (.order id) = some p ∨
          (∀ db ∈ (σ.proc p).seen (.order id), db.statusOf id = σ.store.statusOf id) ∨
          ∀ status ∈ σ.store.statusOf id, status ∉ terminalOrderStatuses))
  | .request _ _ => isTrue trivial
  | .stop _ => isTrue trivial

theorem fresh_of_notFinishedMeanwhile {σ : State DB RowKey Error ℕ}
    {e : Concurrency.Event (Context × OrderRequest) ℕ} (h : NotFinishedMeanwhile σ e) :
    σ.Fresh rowStatus KeepsTerminal e := by
  cases e with
  | request p r => trivial
  | stop p => trivial
  | statement p =>
      intro k f next hcode hheld db hseen
      cases k with
      | order id =>
          have hid : id ∈ updatedOrder (σ.proc p).code := by rw [hcode]; rfl
          rcases h id hid with howner | hsame | hopen
          · exact absurd howner hheld
          · exact Or.inl (hsame db hseen)
          · exact Or.inr fun x status hstatus hterm => absurd hterm (hopen status hstatus)
      | _ => exact Or.inl rfl

/-- A committed terminal status is there in every later state. -/
theorem terminal_status_survives {σ σ' : State DB RowKey Error ℕ} {id : Uuid}
    {status : OrderStatus} (h : (orderTraffic.restrict NotFinishedMeanwhile).Reachable σ)
    (hl : (orderTraffic.restrict NotFinishedMeanwhile).Leads σ σ')
    (hstatus : σ.store.statusOf id = some status) (hterm : status ∈ terminalOrderStatuses) :
    σ'.store.statusOf id = some status := by
  have hfresh : ∀ σ e, NotFinishedMeanwhile σ e → σ.Fresh rowStatus KeepsTerminal e :=
    fun _ _ => fresh_of_notFinishedMeanwhile
  exact committed_of_leads keeps_program (h.restrict_mono hfresh) (hl.restrict_mono hfresh)
    (.order id) status hstatus hterm

namespace Sample

/-- The order of `accepted`, and no request under way. -/
def traffic : State DB RowKey Error ℕ := .idle (world.run {} accepted).db

/-- `p` sends its next `n` statements. -/
def statements (p n : ℕ) : List (Concurrency.Event (Context × OrderRequest) ℕ) :=
  List.replicate n (.statement p)

/-- The master goes on his way. -/
def goesOnWay : List (Concurrency.Event (Context × OrderRequest) ℕ) :=
  .request 0 (at_ 30, .masterOnWay 2 10) :: statements 0 6

/-- The client cancels, on connection 0. -/
def cancels : List (Concurrency.Event (Context × OrderRequest) ℕ) :=
  .request 0 (at_ 32, .clientCancel 1 10 "") :: statements 0 5

/-- On connection 1 an admin's status change has begun, and waits for the lock. -/
def statusAgainstCancel : List (Concurrency.Event (Context × OrderRequest) ℕ) :=
  goesOnWay ++ .request 1 (at_ 31, .dashboardStatus 10 { status := .arrived }) ::
    statements 1 2 ++ cancels

/-- On connection 1 the master's arrival has loaded the order. -/
def arrivalAgainstCancel : List (Concurrency.Event (Context × OrderRequest) ℕ) :=
  goesOnWay ++ .request 1 (at_ 31, .masterStart 2 10) :: statements 1 1 ++ cancels

theorem reachable_traffic
    {guard : State DB RowKey Error ℕ → Concurrency.Event (Context × OrderRequest) ℕ → Prop} :
    (orderTraffic.restrict guard).Reachable traffic :=
  .init ⟨_, rfl⟩

end Sample

open Sample in
/-- An admin's status change under way does not revive the order that the client
has cancelled. -/
theorem terminal_status_survives_sample :
    ∃ σ σ', (orderTraffic.restrict NotFinishedMeanwhile).Reachable σ ∧
      (orderTraffic.restrict NotFinishedMeanwhile).Leads σ σ' ∧
      ((σ.proc 1).code.isSome ∧ (σ'.proc 1).code.isNone) ∧
      σ.store.statusOf 10 = some .cancelled ∧ σ'.store.statusOf 10 = some .cancelled := by
  have hrun : ((traffic.run OrderRequest.program NotFinishedMeanwhile statusAgainstCancel).bind
      fun σ => (σ.run OrderRequest.program NotFinishedMeanwhile (statements 1 2)).map fun σ' =>
        (((σ.proc 1).code.isSome, (σ'.proc 1).code.isNone), σ.store.statusOf 10)) =
      some ((true, true), some .cancelled) := by decide
  obtain ⟨σ, hσ, hrest⟩ := Option.bind_eq_some_iff.mp hrun
  obtain ⟨σ', hσ', heq⟩ := Option.map_eq_some_iff.mp hrest
  obtain ⟨⟨hbusy, hdone⟩, hstatus⟩ : (_ ∧ _) ∧ _ := by simpa using heq
  have hreach := reachable_traffic.leads (leads_of_run .refl hσ)
  have hleads := leads_of_run .refl hσ'
  exact ⟨σ, σ', hreach, hleads, ⟨hbusy, by simpa using hdone⟩, hstatus,
    terminal_status_survives hreach hleads hstatus (by decide)⟩

open Sample in
/-- The arrival of the master revives the order that the client has cancelled
since it was loaded. -/
theorem cancelled_order_arrives :
    ¬∀ σ σ', orderTraffic.Reachable σ → orderTraffic.Leads σ σ' → ∀ id, ∀ status ∈
      terminalOrderStatuses, σ.store.statusOf id = some status →
        σ'.store.statusOf id = some status := by
  intro h
  have hrun : ((traffic.run OrderRequest.program (fun _ _ => True) arrivalAgainstCancel).bind
      fun σ => (σ.run OrderRequest.program (fun _ _ => True) (statements 1 3)).map fun σ' =>
        (σ.store.statusOf 10, σ'.store.statusOf 10)) =
      some (some .cancelled, some .arrived) := by decide
  obtain ⟨σ, hσ, hrest⟩ := Option.bind_eq_some_iff.mp hrun
  obtain ⟨σ', hσ', heq⟩ := Option.map_eq_some_iff.mp hrest
  obtain ⟨hcancelled, harrived⟩ := Prod.mk.inj heq
  have hreach := (reachable_traffic.leads (leads_of_run .refl hσ)).of_restrict
  have hleads := (leads_of_run .refl hσ').of_restrict
  have hkept := h σ σ' hreach hleads 10 .cancelled (by decide) hcancelled
  rw [harrived] at hkept
  cases hkept

end Homex
