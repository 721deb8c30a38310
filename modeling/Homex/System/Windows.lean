import Homex.Concurrency.Windows
import Homex.System.Events

/-!
# What may still fail after a status event

In each request, the statements between the save of a status, with the events it sends,
and the commit. A transition has none: its event is false only when a statement of the
signal itself or the commit fails. A payment still credits the master, a master who
accepts still marks the assignment, and the form of the admin site still saves its
inlines.
-/

namespace Homex

open Relational Concurrency Signals Program Orders Wallet Warehouse

/-- The rows touched after an order is completed: the wallet that is credited, its
transaction, and the order itself. -/
inductive CreditWindow (ctx : Context) (orders : Uuid → Prop) : Option RowKey → Prop
  | query : CreditWindow ctx orders none
  | wallet (master : Uuid) : CreditWindow ctx orders (some (.wallet master))
  | transaction : CreditWindow ctx orders (some (.walletTransaction (ctx.uuid .walletTransaction)))
  | order {pk : Uuid} : orders pk → CreditWindow ctx orders (some (.order pk))

/-- The row of an order. -/
def RowKey.IsOrder (key : RowKey) : Prop := ∃ id, key = .order id

/-- What a request touches between the save of a status and the commit: rows by their keys,
and `none` for any other query or an error. -/
def StatusRequest.window (ctx : Context) : StatusRequest → Option RowKey → Prop
  | .api (.clientPay _ pk _) => CreditWindow ctx (· = pk)
  | .api (.paymePerform _) => CreditWindow ctx fun _ => True
  | .api (.masterAccept user pk) => fun key => key = some (.assignedMaster pk user)
  | .admin _ _ inlines => fun key =>
      key = none ∨ ∃ pk, ∃ row ∈ inlines, key = some (row.rowKey pk)
  | _ => fun _ => False

namespace Statements

section Touches

variable {T : Option RowKey → Prop} {α : Type} {ctx : Context} {orders : Uuid → Prop}

theorem touches_select {x : Code α} (h : T none) : Touches T (select x) := by
  refine ⟨h, fun db => ?_⟩
  dsimp only
  cases (x db).1 with
  | ok a => trivial
  | error e => exact h

theorem touches_getOrCreateWallet (master : Uuid) :
    Touches (CreditWindow ctx orders) (getOrCreateWallet master) := by
  refine ⟨.wallet master, fun db => ?_⟩
  dsimp only
  cases db.wallet.wallets.find? master with
  | none => exact ⟨.wallet master, trivial⟩
  | some wallet => trivial

theorem touches_moveBalance (wallet : MasterWallet) (type : TransactionType) (amount : Int)
    (method : PaymentMethod) :
    Touches (CreditWindow ctx orders) (moveBalance wallet type amount method) := by
  cases type with
  | «in» => exact ⟨.wallet _, trivial⟩
  | out => exact (touches_require .query).bind fun _ => ⟨.wallet _, trivial⟩

theorem touches_postWalletTransaction (master : Uuid) (type : TransactionType) (amount : Int)
    (method : PaymentMethod) (description : String) (order : Option Uuid) :
    Touches (CreditWindow ctx orders)
      (postWalletTransaction ctx master type amount method description order) :=
  (touches_require .query).bind fun _ =>
    (touches_getOrCreateWallet master).bind fun _ =>
      (touches_fetchForUpdate (.wallet master) .query).bind fun wallet =>
        (touches_moveBalance wallet type amount method).bind fun _ => ⟨.transaction, trivial⟩

theorem touches_creditMaster (order : Order) (method : PaymentType) :
    Touches (CreditWindow ctx orders) (creditMaster ctx order method) := by
  unfold creditMaster
  cases order.master with
  | none => trivial
  | some master =>
      refine .ite trivial ((touches_select .query).bind fun service => ?_)
      exact (touches_postWalletTransaction _ _ _ _ _ _).bind fun _ => trivial

theorem touches_saveInline {T : Option RowKey → Prop} {pk : Uuid} {row : InlineWrite}
    (h : T (some (row.rowKey pk))) : Touches T (saveInline pk row) := by
  cases row with
  | addRelated related row => exact ⟨h, trivial⟩
  | changeRelated related master row => exact ⟨h, trivial⟩
  | deleteRelated related master => exact ⟨h, trivial⟩
  | addUsage id inventory quantity unitPrice => exact ⟨h, trivial⟩
  | changeUsage id inventory quantity unitPrice => exact ⟨h, trivial⟩
  | deleteUsage id => exact ⟨h, trivial⟩

theorem touches_saveInlines {T : Option RowKey → Prop} {pk : Uuid} {rows : List InlineWrite}
    (h : ∀ row ∈ rows, T (some (row.rowKey pk))) : Touches T (saveInlines pk rows) := by
  induction rows with
  | nil => trivial
  | cons row rows ih =>
      rw [List.forall_mem_cons] at h
      exact (touches_saveInline h.1).bind fun _ => ih h.2

end Touches

section Spares

variable {C : RowKey → Prop} {α : Type} {ctx : Context}

theorem spares_select {x : Code α} : Spares C (select x) := fun _ => trivial

theorem spares_lockOrderForTransition {pk : Uuid} {row : DB → Option Order}
    {allowed : List OrderStatus} : Spares C (lockOrderForTransition pk row allowed) :=
  spares_fetchForUpdate.bind fun _ => spares_select.bind fun _ => trivial

theorem spares_useItems (order : Order) (i : ℕ) (items : List UsedItem) :
    Spares C (OrderCompleteSerializer.useItems ctx order i items) := by
  induction items generalizing i with
  | nil => trivial
  | cons item items ih =>
      refine Spares.bind ?_ fun _ => (ih (i + 1)).bind fun _ => trivial
      refine spares_fetchForUpdate.bind fun _ => spares_fetchForUpdate.bind fun _ => ?_
      exact spares_require.bind fun _ => trivial

theorem spares_updatePayme (id : String) (set : Payme.PaymeTransaction → Payme.PaymeTransaction) :
    Spares RowKey.IsOrder (updatePayme id set) := by
  refine ⟨?_, trivial⟩
  rintro ⟨pk, hpk⟩
  cases hpk

theorem spares_activeMaster (master : Option Uuid) : Spares C (activeMaster master) := by
  cases master with
  | none => trivial
  | some id => exact spares_select.bind fun _ => trivial

end Spares

section Windows

variable {T : Option RowKey → Prop} {ctx : Context} {pk user : Uuid} {orders : Uuid → Prop}

theorem windows_updateOrder {set : Order → Order} :
    Windows RowKey.IsOrder T (updateOrder pk set) :=
  windows_write

/-- The cancel, on-way and reject views. -/
theorem windows_transition {row : DB → Option Order} {allowed : List OrderStatus}
    {set : Order → Order} :
    Windows RowKey.IsOrder T (atomic do
      let order ← lockOrderForTransition pk row allowed
      updateOrder pk set
      pure (set order)) := by
  refine Windows.atomic (spares_lockOrderForTransition.windows_bind fun order => ?_)
  exact windows_updateOrder.bind (fun _ => trivial) fun _ => trivial

theorem windows_completePaidOrder (method : PaymentType) :
    Windows RowKey.IsOrder (CreditWindow ctx orders) (completePaidOrder ctx pk method) := by
  refine spares_fetchForUpdate.windows_bind fun order => .ite trivial ?_
  refine windows_updateOrder.bind (fun _ => ?_) fun _ => ?_
  · exact (touches_creditMaster _ _).bind fun _ => trivial
  · exact ((touches_creditMaster _ _).windows (noTransaction_creditMaster _ _ _)).bind
      (fun _ => trivial) fun _ => trivial

theorem windows_clientPay (method : PaymentMethodField) :
    Windows RowKey.IsOrder (CreditWindow ctx (· = pk))
      (ClientOrderPayView.post ctx user pk method) := by
  have horder : CreditWindow ctx (· = pk) (some (.order pk)) := .order rfl
  refine Windows.atomic (spares_fetchForUpdate.windows_bind fun order => ?_)
  refine spares_require.windows_bind fun _ => spares_require.windows_bind fun _ => ?_
  have honline : ∀ p : Statements PayResponse, Touches (CreditWindow ctx (· = pk)) p →
      NoTransaction p → Windows RowKey.IsOrder (CreditWindow ctx (· = pk))
        (do updateOrder pk fun row => { row with paymentType := some .online }; p) :=
    fun p htouches hp =>
      windows_updateOrder.bind (fun _ => htouches) fun _ => htouches.windows hp
  have hurl : ∀ method : PaymentType, Windows RowKey.IsOrder (CreditWindow ctx (· = pk)) (do
      updateOrder pk fun row => { row with paymentType := some .online }
      updateOrder pk fun row => { row with totalAmount := order.recalculateTotal.totalAmount }
      pure (PayResponse.paymentUrl pk method) : Statements PayResponse) :=
    fun method => honline _ ⟨horder, trivial⟩ trivial
  cases method with
  | choice method =>
      cases method with
      | cash =>
          have hrest : ∀ completed : Bool, Touches (CreditWindow ctx (· = pk)) (do
              let refreshed ← getOrder pk
              pure (PayResponse.completed refreshed) : Statements PayResponse) :=
            fun _ => (touches_fetch horder .query).bind fun _ => trivial
          refine (windows_completePaidOrder _).bind hrest fun completed => ?_
          exact (hrest completed).windows ((noTransaction_fetch _ _ _).bind fun _ => trivial)
      | online => exact hurl _
      | card => exact hurl _
      | plastic => exact hurl _
  | missing => exact honline _ .query trivial
  | invalid text => exact honline _ .query trivial

theorem windows_masterAccept :
    Windows RowKey.IsOrder (fun key => key = some (.assignedMaster pk user))
      (MasterOrderAcceptView.post user pk) := by
  refine Windows.atomic (spares_fetch.windows_bind fun assignment => ?_)
  refine spares_fetchForUpdate.windows_bind fun order => ?_
  refine .ite (windows_updateOrder.bind (fun _ => ?_) fun _ => ?_) ?_
  · exact .ite (Touches.bind ⟨rfl, trivial⟩ fun _ => trivial) trivial
  · exact .ite (windows_write.bind (fun _ => trivial) fun _ => trivial) trivial
  · exact .ite (windows_write.bind (fun _ => trivial) fun _ => trivial) trivial

theorem windows_masterStart : Windows RowKey.IsOrder T (MasterOrderStartView.post user pk) := by
  refine spares_fetch.windows_bind fun order => Windows.atomic (.ite trivial ?_)
  refine spares_require.windows_bind fun _ => ?_
  exact windows_updateOrder.bind (fun _ => trivial) fun _ => trivial

theorem windows_masterComplete (data : OrderCompletePayload) :
    Windows RowKey.IsOrder T (MasterOrderCompleteView.post ctx user pk data) := by
  refine spares_fetch.windows_bind fun order => spares_select.windows_bind fun _ => ?_
  refine Windows.atomic (spares_fetchForUpdate.windows_bind fun order => ?_)
  refine spares_require.windows_bind fun _ => (spares_useItems _ _ _).windows_bind fun _ => ?_
  refine spares_select.windows_bind fun db => ?_
  exact windows_write.bind (fun _ => trivial) fun _ => trivial

theorem windows_dashboardUpdate (data : Dashboard.OrderPayload) :
    Windows RowKey.IsOrder T (DashboardOrderSerializer.update pk data) := by
  refine spares_fetch.windows_bind fun order => Spares.windows_bind ?_ fun _ => ?_
  · exact spares_select.bind fun _ => spares_select.bind fun _ => spares_select.bind fun _ =>
      spares_select
  refine spares_select.windows_bind fun _ => spares_select.windows_bind fun data => ?_
  exact windows_write.bind (fun _ => trivial) fun _ => trivial

theorem windows_dashboardStatus (data : Dashboard.OrderStatusPayload) :
    Windows RowKey.IsOrder T (DashboardOrderStatusAPIView.patch pk data) := by
  refine spares_fetch.windows_bind fun _ => ?_
  refine Windows.atomic (spares_fetchForUpdate.windows_bind fun order => ?_)
  refine spares_require.windows_bind fun _ => ?_
  exact windows_updateOrder.bind (fun _ => trivial) fun _ => trivial

theorem windows_internalUpdate (data : InternalApi.OrderPayload) :
    Windows RowKey.IsOrder T (InternalOrderWriteSerializer.update ctx pk data) := by
  refine spares_fetch.windows_bind fun order => Spares.windows_bind ?_ fun _ => ?_
  · exact spares_select.bind fun _ => spares_select.bind fun _ => spares_select
  refine spares_select.windows_bind fun schedule => ?_
  refine spares_require.windows_bind fun _ => spares_require.windows_bind fun _ => ?_
  exact windows_write.bind (fun _ => trivial) fun _ => trivial

theorem windows_assign (master : Option Uuid) :
    Windows RowKey.IsOrder T (OrderAssignAPIView.patch pk master) := by
  refine spares_fetch.windows_bind fun _ => (spares_activeMaster _).windows_bind fun _ => ?_
  exact windows_updateOrder.bind (fun _ => trivial) fun _ => trivial

theorem windows_markOrderPaid (order : Order) :
    Windows RowKey.IsOrder (CreditWindow ctx fun _ => True) (markOrderPaid ctx order) := by
  refine .ite trivial ((windows_completePaidOrder _).bind (fun completed => ?_) fun completed => ?_)
  · exact .ite ⟨.order trivial, trivial⟩ trivial
  · exact .ite windows_updateOrder trivial

theorem windows_performLocked (id : String) :
    Windows RowKey.IsOrder (CreditWindow ctx fun _ => True)
      (PaymeWebHookAPIView.performLocked ctx id) := by
  refine spares_fetchForUpdate.windows_bind fun tx => .ite trivial (.ite trivial (.ite ?_ ?_))
  · refine Spares.windows_bind (.ite trivial (spares_updatePayme _ _)) fun _ => trivial
  · refine Spares.windows_bind (.ite trivial (spares_updatePayme _ _)) fun _ => ?_
    refine spares_fetch.windows_bind fun order => ?_
    exact (windows_markOrderPaid order).bind (fun _ => trivial) fun _ => trivial

theorem windows_paymePerform (params : Payme.Params) :
    Windows RowKey.IsOrder (CreditWindow ctx fun _ => True)
      (PaymeWebHookAPIView.performTransaction ctx params) := by
  refine spares_found.windows_bind fun id => ?_
  refine (windows_performLocked id).atomic.bind (fun result? => touches_found .query) fun _ => ?_
  exact (touches_found .query).windows (noTransaction_found _ _)

theorem windows_admin (form : Order) (inlines : List InlineWrite) :
    Windows RowKey.IsOrder
      (fun key => key = none ∨ ∃ pk, ∃ row ∈ inlines, key = some (row.rowKey pk))
      (OrderAdmin.changeformView pk form inlines) := by
  have hinlines : ∀ order : Order, Touches
      (fun key => key = none ∨ ∃ pk, ∃ row ∈ inlines, key = some (InlineWrite.rowKey pk row)) (do
        saveInlines order.id inlines
        select (pure ())
        pure { form with id := order.id } : Statements Order) := by
    intro order
    refine (touches_saveInlines fun row hrow => Or.inr ⟨order.id, row, hrow, rfl⟩).bind fun _ => ?_
    exact (touches_select (Or.inl rfl)).bind fun _ => trivial
  refine Windows.atomic (spares_fetch.windows_bind fun order => ?_)
  refine windows_write.bind (fun _ => hinlines order) fun _ => (hinlines order).windows ?_
  refine (noTransaction_saveInlines _ _).bind fun _ => ?_
  exact (noTransaction_select _).bind fun _ => trivial

end Windows

end Statements

namespace StatusRequest

open Statements

/-- The windows of a request touch no more than `window` says. -/
theorem windows_statements (ctx : Context) (request : StatusRequest) :
    Windows RowKey.IsOrder (request.window ctx) (request.statements ctx) := by
  cases request with
  | admin pk form inlines => exact (windows_admin form inlines).map
  | api request =>
      cases request with
      | clientCancel user pk reason => exact windows_transition.map
      | clientPay user pk method => exact (windows_clientPay method).map
      | masterAccept user pk => exact windows_masterAccept.map
      | masterOnWay user pk => exact windows_transition.map
      | masterStart user pk => exact windows_masterStart.map
      | masterReject user pk reason => exact windows_transition.map
      | masterComplete user pk data => exact (windows_masterComplete data).map
      | dashboardUpdate pk data => exact (windows_dashboardUpdate data).map
      | dashboardStatus pk data => exact (windows_dashboardStatus data).map
      | internalUpdate pk data => exact (windows_internalUpdate data).map
      | internalAssign pk master => exact (windows_assign master).map
      | paymePerform params => exact (windows_paymePerform params).map

/-- A change of the status of one order, and the steps of its signal. -/
structure ChangesStatus (channels : Channels) (c : Change DB RowKey Error Response StatusEvent)
    (id : Uuid) (before after : Order) : Prop where
  key : c.key = .order id
  foundBefore : c.before.orders.find? id = some before
  foundAfter : c.after.orders.find? id = some after
  status : before.status ≠ after.status
  steps : channels.syncOrderStatus c.after before after = some c.steps

section Results

variable {channels : Channels} {ctx : Context} {request : StatusRequest} {n : ℕ} {db : DB}
  {c : Change DB RowKey Error Response StatusEvent}

theorem isOrder_of_observe {key : RowKey} {s s' : DB} {steps : List (Signals.Step StatusEvent)}
    (h : channels.observe key s s' = some steps) : key.IsOrder := by
  cases key with
  | order id => exact ⟨id, rfl⟩
  | _ => cases h

theorem changesStatus_of_observe (h : channels.observe c.key c.before c.after = some c.steps) :
    ∃ id before after, ChangesStatus channels c id before after := by
  obtain ⟨id, hkey⟩ := isOrder_of_observe h
  rw [hkey] at h
  dsimp only [Channels.observe] at h
  split at h
  · next before after hbefore hafter =>
      refine ⟨id, before, after, hkey, hbefore, hafter, fun hstatus => ?_, h⟩
      rw [Channels.syncOrderStatus, if_pos hstatus] at h
      cases h
  · cases h

/-- What a run comes to, and what is left of the request then. -/
theorem window_of_comesTo
    (h : ComesTo channels.observe c (request.statements ctx) n db false) :
    (∃ id before after, ChangesStatus channels c id before after) ∧
      Touches (request.window ctx) c.rest ∧ Closes c.rest true := by
  obtain ⟨hobserve, hrest⟩ := ComesTo.window (C := RowKey.IsOrder)
    (fun _ _ _ _ => isOrder_of_observe) h (windows_statements ctx request)
    (closes_statements ctx request)
  exact ⟨changesStatus_of_observe hobserve, hrest⟩

theorem failsTold_iff :
    request.FailsTold channels ctx n db ↔
      ∃ c : Change DB RowKey Error Response StatusEvent,
        ComesTo channels.observe c (request.statements ctx) n db false ∧
          c.Broken channels.observe := by
  unfold FailsTold
  rw [stopsTold_iff_breaks]
  exact or_iff_right fun h => by cases h.1

/-- When a request leaves the sockets with a status that no order has: it comes to a change
of the status of an order, tells of it, and stops before it commits. What is left up to the
commit touches only the rows of its window. -/
theorem failsTold_iff_window :
    request.FailsTold channels ctx n db ↔
      ∃ c : Change DB RowKey Error Response StatusEvent,
        ComesTo channels.observe c (request.statements ctx) n db false ∧
          c.Broken channels.observe ∧ Touches (request.window ctx) c.rest ∧
            ∃ id before after, ChangesStatus channels c id before after := by
  refine failsTold_iff.trans (exists_congr fun c => and_congr_right fun hcomes => ?_)
  obtain ⟨hstatus, htouches, -⟩ := window_of_comesTo hcomes
  exact (and_iff_left ⟨htouches, hstatus⟩).symm

/-- A request with an empty window, such as a transition, fails so only in the statements of
the signal or at the commit. -/
theorem failsTold_iff_of_no_window (hwindow : ∀ key, ¬request.window ctx key) :
    request.FailsTold channels ctx n db ↔
      ∃ c : Change DB RowKey Error Response StatusEvent,
        ComesTo channels.observe c (request.statements ctx) n db false ∧
          (c.steps.take c.left).any Signals.Step.isBroadcast = true ∧
            c.left ≤ c.steps.length := by
  have hnone : request.window ctx = fun _ => False := funext fun key => eq_false (hwindow key)
  refine failsTold_iff.trans (exists_congr fun c => and_congr_right fun hcomes => ?_)
  obtain ⟨-, htouches, hclosed⟩ := window_of_comesTo hcomes
  rw [hnone] at htouches
  exact Change.broken_iff_of_touches_nothing htouches hclosed

/-- The on-way view is such a transition. -/
example (user pk : Uuid) : ∀ key, ¬window ctx (.api (.masterOnWay user pk)) key := fun _ => id

end Results

end StatusRequest

end Homex
