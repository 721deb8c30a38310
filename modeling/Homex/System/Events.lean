import Homex.Concurrency.Signals
import Homex.Dashboard.Tabs
import Homex.Orders.Assignments
import Homex.System.Runs
import Homex.System.Statements

/-!
# The events of a status change

`syncOrderStatus` runs after every `save` of an order. When the status differs from
the one that was loaded, it sends `order.status` to the client and to the masters of
the order: a message to the socket at once, and a push when the transaction commits.
Each of its own `SELECT` statements may fail, like any later statement of the request.

A request that fails in a transaction after such a message leaves the socket with a
status that no order has. Nothing else does: a push reports a committed status
wherever the request stops, and so does every event of a request that is answered.
-/

namespace Homex

open Relational Concurrency Signals Orders Wallet Warehouse

namespace Orders

/-- The display text of a status. -/
def OrderStatus.label : OrderStatus → String
  | .new => "Yangi"
  | .accepted => "Qabul qilindi"
  | .onWay => "Yo'lda"
  | .arrived => "Yetib keldi"
  | .awaitingPayment => "To'lov kutilmoqda"
  | .completed => "Yakunlandi"
  | .cancelled => "Bekor qilindi"
  | .rejected => "Rad etildi"

/-- Title and body of `STATUS_MESSAGES`, with the default for a status without an entry. -/
def statusMessage : OrderStatus → String × String
  | .new => ("Buyurtma holati yangilandi", "")
  | .accepted => ("Buyurtma qabul qilindi", "Usta buyurtmangizni qabul qildi")
  | .onWay => ("Usta yo'lda", "Usta buyurtma manziliga yo'lga chiqdi")
  | .arrived => ("Usta yetib keldi", "Usta buyurtma manziliga yetib keldi")
  | .awaitingPayment =>
      ("Chek tayyor", "Usta chekni yubordi — to'lovni amalga oshiring")
  | .completed => ("Buyurtma yakunlandi", "Usta buyurtmani yakunladi")
  | .cancelled => ("Buyurtma bekor qilindi", "Buyurtmangiz bekor qilindi")
  | .rejected => ("Buyurtma rad etildi", "Usta buyurtmani rad etdi")

/-- `MASTER_STATUS_MESSAGES`, with its default. -/
def masterStatusMessage : OrderStatus → String
  | .new => "Buyurtma holati yangilandi"
  | .accepted => "Buyurtma qabul qilindi"
  | .onWay => "Buyurtma: yo'lda"
  | .arrived => "Buyurtma: manzilga yetib borildi"
  | .awaitingPayment => "Chek yuborildi, to'lov kutilmoqda"
  | .completed => "Buyurtma yakunlandi"
  | .cancelled => "Buyurtma bekor qilindi"
  | .rejected => "Buyurtma rad etildi"

/-- The role of a user, and the user. -/
inductive Recipient
  | client (id : Uuid)
  | master (id : Uuid)
  deriving DecidableEq

/-- An `order.status` event for one user. -/
structure StatusEvent where
  recipient : Recipient
  title : String
  body : String
  orderId : Uuid
  status : OrderStatus
  statusLabel : String
  statusTab : String
  deriving DecidableEq

/-- What the signal finds when it sends. -/
structure Channels where
  /-- The channel layer is there, and takes the message. -/
  delivers : StatusEvent → Bool
  /-- `notifications_enabled` and `push_enabled`. -/
  pushEnabled : Recipient → Bool
  /-- The user has a token of an active device. -/
  hasToken : Recipient → Bool

/-- The reason of a status that has one. -/
def statusReason (order : Order) : String :=
  match order.status with
  | .cancelled => order.cancelReason
  | .rejected => order.rejectedReason
  | _ => ""

def statusEvent (order : Order) (recipient : Recipient) (title body : String) : StatusEvent where
  recipient := recipient
  title := title
  body := body
  orderId := order.id
  status := order.status
  statusLabel := order.status.label
  statusTab := Dashboard.statusTab order.status

def clientEvent (order : Order) : StatusEvent :=
  statusEvent order (.client order.client) (statusMessage order.status).1
    (if statusReason order = "" then (statusMessage order.status).2 else statusReason order)

def masterEvent (order : Order) (master : Uuid) : StatusEvent :=
  statusEvent order (.master master) (masterStatusMessage order.status) (statusReason order)

/-- The lead master and every active assigned master, each once. -/
def activeMasters (db : DB) (order : Order) : List Uuid :=
  (order.master.toList ++
    (db.assignedMasters.rows.filter fun row => row.order = order.id ∧ row.isActive = true).map
      Assignment.master).eraseDups

namespace Channels

variable (channels : Channels)

/-- A message that is not delivered is only logged. -/
def broadcastNotification (event : StatusEvent) : List (Step StatusEvent) :=
  if channels.delivers event = true then [.broadcast event] else []

/-- The tokens are looked up at once; the push is sent on commit. -/
def sendPushNotification (event : StatusEvent) : List (Step StatusEvent) :=
  if channels.pushEnabled event.recipient = true then
    .query :: if channels.hasToken event.recipient = true then [.onCommit event] else []
  else []

def createNotification (event : StatusEvent) : List (Step StatusEvent) :=
  channels.broadcastNotification event ++ channels.sendPushNotification event

/-- The client, the lead master and the assigned masters are loaded. -/
def notifyStatusChange (db : DB) (order : Order) : List (Step StatusEvent) :=
  .query :: channels.createNotification (clientEvent order) ++
    (order.master.toList.map fun _ => .query) ++
    .query :: (activeMasters db order).flatMap fun master =>
      channels.createNotification (masterEvent order master)

/-- The statements of `broadcast_dashboard_order`; its message is not an `order.status`. -/
def broadcastDashboardOrder : List (Step StatusEvent) := [.query, .query]

/-- The signal after a save that changes the status. `ensure_tracking` comes first. -/
def syncOrderStatus (db : DB) (before after : Order) : Option (List (Step StatusEvent)) :=
  if before.status = after.status then none
  else
    some (.query :: broadcastDashboardOrder ++ channels.notifyStatusChange db after ++
      if before.master ≠ none ∧ before.master ≠ after.master then broadcastDashboardOrder else [])

/-- The row that is saved is the one that was loaded, with nobody else writing. -/
def observe : Observer DB RowKey StatusEvent
  | .order id, db, db' =>
      match db.orders.find? id, db'.orders.find? id with
      | some before, some after => channels.syncOrderStatus db' before after
      | _, _ => none
  | _, _, _ => none

end Channels

/-- The row of an order for a master, or for an assistant. -/
def RelatedName.rowKey : RelatedName → Uuid → Uuid → RowKey
  | .assignedMasters => .assignedMaster
  | .dashboardAssistants => .assistant

/-- A row of an inline of the order form: of the masters or the assistants, or of the usages. -/
inductive InlineWrite
  | addRelated (related : RelatedName) (row : Assignment)
  | changeRelated (related : RelatedName) (master : Uuid) (row : Assignment)
  | deleteRelated (related : RelatedName) (master : Uuid)
  | addUsage (id inventory : Uuid) (quantity unitPrice : Int)
  | changeUsage (id inventory : Uuid) (quantity unitPrice : Int)
  | deleteUsage (id : Uuid)

/-- The row that is written. -/
def InlineWrite.rowKey (pk : Uuid) : InlineWrite → RowKey
  | addRelated related row => related.rowKey pk row.master
  | changeRelated related master _ => related.rowKey pk master
  | deleteRelated related master => related.rowKey pk master
  | addUsage id _ _ _ => .usage id
  | changeUsage id _ _ _ => .usage id
  | deleteUsage id => .usage id

end Orders

namespace Statements

open Program

/-- The formset sets the order of its rows. -/
def saveInline (pk : Uuid) : InlineWrite → Statements Unit
  | .addRelated related row =>
      create (related.rowKey pk row.master)
        (fun db =>
          ((related.table db).insert? { row with order := pk }).map (related.setTable db))
        Code.integrityError
  | .changeRelated related master row =>
      create (related.rowKey pk master)
        (fun db =>
          (if row.master = master then some ((related.table db).save { row with order := pk })
            else ((related.table db).delete (pk, master)).insert? { row with order := pk }).map
              (related.setTable db))
        Code.integrityError
  | .deleteRelated related master =>
      write (related.rowKey pk master) fun db =>
        related.setTable db ((related.table db).delete (pk, master))
  | .addUsage id inventory quantity unitPrice =>
      createUsage (OrderInventoryUsage.of id pk inventory quantity unitPrice)
  | .changeUsage id inventory quantity unitPrice =>
      write (.usage id) fun db =>
        { db with
            usages := db.usages.save (OrderInventoryUsage.of id pk inventory quantity unitPrice) }
  | .deleteUsage id =>
      write (.usage id) fun db => { db with usages := db.usages.delete id }

def saveInlines (pk : Uuid) : List InlineWrite → Statements Unit
  | [] => pure ()
  | row :: rows => do
      saveInline pk row
      saveInlines pk rows

/-- The change form of the admin site, posted with valid data: every column of the order is
in the form. -/
def OrderAdmin.changeformView (pk : Uuid) (form : Order) (inlines : List InlineWrite) :
    Statements Order :=
  atomic do
    let order ← getOrder pk
    let saved := { form with id := order.id }
    saveOrder saved
    saveInlines order.id inlines
    -- The log entry of the admin site.
    select (pure ())
    pure saved

end Statements

/-- The requests that change the status of an order. -/
inductive StatusRequest
  | api (request : OrderRequest)
  | admin (pk : Uuid) (form : Order) (inlines : List InlineWrite)

namespace StatusRequest

open Statements

def statements (ctx : Context) : StatusRequest → Statements Response
  | .api request => request.statements ctx
  | .admin pk form inlines => .order <$> OrderAdmin.changeformView pk form inlines

/-- The request, run for `n` steps at most. -/
def serve (channels : Channels) (ctx : Context) (request : StatusRequest) (n : ℕ) (db : DB) :
    Option (Except Error Response) × Session DB StatusEvent :=
  run channels.observe (request.statements ctx) n { store := db }

/-- The request fails, or stops, in a transaction in which it has told of a status. -/
def FailsTold (channels : Channels) (ctx : Context) (request : StatusRequest) (n : ℕ)
    (db : DB) : Prop :=
  StopsTold channels.observe (request.statements ctx) n db none

end StatusRequest

/-! ### The transactions of the requests -/

namespace Statements

open Program

section NoTransaction

variable {α : Type} (pk user : Uuid)

theorem noTransaction_select (x : Code α) : NoTransaction (select x) := fun db => by
  change NoTransaction (Program.done (x db).1)
  trivial

theorem noTransaction_updateOrder (set : Order → Order) : NoTransaction (updateOrder pk set) :=
  noTransaction_write _ _

theorem noTransaction_lockOrderForTransition (row : DB → Option Order)
    (allowed : List OrderStatus) :
    NoTransaction (lockOrderForTransition pk row allowed) :=
  (noTransaction_fetchForUpdate _ _ _).bind fun _ =>
    (noTransaction_select _).bind fun _ => noTransaction_pure _

theorem noTransaction_moveBalance (wallet : MasterWallet) (type : TransactionType)
    (amount : Int) (method : PaymentMethod) :
    NoTransaction (moveBalance wallet type amount method) := by
  cases type with
  | «in» => exact noTransaction_write _ _
  | out => exact (noTransaction_require _).bind fun _ => noTransaction_write _ _

theorem noTransaction_getOrCreateWallet (master : Uuid) :
    NoTransaction (getOrCreateWallet master) := by
  intro db
  dsimp only
  cases db.wallet.wallets.find? master with
  | none => exact noTransaction_write _ _
  | some wallet => exact noTransaction_pure _

theorem noTransaction_postWalletTransaction (ctx : Context) (master : Uuid)
    (type : TransactionType) (amount : Int) (method : PaymentMethod) (description : String)
    (order : Option Uuid) :
    NoTransaction (postWalletTransaction ctx master type amount method description order) :=
  (noTransaction_require _).bind fun _ =>
    (noTransaction_getOrCreateWallet master).bind fun _ =>
      (noTransaction_fetchForUpdate _ _ _).bind fun wallet =>
        (noTransaction_moveBalance wallet type amount method).bind fun _ =>
          (noTransaction_create _ _ _).bind fun _ => noTransaction_pure _

theorem noTransaction_creditMaster (ctx : Context) (order : Order) (method : PaymentType) :
    NoTransaction (creditMaster ctx order method) := by
  unfold creditMaster
  cases order.master with
  | none => exact noTransaction_pure _
  | some master =>
      refine .ite (noTransaction_pure _) ((noTransaction_select _).bind fun service => ?_)
      exact (noTransaction_postWalletTransaction _ _ _ _ _ _ _).map

theorem noTransaction_completePaidOrder (ctx : Context) (method : PaymentType) :
    NoTransaction (completePaidOrder ctx pk method) := by
  refine (noTransaction_fetchForUpdate _ _ _).bind fun order => ?_
  refine .ite (noTransaction_pure _) ?_
  refine (noTransaction_updateOrder _ _).bind fun _ => ?_
  exact (noTransaction_creditMaster _ _ _).bind fun _ => noTransaction_pure _

theorem noTransaction_markOrderPaid (ctx : Context) (order : Order) :
    NoTransaction (markOrderPaid ctx order) := by
  refine .ite (noTransaction_pure _) ?_
  refine (noTransaction_completePaidOrder _ _ _).bind fun completed => ?_
  exact .ite (noTransaction_updateOrder _ _) (noTransaction_pure _)

theorem noTransaction_performLocked (ctx : Context) (id : String) :
    NoTransaction (PaymeWebHookAPIView.performLocked ctx id) := by
  refine (noTransaction_fetchForUpdate _ _ _).bind fun tx => ?_
  refine .ite (noTransaction_pure _) (.ite (noTransaction_raise _) (.ite ?_ ?_))
  · refine NoTransaction.bind (.ite (noTransaction_pure _) (noTransaction_write _ _)) fun _ => ?_
    exact noTransaction_pure _
  · refine NoTransaction.bind (.ite (noTransaction_pure _) (noTransaction_write _ _)) fun _ => ?_
    refine (noTransaction_fetch _ _ _).bind fun order => ?_
    exact (noTransaction_markOrderPaid _ _).bind fun _ => noTransaction_pure _

theorem noTransaction_useItem (ctx : Context) (order : Order) (i : ℕ) (item : UsedItem) :
    NoTransaction (OrderCompleteSerializer.useItem ctx order i item) :=
  (noTransaction_fetchForUpdate _ _ _).bind fun _ =>
    (noTransaction_fetchForUpdate _ _ _).bind fun _ =>
      (noTransaction_require _).bind fun _ =>
        (noTransaction_create _ _ _).bind fun _ =>
          (noTransaction_create _ _ _).bind fun _ => noTransaction_pure _

theorem noTransaction_useItems (ctx : Context) (order : Order) (i : ℕ) (items : List UsedItem) :
    NoTransaction (OrderCompleteSerializer.useItems ctx order i items) := by
  induction items generalizing i with
  | nil => exact noTransaction_pure _
  | cons item items ih =>
      exact (noTransaction_useItem _ _ _ _).bind fun _ =>
        (ih (i + 1)).bind fun _ => noTransaction_pure _

theorem noTransaction_saveInline (row : InlineWrite) : NoTransaction (saveInline pk row) := by
  cases row with
  | addRelated related row => exact noTransaction_create _ _ _
  | changeRelated related master row => exact noTransaction_create _ _ _
  | deleteRelated related master => exact noTransaction_write _ _
  | addUsage id inventory quantity unitPrice => exact noTransaction_create _ _ _
  | changeUsage id inventory quantity unitPrice => exact noTransaction_write _ _
  | deleteUsage id => exact noTransaction_write _ _

theorem noTransaction_saveInlines (rows : List InlineWrite) :
    NoTransaction (saveInlines pk rows) := by
  induction rows with
  | nil => exact noTransaction_pure _
  | cons row rows ih => exact (noTransaction_saveInline _ _).bind fun _ => ih

/-- The serializer saves the order outside a transaction. -/
theorem noTransaction_dashboardUpdate (data : Dashboard.OrderPayload) :
    NoTransaction (DashboardOrderSerializer.update pk data) := by
  refine (noTransaction_fetch _ _ _).bind fun order => ?_
  refine NoTransaction.bind ?_ fun _ => ?_
  · exact (noTransaction_select _).bind fun _ => (noTransaction_select _).bind fun _ =>
      (noTransaction_select _).bind fun _ => noTransaction_select _
  refine (noTransaction_select _).bind fun _ => (noTransaction_select _).bind fun data => ?_
  exact (noTransaction_write _ _).bind fun _ => noTransaction_pure _

theorem noTransaction_internalUpdate (ctx : Context) (data : InternalApi.OrderPayload) :
    NoTransaction (InternalOrderWriteSerializer.update ctx pk data) := by
  refine (noTransaction_fetch _ _ _).bind fun order => ?_
  refine NoTransaction.bind ?_ fun _ => ?_
  · exact (noTransaction_select _).bind fun _ => (noTransaction_select _).bind fun _ =>
      noTransaction_select _
  refine (noTransaction_select _).bind fun schedule => ?_
  refine (noTransaction_require _).bind fun _ => (noTransaction_require _).bind fun _ => ?_
  exact (noTransaction_write _ _).bind fun _ => noTransaction_pure _

theorem noTransaction_activeMaster (master : Option Uuid) :
    NoTransaction (activeMaster master) := by
  cases master with
  | none => exact noTransaction_pure _
  | some id => exact (noTransaction_select _).map

theorem noTransaction_assign (master : Option Uuid) :
    NoTransaction (OrderAssignAPIView.patch pk master) :=
  (noTransaction_fetch _ _ _).bind fun _ =>
    (noTransaction_activeMaster _).bind fun _ =>
      (noTransaction_updateOrder _ _).bind fun _ => noTransaction_pure _

end NoTransaction

section Closes

variable (ctx : Context) (pk user : Uuid)

theorem closes_clientPay (method : PaymentMethodField) :
    Closes (ClientOrderPayView.post ctx user pk method) false := by
  refine NoTransaction.closes_atomic ?_
  refine (noTransaction_fetchForUpdate _ _ _).bind fun order => ?_
  refine (noTransaction_require _).bind fun _ => (noTransaction_require _).bind fun _ => ?_
  have honline : ∀ p : Statements PayResponse, NoTransaction p →
      NoTransaction (do updateOrder pk fun row => { row with paymentType := some .online }; p) :=
    fun p hp => (noTransaction_updateOrder _ _).bind fun _ => hp
  have hurl : ∀ method : PaymentType, NoTransaction (do
      updateOrder pk fun row => { row with totalAmount := order.recalculateTotal.totalAmount }
      pure (PayResponse.paymentUrl pk method) : Statements PayResponse) :=
    fun method => (noTransaction_updateOrder _ _).bind fun _ => noTransaction_pure _
  cases method with
  | choice method =>
      cases method with
      | cash =>
          refine (noTransaction_completePaidOrder _ _ _).bind fun _ => ?_
          exact (noTransaction_fetch _ _ _).bind fun _ => noTransaction_pure _
      | online => exact honline _ (hurl _)
      | card => exact honline _ (hurl _)
      | plastic => exact honline _ (hurl _)
  | missing => exact honline _ (noTransaction_raise _)
  | invalid text => exact honline _ (noTransaction_raise _)

theorem closes_masterAccept : Closes (MasterOrderAcceptView.post user pk) false := by
  refine NoTransaction.closes_atomic ?_
  refine (noTransaction_fetch _ _ _).bind fun assignment => ?_
  refine (noTransaction_fetchForUpdate _ _ _).bind fun order => ?_
  refine .ite ((noTransaction_updateOrder _ _).bind fun _ => ?_) ?_
  · exact .ite ((noTransaction_write _ _).bind fun _ => noTransaction_pure _) (noTransaction_pure _)
  · exact .ite ((noTransaction_write _ _).bind fun _ => noTransaction_pure _) (noTransaction_pure _)

theorem closes_masterStart : Closes (MasterOrderStartView.post user pk) false := by
  refine (noTransaction_fetch _ _ _).closes_bind fun order => NoTransaction.closes_atomic ?_
  refine .ite (noTransaction_pure _) ((noTransaction_require _).bind fun _ => ?_)
  exact (noTransaction_updateOrder _ _).bind fun _ => noTransaction_pure _

/-- The cancel, on-way and reject views. -/
theorem closes_transition {row : DB → Option Order} {allowed : List OrderStatus}
    {set : Order → Order} :
    Closes (atomic do
      let order ← lockOrderForTransition pk row allowed
      updateOrder pk set
      pure (set order)) false := by
  refine NoTransaction.closes_atomic ?_
  refine (noTransaction_lockOrderForTransition _ _ _).bind fun order => ?_
  exact (noTransaction_updateOrder _ _).bind fun _ => noTransaction_pure _

theorem closes_masterComplete (data : OrderCompletePayload) :
    Closes (MasterOrderCompleteView.post ctx user pk data) false := by
  refine (noTransaction_fetch _ _ _).closes_bind fun order => ?_
  refine (noTransaction_select _).closes_bind fun _ => NoTransaction.closes_atomic ?_
  refine (noTransaction_fetchForUpdate _ _ _).bind fun order => ?_
  refine (noTransaction_require _).bind fun _ => (noTransaction_useItems _ _ _ _).bind fun _ => ?_
  refine (noTransaction_select _).bind fun db => ?_
  exact (noTransaction_write _ _).bind fun _ => noTransaction_pure _

theorem closes_dashboardStatus (data : Dashboard.OrderStatusPayload) :
    Closes (DashboardOrderStatusAPIView.patch pk data) false := by
  refine (noTransaction_fetch _ _ _).closes_bind fun _ => NoTransaction.closes_atomic ?_
  refine (noTransaction_fetchForUpdate _ _ _).bind fun order => ?_
  refine (noTransaction_require _).bind fun _ => ?_
  exact (noTransaction_updateOrder _ _).bind fun _ => noTransaction_pure _

theorem closes_paymePerform (params : Payme.Params) :
    Closes (PaymeWebHookAPIView.performTransaction ctx params) false := by
  refine (noTransaction_found _ _).closes_bind fun id => ?_
  refine (noTransaction_performLocked ctx id).closes_atomic.bind fun result? => ?_
  exact (noTransaction_found _ _).closes

theorem closes_admin (form : Order) (inlines : List InlineWrite) :
    Closes (OrderAdmin.changeformView pk form inlines) false := by
  refine NoTransaction.closes_atomic ?_
  refine (noTransaction_fetch _ _ _).bind fun order => (noTransaction_write _ _).bind fun _ => ?_
  refine (noTransaction_saveInlines _ _).bind fun _ => ?_
  exact (noTransaction_select _).bind fun _ => noTransaction_pure _

end Closes

end Statements

namespace StatusRequest

open Statements

/-- An answered request has committed. -/
theorem closes_statements (ctx : Context) (request : StatusRequest) :
    Closes (request.statements ctx) false := by
  cases request with
  | admin pk form inlines => exact (closes_admin pk form inlines).map
  | api request =>
      cases request with
      | clientCancel user pk reason => exact (closes_transition pk).map
      | clientPay user pk method => exact (closes_clientPay ctx pk user method).map
      | masterAccept user pk => exact (closes_masterAccept pk user).map
      | masterOnWay user pk => exact (closes_transition pk).map
      | masterStart user pk => exact (closes_masterStart pk user).map
      | masterReject user pk reason => exact (closes_transition pk).map
      | masterComplete user pk data => exact (closes_masterComplete ctx pk user data).map
      | dashboardUpdate pk data => exact (noTransaction_dashboardUpdate pk data).map.closes
      | dashboardStatus pk data => exact (closes_dashboardStatus pk data).map
      | internalUpdate pk data => exact (noTransaction_internalUpdate pk ctx data).map.closes
      | internalAssign pk master => exact (noTransaction_assign pk master).map.closes
      | paymePerform params => exact (closes_paymePerform ctx params).map

section Results

variable (channels : Channels) (ctx : Context) (request : StatusRequest) (n : ℕ) (db : DB)

/-- The events that are sent report committed changes, unless the request fails between a
message and the commit of its transaction. -/
theorem events_committed_iff :
    (request.serve channels ctx n db).2.OnlyCommitted ↔ ¬request.FailsTold channels ctx n db :=
  onlyCommitted_run_iff (request.statements ctx) n db

/-- A push waits for the commit. -/
theorem pushes_committed :
    ∀ push ∈ (request.serve channels ctx n db).2.pushes,
      push.1 ∈ (request.serve channels ctx n db).2.committed :=
  (reports_run (request.statements ctx) n (Session.inv_idle db)).pushes

variable {channels ctx request n db}

theorem answered_events_committed {response : Response}
    (h : (request.serve channels ctx n db).1 = some (.ok response)) :
    (request.serve channels ctx n db).2.OnlyCommitted :=
  onlyCommitted_of_answer (request.closes_statements ctx) h

/-- The writers that save an order outside a transaction. -/
def Autocommits : StatusRequest → Prop
  | .api (.dashboardUpdate _ _) => True
  | .api (.internalUpdate _ _) => True
  | .api (.internalAssign _ _) => True
  | _ => False

theorem autocommit_events_committed (h : request.Autocommits) :
    (request.serve channels ctx n db).2.OnlyCommitted := by
  refine (events_committed_iff channels ctx request n db).mpr (NoTransaction.not_stopsTold ?_ n db)
  cases request with
  | admin pk form inlines => exact h.elim
  | api request =>
      cases request with
      | dashboardUpdate pk data => exact (noTransaction_dashboardUpdate pk data).map
      | internalUpdate pk data => exact (noTransaction_internalUpdate pk ctx data).map
      | internalAssign pk master => exact (noTransaction_assign pk master).map
      | _ => exact h.elim

end Results

end StatusRequest

namespace Sample

/-- Every message arrives, and everybody takes pushes. -/
def channels : Channels := ⟨fun _ => true, fun _ => true, fun _ => true⟩

/-- The cash payment whose credit fails at the row of the wallet transaction. -/
def failedCredit : Option (Except Error Response) × Session DB StatusEvent :=
  StatusRequest.serve channels (at_ 30) (.api (.clientPay 1 10 (.choice .cash))) 21
    (world.run {} awaiting).db

end Sample

open Sample in
/-- The client and the master have been told that the order is completed, and it is not. -/
theorem completed_event_rolled_back :
    ¬∀ channels ctx request n db,
      (StatusRequest.serve channels ctx request n db).2.OnlyCommitted := by
  intro h
  have hcommitted : failedCredit.2.OnlyCommitted := h _ _ _ _ _
  have htold : failedCredit.2.broadcasts.map (fun message => (message.1, message.2.status)) =
      [(0, .completed), (0, .completed)] := by decide
  have hnone : failedCredit.2.committed = [] := by decide
  obtain ⟨message, hmessage⟩ : ∃ message, message ∈ failedCredit.2.broadcasts := by
    refine List.exists_mem_of_ne_nil _ fun hnil => ?_
    rw [hnil] at htold
    cases htold
  have hmem := hcommitted.broadcasts message hmessage
  rw [hnone] at hmem
  cases hmem

end Homex
