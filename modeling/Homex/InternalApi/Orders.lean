import Homex.Orders.Serializers
import Homex.Orders.Views

/-!
# Internal order writes

The internal API writes an order through `InternalOrderWriteSerializer`, whole
and without a lock, and sets its master through `OrderAssignAPIView`. Texts of
dates and times come parsed: `none` stands for one that does not parse.
-/

namespace Homex

namespace InternalApi

open Relational Action Code Orders Profiles

/-- The keys of `ORDER_STATUS_FROM_DASHBOARD`. -/
inductive DashboardStatus
  | new
  | accepted
  | onWay
  | inProgress
  | arrived
  | completed
  | cancelled
  | delayed
  | rejected
  deriving DecidableEq, Repr

/-- `ORDER_STATUS_FROM_DASHBOARD`. -/
def orderStatusFromDashboard : DashboardStatus → OrderStatus
  | .new => .new
  | .accepted => .accepted
  | .onWay => .onWay
  | .inProgress => .arrived
  | .arrived => .arrived
  | .completed => .completed
  | .cancelled => .cancelled
  | .delayed => .arrived
  | .rejected => .rejected

/-- No internal status means that the order awaits payment. -/
theorem orderStatusFromDashboard_ne_awaitingPayment (s : DashboardStatus) :
    orderStatusFromDashboard s ≠ .awaitingPayment := by
  cases s <;> decide

/-- The fields of `InternalOrderWriteSerializer`. -/
structure OrderPayload where
  client : Option Uuid := none
  master : Option (Option Uuid) := none
  service : Option Uuid := none
  status : Option DashboardStatus := none
  paymentType : Option PaymentType := none
  price : Option Int := none
  scheduledAt : Option (Option (Int × Int)) := none
  scheduledDate : Option (Option Int) := none
  scheduledTime : Option (Option Int) := none
  address : Option String := none
  addressText : Option String := none
  lat : Option Int := none
  lng : Option Int := none
  note : Option String := none
  cancelledReason : Option String := none
  cancelReason : Option String := none
  rejectedReason : Option String := none

/-- What `validate` returns: the schedule is always set, the aliases are
resolved, and an alias given next to its field stays in the data. -/
structure OrderAttrs where
  client : Option Uuid
  master : Option (Option Uuid)
  service : Option Uuid
  status : Option OrderStatus
  paymentType : Option PaymentType
  price : Option Int
  scheduledDate : Int
  scheduledTime : Int
  address : Option String
  addressText : Option String
  lat : Option Int
  lng : Option Int
  note : Option String
  cancelledReason : Option String
  cancelReason : Option String
  rejectedReason : Option String

namespace InternalOrderWriteSerializer

/-- A master field admits active masters only. -/
def checkMaster (field : String) : Option Uuid → Code Unit
  | none => pure ()
  | some pk => do
      let master ← fetch (fun db => db.masters.find? pk) (.invalidPk field pk)
      require (master.isActive = true) (.invalidPk field pk)

/-- A service field admits active services only. -/
def checkService : Option Uuid → Code Unit
  | none => pure ()
  | some pk => do
      let service ← fetch (fun db => db.services.find? pk) (.invalidPk "service_id" pk)
      require (service.isActive = true) (.invalidPk "service_id" pk)

/-- The date and time of the order: `scheduled_at` when it is given, else the two
fields, each defaulting to the present. -/
def schedule (ctx : Context) (data : OrderPayload) : Code (Int × Int) :=
  match data.scheduledAt with
  | some at_ => fetch (fun _ => at_) (.validation none "scheduled_at formati noto'g'ri")
  | none => do
      let date ← fetch (fun _ => data.scheduledDate.getD (some ctx.localDate))
        (.validation "scheduled_date" "scheduled_date formati noto'g'ri")
      let time ← fetch (fun _ => data.scheduledTime.getD (some ctx.localTime))
        (.validation "scheduled_time" "scheduled_time formati noto'g'ri")
      pure (date, time)

/-- The attributes `validate` returns. -/
def attrsOf (data : OrderPayload) (scheduledDate scheduledTime : Int) : OrderAttrs where
  client := data.client
  master := data.master
  service := data.service
  status := data.status.map orderStatusFromDashboard
  paymentType := data.paymentType
  price := data.price
  scheduledDate := scheduledDate
  scheduledTime := scheduledTime
  address := if data.addressText.isSome then data.address else none
  addressText := data.addressText.or data.address
  lat := data.lat
  lng := data.lng
  note := data.note
  cancelledReason := if data.cancelReason.isSome then data.cancelledReason else none
  cancelReason := data.cancelReason.or data.cancelledReason
  rejectedReason := data.rejectedReason

/-- The field checks and `validate`; `current` is `new` when an order is
created. -/
def validate (ctx : Context) (current : OrderStatus) (data : OrderPayload) :
    Code OrderAttrs := do
  requirePk DB.clients "client_id" data.client
  checkMaster "master_id" (data.master.getD none)
  checkService data.service
  let (scheduledDate, scheduledTime) ← schedule ctx data
  let attrs := attrsOf data scheduledDate scheduledTime
  require (canAdminSetStatus current (attrs.status.getD current) = true) (.validation "status"
    "Bu holatga o'tkazib bo'lmaydi. Yakunlash usta yakunlash oqimi orqali bo'ladi.")
  pure attrs

/-- The assignments of `update`, before the price. -/
def setFields (attrs : OrderAttrs) (o : Order) : Order :=
  { o with
      client := attrs.client.getD o.client
      master := attrs.master.getD o.master
      service := attrs.service.getD o.service
      status := attrs.status.getD o.status
      paymentType := attrs.paymentType.or o.paymentType
      scheduledDate := attrs.scheduledDate
      scheduledTime := attrs.scheduledTime
      addressText := attrs.addressText.getD o.addressText
      lat := attrs.lat.getD o.lat
      lng := attrs.lng.getD o.lng
      note := attrs.note.getD o.note
      cancelReason := attrs.cancelReason.getD o.cancelReason
      rejectedReason := attrs.rejectedReason.getD o.rejectedReason }

/-- The row `update` saves: a price replaces the service fee, and the total is
always recalculated. -/
def updated (attrs : OrderAttrs) (o : Order) : Order :=
  Order.recalculateTotal
    { setFields attrs o with serviceFee := attrs.price.getD (setFields attrs o).serviceFee }

/-- PATCH. A text assigned to the `address` relation is a `ValueError`. -/
def update (ctx : Context) (pk : Uuid) (data : OrderPayload) : Code Order := do
  let order ← getOrder pk
  let attrs ← validate ctx order.status data
  require (attrs.address = none) (.serverError "ValueError")
  let saved := updated attrs order
  saveOrder saved
  pure saved

/-- The row `create` inserts, before its total is recalculated. -/
def newOrder (ctx : Context) (attrs : OrderAttrs) (client service : Uuid) : Order :=
  { id := ctx.uuid .order, client, service
    master := attrs.master.getD none
    status := attrs.status.getD .new
    paymentType := attrs.paymentType
    scheduledDate := attrs.scheduledDate, scheduledTime := attrs.scheduledTime
    addressText := attrs.addressText.getD ""
    lat := attrs.lat.getD 0, lng := attrs.lng.getD 0
    note := attrs.note.getD ""
    cancelReason := attrs.cancelReason.getD ""
    rejectedReason := attrs.rejectedReason.getD ""
    serviceFee := attrs.price.getD 0, totalAmount := attrs.price.getD 0 }

/-- POST: the row is inserted with the price as its total, which is then
recalculated. -/
def create (ctx : Context) (data : OrderPayload) : Code Order := do
  let attrs ← validate ctx .new data
  require (attrs.address = none) (.serverError "ValueError")
  require (attrs.cancelledReason = none) (.serverError "TypeError")
  let client ← fetch (fun _ => attrs.client) integrityError
  let service ← fetch (fun _ => attrs.service) integrityError
  let order := newOrder ctx attrs client service
  createOrder order
  saveOrder order.recalculateTotal
  pure order.recalculateTotal

end InternalOrderWriteSerializer

/-- The fields `OrderExpressCreateAPIView` reads. -/
structure ExpressPayload where
  clientPhone : Option String := none
  clientName : String := ""
  service : Option Uuid := none
  price : Option Int := none
  address : String := ""
  note : String := ""

/-- `Client.objects.get_or_create(phone=…)`; a client without a phone violates
the column. -/
def getOrCreateClient (ctx : Context) (phone : Option String) (firstName : String) :
    Code Uuid := do
  let phone ← fetch (fun _ => phone) integrityError
  let db ← get
  match db.clients.rows.find? fun c => c.phone = phone with
  | some client => pure client.id
  | none =>
      createClient { id := ctx.uuid .client, phone, firstName }
      pure (ctx.uuid .client)

/-- The client is created before the order is validated, and stays when the
order is refused. -/
def OrderExpressCreateAPIView.post (ctx : Context) (data : ExpressPayload) : Code Order := do
  let client ← getOrCreateClient ctx data.clientPhone data.clientName
  let service ← fetch (fun _ => data.service)
    (.validation "service_id" "This field may not be null.")
  let price ← fetch (fun _ => data.price) (.validation "price" "This field may not be null.")
  InternalOrderWriteSerializer.create ctx
    { client := some client, service := some service, price := some price
      address := some data.address, note := some data.note }

/-- The master and status columns `OrderAssignAPIView` writes. -/
def assigned (master : Option Uuid) (o : Order) : Order :=
  { o with
      master := master
      status := if master.isSome ∧ o.status = .new then .accepted else o.status }

/-- PATCH; a missing `master_id` clears the master. -/
def OrderAssignAPIView.patch (pk : Uuid) (masterId : Option Uuid) : Code Order := do
  let order ← getOrder pk
  match masterId with
  | none => pure ()
  | some id => do
      let master ← fetch (fun db => db.masters.find? id) (.notFound "Master")
      require (master.isActive = true) (.notFound "Master")
  let saved := assigned masterId order
  saveOrder saved
  pure saved

end InternalApi

end Homex
