import Homex.Orders.Serializers
import Homex.Orders.Views

/-!
# Dashboard order writes

The dashboard creates and patches an order through `DashboardOrderSerializer`,
which writes any field of it, sets a status through
`DashboardOrderStatusSerializer`, and replaces the assigned masters and
assistants. The generic write recalculates the total only when one of its parts
or the service is in the payload.
-/

namespace Homex

namespace Dashboard

open Relational Action Code Orders Profiles

/-- The writable fields of `DashboardOrderSerializer`; a PATCH leaves any out. -/
structure OrderPayload where
  client : Option Uuid := none
  master : Option (Option Uuid) := none
  service : Option Uuid := none
  address : Option (Option Uuid) := none
  addressText : Option String := none
  lat : Option Int := none
  lng : Option Int := none
  scheduledDate : Option Int := none
  scheduledTime : Option Int := none
  note : Option String := none
  status : Option OrderStatus := none
  paymentType : Option (Option PaymentType) := none
  serviceFee : Option Int := none
  inventoryTotal : Option Int := none
  bonusUsed : Option Int := none
  totalAmount : Option Int := none
  beforePhoto : Option (Option String) := none
  completionPhoto : Option (Option String) := none
  completionNote : Option String := none
  cancelReason : Option String := none
  rejectedReason : Option String := none

namespace DashboardOrderSerializer

/-- The foreign keys of the payload name rows. -/
def checkFields (data : OrderPayload) : Code Unit := do
  requirePk DB.clients "client" data.client
  requirePk DB.masters "master" (data.master.getD none)
  requirePk DB.services "service" data.service
  requirePk DB.addresses "address" (data.address.getD none)

/-- `validate_status`; `current` is `new` when an order is created. -/
def validateStatus (current : OrderStatus) (status : Option OrderStatus) : Code Unit :=
  require (canAdminSetStatus current (status.getD current) = true) (.validation "status"
    "Bu holat o'zgarishiga ruxsat yo'q. Yakunlash usta yakunlash oqimi orqali bo'ladi.")

/-- `attrs.setdefault` of the three address fields. -/
def withAddress (data : OrderPayload) (address : ClientAddress) : OrderPayload :=
  { data with
      addressText := data.addressText.or (some address.addressText)
      lat := data.lat.or (some address.lat)
      lng := data.lng.or (some address.lng) }

/-- `validate`: a null or missing address falls back to the address the instance
has. -/
def validate (client : Option Uuid) (address : Option Uuid) (data : OrderPayload) :
    Code OrderPayload :=
  match (data.address.getD none).or address with
  | none => pure data
  | some pk => do
      let row ← fetch (fun db => db.addresses.find? pk) (.invalidPk "address" pk)
      require (data.client.or client = some row.client ∨ data.client.or client = none)
        (.validation "address" "Address shu clientga tegishli emas")
      pure (withAddress data row)

/-- `setattr` of every field of the payload. -/
def setFields (data : OrderPayload) (o : Order) : Order :=
  { o with
      client := data.client.getD o.client
      master := data.master.getD o.master
      service := data.service.getD o.service
      address := data.address.getD o.address
      addressText := data.addressText.getD o.addressText
      lat := data.lat.getD o.lat
      lng := data.lng.getD o.lng
      scheduledDate := data.scheduledDate.getD o.scheduledDate
      scheduledTime := data.scheduledTime.getD o.scheduledTime
      note := data.note.getD o.note
      status := data.status.getD o.status
      paymentType := data.paymentType.getD o.paymentType
      serviceFee := data.serviceFee.getD o.serviceFee
      inventoryTotal := data.inventoryTotal.getD o.inventoryTotal
      bonusUsed := data.bonusUsed.getD o.bonusUsed
      totalAmount := data.totalAmount.getD o.totalAmount
      beforePhoto := data.beforePhoto.getD o.beforePhoto
      completionPhoto := data.completionPhoto.getD o.completionPhoto
      completionNote := data.completionNote.getD o.completionNote
      cancelReason := data.cancelReason.getD o.cancelReason
      rejectedReason := data.rejectedReason.getD o.rejectedReason }

/-- Whether `update` recalculates the total. -/
def recalculates (data : OrderPayload) : Bool :=
  data.serviceFee.isSome || data.inventoryTotal.isSome || data.bonusUsed.isSome ||
    data.service.isSome

/-- The row `update` saves. -/
def updated (data : OrderPayload) (o : Order) : Order :=
  if recalculates data then (setFields data o).recalculateTotal else setFields data o

/-- Recalculating touches the total only. -/
theorem updated_eq (data : OrderPayload) (o : Order) :
    ∃ total, updated data o = { setFields data o with totalAmount := total } := by
  unfold updated
  split
  · exact ⟨_, rfl⟩
  · exact ⟨(setFields data o).totalAmount, rfl⟩

/-- A required field of a POST. -/
def required {α : Type} (field : String) (value : Option α) : Code α :=
  fetch (fun _ => value) (.validation field "This field is required.")

/-- A field that only an address could have filled in. -/
def requiredOrAddress {α : Type} (field : String) (value : Option α) : Code α :=
  fetch (fun _ => value) (.validation field "Bu field kerak yoki address yuboring")

/-- POST. -/
def create (ctx : Context) (data : OrderPayload) : Code Order := do
  checkFields data
  let client ← required "client" data.client
  let service ← required "service" data.service
  let scheduledDate ← required "scheduled_date" data.scheduledDate
  let scheduledTime ← required "scheduled_time" data.scheduledTime
  validateStatus .new data.status
  let data ← validate none none data
  let addressText ← requiredOrAddress "address_text" data.addressText
  let lat ← requiredOrAddress "lat" data.lat
  let lng ← requiredOrAddress "lng" data.lng
  let order := Order.recalculateTotal <| setFields data
    { id := ctx.uuid .order, client, service, addressText, lat, lng, scheduledDate
      scheduledTime }
  createOrder order
  pure order

/-- PATCH: the row is loaded and saved whole, without a lock. -/
def update (pk : Uuid) (data : OrderPayload) : Code Order := do
  let order ← getOrder pk
  checkFields data
  validateStatus order.status data.status
  let data ← validate (some order.client) order.address data
  let saved := updated data order
  saveOrder saved
  pure saved

end DashboardOrderSerializer

/-- `DashboardOrderStatusSerializer`. -/
structure OrderStatusPayload where
  status : OrderStatus
  cancelReason : Option String := none
  rejectedReason : Option String := none

/-- `DashboardOrderStatusSerializer.save`. -/
def DashboardOrderStatusSerializer.save (pk : Uuid) (data : OrderStatusPayload) : Code Order :=
  atomic do
    let order ← fetch (fun db => db.orders.find? pk) (.serverError "DoesNotExist")
    require (canAdminSetStatus order.status data.status = true) (.validation "status"
      "Bu holat o'zgarishiga ruxsat yo'q. Yakunlash usta yakunlash oqimi orqali bo'ladi.")
    let saved :=
      { order with
          status := data.status
          cancelReason :=
            if data.status = .cancelled then data.cancelReason.getD order.cancelReason
            else order.cancelReason
          rejectedReason :=
            if data.status = .rejected then data.rejectedReason.getD order.rejectedReason
            else order.rejectedReason }
    saveOrder saved
    pure saved

def DashboardOrderStatusAPIView.patch (pk : Uuid) (data : OrderStatusPayload) : Code Order := do
  let _ ← getOrder pk
  DashboardOrderStatusSerializer.save pk data

/-- `DashboardOrderAssignSerializer`; the old single `master` field stands for a
list of one. -/
structure OrderAssignPayload where
  masters : Option (List Uuid) := none
  assistants : Option (List Uuid) := none
  master : Option (Option Uuid) := none

namespace DashboardOrderAssignSerializer

/-- The masters a list names are active. -/
def checkMasters (field : String) : List Uuid → Code Unit
  | [] => pure ()
  | pk :: pks => do
      let master ← fetch (fun db => db.masters.find? pk) (.invalidPk field pk)
      require (master.isActive = true) (.invalidPk field pk)
      checkMasters field pks

/-- The first loop of `_sync_set`. -/
def deactivate (save : Assignment → Code Unit) (wanted : List Uuid) :
    List Assignment → Code Unit
  | [] => pure ()
  | row :: rows => do
      if row.master ∉ wanted ∧ row.isActive = true then
        save { row with isActive := false }
      deactivate save wanted rows

/-- The second loop of `_sync_set`. A row that is activated is active in
`existing` from then on; a row that is created is not added to it. -/
def activate (save create : Assignment → Code Unit) (order : Uuid) (admin : Option Uuid)
    (existing : List Assignment) : List Uuid → Code (List Uuid)
  | [] => pure []
  | master :: wanted =>
      match existing.find? fun row => row.master = master with
      | none => do
          create { order, master, assignedBy := admin }
          let rest ← activate save create order admin existing wanted
          pure (master :: rest)
      | some row =>
          if row.isActive = true then
            activate save create order admin existing wanted
          else do
            let activated := { row with isActive := true, assignedBy := admin }
            save activated
            let rest ← activate save create order admin
              (existing.map fun r => if r.master = master then activated else r) wanted
            pure (master :: rest)

/-- `_sync_set`; returns the newly assigned masters. -/
def syncSet (table : DB → Table Assignment) (save create : Assignment → Code Unit)
    (order : Uuid) (wanted : List Uuid) (admin : Option Uuid) : Code (List Uuid) := do
  let db ← get
  let existing := (table db).rows.filter fun row => row.order = order
  deactivate save wanted existing
  activate save create order admin existing wanted

/-- The list of masters a payload asks for. -/
def wantedMasters (data : OrderAssignPayload) : Option (List Uuid) :=
  data.masters.or ((data.master.getD none).map fun master => [master])

end DashboardOrderAssignSerializer

open DashboardOrderAssignSerializer in
/-- PATCH; each list that is present replaces the active rows. -/
def DashboardOrderAssignAPIView.patch (admin : Option Uuid) (pk : Uuid)
    (data : OrderAssignPayload) : Code (List Uuid) := do
  let _ ← getOrder pk
  require (data.masters.isSome ∨ data.assistants.isSome ∨ data.master.isSome)
    (.validation none "`masters`, `assistants` yoki `master` yuboring")
  checkMasters "masters" (data.masters.getD [])
  checkMasters "assistants" (data.assistants.getD [])
  checkMasters "master" ((data.master.getD none).toList)
  let assigned ← match wantedMasters data with
    | none => pure []
    | some masters =>
        syncSet DB.assignedMasters saveAssignedMaster createAssignedMaster pk masters admin
  match data.assistants with
  | none => pure ()
  | some assistants => do
      let _ ← syncSet DB.assistants saveAssistant createAssistant pk assistants admin
  pure assigned

end Dashboard

end Homex
