import Homex.Payme.Checkout
import Homex.System.Events

/-!
# Order tracking

A master streams its location, over the socket or by a request. The location is kept with
the master and with the orders it concerns: the order that is named, or every active order
of the master. What the client is shown of an order is computed from the row that is kept.

The distance of two points and the minutes to drive it are floating-point functions, and
parameters here. `raw_payload` is written and never read, and is left out.
-/

namespace Homex

namespace Realtime

open Relational Orders

/-! ### The steps of an order -/

/-- A row of `TRACKING_STEPS`. -/
structure Step where
  orderStatus : OrderStatus
  key : String
  label : String
  deriving DecidableEq, Repr

/-- `TRACKING_STEPS`. -/
def trackingSteps : List Step :=
  [⟨.new, "searching_master", "Usta qidirilmoqda"⟩,
   ⟨.accepted, "master_accepted", "Usta qabul qildi"⟩,
   ⟨.onWay, "master_on_way", "Usta yo'lda"⟩,
   ⟨.arrived, "master_arrived", "Usta yetib keldi"⟩,
   ⟨.completed, "master_finished", "Usta ishni tugatgan"⟩]

/-- `RECEIPT_READY_STATUSES`. -/
def receiptReadyStatuses : List OrderStatus := [.awaitingPayment, .completed]

/-- `TERMINAL_STATUS_LABELS`. -/
def terminalStatusLabels : OrderStatus → Option (String × String)
  | .cancelled => some ("cancelled", "Buyurtma bekor qilingan")
  | .rejected => some ("rejected", "Buyurtma rad etilgan")
  | _ => none

/-- A step as an order is shown it. -/
structure StepState where
  key : String
  orderStatus : OrderStatus
  label : String
  step : Nat
  isActive : Bool
  isCompleted : Bool
  deriving DecidableEq, Repr

structure TrackingState where
  key : String
  label : String
  step : Option Nat
  totalSteps : Nat
  steps : List StepState
  deriving DecidableEq, Repr

/-- An order that awaits payment is at the step of a completed one. -/
def trackedStatus (status : OrderStatus) : OrderStatus :=
  if status = .awaitingPayment then .completed else status

/-- The step of a status and its index. -/
def currentStep (status : OrderStatus) : Option (Step × Nat) :=
  trackingSteps.zipIdx.find? fun step => step.1.orderStatus = trackedStatus status

/-- `tracking_state`. -/
def trackingState (status : OrderStatus) : TrackingState :=
  let current := currentStep status
  let text := match current with
    | none => (terminalStatusLabels status).getD (status.value, status.label)
    | some (step, _) => (step.key, step.label)
  { key := text.1
    label := text.2
    step := current.map fun step => step.2 + 1
    totalSteps := trackingSteps.length
    steps := trackingSteps.zipIdx.map fun (step, index) =>
      { key := step.key
        orderStatus := step.orderStatus
        label := step.label
        step := index + 1
        isActive := current.map Prod.snd = some index
        isCompleted := current.any fun step => index ≤ step.2 } }

/-! ### The rows -/

/-- The columns of `accounts.Master` that the tracking reads or writes. -/
structure MasterLocation where
  id : Uuid
  phone : String := ""
  firstName : String := ""
  lastName : String := ""
  isOnline : Bool := false
  isAvailable : Bool := true
  lat : Option Int := none
  lng : Option Int := none
  lastLocationAt : Option Int := none
  deriving DecidableEq, Repr

/-- `orders.OrderTracking`, one row for an order. -/
structure OrderTracking where
  order : Uuid
  masterLat : Option Int := none
  masterLng : Option Int := none
  distanceKm : Option Int := none
  etaMinutes : Option Nat := none
  deriving DecidableEq, Repr

instance : Keyed MasterLocation Uuid := ⟨MasterLocation.id⟩

instance : Keyed OrderTracking Uuid := ⟨OrderTracking.order⟩

@[simp] theorem key_orderTracking (row : OrderTracking) : key row = row.order := rfl

/-- The tables. -/
structure TrackingTables where
  orders : Table Order := .empty
  masters : Table MasterLocation := .empty
  tracking : Table OrderTracking := .empty

/-- The floating-point functions: `distance_km` of two points, in hundredths of a kilometre,
and `eta_minutes` of a distance. -/
structure Geo where
  distanceKm : Int → Int → Int → Int → Int
  etaMinutes : Int → Nat

/-! ### What is shown of an order -/

/-- `tracking_payload`, less the addresses of the sockets that are the same for all orders. -/
structure TrackingPayload where
  orderId : Uuid
  status : OrderStatus
  statusLabel : String
  state : TrackingState
  beforePhoto : Option String
  completionPhoto : Option String
  completionNote : String
  receiptStatus : String
  receiptAvailable : Bool
  receiptDownloadUrl : Option String
  orderLat : Int
  orderLng : Int
  orderAddress : String
  master : Option MasterLocation
  masterContact : Option String
  masterLat : Option Int
  masterLng : Option Int
  lastLocationAt : Option Int
  distanceKm : Option Int
  etaMinutes : Option Nat
  clientTrack : String
  deriving DecidableEq, Repr

/-- Python's `or` of two numbers that may be missing: zero counts as missing. -/
def orNumber {N : Type} [Zero N] [DecidableEq N] (a b : Option N) : Option N :=
  if a = none ∨ a = some 0 then b else a

/-- `_receipt_status`. -/
def receiptStatus (order : Order) : String :=
  if order.receiptApprovedAt.isSome then "approved" else "not_ready"

/-- `tracking_payload` of an order, its tracking row and its master. -/
def trackingPayload (geo : Geo) (order : Order) (tracking : Option OrderTracking)
    (master : Option MasterLocation) : TrackingPayload :=
  let masterLat := orNumber (tracking.bind OrderTracking.masterLat) (master.bind MasterLocation.lat)
  let masterLng := orNumber (tracking.bind OrderTracking.masterLng) (master.bind MasterLocation.lng)
  let distance := match tracking.bind OrderTracking.distanceKm, masterLat, masterLng with
    | some distance, _, _ => some distance
    | none, some lat, some lng => some (geo.distanceKm lat lng order.lat order.lng)
    | none, _, _ => none
  let ready := order.status ∈ receiptReadyStatuses ∧ order.receiptApprovedAt.isSome
  { orderId := order.id
    status := order.status
    statusLabel := order.status.label
    state := trackingState order.status
    beforePhoto := order.beforePhoto
    completionPhoto := order.completionPhoto
    completionNote := order.completionNote
    receiptStatus := receiptStatus order
    receiptAvailable := ready
    receiptDownloadUrl :=
      if ready then
        some ("/api/v1/client/orders/" ++ Payme.uuidText order.id ++ "/receipt/download/")
      else none
    orderLat := order.lat
    orderLng := order.lng
    orderAddress := order.addressText
    master := master
    masterContact := master.map MasterLocation.phone
    masterLat := masterLat
    masterLng := masterLng
    lastLocationAt := master.bind MasterLocation.lastLocationAt
    distanceKm := distance
    etaMinutes := orNumber (tracking.bind OrderTracking.etaMinutes) (distance.map geo.etaMinutes)
    clientTrack := "/ws/client/track/" ++ Payme.uuidText order.id ++ "/" }

namespace TrackingTables

variable (t : TrackingTables)

/-- The master of an order. -/
def masterOf (order : Order) : Option MasterLocation := order.master.bind t.masters.find?

/-- What the tables show of an order. -/
def payload (geo : Geo) (order : Order) : TrackingPayload :=
  trackingPayload geo order (t.tracking.find? order.id) (t.masterOf order)

/-- `ensure_tracking`. -/
def ensureTracking (order : Uuid) : TrackingTables :=
  { t with tracking := (t.tracking.insert? { order := order }).getD t.tracking }

/-- `client_can_track`. -/
def clientCanTrack (user order : Uuid) : Bool :=
  (t.orders.find? order).any fun o => o.client = user

/-- `client_tracking_snapshot`. -/
def clientTrackingSnapshot (geo : Geo) (user order : Uuid) :
    Option TrackingPayload × TrackingTables :=
  match (t.orders.find? order).filter fun o => o.client = user with
  | none => (none, t)
  | some o => (some ((t.ensureTracking order).payload geo o), t.ensureTracking order)

end TrackingTables

/-- `ClientOrderTrackView.get`. -/
def ClientOrderTrackView.get (geo : Geo) (user pk : Uuid) (t : TrackingTables) :
    Except Error TrackingPayload :=
  match (t.orders.find? pk).filter fun o => o.client = user with
  | none => .error (.notFound "Order")
  | some order => .ok (t.payload geo order)

/-! ### The location of a master -/

/-- A location as a master sends it, in values that fit the columns: one with more decimals
would be stored rounded, but broadcast as it was sent. -/
structure Ping where
  lat : Int
  lng : Int
  orderId : Option Uuid := none
  distanceKm : Option Int := none
  etaMinutes : Option Nat := none
  deriving DecidableEq, Repr

/-- The row that a location gives an order; what the app did not send is computed. -/
def Ping.tracking (geo : Geo) (ping : Ping) (order : Order) : OrderTracking :=
  let distance := ping.distanceKm.getD (geo.distanceKm ping.lat ping.lng order.lat order.lng)
  { order := order.id
    masterLat := some ping.lat
    masterLng := some ping.lng
    distanceKm := some distance
    etaMinutes := some (ping.etaMinutes.getD (geo.etaMinutes distance)) }

/-- The loop of `refresh_master_order_tracking`. -/
def refreshOrders (geo : Geo) (ping : Ping) :
    List Order → TrackingTables → TrackingTables × List (Order × TrackingPayload)
  | [], t => (t, [])
  | order :: orders, t =>
      let tracking := ping.tracking geo order
      let t' := { t with tracking := t.tracking.upsert tracking }
      let (t'', updates) := refreshOrders geo ping orders t'
      (t'', (order, trackingPayload geo order (some tracking) (t.masterOf order)) :: updates)

/-- The orders that a location of the master concerns. -/
def TrackingTables.concerned (t : TrackingTables) (master : Uuid) (orderId : Option Uuid) :
    List Order :=
  match orderId with
  | some id => t.orders.rows.filter fun o => o.id = id ∧ o.master = some master
  | none => t.orders.rows.filter fun o => o.master = some master ∧ o.status ∈ activeOrderStatuses

/-- `refresh_master_order_tracking`. -/
def refreshMasterOrderTracking (geo : Geo) (master : Uuid) (ping : Ping) (t : TrackingTables) :
    TrackingTables × List (Order × TrackingPayload) :=
  refreshOrders geo ping (t.concerned master ping.orderId) t

/-- `save(update_fields=…)` of the location; `isAvailable` is a field of the request only. -/
def TrackingTables.saveLocation (t : TrackingTables) (now : Int) (master : Uuid) (ping : Ping)
    (isOnline : Bool) (isAvailable : Option Bool) : TrackingTables :=
  { t with masters := t.masters.update master fun m =>
      { m with
          lat := some ping.lat
          lng := some ping.lng
          lastLocationAt := some now
          isOnline := isOnline
          isAvailable := isAvailable.getD m.isAvailable } }

/-- What the socket answers a location with. -/
inductive Ack
  | order (payload : TrackingPayload)
  | orders (lat lng : Int) (distanceKm : Option Int) (etaMinutes : Option Nat)
      (ordersNotified : Nat)
  deriving DecidableEq, Repr

/-- The answer to a location, and the orders it is broadcast for. -/
structure Saved where
  ack : Ack
  broadcasts : List (Uuid × TrackingPayload)

/-- `persist_master_location`; `none` when the named order is not one of the master. -/
def persistMasterLocation (geo : Geo) (now : Int) (master : Uuid) (ping : Ping)
    (t : TrackingTables) : Except Error (Option Saved) × TrackingTables :=
  if (t.masters.find? master).isSome then
    let (t', updates) := refreshMasterOrderTracking geo master ping
      (t.saveLocation now master ping true none)
    let broadcasts := updates.map fun update => (update.1.id, update.2)
    match ping.orderId, updates with
    | some _, [] => (.ok none, t')
    | some _, update :: _ => (.ok (some ⟨.order update.2, broadcasts⟩), t')
    | none, _ =>
        (.ok (some ⟨.orders ping.lat ping.lng ping.distanceKm ping.etaMinutes updates.length,
          broadcasts⟩), t')
  else (.error (.serverError "DatabaseError"), t)

/-- The response to a location: the master, and the payload of the order that is named. -/
structure LocationResponse where
  master : Option MasterLocation
  tracking : Option TrackingPayload
  broadcasts : List (Uuid × TrackingPayload)

/-- `MasterLocationUpdateView.post`; the location is saved before the order is looked up. -/
def MasterLocationUpdateView.post (geo : Geo) (now : Int) (user : Uuid) (ping : Ping)
    (isOnline isAvailable : Bool) (t : TrackingTables) :
    Except Error LocationResponse × TrackingTables :=
  let t' := t.saveLocation now user ping isOnline (some isAvailable)
  if ∃ id ∈ ping.orderId, ¬(t'.orders.find? id).any (fun o => o.master = some user) then
    (.error (.notFound "Order"), t')
  else
    let (t'', updates) := refreshMasterOrderTracking geo user ping t'
    (.ok
      { master := t'.masters.find? user
        tracking := if ping.orderId.isSome then updates.head?.map Prod.snd else none
        broadcasts := updates.map fun update => (update.1.id, update.2) }, t'')

/-- A new tracking row shows what no row shows. -/
theorem payload_ensureTracking (geo : Geo) (order : Order) (t : TrackingTables) :
    (t.ensureTracking order.id).payload geo order = t.payload geo order := by
  have hmaster : (t.ensureTracking order.id).masterOf order = t.masterOf order := rfl
  rw [TrackingTables.payload, TrackingTables.payload, hmaster]
  cases hfind : t.tracking.find? order.id with
  | none =>
      have hkey : t.tracking.find? (key ({ order := order.id } : OrderTracking)) = none := hfind
      obtain ⟨t', hins⟩ := Table.exists_insert? hkey
      have hfind' := Table.find?_insert? hins order.id
      rw [key_orderTracking, if_pos rfl] at hfind'
      rw [TrackingTables.ensureTracking, hins, Option.getD_some, hfind']
      rfl
  | some row =>
      have hkey : (t.tracking.find? (key ({ order := order.id } : OrderTracking))).isSome := by
        rw [key_orderTracking, hfind]
        rfl
      rw [TrackingTables.ensureTracking, Table.insert?_eq_none hkey, Option.getD_none, hfind]

/-! ### Whom a location reaches -/

section Refresh

variable {geo : Geo} {ping : Ping} {t : TrackingTables}

theorem orders_refreshOrders (l : List Order) (t : TrackingTables) :
    (refreshOrders geo ping l t).1.orders = t.orders := by
  induction l generalizing t with
  | nil => rfl
  | cons order l ih => exact ih _

theorem masters_refreshOrders (l : List Order) (t : TrackingTables) :
    (refreshOrders geo ping l t).1.masters = t.masters := by
  induction l generalizing t with
  | nil => rfl
  | cons order l ih => exact ih _

theorem find?_of_mem_orders {l : List Order} (hl : (l.map Order.id).Nodup) {o : Order}
    (ho : o ∈ l) : l.find? (fun o' => decide (o'.id = o.id)) = some o := by
  have hsome : (l.find? fun o' => decide (o'.id = o.id)).isSome :=
    List.find?_isSome.mpr ⟨o, ho, by simp⟩
  obtain ⟨o', ho'⟩ := Option.isSome_iff_exists.mp hsome
  have hid : o'.id = o.id := by simpa using List.find?_some ho'
  rw [ho', List.inj_on_of_nodup_map hl (List.mem_of_find?_eq_some ho') ho hid]

/-- An order of the list has the row of the location, any other order the row it had. -/
theorem find?_refreshOrders {l : List Order} (hl : (l.map Order.id).Nodup) (t : TrackingTables)
    (id : Uuid) :
    (refreshOrders geo ping l t).1.tracking.find? id =
      ((l.find? fun o => o.id = id).map (ping.tracking geo)).or (t.tracking.find? id) := by
  induction l generalizing t with
  | nil => rfl
  | cons order l ih =>
      rw [List.map_cons, List.nodup_cons] at hl
      refine (ih hl.2 _).trans ?_
      rw [Table.find?_upsert, List.find?_cons]
      by_cases hid : order.id = id
      · have hnone : l.find? (fun o => decide (o.id = id)) = none := by
          rw [List.find?_eq_none]
          intro o ho hoid
          refine hl.1 (List.mem_map.mpr ⟨o, ho, ?_⟩)
          rw [of_decide_eq_true hoid, hid]
        rw [hnone]
        simp [Ping.tracking, hid]
      · simp [Ping.tracking, hid]

/-- What is broadcast for an order is what the tables show of it afterwards. -/
theorem updates_refreshOrders {l : List Order} (hl : (l.map Order.id).Nodup)
    (t : TrackingTables) :
    (refreshOrders geo ping l t).2 =
      l.map fun o => (o, (refreshOrders geo ping l t).1.payload geo o) := by
  have hpayload : ∀ (l' : List Order) (t' : TrackingTables), (l'.map Order.id).Nodup →
      (refreshOrders geo ping l' t').2 =
        l'.map fun o =>
          (o, trackingPayload geo o (some (ping.tracking geo o)) (t'.masterOf o)) := by
    intro l'
    induction l' with
    | nil => exact fun _ _ => rfl
    | cons order l' ih =>
        intro t' hl'
        rw [List.map_cons, List.nodup_cons] at hl'
        exact congrArg _ (ih _ hl'.2)
  rw [hpayload l t hl]
  refine List.map_congr_left fun o ho => ?_
  rw [TrackingTables.payload, find?_refreshOrders hl, find?_of_mem_orders hl ho,
    TrackingTables.masterOf, TrackingTables.masterOf, masters_refreshOrders]
  rfl

theorem nodup_concerned (t : TrackingTables) (master : Uuid) (orderId : Option Uuid) :
    ((t.concerned master orderId).map Order.id).Nodup := by
  cases orderId with
  | some id => exact t.orders.nodup_keys.sublist (List.filter_sublist.map _)
  | none => exact t.orders.nodup_keys.sublist (List.filter_sublist.map _)

/-- The orders a location concerns: the named one, or the active ones, of the master. -/
theorem mem_concerned {master : Uuid} {orderId : Option Uuid} {o : Order} :
    o ∈ t.concerned master orderId ↔
      t.orders.find? o.id = some o ∧ o.master = some master ∧
        orderId.elim (o.status ∈ activeOrderStatuses) (o.id = ·) := by
  have hmem : o ∈ t.orders.rows ↔ t.orders.find? o.id = some o :=
    ⟨fun ho => Table.find?_of_mem ho, Table.mem_of_find?⟩
  cases orderId with
  | none => simp [TrackingTables.concerned, hmem]
  | some id => simp [TrackingTables.concerned, hmem, and_comm]

theorem concerned_saveLocation (now : Int) (master master' : Uuid) (isOnline : Bool)
    (isAvailable : Option Bool) (orderId : Option Uuid) :
    (t.saveLocation now master ping isOnline isAvailable).concerned master' orderId =
      t.concerned master' orderId := by
  cases orderId <;> rfl

end Refresh

/-- What a location does: the row of the master, the rows of the orders it concerns, and a
broadcast for each of these orders. -/
structure Located (geo : Geo) (now : Int) (master : Uuid) (ping : Ping) (t t' : TrackingTables)
    (broadcasts : List (Uuid × TrackingPayload)) : Prop where
  orders : t'.orders = t.orders
  others : ∀ m, m ≠ master → t'.masters.find? m = t.masters.find? m
  located : ∀ m, t.masters.find? master = some m → ∃ m', t'.masters.find? master = some m' ∧
    m'.lat = some ping.lat ∧ m'.lng = some ping.lng ∧ m'.lastLocationAt = some now
  kept : ∀ id, (∀ o ∈ t.concerned master ping.orderId, o.id ≠ id) →
    t'.tracking.find? id = t.tracking.find? id
  tracked : ∀ o ∈ t.concerned master ping.orderId,
    t'.tracking.find? o.id = some (ping.tracking geo o)
  broadcasts : broadcasts =
    (t.concerned master ping.orderId).map fun o => (o.id, t'.payload geo o)

theorem located_refresh (geo : Geo) (now : Int) (master : Uuid) (ping : Ping) (isOnline : Bool)
    (isAvailable : Option Bool) (t : TrackingTables) :
    let r := refreshMasterOrderTracking geo master ping
      (t.saveLocation now master ping isOnline isAvailable)
    Located geo now master ping t r.1 (r.2.map fun update => (update.1.id, update.2)) := by
  have hnodup := nodup_concerned t master ping.orderId
  have hset : ∀ m : MasterLocation, key { m with
      lat := some ping.lat, lng := some ping.lng, lastLocationAt := some now,
      isOnline := isOnline, isAvailable := isAvailable.getD m.isAvailable } = key m :=
    fun _ => rfl
  dsimp only
  rw [refreshMasterOrderTracking, concerned_saveLocation]
  constructor
  · exact orders_refreshOrders _ _
  · intro m hne
    rw [masters_refreshOrders]
    refine (Table.find?_update hset m).trans ?_
    rw [if_neg hne]
  · intro m hm
    have hfind := Table.find?_update hset master (t := t.masters) (k := master)
    rw [if_pos rfl, hm, Option.map_some] at hfind
    rw [masters_refreshOrders]
    exact ⟨_, hfind, rfl, rfl, rfl⟩
  · intro id hid
    rw [find?_refreshOrders hnodup, List.find?_eq_none.mpr]
    · rfl
    · exact fun o ho hoid => hid o ho (of_decide_eq_true hoid)
  · intro o ho
    rw [find?_refreshOrders hnodup, find?_of_mem_orders hnodup ho]
    rfl
  · rw [updates_refreshOrders hnodup, List.map_map]
    rfl

section Paths

variable {geo : Geo} {now : Int} {master : Uuid} {ping : Ping} {t : TrackingTables}

/-- The location names an order that is not one of the master. -/
def Ping.Foreign (ping : Ping) (master : Uuid) (t : TrackingTables) : Prop :=
  ∃ id ∈ ping.orderId, ∀ o, t.orders.find? id = some o → o.master ≠ some master

theorem concerned_of_foreign (h : ping.Foreign master t) :
    t.concerned master ping.orderId = [] := by
  obtain ⟨id, hid, hnone⟩ := h
  rw [Option.mem_def.mp hid, List.eq_nil_iff_forall_not_mem]
  intro o ho
  obtain ⟨hfind, hmaster, hoid⟩ := mem_concerned.mp ho
  exact hnone o (hoid ▸ hfind) hmaster

theorem concerned_of_not_foreign (h : ¬ping.Foreign master t) (hid : ping.orderId.isSome = true) :
    t.concerned master ping.orderId ≠ [] := by
  obtain ⟨id, hid⟩ := Option.isSome_iff_exists.mp hid
  rw [Ping.Foreign, hid] at h
  push Not at h
  obtain ⟨o, hfind, hmaster⟩ := h id rfl
  have hoid : o.id = id := Table.key_of_find? hfind
  rw [hid]
  refine List.ne_nil_of_mem (mem_concerned.mpr ⟨?_, hmaster, hoid⟩)
  rw [hoid]
  exact hfind

theorem persist_of_foreign (hmaster : (t.masters.find? master).isSome = true)
    (h : ping.Foreign master t) :
    persistMasterLocation geo now master ping t =
      (.ok none, t.saveLocation now master ping true none) := by
  have hnil := concerned_of_foreign h
  obtain ⟨id, hid, -⟩ := h
  rw [persistMasterLocation, if_pos hmaster, refreshMasterOrderTracking, concerned_saveLocation,
    hnil, Option.mem_def.mp hid]
  rfl

theorem persist_of_not_foreign (hmaster : (t.masters.find? master).isSome = true)
    (h : ¬ping.Foreign master t) :
    let r := refreshMasterOrderTracking geo master ping (t.saveLocation now master ping true none)
    ∃ ack, persistMasterLocation geo now master ping t =
      (.ok (some ⟨ack, r.2.map fun update => (update.1.id, update.2)⟩), r.1) := by
  rw [persistMasterLocation, if_pos hmaster]
  cases hid : ping.orderId with
  | none => exact ⟨_, rfl⟩
  | some id =>
      have hne := concerned_of_not_foreign h (by rw [hid]; rfl)
      rw [refreshMasterOrderTracking, concerned_saveLocation, hid]
      rw [hid] at hne
      cases hlist : t.concerned master (some id) with
      | nil => exact absurd hlist hne
      | cons o l => exact ⟨_, rfl⟩

theorem post_condition {isOnline isAvailable : Bool} :
    (∃ id ∈ ping.orderId, ¬((t.saveLocation now master ping isOnline
      (some isAvailable)).orders.find? id).any (fun o => o.master = some master) = true) ↔
      ping.Foreign master t := by
  refine exists_congr fun id => and_congr_right fun _ => ?_
  rw [Option.any_eq_true, not_exists]
  refine forall_congr' fun o => ?_
  rw [not_and, decide_eq_true_eq]
  rfl

theorem located_persist (geo : Geo) (now : Int) (hmaster : (t.masters.find? master).isSome = true)
    (h : ¬ping.Foreign master t) :
    ∃ saved t', persistMasterLocation geo now master ping t = (.ok (some saved), t') ∧
      Located geo now master ping t t' saved.broadcasts := by
  obtain ⟨ack, hpersist⟩ := @persist_of_not_foreign geo now _ _ _ hmaster h
  exact ⟨_, _, hpersist, located_refresh geo now master ping true none t⟩

theorem located_post (geo : Geo) (now : Int) (isOnline isAvailable : Bool)
    (h : ¬ping.Foreign master t) :
    ∃ response t', MasterLocationUpdateView.post geo now master ping isOnline isAvailable t =
      (.ok response, t') ∧ Located geo now master ping t t' response.broadcasts := by
  rw [MasterLocationUpdateView.post, if_neg (mt post_condition.mp h)]
  exact ⟨_, _, rfl, located_refresh geo now master ping isOnline (some isAvailable) t⟩

end Paths

/-- A location does the same over the socket and by a request. Every active order of the
master that sends it, or the one order it names, gets the location and one broadcast, with
what the tables show of the order from then on; no other order and no other master changes.
A location for an order of another master is refused by both, and kept of the master only. -/
theorem location_reaches_orders (geo : Geo) (now : Int) (master : Uuid) (ping : Ping)
    (isOnline isAvailable : Bool) (t : TrackingTables)
    (hmaster : (t.masters.find? master).isSome = true) :
    let ws := persistMasterLocation geo now master ping t
    let http := MasterLocationUpdateView.post geo now master ping isOnline isAvailable t
    (∀ o, o ∈ t.concerned master ping.orderId ↔
      t.orders.find? o.id = some o ∧ o.master = some master ∧
        ping.orderId.elim (o.status ∈ activeOrderStatuses) (o.id = ·)) ∧
      (∀ id, ws.2.tracking.find? id = http.2.tracking.find? id) ∧
      (ping.Foreign master t →
        ws.1.toOption = some none ∧ http.1.toOption = none ∧
          Located geo now master ping t ws.2 [] ∧ Located geo now master ping t http.2 []) ∧
      (¬ping.Foreign master t →
        ∃ saved response, ws.1 = .ok (some saved) ∧ http.1 = .ok response ∧
          Located geo now master ping t ws.2 saved.broadcasts ∧
          Located geo now master ping t http.2 response.broadcasts) := by
  dsimp only
  have hsame : ∀ {t₁ t₂ : TrackingTables} {b₁ b₂ : List (Uuid × TrackingPayload)},
      Located geo now master ping t t₁ b₁ → Located geo now master ping t t₂ b₂ →
        ∀ id, t₁.tracking.find? id = t₂.tracking.find? id := by
    intro t₁ t₂ b₁ b₂ h₁ h₂ id
    by_cases hid : ∀ o ∈ t.concerned master ping.orderId, o.id ≠ id
    · rw [h₁.kept id hid, h₂.kept id hid]
    · push Not at hid
      obtain ⟨o, ho, rfl⟩ := hid
      rw [h₁.tracked o ho, h₂.tracked o ho]
  refine ⟨fun o => mem_concerned, ?_⟩
  by_cases hforeign : ping.Foreign master t
  · have hws := located_refresh geo now master ping true none t
    have hhttp := located_refresh geo now master ping isOnline (some isAvailable) t
    rw [persist_of_foreign hmaster hforeign, MasterLocationUpdateView.post,
      if_pos (post_condition.mpr hforeign)]
    rw [refreshMasterOrderTracking, concerned_saveLocation, concerned_of_foreign hforeign]
      at hws hhttp
    exact ⟨hsame hws hhttp, fun _ => ⟨rfl, rfl, hws, hhttp⟩, fun hnot => absurd hforeign hnot⟩
  · obtain ⟨saved, t₁, hpersist, hws⟩ := located_persist geo now hmaster hforeign
    obtain ⟨response, t₂, hpost, hhttp⟩ := located_post geo now isOnline isAvailable hforeign
    rw [hpersist, hpost]
    exact ⟨hsame hws hhttp, fun h => absurd h hforeign,
      fun _ => ⟨saved, response, rfl, rfl, hws, hhttp⟩⟩

namespace Sample

/-- The functions at one point: no distance, and the least time. -/
def geo : Geo := ⟨fun _ _ _ _ => 0, fun _ => 1⟩

def order (id master : Uuid) (status : OrderStatus) : Order where
  id := id
  client := 1
  master := some master
  service := 4
  addressText := "Chilonzor"
  lat := 4130000000
  lng := 6925000000
  scheduledDate := 0
  scheduledTime := 0
  status := status

/-- Two masters; an active order and a completed one of the first, an active one of the other. -/
def tables : TrackingTables where
  orders := ⟨[order 10 2 .onWay, order 11 2 .completed, order 12 3 .accepted], by decide⟩
  masters := ⟨[{ id := 2 }, { id := 3 }], by decide⟩

/-- The master is where the orders are. -/
def ping : Ping where
  lat := 4130000000
  lng := 6925000000

end Sample

theorem location_reaches_orders_sample :
    ∃ saved, (persistMasterLocation Sample.geo 5 2 Sample.ping Sample.tables).1 =
      .ok (some saved) ∧ saved.broadcasts.map Prod.fst = [10] := by
  obtain ⟨-, -, -, hsaved⟩ := location_reaches_orders Sample.geo 5 2 Sample.ping true true
    Sample.tables (by decide)
  obtain ⟨saved, -, hws, -, hlocated, -⟩ := hsaved (by
    rintro ⟨id, hid, -⟩
    cases hid)
  refine ⟨saved, hws, ?_⟩
  rw [hlocated.broadcasts, List.map_map]
  decide

end Realtime

end Homex
