import Homex.Realtime.Tracking
import Homex.Support.Services

/-!
# Sockets and what is sent to them

The nine sockets of `config/routing.py`: whom each lets in, the group it joins and the
messages it has a handler for; and the functions that send a message to a group. A group
has a name, which the sender and the socket build apart from each other.

The texts of the frames are JSON, given here by what they say.
-/

namespace Homex

namespace Realtime

open Relational Orders Support

/-! ### Groups -/

/-- What the messages of a group are about. -/
inductive Topic
  | tracking (order : Uuid)
  | masterTracking (master : Uuid)
  | notifications (role : ParticipantRole) (user : Uuid)
  | support (role : ParticipantRole) (user : Uuid)
  | supportAdmin
  | dashboardOrders
  deriving DecidableEq, Repr

def roleValue : ParticipantRole → String
  | .client => "client"
  | .master => "master"

/-- `tracking_group`, `notification_group`, `support_group`, `support_admin_group`,
`dashboard_orders_group`, and the group of `MasterTrackingConsumer`. -/
def Topic.name : Topic → String
  | .tracking order => "order_tracking_" ++ Payme.uuidText order
  | .masterTracking master => "master_tracking_" ++ Payme.uuidText master
  | .notifications role user => "notifications_" ++ roleValue role ++ "_" ++ Payme.uuidText user
  | .support role user => "support_" ++ roleValue role ++ "_" ++ Payme.uuidText user
  | .supportAdmin => "support_admin"
  | .dashboardOrders => "dashboard_orders"

/-- The id that names a group; the two groups of the staff have none. -/
def Topic.id : Topic → Uuid
  | .tracking order => order
  | .masterTracking master => master
  | .notifications _ user => user
  | .support _ user => user
  | .supportAdmin => 0
  | .dashboardOrders => 0

/-- The id has the 128 bits of a UUID. -/
def Topic.IsUuid (topic : Topic) : Prop := topic.id < 2 ^ 128

instance : DecidablePred Topic.IsUuid :=
  fun topic => inferInstanceAs (Decidable (topic.id < 2 ^ 128))

/-! ### Names -/

section Names

open Payme

/-- The hexadecimal digits of an id of 128 bits give the id. -/
theorem mod_pow_eq_of_digits {a b n : Nat}
    (h : ∀ i < n, a / 16 ^ i % 16 = b / 16 ^ i % 16) : a % 16 ^ n = b % 16 ^ n := by
  induction n with
  | zero => rw [pow_zero, Nat.mod_one, Nat.mod_one]
  | succ n ih =>
      rw [Nat.mod_pow_succ, Nat.mod_pow_succ, ih fun i hi => h i (by omega), h n (by omega)]

theorem digitChar_inj : ∀ a < 16, ∀ b < 16, Nat.digitChar a = Nat.digitChar b → a = b := by decide

/-- Five groups of characters, apart from each other, give the characters. -/
theorem eq_of_groups {l l' : List Char} (hl : l.length = 32) (hl' : l'.length = 32)
    (h : l.take 8 ++ '-' :: ((l.drop 8).take 4 ++ '-' :: ((l.drop 12).take 4 ++ '-' ::
        ((l.drop 16).take 4 ++ '-' :: l.drop 20))) =
      l'.take 8 ++ '-' :: ((l'.drop 8).take 4 ++ '-' :: ((l'.drop 12).take 4 ++ '-' ::
        ((l'.drop 16).take 4 ++ '-' :: l'.drop 20)))) : l = l' := by
  obtain ⟨h₁, h⟩ := List.append_inj h (by simp [hl, hl'])
  obtain ⟨h₂, h⟩ := List.append_inj (List.cons.inj h).2 (by simp [hl, hl'])
  obtain ⟨h₃, h⟩ := List.append_inj (List.cons.inj h).2 (by simp [hl, hl'])
  obtain ⟨h₄, h⟩ := List.append_inj (List.cons.inj h).2 (by simp [hl, hl'])
  have h₅ := (List.cons.inj h).2
  have hparts : ∀ m : List Char, m = m.take 8 ++ ((m.drop 8).take 4 ++ ((m.drop 12).take 4 ++
      ((m.drop 16).take 4 ++ m.drop 20))) := by
    intro m
    rw [← List.drop_drop (i := 4) (j := 16), List.take_append_drop,
      ← List.drop_drop (i := 4) (j := 12), List.take_append_drop,
      ← List.drop_drop (i := 4) (j := 8), List.take_append_drop, List.take_append_drop]
  rw [hparts l, hparts l', h₁, h₂, h₃, h₄, h₅]

theorem uuidText_injOn {id id' : Uuid} (h : id < 2 ^ 128) (h' : id' < 2 ^ 128)
    (htext : uuidText id = uuidText id') : id = id' := by
  have hhex := eq_of_groups (by simp) (by simp) (String.ofList_injective htext)
  have hdigit : ∀ i < 32, id / 16 ^ i % 16 = id' / 16 ^ i % 16 := by
    intro i hi
    have hchar := List.map_inj_left.mp hhex (31 - i) (List.mem_range.mpr (by omega))
    rw [show 31 - (31 - i) = i by omega] at hchar
    exact digitChar_inj _ (Nat.mod_lt _ (by decide)) _ (Nat.mod_lt _ (by decide)) hchar
  have hpow : (16 : Nat) ^ 32 = 2 ^ 128 := by decide
  have hmod := mod_pow_eq_of_digits hdigit
  rwa [hpow, Nat.mod_eq_of_lt h, Nat.mod_eq_of_lt h'] at hmod

/-- The part of the name before the id. -/
def Topic.stem : Topic → String
  | .tracking _ => "order_tracking_"
  | .masterTracking _ => "master_tracking_"
  | .notifications .client _ => "notifications_client_"
  | .notifications .master _ => "notifications_master_"
  | .support .client _ => "support_client_"
  | .support .master _ => "support_master_"
  | .supportAdmin => "support_admin"
  | .dashboardOrders => "dashboard_orders"

def stems : List String :=
  ["order_tracking_", "master_tracking_", "notifications_client_", "notifications_master_",
   "support_client_", "support_master_", "support_admin", "dashboard_orders"]

/-- No name of a kind begins like a name of another kind. -/
theorem stems_prefix_free : ∀ s ∈ stems, ∀ s' ∈ stems, s.toList <+: s'.toList → s = s' := by
  decide +kernel

def Topic.ofStem (stem : String) (id : Uuid) : Option Topic :=
  if stem = "order_tracking_" then some (.tracking id)
  else if stem = "master_tracking_" then some (.masterTracking id)
  else if stem = "notifications_client_" then some (.notifications .client id)
  else if stem = "notifications_master_" then some (.notifications .master id)
  else if stem = "support_client_" then some (.support .client id)
  else if stem = "support_master_" then some (.support .master id)
  else if stem = "support_admin" then some .supportAdmin
  else if stem = "dashboard_orders" then some .dashboardOrders
  else none

theorem Topic.ofStem_stem (t : Topic) : Topic.ofStem t.stem t.id = some t := by
  rcases t with _ | _ | ⟨_ | _, _⟩ | ⟨_ | _, _⟩ | _ | _ <;> rfl

theorem Topic.stem_mem (t : Topic) : t.stem ∈ stems := by
  rcases t with _ | _ | ⟨_ | _, _⟩ | ⟨_ | _, _⟩ | _ | _ <;> simp [stem, stems]

/-- The part of the name after the stem. -/
def Topic.text (t : Topic) : String :=
  if t.stem = "support_admin" ∨ t.stem = "dashboard_orders" then "" else uuidText t.id

theorem Topic.name_eq (t : Topic) : t.name = t.stem ++ t.text := by
  have hnotifications : "notifications_" ++ "client" ++ "_" = "notifications_client_" ∧
      "notifications_" ++ "master" ++ "_" = "notifications_master_" := by decide +kernel
  have hsupport : "support_" ++ "client" ++ "_" = "support_client_" ∧
      "support_" ++ "master" ++ "_" = "support_master_" := by decide +kernel
  rcases t with _ | _ | ⟨_ | _, user⟩ | ⟨_ | _, user⟩ | _ | _
  · rfl
  · rfl
  · exact congrArg (· ++ uuidText user) hnotifications.1
  · exact congrArg (· ++ uuidText user) hnotifications.2
  · exact congrArg (· ++ uuidText user) hsupport.1
  · exact congrArg (· ++ uuidText user) hsupport.2
  · exact String.append_empty.symm
  · exact String.append_empty.symm

/-- Two topics with one name are one topic. -/
theorem Topic.name_injOn {t t' : Topic} (h : t.IsUuid) (h' : t'.IsUuid)
    (hname : t.name = t'.name) : t = t' := by
  rw [name_eq, name_eq] at hname
  have hlist : t.stem.toList ++ t.text.toList = t'.stem.toList ++ t'.text.toList := by
    rw [← String.toList_append, hname, String.toList_append]
  have hstem : t.stem = t'.stem := by
    rcases List.prefix_or_prefix_of_prefix (List.prefix_append _ _)
      (hlist ▸ List.prefix_append t'.stem.toList t'.text.toList) with hp | hp
    · exact stems_prefix_free _ t.stem_mem _ t'.stem_mem hp
    · exact (stems_prefix_free _ t'.stem_mem _ t.stem_mem hp).symm
  have hid : t.id = t'.id := by
    rw [hstem] at hlist
    have htext := String.toList_inj.mp (List.append_cancel_left hlist)
    rw [text, text, hstem] at htext
    split at htext
    · next hstaff =>
        have hzero : ∀ t : Topic, t.stem = "support_admin" ∨ t.stem = "dashboard_orders" →
            t.id = 0 := by
          rintro (_ | _ | ⟨_ | _, _⟩ | ⟨_ | _, _⟩ | _ | _) hs <;>
            first
            | rfl
            | simp [stem] at hs
        rw [hzero t (hstem ▸ hstaff), hzero t' hstaff]
    · exact uuidText_injOn h h' htext
  have hsome := t.ofStem_stem
  rw [hstem, hid, ofStem_stem] at hsome
  exact (Option.some.inj hsome).symm

end Names

/-! ### Messages -/

/-- `notifications.Notification`. -/
structure Notification where
  id : Uuid
  role : ParticipantRole
  client : Option Uuid := none
  master : Option Uuid := none
  title : String
  body : String := ""
  data : List (String × String) := []
  isRead : Bool := false
  deriving DecidableEq, Repr

/-- The user a notification is for. -/
def Notification.user (notification : Notification) : Option Uuid :=
  match notification.role with
  | .master => notification.master
  | .client => notification.client

/-- The payload of a `notification.event`. -/
inductive NotificationPayload
  | notification (notification : Notification)
  | readAll (role : ParticipantRole) (user : Uuid)
  deriving DecidableEq, Repr

/-- `order_realtime_payload`, and the payload of `master.status_changed`; the columns of the
masters and the timestamps are left out. -/
inductive DashboardPayload
  | order (orderId : Uuid) (status : OrderStatus) (statusLabel : String)
      (oldStatus : Option OrderStatus) (statusTab : String) (masterId oldMasterId : Option Uuid)
      (assignedMasterIds : List Uuid)
  | master (masterId : Uuid) (orderIds : List Uuid)
  deriving DecidableEq, Repr

/-- A message to a group. -/
inductive Message
  | trackingUpdate (event : String) (payload : TrackingPayload)
  | notificationEvent (event : String) (payload : NotificationPayload)
  | dashboardOrderEvent (event : String) (payload : DashboardPayload)
  | chatMessage (message : SupportMessage)
  | chatRead (chatId : Uuid) (readerRole : String) (updatedAt : Int)
  | chatUpdate (chatId : Uuid) (participantRole : ParticipantRole) (unreadByAdmin : Nat)
      (updatedAt : Int)
  deriving DecidableEq, Repr

/-- The `type` of a message. -/
def Message.type : Message → String
  | .trackingUpdate _ _ => "tracking.update"
  | .notificationEvent _ _ => "notification.event"
  | .dashboardOrderEvent _ _ => "dashboard.order.event"
  | .chatMessage _ => "chat.message"
  | .chatRead _ _ _ => "chat.read"
  | .chatUpdate _ _ _ _ => "chat.update"

/-- The name of the method that handles a type of message. -/
def handlerName (type : String) : String :=
  String.ofList (type.toList.map fun c => if c = '.' then '_' else c)

/-- What a socket shows. -/
inductive Frame
  | error (detail : String)
  | locationSaved (ack : Ack)
  | trackingSnapshot (payload : TrackingPayload)
  | history (messages : List SupportMessage) (chatId : Uuid)
  | event (message : Message)
  deriving DecidableEq, Repr

/-! ### Consumers -/

/-- `scope["user"]`: a client or a master, or a Django user. -/
inductive ScopeUser
  | participant (role : ParticipantRole) (id : Uuid)
  | django (id : Uuid) (isStaff : Bool)
  deriving DecidableEq, Repr

/-- The user as the sender of a message. -/
def ScopeUser.sender : ScopeUser → SupportUser
  | .participant role id => .participant role id
  | .django id _ => .admin id

def ScopeUser.isStaff : ScopeUser → Bool
  | .participant _ _ => false
  | .django _ isStaff => isStaff

/-- `websocket_urlpatterns`. -/
inductive Endpoint
  | masterTracking
  | clientTracking (orderId : Uuid)
  | masterNotifications
  | clientNotifications
  | dashboardOrders
  | masterSupport
  | clientSupport
  | adminSupportChat (chatId : Uuid)
  | adminSupportLobby
  deriving DecidableEq, Repr

/-- The methods of the consumer that handle messages. -/
def Endpoint.handlers : Endpoint → List String
  | .masterTracking => []
  | .clientTracking _ => ["location_update", "tracking_update"]
  | .masterNotifications => ["notification_event"]
  | .clientNotifications => ["notification_event"]
  | .dashboardOrders => ["dashboard_order_event"]
  | .masterSupport => ["chat_message", "chat_read"]
  | .clientSupport => ["chat_message", "chat_read"]
  | .adminSupportChat _ => ["chat_message", "chat_read"]
  | .adminSupportLobby => ["chat_update"]

/-- `dispatch`: a message without a handler ends the consumer. -/
def Endpoint.dispatch (endpoint : Endpoint) (message : Message) : Option Frame :=
  if handlerName message.type ∈ endpoint.handlers then some (.event message) else none

/-- The tables. -/
structure Data extends TrackingTables where
  support : SupportTables := {}

/-- `SupportChat.participant`. -/
def participant (chat : SupportChat) : Option Uuid := chat.column chat.participantRole

/-- `chat_group`. -/
def chatGroup (chat : SupportChat) : Option Topic :=
  (participant chat).map fun user => .support chat.participantRole user

/-- `user_can_access_chat`. -/
def userCanAccessChat (user : ScopeUser) (chat : SupportChat) : Bool :=
  match user with
  | .django _ isStaff => isStaff
  | .participant role id => chat.participantRole = role ∧ chat.column role = some id

/-- The chat of a participant, created when there is none; nothing when it cannot be. -/
def getUserChat (pk now : Nat) (role : ParticipantRole) (user : Uuid) (d : Data) :
    Option Uuid × Data :=
  match d.support.chats.rows.find? fun chat => chat.column role = some user with
  | some chat => (some chat.id, d)
  | none =>
      let (created, support) := d.support.insertChat pk role user now
      (if created then some pk else none, { d with support := support })

/-- `BaseNotificationConsumer.connect`. -/
def openNotifications (role : ParticipantRole) (user : ScopeUser) : Option (Topic × Option Uuid) :=
  match user with
  | .participant role' id => if role' = role then some (.notifications role id, none) else none
  | .django _ _ => none

/-- `BaseSupportConsumer.connect`. -/
def openSupport (pk now : Nat) (role : ParticipantRole) (user : ScopeUser) (d : Data) :
    Option (Topic × Option Uuid) × Data :=
  match user with
  | .participant role' id =>
      if role' = role then
        let (chat?, d') := getUserChat pk now role id d
        (chat?.map fun chat => (.support role id, some chat), d')
      else (none, d)
  | .django _ _ => (none, d)

/-- `connect` up to the group that is joined: the topic and, for a support socket, the chat.
A socket without a topic is closed. -/
def Endpoint.open (pk now : Nat) (user : ScopeUser) (d : Data) :
    Endpoint → Option (Topic × Option Uuid) × Data
  | .masterTracking =>
      (match user with
        | .participant .master id => some (.masterTracking id, none)
        | _ => none, d)
  | .clientTracking orderId =>
      (match user with
        | .participant .client id =>
            if d.clientCanTrack id orderId then some (.tracking orderId, none) else none
        | _ => none, d)
  | .masterNotifications => (openNotifications .master user, d)
  | .clientNotifications => (openNotifications .client user, d)
  | .dashboardOrders => (if user.isStaff then some (.dashboardOrders, none) else none, d)
  | .masterSupport => openSupport pk now .master user d
  | .clientSupport => openSupport pk now .client user d
  | .adminSupportChat chatId =>
      (if user.isStaff then
        (((d.support.chats.find? chatId).filter (userCanAccessChat user)).bind chatGroup).map
          fun topic => (topic, some chatId)
      else none, d)
  | .adminSupportLobby => (if user.isStaff then some (.supportAdmin, none) else none, d)

/-! ### Broadcasts -/

/-- `broadcast_notification`. -/
def broadcastNotification (notification : Notification) (event : String) :
    List (Topic × Message) :=
  match notification.user with
  | none => []
  | some user =>
      [(.notifications notification.role user,
        .notificationEvent event (.notification notification))]

/-- `broadcast_notification_read_all`. -/
def broadcastNotificationReadAll (role : ParticipantRole) (user : Uuid) :
    List (Topic × Message) :=
  [(.notifications role user, .notificationEvent "notification.read_all" (.readAll role user))]

/-- `broadcast_tracking`, and the broadcasts of `MasterTrackingConsumer.receive`. -/
def broadcastTracking (update : Uuid × TrackingPayload) : Topic × Message :=
  (.tracking update.1, .trackingUpdate "master.location" update.2)

/-- The active assigned masters of an order. -/
def activeAssignments (db : DB) (order : Uuid) : List Uuid :=
  (db.assignedMasters.rows.filter fun row => row.order = order ∧ row.isActive = true).map
    Assignment.master

/-- `broadcast_dashboard_order`. -/
def broadcastDashboardOrder (db : DB) (pk : Uuid) (event : String)
    (oldStatus : Option OrderStatus) (oldMasterId : Option Uuid) : List (Topic × Message) :=
  match db.orders.find? pk with
  | none => []
  | some order =>
      [(.dashboardOrders, .dashboardOrderEvent event
        (.order order.id order.status order.status.label oldStatus
          (Dashboard.statusTab order.status) order.master oldMasterId
          (activeAssignments db order.id)))]

/-- `MASTER_STATUS_ORDER_STATUSES`. -/
def masterStatusOrderStatuses : List OrderStatus := [.new, .accepted, .onWay, .arrived]

/-- `broadcast_dashboard_master_status`. -/
def broadcastDashboardMasterStatus (db : DB) (master : Uuid) : List (Topic × Message) :=
  [(.dashboardOrders, .dashboardOrderEvent "master.status_changed"
    (.master master
      ((db.orders.rows.filter fun o =>
        (o.master = some master ∨ master ∈ activeAssignments db o.id) ∧
          o.status ∈ masterStatusOrderStatuses).map Order.id)))]

/-- `broadcast_admin_update`. -/
def broadcastAdminUpdate (chat : SupportChat) : List (Topic × Message) :=
  [(.supportAdmin,
    .chatUpdate chat.id chat.participantRole chat.unreadByAdmin chat.updatedAt)]

/-- `broadcast_read_receipt`. -/
def broadcastReadReceipt (chat : SupportChat) : List (Topic × Message) :=
  match chatGroup chat with
  | none => []
  | some topic => [(topic, .chatRead chat.id "admin" chat.updatedAt)]

/-- `broadcast_support_message`; a message of no chat is not sent. -/
def broadcastSupportMessage (d : Data) (message : SupportMessage) : List (Topic × Message) :=
  match message.chat.bind d.support.chats.find? with
  | none => []
  | some chat =>
      match chatGroup chat with
      | none => []
      | some topic => (topic, .chatMessage message) :: broadcastAdminUpdate chat

/-- A call of one of the functions that send to groups. -/
inductive Broadcast
  | notification (notification : Notification) (event : String)
  | notificationReadAll (role : ParticipantRole) (user : Uuid)
  | dashboardOrder (db : DB) (pk : Uuid) (event : String) (oldStatus : Option OrderStatus)
      (oldMasterId : Option Uuid)
  | dashboardMasterStatus (db : DB) (master : Uuid)
  | adminUpdate (chatId : Uuid)
  | readReceipt (chatId : Uuid)
  | supportMessage (message : SupportMessage)

/-- What a call sends, and to which group. -/
def Broadcast.sends (d : Data) : Broadcast → List (Topic × Message)
  | .notification row event => broadcastNotification row event
  | .notificationReadAll role user => broadcastNotificationReadAll role user
  | .dashboardOrder db pk event oldStatus oldMasterId =>
      broadcastDashboardOrder db pk event oldStatus oldMasterId
  | .dashboardMasterStatus db master => broadcastDashboardMasterStatus db master
  | .adminUpdate chatId => (d.support.chats.find? chatId).elim [] broadcastAdminUpdate
  | .readReceipt chatId => (d.support.chats.find? chatId).elim [] broadcastReadReceipt
  | .supportMessage row => broadcastSupportMessage d row

end Realtime

end Homex
