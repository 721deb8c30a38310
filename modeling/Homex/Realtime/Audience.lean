import Homex.Realtime.Delivery
import Homex.Support.Unread

/-!
# Who sees what

A socket joins the group of what its user may see, and every message is sent to the group of
what it is about. A chat or an order may change hands later, so that both are said of the
tables that the server has had.
-/

namespace Homex

namespace Realtime

open Relational Orders Support Concurrency.Groups Transition

section Past

variable (past : Data → Prop)

/-- A chat with this id has been a chat of the participant. -/
def HadChat (role : ParticipantRole) (user chatId : Uuid) : Prop :=
  ∃ d, past d ∧ ∃ chat ∈ d.support.chats.rows, chat.id = chatId ∧ chat.column role = some user

/-- The order has been an order of the client. -/
def HadOrder (client order : Uuid) : Prop := ∃ d, past d ∧ d.clientCanTrack client order = true

/-- The order has been one of the master. -/
def LedOrder (master order : Uuid) : Prop :=
  ∃ d, past d ∧ ∃ o ∈ d.orders.rows, o.id = order ∧ o.master = some master

/-- What the answer to a location tells a master: an order that has been theirs, or a number
of orders they have had at one time. -/
def Acknowledges (master : Uuid) : Ack → Prop
  | .order payload => LedOrder past master payload.orderId
  | .orders _ _ _ _ ordersNotified =>
      ∃ d, past d ∧ ordersNotified ≤ d.orders.count fun o => o.master = some master

/-- Whom a notification is for. -/
def NotificationPayload.recipient : NotificationPayload → Option (ParticipantRole × Uuid)
  | .notification row => row.user.map fun user => (row.role, user)
  | .readAll role user => some (role, user)

/-- The message is about the topic. -/
def Carried : Topic → Message → Prop
  | .tracking order, .trackingUpdate _ payload => payload.orderId = order
  | .notifications role user, .notificationEvent _ payload =>
      payload.recipient = some (role, user)
  | .support role user, .chatMessage message =>
      ∃ chatId ∈ message.chat, HadChat past role user chatId
  | .support role user, .chatRead chatId _ _ => HadChat past role user chatId
  | .supportAdmin, .chatUpdate _ _ _ _ => True
  | .dashboardOrders, .dashboardOrderEvent _ _ => True
  | _, _ => False

/-- What has let the user of a socket into its group. -/
def Entitled (s : Socket) : Prop :=
  match s.endpoint with
  | .masterTracking =>
      s.chat = none ∧ ∃ id, s.user = .participant .master id ∧ s.topic = .masterTracking id
  | .clientTracking order =>
      s.chat = none ∧ s.topic = .tracking order ∧
        ∃ id, s.user = .participant .client id ∧ HadOrder past id order
  | .masterNotifications =>
      s.chat = none ∧
        ∃ id, s.user = .participant .master id ∧ s.topic = .notifications .master id
  | .clientNotifications =>
      s.chat = none ∧
        ∃ id, s.user = .participant .client id ∧ s.topic = .notifications .client id
  | .dashboardOrders => s.chat = none ∧ s.user.isStaff = true ∧ s.topic = .dashboardOrders
  | .masterSupport =>
      ∃ id chatId, s.user = .participant .master id ∧ s.topic = .support .master id ∧
        s.chat = some chatId ∧ HadChat past .master id chatId
  | .clientSupport =>
      ∃ id chatId, s.user = .participant .client id ∧ s.topic = .support .client id ∧
        s.chat = some chatId ∧ HadChat past .client id chatId
  | .adminSupportChat chatId =>
      s.user.isStaff = true ∧ s.chat = some chatId ∧
        ∃ role id, s.topic = .support role id ∧ HadChat past role id chatId
  | .adminSupportLobby => s.chat = none ∧ s.user.isStaff = true ∧ s.topic = .supportAdmin

/-- What a socket shows. -/
def Shown (s : Socket) : Frame → Prop
  | .error _ => True
  | .locationSaved ack =>
      s.endpoint = .masterTracking ∧
        ∃ id, s.user = .participant .master id ∧ Acknowledges past id ack
  | .trackingSnapshot payload => s.endpoint = .clientTracking payload.orderId
  | .history messages chatId =>
      s.chat = some chatId ∧ ∀ message ∈ messages, message.chat = some chatId
  | .event message => Carried past s.topic message

variable {past} {past' : Data → Prop}

theorem HadChat.mono (hpast : ∀ d, past d → past' d) {role : ParticipantRole}
    {user chatId : Uuid} (h : HadChat past role user chatId) : HadChat past' role user chatId := by
  obtain ⟨d, hd, hchat⟩ := h
  exact ⟨d, hpast d hd, hchat⟩

theorem Acknowledges.mono (hpast : ∀ d, past d → past' d) {master : Uuid} {ack : Ack}
    (h : Acknowledges past master ack) : Acknowledges past' master ack := by
  cases ack with
  | order payload =>
      obtain ⟨d, hd, hled⟩ := h
      exact ⟨d, hpast d hd, hled⟩
  | orders lat lng distanceKm etaMinutes ordersNotified =>
      obtain ⟨d, hd, hcount⟩ := h
      exact ⟨d, hpast d hd, hcount⟩

theorem Carried.mono (hpast : ∀ d, past d → past' d) {topic : Topic} {message : Message}
    (h : Carried past topic message) : Carried past' topic message := by
  unfold Carried at h ⊢
  split at h
  · exact h
  · exact h
  · obtain ⟨chatId, hid, hchat⟩ := h
    exact ⟨chatId, hid, hchat.mono hpast⟩
  · exact h.mono hpast
  · trivial
  · trivial
  · exact h.elim

theorem Entitled.mono (hpast : ∀ d, past d → past' d) {s : Socket} (h : Entitled past s) :
    Entitled past' s := by
  obtain ⟨endpoint, user, topic, chat, phase, frames⟩ := s
  cases endpoint with
  | masterTracking => exact h
  | clientTracking order =>
      obtain ⟨hchat, htopic, id, huser, d, hd, hcan⟩ := h
      exact ⟨hchat, htopic, id, huser, d, hpast d hd, hcan⟩
  | masterNotifications => exact h
  | clientNotifications => exact h
  | dashboardOrders => exact h
  | masterSupport =>
      obtain ⟨id, chatId, huser, htopic, hchat, hhad⟩ := h
      exact ⟨id, chatId, huser, htopic, hchat, hhad.mono hpast⟩
  | clientSupport =>
      obtain ⟨id, chatId, huser, htopic, hchat, hhad⟩ := h
      exact ⟨id, chatId, huser, htopic, hchat, hhad.mono hpast⟩
  | adminSupportChat chatId =>
      obtain ⟨hstaff, hchat, role, id, htopic, hhad⟩ := h
      exact ⟨hstaff, hchat, role, id, htopic, hhad.mono hpast⟩
  | adminSupportLobby => exact h

theorem Shown.mono (hpast : ∀ d, past d → past' d) {s : Socket} {frame : Frame}
    (h : Shown past s frame) : Shown past' s frame := by
  cases frame with
  | event message => exact Carried.mono hpast h
  | locationSaved ack =>
      obtain ⟨hendpoint, id, huser, hack⟩ := h
      exact ⟨hendpoint, id, huser, hack.mono hpast⟩
  | _ => exact h

/-- The method for a message. -/
def Message.handler : Message → String
  | .trackingUpdate _ _ => "tracking_update"
  | .notificationEvent _ _ => "notification_event"
  | .dashboardOrderEvent _ _ => "dashboard_order_event"
  | .chatMessage _ => "chat_message"
  | .chatRead _ _ _ => "chat_read"
  | .chatUpdate _ _ _ _ => "chat_update"

theorem handlerName_type (message : Message) : handlerName message.type = message.handler := by
  have hnames : handlerName "tracking.update" = "tracking_update" ∧
      handlerName "notification.event" = "notification_event" ∧
      handlerName "dashboard.order.event" = "dashboard_order_event" ∧
      handlerName "chat.message" = "chat_message" ∧ handlerName "chat.read" = "chat_read" ∧
      handlerName "chat.update" = "chat_update" := by decide +kernel
  obtain ⟨htracking, hnotification, hdashboard, hmessage, hread, hupdate⟩ := hnames
  cases message with
  | trackingUpdate _ _ => exact htracking
  | notificationEvent _ _ => exact hnotification
  | dashboardOrderEvent _ _ => exact hdashboard
  | chatMessage _ => exact hmessage
  | chatRead _ _ _ => exact hread
  | chatUpdate _ _ _ _ => exact hupdate

theorem dispatch_of_mem {endpoint : Endpoint} {message : Message}
    (h : message.handler ∈ endpoint.handlers) :
    endpoint.dispatch message = some (.event message) := by
  rw [Endpoint.dispatch, handlerName_type, if_pos h]

theorem handler_of_tracking {order : Uuid} {message : Message}
    (h : Carried past (.tracking order) message) : message.handler = "tracking_update" := by
  cases message <;> first | rfl | exact h.elim

theorem not_carried_masterTracking {master : Uuid} {message : Message} :
    ¬Carried past (.masterTracking master) message := by
  cases message <;> exact id

theorem handler_of_notifications {role : ParticipantRole} {user : Uuid} {message : Message}
    (h : Carried past (.notifications role user) message) :
    message.handler = "notification_event" := by
  cases message <;> first | rfl | exact h.elim

theorem handler_of_support {role : ParticipantRole} {user : Uuid} {message : Message}
    (h : Carried past (.support role user) message) :
    message.handler ∈ ["chat_message", "chat_read"] := by
  cases message <;> first | exact h.elim | simp [Message.handler]

theorem handler_of_supportAdmin {message : Message} (h : Carried past .supportAdmin message) :
    message.handler = "chat_update" := by
  cases message <;> first | rfl | exact h.elim

theorem handler_of_dashboardOrders {message : Message}
    (h : Carried past .dashboardOrders message) : message.handler = "dashboard_order_event" := by
  cases message <;> first | rfl | exact h.elim

/-- Every message about the topic of a socket has a handler. -/
theorem dispatch_of_carried {s : Socket} {message : Message} (hs : Entitled past s)
    (h : Carried past s.topic message) : s.endpoint.dispatch message = some (.event message) := by
  obtain ⟨endpoint, user, topic, chat, phase, frames⟩ := s
  apply dispatch_of_mem
  cases endpoint with
  | masterTracking =>
      obtain ⟨-, id, -, rfl⟩ := hs
      exact (not_carried_masterTracking h).elim
  | clientTracking order =>
      obtain ⟨-, rfl, -⟩ := hs
      rw [handler_of_tracking h]
      exact List.mem_cons_of_mem _ List.mem_cons_self
  | masterNotifications =>
      obtain ⟨-, id, -, rfl⟩ := hs
      exact List.mem_singleton.mpr (handler_of_notifications h)
  | clientNotifications =>
      obtain ⟨-, id, -, rfl⟩ := hs
      exact List.mem_singleton.mpr (handler_of_notifications h)
  | dashboardOrders =>
      obtain ⟨-, -, rfl⟩ := hs
      exact List.mem_singleton.mpr (handler_of_dashboardOrders h)
  | masterSupport =>
      obtain ⟨id, chatId, -, rfl, -⟩ := hs
      exact handler_of_support h
  | clientSupport =>
      obtain ⟨id, chatId, -, rfl, -⟩ := hs
      exact handler_of_support h
  | adminSupportChat chatId =>
      obtain ⟨-, -, role, id, rfl, -⟩ := hs
      exact handler_of_support h
  | adminSupportLobby =>
      obtain ⟨-, -, rfl⟩ := hs
      exact List.mem_singleton.mpr (handler_of_supportAdmin h)

theorem hadChat_of_mem {d : Data} (hd : past d) {chat : SupportChat}
    (hchat : chat ∈ d.support.chats.rows) {role : ParticipantRole} {user : Uuid}
    (hcolumn : chat.column role = some user) : HadChat past role user chat.id :=
  ⟨d, hd, chat, hchat, rfl, hcolumn⟩

/-- The group of a chat is that of its participant. -/
theorem chatGroup_eq_some {chat : SupportChat} {topic : Topic} (h : chatGroup chat = some topic) :
    ∃ role user, topic = .support role user ∧ chat.column role = some user := by
  obtain ⟨user, huser, rfl⟩ := Option.map_eq_some_iff.mp h
  exact ⟨chat.participantRole, user, rfl, huser⟩

theorem carried_admin (chat : SupportChat) :
    ∀ sent ∈ broadcastAdminUpdate chat, Carried past sent.1 sent.2 := by
  intro sent hsent
  rw [List.mem_singleton.mp hsent]
  trivial

/-- A receipt of a chat that there has been is about the participant of the chat. -/
theorem carried_receipt {d : Data} (hd : past d) {chat read : SupportChat}
    (hchat : chat ∈ d.support.chats.rows) (hid : read.id = chat.id)
    (hcolumn : ∀ role, read.column role = chat.column role) :
    ∀ sent ∈ broadcastReadReceipt read, Carried past sent.1 sent.2 := by
  intro sent hsent
  unfold broadcastReadReceipt at hsent
  split at hsent
  · cases hsent
  · next topic hgroup =>
      rw [List.mem_singleton.mp hsent]
      obtain ⟨role, user, rfl, huser⟩ := chatGroup_eq_some hgroup
      rw [hcolumn] at huser
      change HadChat past role user read.id
      rw [hid]
      exact hadChat_of_mem hd hchat huser

theorem carried_supportMessage {d : Data} (hd : past d) (message : SupportMessage) :
    ∀ sent ∈ broadcastSupportMessage d message, Carried past sent.1 sent.2 := by
  intro sent hsent
  unfold broadcastSupportMessage at hsent
  split at hsent
  · cases hsent
  · next chat hchat =>
      obtain ⟨chatId, hid, hfind⟩ := Option.bind_eq_some_iff.mp hchat
      split at hsent
      · cases hsent
      · next topic hgroup =>
          rcases List.mem_cons.mp hsent with rfl | hsent
          · obtain ⟨role, user, rfl, huser⟩ := chatGroup_eq_some hgroup
            refine ⟨chatId, hid, ?_⟩
            rw [← show chat.id = chatId from Table.key_of_find? hfind]
            exact hadChat_of_mem hd (Table.mem_of_find? hfind) huser
          · exact carried_admin chat sent hsent

theorem carried_notification (notification : Notification) (event : String) :
    ∀ sent ∈ broadcastNotification notification event, Carried past sent.1 sent.2 := by
  intro sent hsent
  unfold broadcastNotification at hsent
  split at hsent
  · cases hsent
  · next user huser =>
      rw [List.mem_singleton.mp hsent]
      change notification.user.map _ = _
      rw [huser, Option.map_some]

/-- What a call sends is about the topic of the group it is sent to. -/
theorem carried_of_sends {d : Data} (hd : past d) (call : Broadcast) :
    ∀ sent ∈ call.sends d, Carried past sent.1 sent.2 := by
  intro sent hsent
  cases call with
  | notification row event => exact carried_notification row event sent hsent
  | notificationReadAll role user =>
      rw [List.mem_singleton.mp hsent]
      rfl
  | dashboardOrder db pk event oldStatus oldMasterId =>
      change sent ∈ broadcastDashboardOrder db pk event oldStatus oldMasterId at hsent
      unfold broadcastDashboardOrder at hsent
      split at hsent
      · cases hsent
      · rw [List.mem_singleton.mp hsent]
        trivial
  | dashboardMasterStatus db master =>
      rw [List.mem_singleton.mp hsent]
      trivial
  | adminUpdate chatId =>
      change sent ∈ (d.support.chats.find? chatId).elim [] broadcastAdminUpdate at hsent
      cases hfind : d.support.chats.find? chatId with
      | none =>
          rw [hfind] at hsent
          cases hsent
      | some chat =>
          rw [hfind] at hsent
          exact carried_admin chat sent hsent
  | readReceipt chatId =>
      change sent ∈ (d.support.chats.find? chatId).elim [] broadcastReadReceipt at hsent
      cases hfind : d.support.chats.find? chatId with
      | none =>
          rw [hfind] at hsent
          cases hsent
      | some chat =>
          rw [hfind] at hsent
          exact carried_receipt hd (Table.mem_of_find? hfind) rfl (fun _ => rfl) sent hsent
  | supportMessage row => exact carried_supportMessage hd row sent hsent

/-- The chat of a participant is a chat of the participant. -/
theorem hadChat_of_getUserChat {pk now : Nat} {role : ParticipantRole} {user chatId : Uuid}
    {d d' : Data} (hd : past d) (hd' : past d')
    (h : getUserChat pk now role user d = (some chatId, d')) :
    HadChat past role user chatId := by
  unfold getUserChat at h
  split at h
  · next chat hfind =>
      obtain ⟨hid, -⟩ := Prod.mk.inj h
      rw [← Option.some.inj hid]
      exact hadChat_of_mem hd (List.mem_of_find?_eq_some hfind)
        (by simpa using List.find?_some hfind)
  · rcases SupportTables.insertChat_cases d.support pk role user now with heq | ⟨t, hins, heq⟩
    · rw [heq] at h
      cases (Prod.mk.inj h).1
    · rw [heq] at h
      obtain ⟨hid, rfl⟩ := Prod.mk.inj h
      rw [← Option.some.inj hid]
      have hmem : newChat pk role user now ∈ t.rows :=
        (Table.mem_insert? hins).mpr (Or.inr rfl)
      have hhad : HadChat past role user (newChat pk role user now).id :=
        hadChat_of_mem hd' hmem (by cases role <;> rfl)
      cases role <;> exact hhad

theorem entitled_openNotifications {role : ParticipantRole} {user : ScopeUser} {topic : Topic}
    {chat : Option Uuid} (h : openNotifications role user = some (topic, chat)) :
    chat = none ∧ ∃ id, user = .participant role id ∧ topic = .notifications role id := by
  cases user with
  | participant role' id =>
      rw [openNotifications] at h
      split at h
      · next hrole =>
          obtain ⟨rfl, rfl⟩ := Prod.mk.inj (Option.some.inj h)
          exact ⟨rfl, id, by rw [hrole], rfl⟩
      · cases h
  | django id isStaff => cases h

theorem entitled_openSupport {pk now : Nat} {role : ParticipantRole} {user : ScopeUser}
    {d d' : Data} {topic : Topic} {chat : Option Uuid} (hd : past d) (hd' : past d')
    (h : openSupport pk now role user d = (some (topic, chat), d')) :
    ∃ id chatId, user = .participant role id ∧ topic = .support role id ∧
      chat = some chatId ∧ HadChat past role id chatId := by
  cases user with
  | participant role' id =>
      rw [openSupport] at h
      split at h
      · next hrole =>
          rcases hchat : getUserChat pk now role id d with ⟨chatId?, d₁⟩
          rw [hchat] at h
          cases chatId? with
          | none => cases (Prod.mk.inj h).1
          | some chatId =>
              obtain ⟨hsome, rfl⟩ := Prod.mk.inj h
              obtain ⟨rfl, rfl⟩ := Prod.mk.inj (Option.some.inj hsome)
              exact ⟨id, chatId, by rw [hrole], rfl, rfl, hadChat_of_getUserChat hd hd' hchat⟩
      · cases (Prod.mk.inj h).1
  | django id isStaff => cases (Prod.mk.inj h).1

/-- A socket of the staff. -/
theorem staff_of_open {α : Type} {staff : Bool} {opened : Option α} {result : α}
    (h : (if staff = true then opened else none) = some result) :
    staff = true ∧ opened = some result := by
  split at h
  · next hstaff => exact ⟨hstaff, h⟩
  · cases h

/-- Who is let in is entitled to the group. -/
theorem entitled_open {endpoint : Endpoint} {user : ScopeUser} {pk now : Nat} {d d' : Data}
    {topic : Topic} {chat : Option Uuid} (hd : past d) (hd' : past d')
    (h : endpoint.open pk now user d = (some (topic, chat), d')) :
    Entitled past { endpoint := endpoint, user := user, topic := topic, chat := chat } := by
  cases endpoint with
  | masterTracking =>
      obtain ⟨hsome, -⟩ := Prod.mk.inj h
      split at hsome
      · next id =>
          obtain ⟨rfl, rfl⟩ := Prod.mk.inj (Option.some.inj hsome)
          exact ⟨rfl, id, rfl, rfl⟩
      · cases hsome
  | clientTracking order =>
      obtain ⟨hsome, -⟩ := Prod.mk.inj h
      split at hsome
      · next id =>
          split at hsome
          · next hcan =>
              obtain ⟨rfl, rfl⟩ := Prod.mk.inj (Option.some.inj hsome)
              exact ⟨rfl, rfl, id, rfl, d, hd, hcan⟩
          · cases hsome
      · cases hsome
  | masterNotifications => exact entitled_openNotifications (Prod.mk.inj h).1
  | clientNotifications => exact entitled_openNotifications (Prod.mk.inj h).1
  | dashboardOrders =>
      obtain ⟨hstaff, hsome⟩ := staff_of_open (Prod.mk.inj h).1
      obtain ⟨rfl, rfl⟩ := Prod.mk.inj (Option.some.inj hsome)
      exact ⟨rfl, hstaff, rfl⟩
  | masterSupport => exact entitled_openSupport hd hd' h
  | clientSupport => exact entitled_openSupport hd hd' h
  | adminSupportChat chatId =>
      obtain ⟨hstaff, hsome⟩ := staff_of_open (Prod.mk.inj h).1
      obtain ⟨group, hgroup, hpair⟩ := Option.map_eq_some_iff.mp hsome
      obtain ⟨rfl, rfl⟩ := Prod.mk.inj hpair
      obtain ⟨row, hrow, hgroup⟩ := Option.bind_eq_some_iff.mp hgroup
      have hfind := (Option.filter_eq_some_iff.mp hrow).1
      obtain ⟨role, id, htopic, hcolumn⟩ := chatGroup_eq_some hgroup
      refine ⟨hstaff, rfl, role, id, htopic, ?_⟩
      rw [← show row.id = chatId from Table.key_of_find? hfind]
      exact hadChat_of_mem hd (Table.mem_of_find? hfind) hcolumn
  | adminSupportLobby =>
      obtain ⟨hstaff, hsome⟩ := staff_of_open (Prod.mk.inj h).1
      obtain ⟨rfl, rfl⟩ := Prod.mk.inj (Option.some.inj hsome)
      exact ⟨rfl, hstaff, rfl⟩

end Past

end Realtime

end Homex
