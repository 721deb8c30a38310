import Homex.Concurrency.Groups
import Homex.Realtime.Sockets
import Homex.Transition.Run

/-!
# Delivery to the sockets

The sockets, the layer that carries the messages between them, and the tables, in any order
of steps. A socket is checked, joins its group and is sent a first frame, with other steps
in between; a broadcast function is called at one moment and its messages are sent at later
ones; a message waits for the consumer it was delivered to.

Frames that are not JSON of the expected form are left out.
-/

namespace Homex

namespace Realtime

open Relational Orders Support Concurrency.Groups

/-- How far `connect` is: the user is let in, the group is joined, the first frame is sent. -/
inductive Phase
  | checked
  | joined
  | ready
  deriving DecidableEq, Repr

/-- A consumer; the name of its topic is its `group_name`. -/
structure Socket where
  endpoint : Endpoint
  user : ScopeUser
  topic : Topic
  chat : Option Uuid := none
  phase : Phase := .checked
  frames : List Frame := []
  deriving DecidableEq, Repr

def Socket.show (s : Socket) (frame : Frame) : Socket := { s with frames := s.frames ++ [frame] }

/-- The tables, the consumers by the names of their channels, the layer, and the messages
whose sending is under way. A name is used once. -/
structure Server (C : Type) where
  data : Data
  sockets : C → Option Socket := fun _ => none
  layer : Layer String C Message := {}
  outgoing : List (Topic × Message) := []
  lost : List (C × Message) := []
  closed : List C := []
  /-- The consumers that ended with "No handler for message type". -/
  crashed : List C := []

/-! ### The first frames -/

/-- What `connect` does after the group is joined: the frames, the messages, the tables. -/
abbrev Greeting := List Frame × List (Topic × Message) × Data

/-- `serialize_history`. -/
def serializeHistory (d : Data) (chatId : Uuid) : Frame :=
  .history (d.support.messages.rows.filter fun m => m.chat = some chatId) chatId

/-- `mark_read` of the consumer, with `mark_chat_read_by_admin`. -/
def markRead (now : Int) (chat : SupportChat) (d : Data) : List (Topic × Message) × Data :=
  let updated := d.support.unreadMessages chat.id
  let marked := (d.support.exec (.markMessagesRead chat.id)).2
  if chat.unreadByAdmin = 0 ∧ updated = 0 then ([], { d with support := marked })
  else
    let read := { chat with unreadByAdmin := 0, updatedAt := now }
    ((if updated = 0 then [] else broadcastReadReceipt read) ++ broadcastAdminUpdate read,
      { d with support := (marked.exec (.clearUnread chat.id now)).2 })

/-- The rest of `connect`; nothing when a row is not there any more. -/
def Socket.greeting (geo : Geo) (now : Int) (s : Socket) (d : Data) : Option Greeting :=
  match s.endpoint, s.user, s.chat with
  | .clientTracking orderId, .participant .client id, _ =>
      let (snapshot, t) := d.clientTrackingSnapshot geo id orderId
      some (snapshot.toList.map .trackingSnapshot, [], { d with toTrackingTables := t })
  | .masterSupport, _, some chatId =>
      (d.support.chats.find? chatId).map fun chat => ([serializeHistory d chat.id], [], d)
  | .clientSupport, _, some chatId =>
      (d.support.chats.find? chatId).map fun chat => ([serializeHistory d chat.id], [], d)
  | .adminSupportChat _, _, some chatId =>
      (d.support.chats.find? chatId).map fun chat =>
        let (sends, d') := markRead now chat d
        ([serializeHistory d' chat.id], sends, d')
  | _, _, _ => some ([], [], d)

/-! ### Steps -/

/-- A step of the server. -/
inductive Event (C : Type)
  /-- Another request leaves these tables. -/
  | request (d : Data)
  | broadcast (call : Broadcast)
  | location (now : Int) (user : Uuid) (ping : Ping) (isOnline isAvailable : Bool)
  | connect (c : C) (endpoint : Endpoint) (user : ScopeUser) (pk now : Nat)
  | join (c : C)
  | greet (c : C) (now : Int)
  | disconnect (c : C)
  | locate (c : C) (now : Int) (ping : Ping)
  | say (c : C) (stamp : Stamp) (content : String)
  | flush (i : Nat) (drops : List C)
  | dispatch (c : C)

namespace Server

variable {C : Type} [DecidableEq C] (σ : Server C)

def setSocket (c : C) (s : Socket) : Server C :=
  { σ with sockets := Function.update σ.sockets c (some s) }

/-- `disconnect`, or the end of a consumer by an error. -/
def close (c : C) (s : Socket) : Server C :=
  { σ with
      sockets := Function.update σ.sockets c none
      layer := σ.layer.close s.topic.name c
      closed := c :: σ.closed }

theorem sockets_setSocket (c c' : C) (s : Socket) :
    (σ.setSocket c s).sockets c' = if c' = c then some s else σ.sockets c' :=
  Function.update_apply ..

theorem sockets_close (c c' : C) (s : Socket) :
    (σ.close c s).sockets c' = if c' = c then none else σ.sockets c' :=
  Function.update_apply ..

/-- `receive` of `MasterTrackingConsumer`. -/
def locate (geo : Geo) (c : C) (s : Socket) (now : Int) (master : Uuid) (ping : Ping) : Server C :=
  let (result, t) := persistMasterLocation geo now master ping σ.data.toTrackingTables
  let σ' := { σ with data := { σ.data with toTrackingTables := t } }
  match result with
  | .error _ => σ'.close c s
  | .ok none => σ'.setSocket c (s.show (.error "lat/lng required (or order not found)"))
  | .ok (some saved) =>
      { σ' with outgoing := σ'.outgoing ++ saved.broadcasts.map broadcastTracking }.setSocket c
        (s.show (.locationSaved saved.ack))

/-- The tables after a message of a chat, and the unread messages of the chat. -/
def createWsMessage (stamp : Stamp) (chat : SupportChat) (message : SupportMessage)
    (sender : SupportUser) (d : Data) : Option (Nat × Data) :=
  let (created, support) := d.support.exec (.createMessage message)
  if created = true then
    let support := (support.exec (if sender.isParticipant then .incrementUnread chat.id stamp.now
      else .touch chat.id stamp.now)).2
    some (support.unreadByAdmin chat.id, { d with support := support })
  else none

/-- `receive` of the support consumers. -/
def say (c : C) (s : Socket) (chatId : Uuid) (stamp : Stamp) (content : String) : Server C :=
  if Profiles.strip content = "" then
    σ.setSocket c (s.show (.error "content (or message) required"))
  else
    match σ.data.support.chats.find? chatId with
    | none => σ.close c s
    | some chat =>
        let message := supportMessage stamp chat (Profiles.strip content) s.user.sender
        match createWsMessage stamp chat message s.user.sender σ.data with
        | none => σ.close c s
        | some (unread, d) =>
            { σ with
                data := d
                outgoing := σ.outgoing ++
                  [(s.topic, .chatMessage message),
                   (.supportAdmin, .chatUpdate chat.id chat.participantRole unread stamp.now)] }

/-- A step, where it is possible. -/
def step (geo : Geo) : Event C → Option (Server C)
  | .request d => some { σ with data := d }
  | .broadcast call => some { σ with outgoing := σ.outgoing ++ call.sends σ.data }
  | .location now user ping isOnline isAvailable =>
      let (result, t) := MasterLocationUpdateView.post geo now user ping isOnline isAvailable
        σ.data.toTrackingTables
      let broadcasts := result.toOption.elim [] LocationResponse.broadcasts
      some { σ with
        data := { σ.data with toTrackingTables := t }
        outgoing := σ.outgoing ++ broadcasts.map broadcastTracking }
  | .connect c endpoint user pk now =>
      if (σ.sockets c).isSome ∨ c ∈ σ.closed then none
      else
        match endpoint.open pk now user σ.data with
        | (none, d) => some { σ with data := d, closed := c :: σ.closed }
        | (some (topic, chat), d) =>
            some ({ σ with data := d }.setSocket c
              { endpoint := endpoint, user := user, topic := topic, chat := chat })
  | .join c =>
      match σ.sockets c with
      | none => none
      | some s =>
          if s.phase = .checked then
            some ({ σ with layer := σ.layer.groupAdd s.topic.name c }.setSocket c
              { s with phase := .joined })
          else none
  | .greet c now =>
      match σ.sockets c with
      | none => none
      | some s =>
          if s.phase = .joined then
            match s.greeting geo now σ.data with
            | none => some (σ.close c s)
            | some (frames, sends, d) =>
                some ({ σ with data := d, outgoing := σ.outgoing ++ sends }.setSocket c
                  { s with phase := .ready, frames := frames })
          else none
  | .disconnect c => (σ.sockets c).map (σ.close c)
  | .locate c now ping =>
      match σ.sockets c with
      | some s =>
          match s.phase, s.endpoint, s.user with
          | .ready, .masterTracking, .participant .master id =>
              some (σ.locate geo c s now id ping)
          | _, _, _ => none
      | none => none
  | .say c stamp content =>
      match σ.sockets c with
      | some s =>
          match s.phase, s.chat with
          | .ready, some chatId => some (σ.say c s chatId stamp content)
          | _, _ => none
      | none => none
  | .flush i drops =>
      (σ.outgoing[i]?).map fun (topic, message) =>
        { σ with
            outgoing := σ.outgoing.eraseIdx i
            layer := σ.layer.groupSend topic.name message drops
            lost := drops.map (fun c => (c, message)) ++ σ.lost }
  | .dispatch c =>
      match σ.sockets c, (σ.layer.inbox c).head? with
      | some s, some message =>
          if s.phase = .ready then
            match s.endpoint.dispatch message with
            | none => some { σ.close c s with crashed := c :: σ.crashed }
            | some frame =>
                some ({ σ with layer := σ.layer.take c }.setSocket c (s.show frame))
          else none
      | _, _ => none

end Server

/-- The topic whose group a step joins or sends to. -/
def Event.topic {C : Type} (σ : Server C) : Event C → Option Topic
  | .connect _ endpoint user pk now => (endpoint.open pk now user σ.data).1.map Prod.fst
  | .flush i _ => (σ.outgoing[i]?).map Prod.fst
  | _ => none

/-- The ids in the names of the groups are UUIDs. -/
def Identified {C : Type} (σ : Server C) (event : Event C) : Prop :=
  ∀ topic ∈ event.topic σ, topic.IsUuid

instance {C : Type} (σ : Server C) (event : Event C) : Decidable (Identified σ event) :=
  inferInstanceAs (Decidable (∀ topic ∈ event.topic σ, topic.IsUuid))

section System

variable (C : Type) [DecidableEq C] (geo : Geo)

/-- The server, from any tables. -/
def server : Transition.System (Server C) (Event C) where
  init σ := ∃ d, σ = { data := d }
  step σ event σ' := Identified σ event ∧ σ.step geo event = some σ'

variable {C}

/-- Some steps in turn. -/
def Server.run (σ : Server C) : List (Event C) → Option (Server C)
  | [] => some σ
  | event :: events =>
      if Identified σ event then (σ.step geo event).bind fun σ' => σ'.run events else none

variable {geo}

theorem leads_run {σ σ' : Server C} {events : List (Event C)} (h : σ.run geo events = some σ') :
    (server C geo).Leads σ σ' := by
  suffices hleads : ∀ σ₀, (server C geo).Leads σ₀ σ → (server C geo).Leads σ₀ σ' from
    hleads σ .refl
  induction events generalizing σ with
  | nil =>
      cases h
      exact fun _ => id
  | cons event events ih =>
      intro σ₀ hl
      rw [Server.run] at h
      split at h
      · next hid =>
          obtain ⟨σ₁, hstep, hrun⟩ := Option.bind_eq_some_iff.mp h
          exact ih hrun σ₀ (hl.step ⟨hid, hstep⟩)
      · cases h

end System

end Realtime

end Homex
