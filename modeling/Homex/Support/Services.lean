import Homex.Support.Models

/-!
# Support services and views

The services that write messages and mark them as read, and the views over them:
those of the participants, of the staff, and the dashboard's, which handle single
messages too.
-/

namespace Homex

namespace Support

open Relational Profiles Concurrency.Autocommit Script

/-- Who sends a message. -/
inductive SupportUser
  | participant (role : ParticipantRole) (id : Uuid)
  | admin (id : Uuid)
  deriving DecidableEq, Repr

/-- The clock, and the ids that a request gives to its new rows. -/
structure Stamp where
  now : Int
  chat : Uuid
  message : Uuid
  deriving DecidableEq, Repr

def integrityError : Error := .serverError "IntegrityError"

/-- `save(update_fields=…)` of a row that is not there any more. -/
def databaseError : Error := .serverError "DatabaseError"

def doesNotExist : Error := .serverError "SupportChat.DoesNotExist"

/-- `get_or_create_support_chat`: who loses the race for the unique column reads the
row of the winner. -/
def getOrCreateSupportChat (stamp : Stamp) (role : ParticipantRole) (user : Uuid) :
    SupportCode SupportChat := do
  let chat? : Option SupportChat ← execute (.chatOf role user)
  match chat? with
  | some chat => pure chat
  | none =>
      let created : Bool ← execute (.createChat stamp.chat role user stamp.now)
      if created then pure (newChat stamp.chat role user stamp.now)
      else
        let winner? : Option SupportChat ← execute (.chatOf role user)
        found integrityError winner?

/-- `touch_chat`; the chat is refreshed after the increment. -/
def touchChat (stamp : Stamp) (chat : SupportChat) (incrementUnread : Bool) :
    SupportCode SupportChat :=
  if incrementUnread then do
    let _ : Nat ← execute (.incrementUnread chat.id stamp.now)
    let chat? : Option SupportChat ← execute (.chat chat.id)
    found doesNotExist chat?
  else do
    let rows : Nat ← execute (.touch chat.id stamp.now)
    require (rows ≠ 0) databaseError
    pure { chat with updatedAt := stamp.now }

/-- The message that `create_support_message` inserts. -/
def supportMessage (stamp : Stamp) (chat : SupportChat) (content : String) :
    SupportUser → SupportMessage
  | .participant .client id =>
      { id := stamp.message, chat := some chat.id, senderRole := .client, client := some id
        message := content }
  | .participant .master id =>
      { id := stamp.message, chat := some chat.id, senderRole := .master, master := some id
        message := content }
  | .admin id =>
      { id := stamp.message, chat := some chat.id, senderRole := .admin, admin := some id
        client := if chat.participantRole = .master then none else chat.client
        master := if chat.participantRole = .master then chat.master else none
        message := content }

/-- `from_participant`. -/
def SupportUser.isParticipant : SupportUser → Bool
  | .participant _ _ => true
  | .admin _ => false

/-- `create_support_message`. -/
def createSupportMessage (stamp : Stamp) (chat : SupportChat) (sender : SupportUser)
    (content : String) : SupportCode SupportMessage := do
  let created : Bool ← execute (.createMessage (supportMessage stamp chat content sender))
  require (created = true) integrityError
  let _ ← touchChat stamp chat sender.isParticipant
  pure (supportMessage stamp chat content sender)

/-- `mark_messages_read_by_admin`. -/
def markMessagesReadByAdmin (chat : SupportChat) : SupportCode Nat :=
  execute (.markMessagesRead chat.id)

/-- `mark_chat_read_by_admin`: the chat is as it was loaded, before the messages were
marked. -/
def markChatReadByAdmin (stamp : Stamp) (chat : SupportChat) : SupportCode Bool := do
  let updated : Nat ← markMessagesReadByAdmin chat
  if chat.unreadByAdmin = 0 ∧ updated = 0 then pure false
  else
    let rows : Nat ← execute (.clearUnread chat.id stamp.now)
    require (rows ≠ 0) databaseError
    pure true

/-- `mark_support_thread_read_by_admin`. -/
def markSupportThreadReadByAdmin (stamp : Stamp) (role : ParticipantRole) (participant : Uuid) :
    SupportCode Bool := do
  let chat? : Option SupportChat ← execute (.chatOf role participant)
  match chat? with
  | none => pure false
  | some chat => markChatReadByAdmin stamp chat

/-! ### The participants and the staff -/

/-- A message of a participant over REST. -/
def BaseSupportListCreateView.post (stamp : Stamp) (role : ParticipantRole) (user : Uuid)
    (content : String) : SupportCode SupportMessage := do
  let chat ← getOrCreateSupportChat stamp role user
  createSupportMessage stamp chat (.participant role user) content

/-- `create_ws_message`, of a participant in the own chat or of an admin in any. -/
def createWsMessage (stamp : Stamp) (chat : Uuid) (user : SupportUser) (content : String) :
    SupportCode SupportMessage := do
  let chat? : Option SupportChat ← execute (.chat chat)
  let chat ← found doesNotExist chat?
  createSupportMessage stamp chat user content

/-- The staff opens a chat: over REST or in the admin site. -/
def AdminSupportMessageListView.list (stamp : Stamp) (chat : Uuid) : SupportCode Bool := do
  let chat? : Option SupportChat ← execute (.chat chat)
  let chat ← found (.notFound "SupportChat") chat?
  markChatReadByAdmin stamp chat

/-- The staff opens a chat over the websocket: `get_allowed_chat`, then `mark_read`. -/
def AdminSupportChatConsumer.connect (stamp : Stamp) (chat : Uuid) : SupportCode Bool := do
  let allowed? : Option SupportChat ← execute (.chat chat)
  match allowed? with
  | none => pure false
  | some _ =>
      let chat? : Option SupportChat ← execute (.chat chat)
      let chat ← found doesNotExist chat?
      markChatReadByAdmin stamp chat

/-! ### The dashboard -/

/-- Opening a thread reads it: a client given in the query goes first. -/
def DashboardSupportMessageListCreateAPIView.list (stamp : Stamp) (client master : Option Uuid) :
    SupportCode Bool :=
  match client, master with
  | some client, _ => markSupportThreadReadByAdmin stamp .client client
  | none, some master => markSupportThreadReadByAdmin stamp .master master
  | none, none => pure false

/-- `DashboardSupportMessageSerializer`, every field optional as in a PATCH. -/
structure MessagePatch where
  senderRole : Option SenderRole := none
  client : Option (Option Uuid) := none
  master : Option (Option Uuid) := none
  message : Option String := none
  isRead : Option Bool := none
  deriving DecidableEq, Repr

/-- The fields of the payload set on a message; the chat is not among them. -/
def MessagePatch.apply (data : MessagePatch) (message : SupportMessage) : SupportMessage :=
  { message with
      senderRole := data.senderRole.getD message.senderRole
      client := data.client.getD message.client
      master := data.master.getD message.master
      message := data.message.getD message.message
      isRead := data.isRead.getD message.isRead }

/-- A `PrimaryKeyRelatedField` that may be null. -/
def requireParticipant (role : ParticipantRole) (field : String) (pk : Option Uuid) :
    SupportCode Unit :=
  match pk with
  | none => pure ()
  | some pk => do
      let known : Bool ← execute (.participant role pk)
      require (known = true) (.invalidPk field pk)

/-- The foreign keys that the payload names exist. -/
def MessagePatch.validate (data : MessagePatch) : SupportCode Unit := do
  requireParticipant .client "client" data.client.join
  requireParticipant .master "master" data.master.join

/-- The row that `serializer.save(sender_role="admin", admin=…)` inserts. -/
def adminMessage (stamp : Stamp) (admin : Uuid) (content : String) (data : MessagePatch) :
    SupportMessage :=
  { data.apply { id := stamp.message, senderRole := .admin, message := content } with
      senderRole := .admin
      admin := some admin }

/-- The participant of a message: `message.client or message.master`. -/
def SupportMessage.participant (message : SupportMessage) : Option (ParticipantRole × Uuid) :=
  match message.client, message.master with
  | some client, _ => some (.client, client)
  | none, some master => some (.master, master)
  | none, none => none

/-- `perform_create`: the message gets its chat after it is inserted. -/
def DashboardSupportMessageListCreateAPIView.post (stamp : Stamp) (admin : Uuid)
    (content : String) (data : MessagePatch) : SupportCode SupportMessage := do
  data.validate
  let message := adminMessage stamp admin content data
  let created : Bool ← execute (.createMessage message)
  require (created = true) integrityError
  match message.participant with
  | none => pure message
  | some (role, user) =>
      let chat ← getOrCreateSupportChat stamp role user
      let rows : Nat ← execute (.setChat message.id chat.id)
      require (rows ≠ 0) databaseError
      let _ ← touchChat stamp chat false
      pure { message with chat := some chat.id }

/-- The message of a detail view. -/
def getMessage (pk : Uuid) : SupportCode SupportMessage := do
  let message? : Option SupportMessage ← execute (.message pk)
  found (.notFound "SupportMessage") message?

/-- PUT and PATCH: `save` of the whole row, which is inserted again when it is gone. -/
def DashboardSupportMessageDetailAPIView.update (pk : Uuid) (data : MessagePatch) :
    SupportCode SupportMessage := do
  let message ← getMessage pk
  data.validate
  let rows : Nat ← execute (.saveMessage (data.apply message))
  if rows ≠ 0 then pure (data.apply message)
  else
    let created : Bool ← execute (.createMessage (data.apply message))
    require (created = true) integrityError
    pure (data.apply message)

def DashboardSupportMessageDetailAPIView.destroy (pk : Uuid) : SupportCode Unit := do
  let message ← getMessage pk
  let _ : Nat ← execute (.deleteMessage message.id)
  pure ()

/-- One message is marked as read, and the counter of its chat is not. -/
def DashboardSupportMessageReadAPIView.post (pk : Uuid) : SupportCode SupportMessage := do
  let message ← getMessage pk
  let rows : Nat ← execute (.setRead message.id)
  require (rows ≠ 0) databaseError
  pure message.markRead

/-! ### Requests -/

/-- A message into a chat, or the staff reading one. -/
inductive ChatRequest
  | post (role : ParticipantRole) (user : Uuid) (content : String)
  | wsMessage (chat : Uuid) (user : SupportUser) (content : String)
  | list (chat : Uuid)
  | connect (chat : Uuid)
  | thread (client master : Option Uuid)
  deriving DecidableEq, Repr

/-- A request about a chat or, from the dashboard, about a single message. -/
inductive SupportRequest
  | chat (request : ChatRequest)
  | dashboardPost (admin : Uuid) (content : String) (data : MessagePatch)
  | dashboardRead (pk : Uuid)
  | dashboardUpdate (pk : Uuid) (data : MessagePatch)
  | dashboardDestroy (pk : Uuid)
  deriving DecidableEq, Repr

/-- The code of a request; the body of its answer is dropped. -/
def ChatRequest.code (stamp : Stamp) : ChatRequest → SupportCode Unit
  | .post role user content =>
      BaseSupportListCreateView.post stamp role user content >>= fun _ => pure ()
  | .wsMessage chat user content => createWsMessage stamp chat user content >>= fun _ => pure ()
  | .list chat => AdminSupportMessageListView.list stamp chat >>= fun _ => pure ()
  | .connect chat => AdminSupportChatConsumer.connect stamp chat >>= fun _ => pure ()
  | .thread client master =>
      DashboardSupportMessageListCreateAPIView.list stamp client master >>= fun _ => pure ()

def SupportRequest.code (stamp : Stamp) : SupportRequest → SupportCode Unit
  | .chat request => request.code stamp
  | .dashboardPost admin content data =>
      DashboardSupportMessageListCreateAPIView.post stamp admin content data >>= fun _ => pure ()
  | .dashboardRead pk => DashboardSupportMessageReadAPIView.post pk >>= fun _ => pure ()
  | .dashboardUpdate pk data =>
      DashboardSupportMessageDetailAPIView.update pk data >>= fun _ => pure ()
  | .dashboardDestroy pk => DashboardSupportMessageDetailAPIView.destroy pk

/-- Support requests one after the other, each in one piece, from these clients and
masters and no chat. -/
def supportDesk (opening : SupportTables) :
    Transition.System SupportTables (Stamp × SupportRequest) :=
  oneByOne SupportTables.exec (fun l => l.2.code l.1)
    fun db => db = { opening with chats := .empty, messages := .empty }

end Support

end Homex
