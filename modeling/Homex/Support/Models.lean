import Homex.Common.Store
import Homex.Concurrency.Autocommit
import Homex.Relational.Bulk

/-!
# Support chats

Clients and masters write to the staff, each in a chat of their own. A chat counts
the messages that the staff has not read yet in a column, `unread_by_admin`, and the
messages have a flag, `is_read`: two notions of unread.

No support request opens a transaction, so that its statements are given here one
by one, each with its answer and with what it does to the tables. Timestamps other
than the `updated_at` of a chat, attachments and broadcasts are left out.
-/

namespace Homex

namespace Support

open Relational Profiles Concurrency.Autocommit

/-- `SupportChat.PARTICIPANT_CHOICES`. -/
inductive ParticipantRole
  | client
  | master
  deriving DecidableEq, Repr

/-- `SupportMessage.ROLE_CHOICES`. -/
inductive SenderRole
  | client
  | master
  | admin
  deriving DecidableEq, Repr

/-- `support.SupportChat`; `client` and `master` are unique. -/
structure SupportChat where
  id : Uuid
  participantRole : ParticipantRole
  client : Option Uuid := none
  master : Option Uuid := none
  unreadByAdmin : Nat := 0
  updatedAt : Int
  deriving DecidableEq, Repr

/-- `support.SupportMessage`. -/
structure SupportMessage where
  id : Uuid
  chat : Option Uuid := none
  senderRole : SenderRole
  client : Option Uuid := none
  master : Option Uuid := none
  admin : Option Uuid := none
  message : String
  isRead : Bool := false
  deriving DecidableEq, Repr

/-- A chat without messages. -/
def newChat (pk : Uuid) (role : ParticipantRole) (user : Uuid) (now : Int) : SupportChat :=
  match role with
  | .client => { id := pk, participantRole := .client, client := some user, updatedAt := now }
  | .master => { id := pk, participantRole := .master, master := some user, updatedAt := now }

instance : Keyed SupportChat Uuid := ⟨SupportChat.id⟩

instance : Keyed SupportMessage Uuid := ⟨SupportMessage.id⟩

@[simp] theorem key_supportChat (chat : SupportChat) : key chat = chat.id := rfl

@[simp] theorem key_supportMessage (message : SupportMessage) : key message = message.id := rfl

/-- The column of the chat for a participant of this role. -/
def SupportChat.column (chat : SupportChat) : ParticipantRole → Option Uuid
  | .client => chat.client
  | .master => chat.master

/-- The message is in the chat, not from an admin, and not read. -/
def SupportMessage.unreadIn (message : SupportMessage) (chat : Uuid) : Bool :=
  message.chat = some chat ∧ message.senderRole ≠ .admin ∧ message.isRead = false

/-- The message with `is_read` set. -/
def SupportMessage.markRead (message : SupportMessage) : SupportMessage :=
  { message with isRead := true }

/-- The tables. -/
structure SupportTables where
  clients : Table Client := .empty
  masters : Table Master := .empty
  chats : Table SupportChat := .empty
  messages : Table SupportMessage := .empty

namespace SupportTables

variable (db : SupportTables)

/-- The unread messages of a chat by its counter; no chat, no messages. -/
def unreadByAdmin (chat : Uuid) : Nat := (db.chats.find? chat).elim 0 SupportChat.unreadByAdmin

/-- The unread messages of a chat by their flags. -/
def unreadMessages (chat : Uuid) : Nat := db.messages.count fun m => m.unreadIn chat

/-- The two notions of unread agree on the chat. -/
def Agrees (chat : Uuid) : Prop := db.unreadByAdmin chat = db.unreadMessages chat

instance (chat : Uuid) : Decidable (db.Agrees chat) :=
  inferInstanceAs (Decidable (db.unreadByAdmin chat = db.unreadMessages chat))

end SupportTables

/-- The statements of the support requests. -/
inductive Statement
  | chat (pk : Uuid)
  | chatOf (role : ParticipantRole) (participant : Uuid)
  | participant (role : ParticipantRole) (pk : Uuid)
  | message (pk : Uuid)
  | createChat (pk : Uuid) (role : ParticipantRole) (user : Uuid) (now : Int)
  | createMessage (message : SupportMessage)
  | incrementUnread (chat : Uuid) (now : Int)
  | touch (chat : Uuid) (now : Int)
  | clearUnread (chat : Uuid) (now : Int)
  | markMessagesRead (chat : Uuid)
  | setRead (message : Uuid)
  | setChat (message chat : Uuid)
  | saveMessage (message : SupportMessage)
  | deleteMessage (message : Uuid)
  deriving DecidableEq, Repr

namespace Statement

/-- A `SELECT` answers with the row, an `INSERT` whether it was possible, an `UPDATE` or a
`DELETE` with the number of rows. -/
abbrev Answer : Statement → Type
  | chat _ => Option SupportChat
  | chatOf _ _ => Option SupportChat
  | participant _ _ => Bool
  | message _ => Option SupportMessage
  | createChat _ _ _ _ => Bool
  | createMessage _ => Bool
  | incrementUnread _ _ => Nat
  | touch _ _ => Nat
  | clearUnread _ _ => Nat
  | markMessagesRead _ => Nat
  | setRead _ => Nat
  | setChat _ _ => Nat
  | saveMessage _ => Nat
  | deleteMessage _ => Nat

/-- The number of rows of a statement about one row. -/
def rows {ρ : Type} (row : Option ρ) : Nat := if row.isSome then 1 else 0

end Statement

namespace SupportTables

/-- `INSERT` of a chat; the columns that name the participant are unique. -/
def insertChat (db : SupportTables) (pk : Uuid) (role : ParticipantRole) (user : Uuid)
    (now : Int) : Bool × SupportTables :=
  if db.chats.rows.any fun chat => chat.column role = some user then (false, db)
  else match db.chats.insert? (newChat pk role user now) with
    | none => (false, db)
    | some t => (true, { db with chats := t })

/-- `INSERT` of a message, in a chat that exists or in none. -/
def insertMessage (db : SupportTables) (message : SupportMessage) : Bool × SupportTables :=
  if message.chat.all fun chat => (db.chats.find? chat).isSome then
    match db.messages.insert? message with
    | none => (false, db)
    | some t => (true, { db with messages := t })
  else (false, db)

end SupportTables

/-- The answer to a statement, and the tables after it. -/
def SupportTables.exec (db : SupportTables) : (q : Statement) → q.Answer × SupportTables
  | .chat pk => (db.chats.find? pk, db)
  | .chatOf role pk => (db.chats.rows.find? fun chat => chat.column role = some pk, db)
  | .participant .client pk => ((db.clients.find? pk).isSome, db)
  | .participant .master pk => ((db.masters.find? pk).isSome, db)
  | .message pk => (db.messages.find? pk, db)
  | .createChat pk role user now => db.insertChat pk role user now
  | .createMessage message => db.insertMessage message
  | .incrementUnread pk now =>
      (Statement.rows (db.chats.find? pk),
        { db with chats := db.chats.update pk fun chat =>
            { chat with unreadByAdmin := chat.unreadByAdmin + 1, updatedAt := now } })
  | .touch pk now =>
      (Statement.rows (db.chats.find? pk),
        { db with chats := db.chats.update pk fun chat => { chat with updatedAt := now } })
  | .clearUnread pk now =>
      (Statement.rows (db.chats.find? pk),
        { db with chats := db.chats.update pk fun chat =>
            { chat with unreadByAdmin := 0, updatedAt := now } })
  | .markMessagesRead pk =>
      let t := db.messages.updateWhere (fun m => m.unreadIn pk) SupportMessage.markRead
        fun _ => rfl
      (db.unreadMessages pk, { db with messages := t })
  | .setRead pk =>
      (Statement.rows (db.messages.find? pk),
        { db with messages := db.messages.update pk SupportMessage.markRead })
  | .setChat pk chat =>
      (Statement.rows (db.messages.find? pk),
        { db with messages := db.messages.update pk fun m => { m with chat := some chat } })
  | .saveMessage message =>
      (Statement.rows (db.messages.find? message.id),
        { db with messages := db.messages.save message })
  | .deleteMessage pk =>
      (Statement.rows (db.messages.find? pk), { db with messages := db.messages.delete pk })

/-- Request code of the support app. -/
abbrev SupportCode (α : Type) := Script Statement Statement.Answer Error α

/-- One statement. -/
def execute (q : Statement) : SupportCode q.Answer := .ask q

end Support

end Homex
