import Homex.Support.Unread

/-!
# Reads and messages side by side

A message is inserted by one statement and counted by the next; a read marks the
messages by one statement and sets the counter to zero by the next. Statements of
other requests may come in between. Nothing is lost and nothing counted twice as
long as, whenever a read sets the counter of a chat to zero, the unread messages of
the chat are those whose increment is still to come.
-/

namespace Homex

namespace Support

open Relational Action Profiles Concurrency.Autocommit Script

/-! ### What a request may send after which answer -/

/-- A statement that changes neither notion of unread, or opens a change of them. -/
def Statement.plain : Statement → Bool
  | .createMessage _ => true
  | .markMessagesRead _ => true
  | q => q.quiet

/-- A statement of the chats; the others are about single messages. -/
def Statement.ofChat : Statement → Bool
  | .incrementUnread _ _ => true
  | .clearUnread _ _ => true
  | q => q.plain

/-- The increment of a chat's counter. -/
def Statement.increments (chat : Uuid) : Statement → Bool
  | .incrementUnread pk _ => pk = chat
  | _ => false

/-- The reset of a chat's counter. -/
def Statement.clears (chat : Uuid) : Statement → Bool
  | .clearUnread pk _ => pk = chat
  | _ => false

/-- A message from a participant is counted next, and a read that marked messages resets
the counter next. -/
def ChatNext (q : Statement) (answer : q.Answer) (next : Option Statement) : Prop :=
  match q, answer with
  | .createMessage message, created =>
      if created = true ∧ message.senderRole ≠ .admin ∧ message.isRead = false then
        ∃ chat now, message.chat = some chat ∧ next = some (.incrementUnread chat now)
      else ∀ q ∈ next, q.plain = true
  | .markMessagesRead chat, updated =>
      (∃ now, next = some (.clearUnread chat now)) ∨ updated = 0 ∧ ∀ q ∈ next, q.plain = true
  | _, _ => ∀ q ∈ next, q.plain = true

theorem chatNext_of_none {q : Statement} {answer : q.Answer} {q' : Statement}
    (h : ChatNext q answer none) (hq' : q'.plain = true) : ChatNext q answer (some q') := by
  have hplain : ∀ q ∈ some q', q.plain = true := by
    intro q hq
    rw [← Option.some.inj hq]
    exact hq'
  cases q with
  | createMessage message =>
      simp only [ChatNext] at h ⊢
      split at h
      · obtain ⟨_, _, _, hnone⟩ := h
        cases hnone
      · next hcounted =>
        rw [if_neg hcounted]
        exact hplain
  | markMessagesRead chat =>
      rcases h with ⟨_, hnone⟩ | ⟨hzero, -⟩
      · cases hnone
      · exact Or.inr ⟨hzero, hplain⟩
  | _ => exact hplain

theorem chatNext_of_quiet {q : Statement} (hq : q.quiet = true) (answer : q.Answer)
    {next : Option Statement} (h : ∀ q ∈ next, q.plain = true) : ChatNext q answer next := by
  cases q with
  | createMessage message => cases hq
  | markMessagesRead chat => cases hq
  | _ => exact h

theorem chatNext_createMessage {message : SupportMessage} {created : Bool}
    {next : Option Statement} :
    ChatNext (.createMessage message) created next ↔
      if created = true ∧ message.senderRole ≠ .admin ∧ message.isRead = false then
        ∃ chat now, message.chat = some chat ∧ next = some (.incrementUnread chat now)
      else ∀ q ∈ next, q.plain = true := Iff.rfl

/-- Code that keeps to `ChatNext`, and owes nothing when it starts. -/
def Opens {α : Type} (code : SupportCode α) : Prop :=
  code.Follows ChatNext ∧ ∀ q ∈ code.head, q.plain = true

section Opens

variable {α β : Type}

theorem opens_pure {a : α} : Opens (pure a) := ⟨trivial, fun _ h => nomatch h⟩

theorem opens_raise {e : Error} : Opens (raise e : SupportCode α) :=
  ⟨trivial, fun _ h => nomatch h⟩

theorem opens_found {e : Error} {a? : Option α} : Opens (found e a? : SupportCode α) := by
  cases a? with
  | none => exact opens_raise
  | some a => exact opens_pure

theorem opens_require {c : Prop} [Decidable c] {e : Error} :
    Opens (Script.require c e : SupportCode Unit) := by
  unfold Script.require
  split
  · exact opens_pure
  · exact opens_raise

theorem Opens.bind {code : SupportCode α} {f : α → SupportCode β} (hcode : Opens code)
    (hf : ∀ a, Opens (f a)) : Opens (code >>= f) := by
  have hNext : ∀ q answer q', ChatNext q answer none → q'.plain = true →
      ChatNext q answer (some q') := fun _ _ _ => chatNext_of_none
  refine ⟨hcode.1.bind hNext (fun a => (hf a).1) fun a => (hf a).2, ?_⟩
  cases code with
  | send q next => exact hcode.2
  | done r =>
      cases r with
      | error e => exact fun _ h => nomatch h
      | ok a => exact (hf a).2

theorem opens_quiet {q : Statement} (hq : q.quiet = true) {f : q.Answer → SupportCode α}
    (hf : ∀ answer, Opens (f answer)) : Opens (execute q >>= f) := by
  refine ⟨fun answer => ⟨chatNext_of_quiet hq answer (hf answer).2, (hf answer).1⟩, ?_⟩
  rintro _ ⟨⟩
  cases q with
  | createMessage message => rfl
  | markMessagesRead chat => rfl
  | _ => exact hq

theorem opens_createMessage {message : SupportMessage} {f : Bool → SupportCode α}
    (hfail : Opens (f false))
    (hcounted : message.senderRole ≠ .admin → message.isRead = false →
      (f true).Follows ChatNext ∧ ∃ chat now, message.chat = some chat ∧
        (f true).head = some (.incrementUnread chat now))
    (hother : ¬(message.senderRole ≠ .admin ∧ message.isRead = false) → Opens (f true)) :
    Opens (execute (.createMessage message) >>= f) := by
  refine ⟨fun (created : Bool) => ?_, fun q hq => ?_⟩
  · cases created with
    | false =>
        refine ⟨chatNext_createMessage.mpr ?_, hfail.1⟩
        rw [if_neg fun h => Bool.false_ne_true h.1]
        exact hfail.2
    | true =>
        by_cases hm : message.senderRole ≠ .admin ∧ message.isRead = false
        · refine ⟨chatNext_createMessage.mpr ?_, (hcounted hm.1 hm.2).1⟩
          rw [if_pos ⟨rfl, hm⟩]
          exact (hcounted hm.1 hm.2).2
        · refine ⟨chatNext_createMessage.mpr ?_, (hother hm).1⟩
          rw [if_neg fun h => hm h.2]
          exact (hother hm).2
  · rw [← Option.some.inj hq]
    rfl

theorem opens_markMessagesRead {chat : Uuid} {f : Nat → SupportCode α}
    (hf : ∀ updated, (f updated).Follows ChatNext ∧
      ((∃ now, (f updated).head = some (.clearUnread chat now)) ∨
        updated = 0 ∧ ∀ q ∈ (f updated).head, q.plain = true)) :
    Opens (execute (.markMessagesRead chat) >>= f) := by
  refine ⟨fun (updated : Nat) => ⟨(hf updated).2, (hf updated).1⟩, fun q hq => ?_⟩
  rw [← Option.some.inj hq]
  rfl

end Opens

section Services

variable {stamp : Stamp} {chat : SupportChat} {content : String}

theorem opens_getOrCreateSupportChat (role : ParticipantRole) (user : Uuid) :
    Opens (getOrCreateSupportChat stamp role user) := by
  refine opens_quiet (q := .chatOf role user) rfl fun chat? => ?_
  cases chat? with
  | some chat => exact opens_pure
  | none =>
      refine opens_quiet (q := .createChat stamp.chat role user stamp.now) rfl fun created => ?_
      cases created with
      | true => exact opens_pure
      | false => exact opens_quiet (q := .chatOf role user) rfl fun _ => opens_found

theorem opens_touchChat : Opens (touchChat stamp chat false) :=
  opens_quiet (q := .touch chat.id stamp.now) rfl fun _ => opens_require.bind fun _ => opens_pure

theorem senderRole_supportMessage (role : ParticipantRole) (id : Uuid) :
    (supportMessage stamp chat content (.participant role id)).senderRole ≠ .admin := by
  cases role with
  | client => exact fun h => nomatch h
  | master => exact fun h => nomatch h

theorem isRead_supportMessage (sender : SupportUser) :
    (supportMessage stamp chat content sender).isRead = false := by
  cases sender with
  | admin id => rfl
  | participant role id =>
      cases role with
      | client => rfl
      | master => rfl

/-- A message from a participant is counted by the statement after the insert. -/
theorem opens_createSupportMessage (sender : SupportUser) :
    Opens (createSupportMessage stamp chat sender content) := by
  refine opens_createMessage opens_raise (fun hrole _ => ?_) fun hother => ?_
  · cases sender with
    | admin id => exact absurd rfl hrole
    | participant role id =>
        refine ⟨fun (rows : Nat) => ?_, chat.id, stamp.now, chat_supportMessage _, rfl⟩
        have hrest : Opens (execute (.chat chat.id) >>= fun chat? : Option SupportChat =>
            found doesNotExist chat? >>= fun _ =>
              pure (supportMessage stamp chat content (.participant role id))) :=
          opens_quiet (q := .chat chat.id) rfl fun _ => opens_found.bind fun _ => opens_pure
        exact ⟨hrest.2, hrest.1⟩
  · cases sender with
    | admin id => exact opens_touchChat.bind fun _ => opens_pure
    | participant role id =>
        exact absurd ⟨senderRole_supportMessage role id, isRead_supportMessage _⟩ hother

/-- A read that marked messages resets the counter by the statement after. -/
theorem opens_markChatReadByAdmin : Opens (markChatReadByAdmin stamp chat) := by
  refine opens_markMessagesRead fun updated => ?_
  by_cases hnone : chat.unreadByAdmin = 0 ∧ updated = 0
  · rw [if_pos hnone]
    exact ⟨trivial, Or.inr ⟨hnone.2, fun _ h => nomatch h⟩⟩
  · rw [if_neg hnone]
    refine ⟨fun (rows : Nat) => ?_, Or.inl ⟨stamp.now, rfl⟩⟩
    have hrest : Opens (Script.require (rows ≠ 0) databaseError >>= fun _ =>
        (pure true : SupportCode Bool)) := opens_require.bind fun _ => opens_pure
    exact ⟨hrest.2, hrest.1⟩

theorem opens_markSupportThreadReadByAdmin (role : ParticipantRole) (participant : Uuid) :
    Opens (markSupportThreadReadByAdmin stamp role participant) := by
  refine opens_quiet (q := .chatOf role participant) rfl fun chat? => ?_
  cases chat? with
  | none => exact opens_pure
  | some chat => exact opens_markChatReadByAdmin

theorem opens_chatRequest (request : ChatRequest) : Opens (request.code stamp) := by
  cases request with
  | post role user content =>
      refine Opens.bind ?_ fun _ => opens_pure
      exact (opens_getOrCreateSupportChat role user).bind fun _ => opens_createSupportMessage _
  | wsMessage chat user content =>
      refine Opens.bind ?_ fun _ => opens_pure
      exact opens_quiet (q := .chat chat) rfl fun _ =>
        opens_found.bind fun _ => opens_createSupportMessage user
  | list chat =>
      refine Opens.bind ?_ fun _ => opens_pure
      exact opens_quiet (q := .chat chat) rfl fun _ =>
        opens_found.bind fun _ => opens_markChatReadByAdmin
  | connect chat =>
      refine Opens.bind (opens_quiet (q := .chat chat) rfl fun allowed? => ?_) fun _ => opens_pure
      cases allowed? with
      | none => exact opens_pure
      | some _ =>
          exact opens_quiet (q := .chat chat) rfl fun _ =>
            opens_found.bind fun _ => opens_markChatReadByAdmin
  | thread client master =>
      refine Opens.bind ?_ fun _ => opens_pure
      cases client with
      | some client => exact opens_markSupportThreadReadByAdmin .client client
      | none =>
          cases master with
          | some master => exact opens_markSupportThreadReadByAdmin .master master
          | none => exact opens_pure

end Services

/-! ### Interleavings -/

/-- Any number of processes with messages into chats and reads of chats, interleaved. -/
def conversations (P : Type) [DecidableEq P] :=
  interleavings SupportTables.exec (fun l : Stamp × ChatRequest => l.2.code l.1) P

section Interleaved

variable {P : Type} [DecidableEq P] [Fintype P]

/-- A statement that sets the counter of the chat to zero finds the chat with as many
unread messages as there are increments to come. -/
def Settled (chat : Uuid) (σ : State SupportTables Statement Statement.Answer Error P) :
    Concurrency.Autocommit.Event (Stamp × ChatRequest) P → Prop
  | .request _ _ => True
  | .statement p => (σ.asks p).any (Statement.clears chat) = true →
      σ.store.unreadMessages chat = σ.asking (Statement.increments chat)

instance (chat : Uuid) (σ : State SupportTables Statement Statement.Answer Error P)
    (e : Concurrency.Autocommit.Event (Stamp × ChatRequest) P) : Decidable (Settled chat σ e) :=
  match e with
  | .request _ _ => isTrue trivial
  | .statement p => inferInstanceAs (Decidable ((σ.asks p).any (Statement.clears chat) = true →
      σ.store.unreadMessages chat = σ.asking (Statement.increments chat)))

/-- Unless some process resets the counter next, the counter and the increments to come make
up the unread messages. -/
structure Accounted (chat : Uuid)
    (σ : State SupportTables Statement Statement.Answer Error P) : Prop where
  ofChat : ∀ p, ∀ q ∈ σ.asks p, q.ofChat = true
  found : ∀ p, (σ.asks p).any (Statement.increments chat) = true →
    (σ.store.chats.find? chat).isSome
  counted : (∃ p, (σ.asks p).any (Statement.clears chat) = true) ∨
    σ.store.unreadByAdmin chat + σ.asking (Statement.increments chat) =
      σ.store.unreadMessages chat

variable {chat : Uuid} {σ : State SupportTables Statement Statement.Answer Error P} {p : P}
  {s : SupportTables} {script : Option (SupportCode Unit)}

/-- `p` goes on, and the books of the state after it are in order. -/
theorem Accounted.of_counted (h : Accounted chat σ)
    (hchats : (σ.store.chats.find? chat).isSome → (s.chats.find? chat).isSome)
    (hofChat : ∀ q ∈ script.bind Script.head, q.ofChat = true)
    (hfound : (script.bind Script.head).any (Statement.increments chat) = true →
      (s.chats.find? chat).isSome)
    (hcounted : (∃ p', ((σ.goOn p s script).asks p').any (Statement.clears chat) = true) ∨
      s.unreadByAdmin chat + (σ.goOn p s script).asking (Statement.increments chat) =
        s.unreadMessages chat) :
    Accounted chat (σ.goOn p s script) := by
  refine ⟨fun p' q hq => ?_, fun p' hp' => ?_, hcounted⟩
  · by_cases hp : p' = p
    · subst hp
      rw [State.asks_goOn] at hq
      exact hofChat q hq
    · rw [State.asks_goOn_of_ne hp] at hq
      exact h.ofChat p' q hq
  · by_cases hp : p' = p
    · subst hp
      rw [State.asks_goOn] at hp'
      exact hfound hp'
    · rw [State.asks_goOn_of_ne hp] at hp'
      exact hchats (h.found p' hp')

/-- `p` goes on, and the counter, with the increment that `p` may owe, moves as the unread
messages do. -/
theorem Accounted.goOn (h : Accounted chat σ)
    (hclears : (σ.asks p).any (Statement.clears chat) = false)
    (hchats : (σ.store.chats.find? chat).isSome → (s.chats.find? chat).isSome)
    (hofChat : ∀ q ∈ script.bind Script.head, q.ofChat = true)
    (hfound : (script.bind Script.head).any (Statement.increments chat) = true →
      (s.chats.find? chat).isSome)
    (hshift : s.unreadByAdmin chat + σ.store.unreadMessages chat +
        (if (script.bind Script.head).any (Statement.increments chat) then 1 else 0) =
      σ.store.unreadByAdmin chat + s.unreadMessages chat +
        if (σ.asks p).any (Statement.increments chat) then 1 else 0) :
    Accounted chat (σ.goOn p s script) := by
  refine h.of_counted hchats hofChat hfound ?_
  rcases h.counted with ⟨p', hp'⟩ | hcounted
  · have hp : p' ≠ p := by
      rintro rfl
      rw [hclears] at hp'
      cases hp'
    refine Or.inl ⟨p', ?_⟩
    rw [State.asks_goOn_of_ne hp]
    exact hp'
  · have hasking : (σ.goOn p s script).asking (Statement.increments chat) + _ = _ :=
      State.asking_goOn (Statement.increments chat)
    omega

theorem increments_of_plain {q? : Option Statement} (h : ∀ q ∈ q?, q.plain = true) :
    q?.any (Statement.increments chat) = false := by
  cases q? with
  | none => rfl
  | some q =>
      cases q with
      | incrementUnread pk now => exact nomatch h _ rfl
      | _ => rfl

theorem clears_of_plain {q? : Option Statement} (h : ∀ q ∈ q?, q.plain = true) :
    q?.any (Statement.clears chat) = false := by
  cases q? with
  | none => rfl
  | some q =>
      cases q with
      | clearUnread pk now => exact nomatch h _ rfl
      | _ => rfl

theorem ofChat_of_plain {q? : Option Statement} (h : ∀ q ∈ q?, q.plain = true) :
    ∀ q ∈ q?, q.ofChat = true := by
  intro q hq
  have hplain := h q hq
  cases q with
  | incrementUnread pk now => rfl
  | clearUnread pk now => rfl
  | _ => exact hplain

/-- `p` goes on to owe nothing. -/
theorem Accounted.goOn_plain (h : Accounted chat σ)
    (hclears : (σ.asks p).any (Statement.clears chat) = false)
    (hchats : (σ.store.chats.find? chat).isSome → (s.chats.find? chat).isSome)
    (hplain : ∀ q ∈ script.bind Script.head, q.plain = true)
    (hshift : s.unreadByAdmin chat + σ.store.unreadMessages chat =
      σ.store.unreadByAdmin chat + s.unreadMessages chat +
        if (σ.asks p).any (Statement.increments chat) then 1 else 0) :
    Accounted chat (σ.goOn p s script) := by
  refine h.goOn hclears hchats (ofChat_of_plain hplain) (fun hinc => ?_) ?_
  · rw [increments_of_plain hplain] at hinc
    cases hinc
  · rw [increments_of_plain hplain]
    exact hshift

omit [DecidableEq P] [Fintype P] in
theorem asks_of_idle (hp : σ.script p = none) : σ.asks p = none := by
  unfold State.asks
  rw [hp]
  rfl

theorem accounted_request (h : Accounted chat σ) (hp : σ.script p = none)
    (l : Stamp × ChatRequest) :
    Accounted chat (σ.goOn p σ.store (some (l.2.code l.1))) := by
  refine h.goOn_plain ?_ id (opens_chatRequest l.2).2 ?_
  · rw [asks_of_idle hp]
    rfl
  · rw [asks_of_idle hp]
    rfl

theorem accounted_answered (h : Accounted chat σ) {result : Except Error Unit}
    (hp : σ.script p = some (.done result)) : Accounted chat (σ.goOn p σ.store none) := by
  have hasks : σ.asks p = none := by
    unfold State.asks
    rw [hp]
    rfl
  refine h.goOn_plain ?_ id (fun _ h => nomatch h) ?_
  · rw [hasks]
    rfl
  · rw [hasks]
    rfl

omit [DecidableEq P] [Fintype P] in
theorem isSome_find?_update {db : SupportTables} {pk : Uuid} {set : SupportChat → SupportChat}
    (hset : ∀ chat, (set chat).id = chat.id) (hchat : (db.chats.find? chat).isSome) :
    ((db.chats.update pk set).find? chat).isSome := by
  rw [Table.find?_update hset]
  by_cases hpk : chat = pk
  · rw [if_pos hpk, Option.isSome_map, ← hpk]
    exact hchat
  · rw [if_neg hpk]
    exact hchat

omit [DecidableEq P] [Fintype P] in
/-- No statement removes a chat. -/
theorem isSome_find?_exec {db : SupportTables} (q : Statement)
    (hchat : (db.chats.find? chat).isSome) : ((db.exec q).2.chats.find? chat).isSome := by
  cases q with
  | incrementUnread pk now => exact isSome_find?_update (fun _ => rfl) hchat
  | touch pk now => exact isSome_find?_update (fun _ => rfl) hchat
  | clearUnread pk now => exact isSome_find?_update (fun _ => rfl) hchat
  | participant role pk =>
      cases role with
      | client => exact hchat
      | master => exact hchat
  | createChat pk role user now =>
      change ((db.insertChat pk role user now).2.chats.find? chat).isSome
      rcases db.insertChat_cases pk role user now with hins | ⟨t, ht, hins⟩
      · rw [hins]
        exact hchat
      · rw [hins, Table.find?_insert? ht]
        split
        · rfl
        · exact hchat
  | createMessage message =>
      change ((db.insertMessage message).2.chats.find? chat).isSome
      rcases db.insertMessage_cases message with hins | ⟨t, -, -, hins⟩
      · rw [hins]
        exact hchat
      · rw [hins]
        exact hchat
  | _ => exact hchat

omit [DecidableEq P] [Fintype P] in
theorem any_asks {q : Statement} (hq : σ.asks p = some q) (f : Statement → Bool) :
    (σ.asks p).any f = f q := by
  rw [hq, Option.any_some]

theorem accounted_quiet (h : Accounted chat σ) {q : Statement} {rest : SupportCode Unit}
    (hq : σ.asks p = some q) (hquiet : q.quiet = true)
    (hplain : ∀ q ∈ rest.head, q.plain = true) :
    Accounted chat (σ.goOn p (σ.store.exec q).2 (some rest)) := by
  have hq_plain : ∀ q ∈ σ.asks p, q.plain = true := by
    rw [hq]
    rintro _ ⟨⟩
    cases q with
    | createMessage message => rfl
    | markMessagesRead pk => rfl
    | _ => exact hquiet
  refine h.goOn_plain (clears_of_plain hq_plain) (isSome_find?_exec q) hplain ?_
  rw [increments_of_plain hq_plain, SupportTables.unreadByAdmin_of_quiet hquiet,
    SupportTables.unreadMessages_of_quiet hquiet]
  rfl

theorem accounted_createMessage (h : Accounted chat σ) {message : SupportMessage}
    {rest : SupportCode Unit} (hq : σ.asks p = some (.createMessage message))
    (hnext : ChatNext (.createMessage message) (σ.store.insertMessage message).1 rest.head) :
    Accounted chat (σ.goOn p (σ.store.insertMessage message).2 (some rest)) := by
  have hclears : (σ.asks p).any (Statement.clears chat) = false := any_asks hq _
  have hinc : (σ.asks p).any (Statement.increments chat) = false := any_asks hq _
  rcases σ.store.insertMessage_cases message with hins | ⟨t, hchat, ht, hins⟩
  · rw [hins] at hnext ⊢
    rw [chatNext_createMessage, if_neg fun h => Bool.false_ne_true h.1] at hnext
    refine h.goOn_plain hclears id hnext ?_
    rw [hinc]
    rfl
  · rw [hins] at hnext ⊢
    rw [chatNext_createMessage] at hnext
    have hcount : ({ σ.store with messages := t } : SupportTables).unreadMessages chat =
        σ.store.unreadMessages chat + if message.unreadIn chat then 1 else 0 :=
      SupportTables.unreadMessages_createMessage ht
    by_cases hm : message.senderRole ≠ .admin ∧ message.isRead = false
    · rw [if_pos ⟨rfl, hm⟩] at hnext
      obtain ⟨pk, now, hpk, hhead⟩ := hnext
      have hrest : (some rest : Option (SupportCode Unit)).bind Script.head =
          some (.incrementUnread pk now) := hhead
      have hunread : message.unreadIn chat =
          Statement.increments chat (.incrementUnread pk now) := by
        simp [SupportMessage.unreadIn, Statement.increments, hpk, hm]
      refine h.goOn hclears id ?_ ?_ ?_
      · rw [hrest]
        rintro _ ⟨⟩
        rfl
      · intro hfound
        rw [hrest] at hfound
        exact of_decide_eq_true hfound ▸ hchat pk hpk
      · rw [hrest, hinc, hcount, hunread, Option.any_some, if_neg Bool.false_ne_true]
        change σ.store.unreadByAdmin chat + _ + _ = _
        omega
    · rw [if_neg fun h => hm h.2] at hnext
      have hunread : message.unreadIn chat = false := decide_eq_false fun h => hm h.2
      refine h.goOn_plain hclears id hnext ?_
      rw [hinc, hcount, hunread]
      rfl

theorem accounted_markMessagesRead (h : Accounted chat σ) {pk : Uuid}
    {rest : SupportCode Unit} (hq : σ.asks p = some (.markMessagesRead pk))
    (hnext : ChatNext (.markMessagesRead pk) (σ.store.unreadMessages pk) rest.head) :
    Accounted chat (σ.goOn p (σ.store.exec (.markMessagesRead pk)).2 (some rest)) := by
  have hclears : (σ.asks p).any (Statement.clears chat) = false := any_asks hq _
  have hinc : (σ.asks p).any (Statement.increments chat) = false := any_asks hq _
  rcases hnext with ⟨now, hhead⟩ | ⟨hzero, hplain⟩
  · have hrest : (some rest : Option (SupportCode Unit)).bind Script.head =
        some (.clearUnread pk now) := hhead
    have hofChat : ∀ q ∈ (some rest : Option (SupportCode Unit)).bind Script.head,
        q.ofChat = true := by
      rw [hrest]
      rintro _ ⟨⟩
      rfl
    have hnoinc : ((some rest : Option (SupportCode Unit)).bind Script.head).any
        (Statement.increments chat) = false := by
      rw [hrest]
      rfl
    by_cases hpk : pk = chat
    · refine h.of_counted id hofChat (fun hinc => ?_) (Or.inl ⟨p, ?_⟩)
      · rw [hnoinc] at hinc
        cases hinc
      · rw [State.asks_goOn, hrest]
        exact decide_eq_true hpk
    · refine h.goOn hclears id hofChat (fun hinc => ?_) ?_
      · rw [hnoinc] at hinc
        cases hinc
      · rw [hnoinc, hinc, SupportTables.unreadMessages_markMessagesRead, if_neg (Ne.symm hpk)]
        rfl
  · refine h.goOn_plain hclears id hplain ?_
    rw [hinc, SupportTables.unreadMessages_markMessagesRead]
    by_cases hpk : chat = pk
    · rw [if_pos hpk, hpk, hzero]
      rfl
    · rw [if_neg hpk]
      rfl

theorem accounted_incrementUnread (h : Accounted chat σ) {pk : Uuid} {now : Int}
    {rest : SupportCode Unit} (hq : σ.asks p = some (.incrementUnread pk now))
    (hplain : ∀ q ∈ rest.head, q.plain = true) :
    Accounted chat (σ.goOn p (σ.store.exec (.incrementUnread pk now)).2 (some rest)) := by
  have hclears : (σ.asks p).any (Statement.clears chat) = false := any_asks hq _
  refine h.goOn_plain hclears (isSome_find?_exec _) hplain ?_
  rw [hq, Option.any_some]
  by_cases hpk : chat = pk
  · subst hpk
    have hfound : (σ.store.chats.find? chat).isSome := by
      refine h.found p ?_
      rw [hq]
      exact decide_eq_true rfl
    rw [SupportTables.unreadByAdmin_incrementUnread_self hfound]
    change _ = σ.store.unreadByAdmin chat + σ.store.unreadMessages chat + _
    simp only [Statement.increments, decide_true, if_true]
    omega
  · rw [SupportTables.unreadByAdmin_incrementUnread_of_ne hpk]
    simp only [Statement.increments, decide_eq_false (Ne.symm hpk), Bool.false_eq_true, if_false]
    rfl

/-- The guard is what is needed when the counter is reset. -/
theorem accounted_clearUnread (h : Accounted chat σ) {pk : Uuid} {now : Int}
    {rest : SupportCode Unit} (hq : σ.asks p = some (.clearUnread pk now))
    (hplain : ∀ q ∈ rest.head, q.plain = true) (hguard : Settled chat σ (.statement p)) :
    Accounted chat (σ.goOn p (σ.store.exec (.clearUnread pk now)).2 (some rest)) := by
  have hinc : (σ.asks p).any (Statement.increments chat) = false := any_asks hq _
  have hrest : ((some rest : Option (SupportCode Unit)).bind Script.head).any
      (Statement.increments chat) = false := increments_of_plain hplain
  have hclears : (σ.asks p).any (Statement.clears chat) = decide (pk = chat) := any_asks hq _
  by_cases hpk : chat = pk
  · have hsettled : σ.store.unreadMessages chat = σ.asking (Statement.increments chat) :=
      hguard (hclears.trans (decide_eq_true hpk.symm))
    refine h.of_counted (isSome_find?_exec _) (ofChat_of_plain hplain) (fun hfound => ?_) ?_
    · rw [hrest] at hfound
      cases hfound
    · have hasking : (σ.goOn p (σ.store.exec (.clearUnread pk now)).2 (some rest)).asking
          (Statement.increments chat) = σ.asking (Statement.increments chat) := by
        have hgoOn := @State.asking_goOn _ _ _ _ _ _ σ p (σ.store.exec (.clearUnread pk now)).2
          (some rest) _ (Statement.increments chat)
        rw [hinc, hrest] at hgoOn
        exact hgoOn
      rw [hasking, SupportTables.unreadByAdmin_clearUnread, if_pos hpk, Nat.zero_add]
      exact Or.inr hsettled.symm
  · refine h.goOn_plain (hclears.trans (decide_eq_false (Ne.symm hpk))) (isSome_find?_exec _)
      hplain ?_
    rw [hinc, SupportTables.unreadByAdmin_clearUnread, if_neg hpk]
    rfl

theorem accounted_sent (h : Accounted chat σ) {q : Statement} {rest : SupportCode Unit}
    (hguard : Settled chat σ (.statement p)) (hq : σ.asks p = some q)
    (hnext : ChatNext q (σ.store.exec q).1 rest.head) :
    Accounted chat (σ.goOn p (σ.store.exec q).2 (some rest)) := by
  have hofChat : q.ofChat = true := h.ofChat p q hq
  cases q with
  | createMessage message => exact accounted_createMessage h hq hnext
  | markMessagesRead pk => exact accounted_markMessagesRead h hq hnext
  | incrementUnread pk now => exact accounted_incrementUnread h hq hnext
  | clearUnread pk now => exact accounted_clearUnread h hq hnext hguard
  | setRead pk => cases hofChat
  | setChat pk pk' => cases hofChat
  | saveMessage m => cases hofChat
  | deleteMessage pk => cases hofChat
  | _ => exact accounted_quiet h hq rfl hnext

omit [DecidableEq P] in
theorem accounted_idle {db : SupportTables} (h : db.Agrees chat) :
    Accounted chat (State.idle db : State SupportTables Statement Statement.Answer Error P) := by
  refine ⟨fun _ _ h => (nomatch h), fun _ h => (nomatch h), Or.inr ?_⟩
  rw [State.asking_idle]
  exact h

/-- Once every message and every read has finished, the counter of the chat is the number of
its unread messages. -/
theorem no_message_is_swallowed {db : SupportTables} (hagrees : db.Agrees chat)
    (hl : ((conversations P).restrict (Settled chat)).Leads (.idle db) σ)
    (hfinished : ∀ p, σ.script p = none) : σ.store.Agrees chat := by
  have haccounted : Accounted chat σ := by
    have hprogram (l : Stamp × ChatRequest) : (l.2.code l.1).Follows ChatNext :=
      (opens_chatRequest l.2).1
    refine invariant_of_follows hprogram (accounted_idle hagrees) ?_ ?_ ?_ hl
    · exact fun σ p l h _ hp => accounted_request h hp l
    · exact fun σ p result h hp => accounted_answered h hp
    · exact fun σ p q rest h hguard hq hnext => accounted_sent h hguard hq hnext
  have hnone : ∀ p, σ.asks p = none := fun p => asks_of_idle (hfinished p)
  rcases haccounted.counted with ⟨p, hp⟩ | hcounted
  · rw [hnone p] at hp
    cases hp
  · have hzero : σ.asking (Statement.increments chat) = 0 := by
      unfold State.asking
      rw [Finset.card_eq_zero, Finset.filter_eq_empty_iff]
      intro p _ hp
      rw [hnone p] at hp
      cases hp
    rw [hzero] at hcounted
    exact hcounted

end Interleaved

namespace Sample

/-- Chat 50 of client 1. -/
def chat : SupportChat where
  id := 50
  participantRole := .client
  client := some 1
  unreadByAdmin := 1
  updatedAt := 0

/-- A message that is not read. -/
def message : SupportMessage where
  id := 99
  chat := some 50
  senderRole := .client
  client := some 1
  message := "Salom"

def inbox : SupportTables where
  clients := opening.clients
  chats := ⟨[chat], by decide⟩
  messages := ⟨[message], by decide⟩

abbrev Sent := Concurrency.Autocommit.Event (Stamp × ChatRequest) Bool

/-- Process `true` reads the chat. -/
def reads : Sent := .request true ({ now := 1, chat := 60, message := 160 }, .list 50)

/-- Process `false` writes message 100. -/
def writes : Sent :=
  .request false
    ({ now := 2, chat := 61, message := 100 }, .wsMessage 50 (.participant .client 1) "Alo?")

def reader : Sent := .statement true

def writer : Sent := .statement false

/-- The events in turn, each of which meets the condition. -/
def conversation (guard : State SupportTables Statement Statement.Answer Error Bool → Sent → Prop)
    [∀ σ e, Decidable (guard σ e)] (es : List Sent) :
    Option (State SupportTables Statement Statement.Answer Error Bool) :=
  (State.idle inbox).run SupportTables.exec (fun l => l.2.code l.1) guard es

/-- The message is inserted after the counter is reset. -/
def inTime : List Sent :=
  [reads, writes, reader, writer, reader, reader, writer, writer, writer, writer, reader]

/-- The message is inserted and counted before the counter is reset. -/
def tooLate : List Sent :=
  [reads, writes, reader, reader, writer, writer, writer, writer, writer, reader, reader]

end Sample

theorem finished_of_isNone {σ : State SupportTables Statement Statement.Answer Error Bool}
    (h : ∀ p, (σ.script p).isNone) (p : Bool) : σ.script p = none :=
  Option.isNone_iff_eq_none.mp (h p)

theorem no_message_is_swallowed_sample :
    ∃ σ, Sample.conversation (Settled 50) Sample.inTime = some σ ∧
      σ.store.unreadMessages 50 = 1 ∧ σ.store.Agrees 50 := by
  have hrun : (Sample.conversation (Settled 50) Sample.inTime).any (fun σ =>
      (∀ p, (σ.script p).isNone) ∧ σ.store.unreadMessages 50 = 1) = true := by decide
  obtain ⟨σ, hσ, hdone⟩ := (Option.any_eq_true _ _).mp hrun
  obtain ⟨hfinished, hunread⟩ := of_decide_eq_true hdone
  have hstart : Sample.inbox.Agrees 50 := by decide
  have hleads : ((conversations Bool).restrict (Settled 50)).Leads (.idle Sample.inbox) σ :=
    leads_of_run .refl hσ
  exact ⟨σ, hσ, hunread,
    no_message_is_swallowed hstart hleads (finished_of_isNone hfinished)⟩

/-- A read that has marked the messages resets the counter over a message that came after. -/
theorem message_is_swallowed :
    ¬∀ (db : SupportTables) (σ : State SupportTables Statement Statement.Answer Error Bool)
      (chat : Uuid), db.Agrees chat → (conversations Bool).Leads (.idle db) σ →
      (∀ p, σ.script p = none) → σ.store.Agrees chat := by
  intro h
  have hrun : (Sample.conversation (fun _ _ => True) Sample.tooLate).any (fun σ =>
      (∀ p, (σ.script p).isNone) ∧ ¬σ.store.Agrees 50) = true := by decide
  obtain ⟨σ, hσ, hdone⟩ := (Option.any_eq_true _ _).mp hrun
  obtain ⟨hfinished, hdisagrees⟩ := of_decide_eq_true hdone
  have hstart : Sample.inbox.Agrees 50 := by decide
  have hleads : ((conversations Bool).restrict fun _ _ => True).Leads (.idle Sample.inbox) σ :=
    leads_of_run .refl hσ
  exact hdisagrees (h Sample.inbox σ 50 hstart hleads.of_restrict (finished_of_isNone hfinished))

/-- Requests one after the other are a conversation. -/
theorem conversation_of_oneByOne {P : Type} [DecidableEq P] [Nonempty P]
    {init : SupportTables → Prop} {db db' : SupportTables}
    (hl : (oneByOne SupportTables.exec (fun l : Stamp × ChatRequest => l.2.code l.1) init).Leads
      db db') : (conversations P).Leads (.idle db) (.idle db') :=
  leads_of_oneByOne hl

end Support

end Homex
