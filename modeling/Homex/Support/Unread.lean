import Homex.Support.Services

/-!
# The two notions of unread

What each statement does to the counter of a chat and to the number of its unread
messages. The services of the chats move both alike. The dashboard's requests about
a single message write its row only: the counter still agrees when the message is not
one that the counter counts, or is not one any less for the write.
-/

namespace Homex

namespace Support

open Relational Action Profiles Concurrency.Autocommit Script

/-! ### The statements -/

/-- A statement that leaves the messages, and the counters of the chats, as they are. -/
def Statement.quiet : Statement → Bool
  | .chat _ => true
  | .chatOf _ _ => true
  | .participant _ _ => true
  | .message _ => true
  | .createChat _ _ _ _ => true
  | .touch _ _ => true
  | _ => false

namespace SupportTables

variable {db : SupportTables} {pk pk' : Uuid} {now : Int} {message : SupportMessage}

theorem insertChat_cases (db : SupportTables) (pk : Uuid) (role : ParticipantRole) (user : Uuid)
    (now : Int) :
    db.insertChat pk role user now = (false, db) ∨
      ∃ t, db.chats.insert? (newChat pk role user now) = some t ∧
        db.insertChat pk role user now = (true, { db with chats := t }) := by
  unfold insertChat
  split
  · exact Or.inl rfl
  · cases hins : db.chats.insert? (newChat pk role user now) with
    | none => exact Or.inl rfl
    | some t => exact Or.inr ⟨t, rfl, rfl⟩

theorem insertMessage_cases (db : SupportTables) (message : SupportMessage) :
    db.insertMessage message = (false, db) ∨
      ∃ t, (∀ chat ∈ message.chat, (db.chats.find? chat).isSome) ∧
        db.messages.insert? message = some t ∧
        db.insertMessage message = (true, { db with messages := t }) := by
  unfold insertMessage
  split
  · next hchat =>
    cases hins : db.messages.insert? message with
    | none => exact Or.inl rfl
    | some t => exact Or.inr ⟨t, (Option.all_eq_true _ _).mp hchat, rfl, rfl⟩
  · exact Or.inl rfl

theorem unreadByAdmin_update (db : SupportTables) (pk pk' : Uuid)
    (set : SupportChat → SupportChat) (hset : ∀ chat, (set chat).id = chat.id) :
    ({ db with chats := db.chats.update pk set } : SupportTables).unreadByAdmin pk' =
      if pk' = pk then (db.chats.find? pk).elim 0 fun chat => (set chat).unreadByAdmin
      else db.unreadByAdmin pk' := by
  unfold unreadByAdmin
  change ((db.chats.update pk set).find? pk').elim 0 SupportChat.unreadByAdmin = _
  rw [Table.find?_update hset]
  by_cases hpk : pk' = pk
  · rw [if_pos hpk, if_pos hpk]
    cases db.chats.find? pk with
    | none => rfl
    | some chat => rfl
  · rw [if_neg hpk, if_neg hpk]

theorem unreadByAdmin_touch :
    (db.exec (.touch pk now)).2.unreadByAdmin pk' = db.unreadByAdmin pk' := by
  refine (unreadByAdmin_update db pk pk' (fun chat => { chat with updatedAt := now })
    fun _ => rfl).trans ?_
  by_cases hpk : pk' = pk
  · rw [if_pos hpk, hpk]
    rfl
  · rw [if_neg hpk]

theorem unreadByAdmin_clearUnread :
    (db.exec (.clearUnread pk now)).2.unreadByAdmin pk' =
      if pk' = pk then 0 else db.unreadByAdmin pk' := by
  refine (unreadByAdmin_update db pk pk'
    (fun chat => { chat with unreadByAdmin := 0, updatedAt := now }) fun _ => rfl).trans ?_
  by_cases hpk : pk' = pk
  · rw [if_pos hpk, if_pos hpk]
    cases db.chats.find? pk with
    | none => rfl
    | some chat => rfl
  · rw [if_neg hpk, if_neg hpk]

theorem unreadByAdmin_incrementUnread_of_ne (hpk : pk' ≠ pk) :
    (db.exec (.incrementUnread pk now)).2.unreadByAdmin pk' = db.unreadByAdmin pk' :=
  (unreadByAdmin_update db pk pk'
    (fun chat => { chat with unreadByAdmin := chat.unreadByAdmin + 1, updatedAt := now })
    fun _ => rfl).trans (if_neg hpk)

theorem unreadByAdmin_incrementUnread_self (hchat : (db.chats.find? pk).isSome) :
    (db.exec (.incrementUnread pk now)).2.unreadByAdmin pk = db.unreadByAdmin pk + 1 := by
  refine (unreadByAdmin_update db pk pk
    (fun chat => { chat with unreadByAdmin := chat.unreadByAdmin + 1, updatedAt := now })
    fun _ => rfl).trans ?_
  obtain ⟨chat, hfind⟩ := Option.isSome_iff_exists.mp hchat
  rw [if_pos rfl, unreadByAdmin, hfind]
  rfl

theorem unreadByAdmin_of_quiet {q : Statement} (hq : q.quiet = true) :
    (db.exec q).2.unreadByAdmin pk' = db.unreadByAdmin pk' := by
  cases q with
  | touch pk now => exact unreadByAdmin_touch
  | participant role pk =>
      cases role with
      | client => rfl
      | master => rfl
  | createChat pk role user now =>
      change (db.insertChat pk role user now).2.unreadByAdmin pk' = _
      rcases insertChat_cases db pk role user now with hexec | ⟨t, hins, hexec⟩
      · rw [hexec]
      · rw [hexec]
        unfold unreadByAdmin
        rw [Table.find?_insert? hins]
        by_cases hpk : key (newChat pk role user now) = pk'
        · rw [if_pos hpk, ← hpk, (Table.insert?_eq_some_iff.mp hins).1]
          cases role with
          | client => rfl
          | master => rfl
        · rw [if_neg hpk]
  | _ => first | rfl | cases hq

theorem unreadMessages_of_quiet {q : Statement} (hq : q.quiet = true) :
    (db.exec q).2.unreadMessages pk' = db.unreadMessages pk' := by
  cases q with
  | participant role pk =>
      cases role with
      | client => rfl
      | master => rfl
  | createChat pk role user now =>
      change (db.insertChat pk role user now).2.unreadMessages pk' = _
      rcases insertChat_cases db pk role user now with hexec | ⟨t, -, hexec⟩
      · rw [hexec]
      · rw [hexec]
        rfl
  | _ => first | rfl | cases hq

theorem unreadMessages_createMessage {t : Table SupportMessage}
    (hins : db.messages.insert? message = some t) :
    ({ db with messages := t } : SupportTables).unreadMessages pk =
      db.unreadMessages pk + if message.unreadIn pk then 1 else 0 :=
  Table.count_insert? hins _

theorem unreadIn_markRead (message : SupportMessage) (pk : Uuid) :
    message.markRead.unreadIn pk = false :=
  decide_eq_false fun h => Bool.noConfusion h.2.2

theorem unreadMessages_markMessagesRead :
    (db.exec (.markMessagesRead pk)).2.unreadMessages pk' =
      if pk' = pk then 0 else db.unreadMessages pk' := by
  have hset : ∀ m : SupportMessage, key m.markRead = key m := fun _ => rfl
  by_cases hpk : pk' = pk
  · rw [if_pos hpk, hpk]
    exact Table.count_updateWhere_self hset db.messages fun m _ => unreadIn_markRead m pk
  · rw [if_neg hpk]
    refine Table.count_updateWhere_of_eq hset db.messages fun m hm => ?_
    have hchat : m.chat = some pk := (of_decide_eq_true hm).1
    have hother : m.chat ≠ some pk' := fun h => hpk (Option.some.inj (h.symm.trans hchat))
    rw [SupportMessage.unreadIn, SupportMessage.unreadIn, decide_eq_decide]
    exact ⟨fun h => absurd h.1 hother, fun h => absurd h.1 hother⟩

/-- The two notions agree on every chat. -/
def Agreed (db : SupportTables) : Prop := ∀ chat, db.Agrees chat

theorem Agreed.of_quiet (h : db.Agreed) {q : Statement} (hq : q.quiet = true) :
    (db.exec q).2.Agreed := by
  intro chat
  unfold Agrees
  rw [unreadByAdmin_of_quiet hq, unreadMessages_of_quiet hq]
  exact h chat

end SupportTables

/-! ### The services -/

section Services

variable {db : SupportTables} {stamp : Stamp} {chat : SupportChat} {content : String}

section Rules

variable {α : Type} {Q : α → SupportTables → Prop} {E : SupportTables → Prop}

/-- One statement, and what the code does with its answer. -/
theorem ensures_execute (q : Statement) {f : q.Answer → SupportCode α}
    (h : Ensures Q E ((f (db.exec q).1).run SupportTables.exec) (db.exec q).2) :
    Ensures Q E ((execute q >>= f).run SupportTables.exec) db := h

variable {f : Bool → SupportCode α}

theorem ensures_createChat {pk : Uuid} {role : ParticipantRole} {user : Uuid} {now : Int}
    (hfail : Ensures Q E ((f false).run SupportTables.exec) db)
    (hok : ∀ t, (db.exec (.createChat pk role user now)).2 = { db with chats := t } →
      Ensures Q E ((f true).run SupportTables.exec) { db with chats := t }) :
    Ensures Q E ((execute (.createChat pk role user now) >>= f).run SupportTables.exec) db := by
  refine ensures_execute (.createChat pk role user now) ?_
  rcases db.insertChat_cases pk role user now with hins | ⟨t, -, hins⟩
  · rw [show db.exec (.createChat pk role user now) = (false, db) from hins]
    exact hfail
  · have hexec : db.exec (.createChat pk role user now) = (true, { db with chats := t }) := hins
    rw [hexec]
    exact hok t (congrArg Prod.snd hexec)

theorem ensures_createMessage {message : SupportMessage}
    (hfail : Ensures Q E ((f false).run SupportTables.exec) db)
    (hok : ∀ t, (∀ chat ∈ message.chat, (db.chats.find? chat).isSome) →
      db.messages.insert? message = some t →
      Ensures Q E ((f true).run SupportTables.exec) { db with messages := t }) :
    Ensures Q E ((execute (.createMessage message) >>= f).run SupportTables.exec) db := by
  refine ensures_execute (.createMessage message) ?_
  rcases db.insertMessage_cases message with hins | ⟨t, hchat, ht, hins⟩
  · rw [show db.exec (.createMessage message) = (false, db) from hins]
    exact hfail
  · rw [show db.exec (.createMessage message) = (true, { db with messages := t }) from hins]
    exact hok t hchat ht

end Rules

/-- The code leaves the two notions in agreement, whether it fails or not. -/
abbrev Agrees {α : Type} (code : SupportCode α) (db : SupportTables) : Prop :=
  Ensures (fun _ => SupportTables.Agreed) SupportTables.Agreed (code.run SupportTables.exec) db

theorem ensures_getOrCreateSupportChat (h : db.Agreed) (role : ParticipantRole) (user : Uuid) :
    Ensures (fun _ db' => db'.Agreed ∧ db'.messages = db.messages) SupportTables.Agreed
      ((getOrCreateSupportChat stamp role user).run SupportTables.exec) db := by
  unfold getOrCreateSupportChat
  refine ensures_execute (.chatOf role user) ?_
  cases (db.exec (.chatOf role user)).1 with
  | some chat => exact ensures_run_pure ⟨h, rfl⟩
  | none =>
      refine ensures_createChat ?_ fun t ht => ?_
      · exact ensures_execute (.chatOf role user) (ensures_run_found (fun _ _ => ⟨h, rfl⟩) h)
      · refine ensures_run_pure ⟨?_, rfl⟩
        rw [← ht]
        exact h.of_quiet rfl

theorem agrees_touchChat (h : db.Agreed) : Agrees (touchChat stamp chat false) db := by
  refine ensures_execute (.touch chat.id stamp.now) ?_
  have htouch : (db.exec (.touch chat.id stamp.now)).2.Agreed := h.of_quiet rfl
  exact ensures_run_bind (ensures_run_require (fun _ => htouch) htouch)

theorem unreadIn_supportMessage (sender : SupportUser) (pk : Uuid) :
    (supportMessage stamp chat content sender).unreadIn pk =
      (sender.isParticipant && decide (chat.id = pk)) := by
  cases sender with
  | admin id => simp [supportMessage, SupportMessage.unreadIn, SupportUser.isParticipant]
  | participant role id =>
      cases role with
      | client => simp [supportMessage, SupportMessage.unreadIn, SupportUser.isParticipant]
      | master => simp [supportMessage, SupportMessage.unreadIn, SupportUser.isParticipant]

theorem chat_supportMessage (sender : SupportUser) :
    (supportMessage stamp chat content sender).chat = some chat.id := by
  cases sender with
  | admin id => rfl
  | participant role id =>
      cases role with
      | client => rfl
      | master => rfl

theorem agrees_createSupportMessage (h : db.Agreed) (sender : SupportUser) :
    Agrees (createSupportMessage stamp chat sender content) db := by
  refine ensures_createMessage h fun t hchat hins => ?_
  have hcount : ∀ pk, ({ db with messages := t } : SupportTables).unreadMessages pk =
      db.unreadMessages pk + if sender.isParticipant && decide (chat.id = pk) then 1 else 0 := by
    intro pk
    rw [SupportTables.unreadMessages_createMessage hins, unreadIn_supportMessage]
  refine ensures_run_bind (ensures_run_require_of rfl ?_)
  cases sender with
  | admin id =>
      refine ensures_run_bind ((agrees_touchChat ?_).mono (fun _ _ _ h => h) fun _ h => h)
      intro pk
      exact (h pk).trans (hcount pk).symm
  | participant role id =>
      have hfound : (db.chats.find? chat.id).isSome :=
        hchat chat.id (chat_supportMessage (.participant role id))
      have hincrement : (({ db with messages := t } : SupportTables).exec
          (.incrementUnread chat.id stamp.now)).2.Agreed := by
        intro pk
        have hbefore : db.unreadByAdmin pk = db.unreadMessages pk := h pk
        refine Eq.trans ?_ (hcount pk).symm
        rw [← hbefore]
        by_cases hpk : pk = chat.id
        · subst hpk
          refine (SupportTables.unreadByAdmin_incrementUnread_self hfound).trans ?_
          simp [SupportUser.isParticipant, SupportTables.unreadByAdmin]
        · refine (SupportTables.unreadByAdmin_incrementUnread_of_ne hpk).trans ?_
          simp [Ne.symm hpk, SupportTables.unreadByAdmin]
      refine ensures_run_bind (ensures_execute (.incrementUnread chat.id stamp.now) ?_)
      refine ensures_execute (.chat chat.id) ?_
      exact ensures_run_found (fun _ _ => hincrement) hincrement

theorem agrees_markChatReadByAdmin (h : db.Agreed) :
    Agrees (markChatReadByAdmin stamp chat) db := by
  refine ensures_execute (.markMessagesRead chat.id) ?_
  have hcounter (pk : Uuid) :
      (db.exec (.markMessagesRead chat.id)).2.unreadByAdmin pk = db.unreadByAdmin pk := rfl
  have hothers (pk : Uuid) (hpk : pk ≠ chat.id) :
      (db.exec (.markMessagesRead chat.id)).2.Agrees pk := by
    unfold SupportTables.Agrees
    rw [hcounter, SupportTables.unreadMessages_markMessagesRead, if_neg hpk]
    exact h pk
  have hclear : ((db.exec (.markMessagesRead chat.id)).2.exec
      (.clearUnread chat.id stamp.now)).2.Agreed := by
    intro pk
    unfold SupportTables.Agrees
    rw [SupportTables.unreadByAdmin_clearUnread]
    by_cases hpk : pk = chat.id
    · rw [if_pos hpk]
      refine Eq.symm (SupportTables.unreadMessages_markMessagesRead.trans ?_)
      rw [if_pos hpk]
    · rw [if_neg hpk]
      exact hothers pk hpk
  refine ensures_run_ite (fun hnone => ensures_run_pure ?_) fun _ => ?_
  · intro pk
    by_cases hpk : pk = chat.id
    · have hzero : db.unreadMessages chat.id = 0 := hnone.2
      subst hpk
      refine (h chat.id).trans (hzero.trans ?_)
      exact (SupportTables.unreadMessages_markMessagesRead.trans (if_pos rfl)).symm
    · exact hothers pk hpk
  · refine ensures_execute (.clearUnread chat.id stamp.now) ?_
    exact ensures_run_bind (ensures_run_require (fun _ => hclear) hclear)

theorem agrees_markSupportThreadReadByAdmin (h : db.Agreed) (role : ParticipantRole)
    (participant : Uuid) : Agrees (markSupportThreadReadByAdmin stamp role participant) db := by
  refine ensures_execute (.chatOf role participant) ?_
  cases (db.exec (.chatOf role participant)).1 with
  | none => exact ensures_run_pure h
  | some chat => exact agrees_markChatReadByAdmin h

end Services

/-! ### The requests -/

section Requests

variable {db : SupportTables} {stamp : Stamp}

/-- The body of an answer is dropped. -/
theorem ensures_dropped {α : Type} {code : SupportCode α} {P E : SupportTables → Prop}
    (h : Ensures (fun _ => P) E (code.run SupportTables.exec) db) :
    Ensures (fun _ => P) E ((code >>= fun _ => pure ()).run SupportTables.exec) db :=
  ensures_run_bind (h.mono (fun _ _ _ h => ensures_run_pure h) fun _ h => h)

theorem agrees_chatRequest (h : db.Agreed) (request : ChatRequest) :
    Agrees (request.code stamp) db := by
  cases request with
  | post role user content =>
      refine ensures_dropped (ensures_run_bind ?_)
      refine (ensures_getOrCreateSupportChat h role user).mono ?_ fun _ h => h
      exact fun chat _ _ hchat => agrees_createSupportMessage hchat.1 _
  | wsMessage chat user content =>
      refine ensures_dropped (ensures_execute (.chat chat) (ensures_run_bind ?_))
      exact ensures_run_found (fun _ _ => agrees_createSupportMessage h user) h
  | list chat =>
      refine ensures_dropped (ensures_execute (.chat chat) (ensures_run_bind ?_))
      exact ensures_run_found (fun _ _ => agrees_markChatReadByAdmin h) h
  | connect chat =>
      refine ensures_dropped (ensures_execute (.chat chat) ?_)
      cases (db.exec (.chat chat)).1 with
      | none => exact ensures_run_pure h
      | some _ =>
          refine ensures_execute (.chat chat) (ensures_run_bind ?_)
          exact ensures_run_found (fun _ _ => agrees_markChatReadByAdmin h) h
  | thread client master =>
      refine ensures_dropped ?_
      cases client with
      | some client => exact agrees_markSupportThreadReadByAdmin h .client client
      | none =>
          cases master with
          | some master => exact agrees_markSupportThreadReadByAdmin h .master master
          | none => exact ensures_run_pure h

/-- The foreign keys that the payload names exist. -/
def MessagePatch.Valid (data : MessagePatch) (db : SupportTables) : Prop :=
  (∀ client ∈ data.client.join, (db.clients.find? client).isSome) ∧
    ∀ master ∈ data.master.join, (db.masters.find? master).isSome

theorem ensures_requireParticipant (role : ParticipantRole) (field : String)
    (pk? : Option Uuid) :
    Ensures (fun _ db' => db = db' ∧ ∀ pk ∈ pk?, (db.exec (.participant role pk)).1 = true)
      (fun db' => db = db' ∧ ¬∀ pk ∈ pk?, (db.exec (.participant role pk)).1 = true)
      ((requireParticipant role field pk?).run SupportTables.exec) db := by
  cases pk? with
  | none => exact ensures_run_pure ⟨rfl, fun _ h => nomatch h⟩
  | some pk =>
      have hsame : (db.exec (.participant role pk)).2 = db := by
        cases role with
        | client => rfl
        | master => rfl
      refine ensures_execute (.participant role pk) ?_
      rw [hsame]
      by_cases hknown : (db.exec (.participant role pk)).1 = true
      · refine ensures_run_require_of hknown ⟨rfl, fun pk' hpk' => ?_⟩
        rw [← Option.some.inj hpk']
        exact hknown
      · exact ensures_run_require (fun h => absurd h hknown) ⟨rfl, fun h => hknown (h pk rfl)⟩

theorem ensures_validate (data : MessagePatch) :
    Ensures (fun _ db' => db = db' ∧ data.Valid db) (fun db' => db = db' ∧ ¬data.Valid db)
      (data.validate.run SupportTables.exec) db := by
  refine ensures_run_bind
    ((ensures_requireParticipant .client "client" data.client.join).mono ?_ ?_)
  · rintro _ _ - ⟨rfl, hclient⟩
    refine (ensures_requireParticipant .master "master" data.master.join).mono ?_ ?_
    · rintro _ _ - ⟨rfl, hmaster⟩
      exact ⟨rfl, hclient, hmaster⟩
    · rintro _ ⟨rfl, hmaster⟩
      exact ⟨rfl, fun hvalid => hmaster hvalid.2⟩
  · rintro _ ⟨rfl, hclient⟩
    exact ⟨rfl, fun hvalid => hclient hvalid.1⟩

/-- An update of one message changes the counts of the chats by that message. -/
theorem unreadMessages_update {pk chat : Uuid} {m : SupportMessage}
    (hfind : db.messages.find? pk = some m) {set : SupportMessage → SupportMessage}
    (hset : (set m).id = m.id) :
    (({ db with messages := db.messages.update pk set } : SupportTables).unreadMessages chat +
        if m.unreadIn chat then 1 else 0) =
      db.unreadMessages chat + if (set m).unreadIn chat then 1 else 0 := by
  have hkey : key (set m) = pk := hset.trans (Table.key_of_find? hfind)
  rw [Table.update_of_find? hfind]
  exact Table.count_save (hkey.symm ▸ hfind) _

theorem unreadIn_adminMessage (admin : Uuid) (content : String) (data : MessagePatch)
    (chat : Uuid) : (adminMessage stamp admin content data).unreadIn chat = false :=
  decide_eq_false fun h => h.2.1 rfl

theorem agrees_dashboardPost (h : db.Agreed) (admin : Uuid) (content : String)
    (data : MessagePatch) :
    Agrees (DashboardSupportMessageListCreateAPIView.post stamp admin content data) db := by
  refine ensures_run_bind ((ensures_validate data).mono ?_ fun _ hinvalid => hinvalid.1 ▸ h)
  rintro _ _ - ⟨rfl, -⟩
  refine ensures_createMessage h fun t _ hins => ?_
  have hcreated : ({ db with messages := t } : SupportTables).Agreed := by
    intro chat
    refine (h chat).trans (Eq.symm ?_)
    rw [SupportTables.unreadMessages_createMessage hins, unreadIn_adminMessage,
      if_neg Bool.false_ne_true, Nat.add_zero]
  refine ensures_run_bind (ensures_run_require_of rfl ?_)
  cases (adminMessage stamp admin content data).participant with
  | none => exact ensures_run_pure hcreated
  | some participant =>
      refine ensures_run_bind ((ensures_getOrCreateSupportChat hcreated _ _).mono ?_ fun _ h => h)
      rintro chat db₂ - ⟨hdb₂, hmessages⟩
      have hfind : db₂.messages.find? (adminMessage stamp admin content data).id =
          some (adminMessage stamp admin content data) := by
        rw [hmessages]
        exact (Table.find?_insert? hins _).trans (if_pos rfl)
      have hset : (db₂.exec
          (.setChat (adminMessage stamp admin content data).id chat.id)).2.Agreed := by
        intro pk
        refine (hdb₂ pk).trans (Eq.symm ?_)
        have hcount := @unreadMessages_update db₂ _ pk _ hfind
          (fun m => { m with chat := some chat.id }) rfl
        have hcounted : ({ adminMessage stamp admin content data with
            chat := some chat.id } : SupportMessage).unreadIn pk = false :=
          decide_eq_false fun h => h.2.1 rfl
        rw [unreadIn_adminMessage, hcounted] at hcount
        exact hcount
      refine ensures_execute (.setChat _ chat.id) ?_
      refine ensures_run_bind (ensures_run_require (fun _ => ?_) hset)
      refine ensures_run_bind ((agrees_touchChat hset).mono ?_ fun _ h => h)
      exact fun _ _ _ h => ensures_run_pure h

/-- The request changes no message that a counter counts, into or out of the count. -/
def SupportRequest.Balanced (db : SupportTables) : SupportRequest → Prop
  | .dashboardRead pk =>
      ∀ m ∈ db.messages.find? pk, ∀ chat ∈ m.chat, m.unreadIn chat = false
  | .dashboardUpdate pk data =>
      data.Valid db → ∀ m ∈ db.messages.find? pk, ∀ chat ∈ m.chat,
        m.unreadIn chat = (data.apply m).unreadIn chat
  | .dashboardDestroy pk =>
      ∀ m ∈ db.messages.find? pk, ∀ chat ∈ m.chat, m.unreadIn chat = false
  | _ => True

/-- A write of one message keeps the agreement exactly when it is counted as before. -/
theorem agreed_iff_of_write (db' : SupportTables) (h : db.Agreed) {pk : Uuid}
    {m : SupportMessage} (hfind : db.messages.find? pk = some m)
    (hcounter : ∀ chat, db'.unreadByAdmin chat = db.unreadByAdmin chat)
    (after : SupportMessage → Uuid → Bool)
    (hcount : ∀ chat, (db'.unreadMessages chat + if m.unreadIn chat then 1 else 0) =
      db.unreadMessages chat + if after m chat then 1 else 0)
    (hafter : ∀ chat, m.chat ≠ some chat → after m chat = false) :
    db'.Agreed ↔
      ∀ m ∈ db.messages.find? pk, ∀ chat ∈ m.chat, m.unreadIn chat = after m chat := by
  have hchat (chat : Uuid) : db'.Agrees chat ↔ m.unreadIn chat = after m chat := by
    have hbefore : db.unreadByAdmin chat = db.unreadMessages chat := h chat
    have hshift := hcount chat
    unfold SupportTables.Agrees
    rw [hcounter, hbefore]
    grind
  rw [hfind]
  constructor
  · intro hagreed m' hm' chat _
    rw [← Option.some.inj hm']
    exact (hchat chat).mp (hagreed chat)
  · intro hall chat
    refine (hchat chat).mpr ?_
    by_cases hm : m.chat = some chat
    · exact hall m rfl chat hm
    · rw [hafter chat hm]
      exact decide_eq_false fun hunread => hm hunread.1

/-- The message of a detail view, and what the code does with it. -/
theorem ensures_getMessage {α : Type} {Q : α → SupportTables → Prop} {E : SupportTables → Prop}
    {pk : Uuid} {f : SupportMessage → SupportCode α} (hnone : db.messages.find? pk = none → E db)
    (hsome : ∀ m, db.messages.find? pk = some m →
      Ensures Q E ((f m).run SupportTables.exec) db) :
    Ensures Q E ((getMessage pk >>= f).run SupportTables.exec) db := by
  refine ensures_run_bind (ensures_execute (.message pk) ?_)
  change Ensures _ E ((found _ (db.messages.find? pk)).run SupportTables.exec) db
  cases hfind : db.messages.find? pk with
  | none => exact hnone hfind
  | some m => exact hsome m hfind

/-- A message that is not there: nothing is written, and there is nothing to balance. -/
theorem agreed_iff_of_none {B : SupportMessage → Prop} {pk : Uuid} (h : db.Agreed)
    (hnone : db.messages.find? pk = none) :
    db.Agreed ↔ ∀ m ∈ db.messages.find? pk, B m := by
  rw [hnone]
  exact ⟨fun _ _ hm => (nomatch hm), fun _ => h⟩

theorem ensures_dashboardRead (h : db.Agreed) (pk : Uuid) :
    Ensures (fun _ db' => db'.Agreed ↔ SupportRequest.Balanced db (.dashboardRead pk))
      (fun db' => db'.Agreed ↔ SupportRequest.Balanced db (.dashboardRead pk))
      ((DashboardSupportMessageReadAPIView.post pk).run SupportTables.exec) db := by
  refine ensures_getMessage (agreed_iff_of_none h) fun m hfind => ?_
  have hread : (db.exec (.setRead m.id)).2.Agreed ↔
      SupportRequest.Balanced db (.dashboardRead pk) := by
    refine agreed_iff_of_write (db.exec (.setRead m.id)).2 h hfind (fun _ => rfl)
      (fun _ _ => false) (fun chat => ?_)
      fun _ _ => rfl
    have hcount := @unreadMessages_update db pk chat m hfind SupportMessage.markRead rfl
    rw [SupportTables.unreadIn_markRead] at hcount
    rw [show m.id = pk from Table.key_of_find? hfind]
    exact hcount
  refine ensures_execute (.setRead m.id) ?_
  exact ensures_run_bind (ensures_run_require (fun _ => ensures_run_pure hread) hread)

theorem ensures_dashboardDestroy (h : db.Agreed) (pk : Uuid) :
    Ensures (fun _ db' => db'.Agreed ↔ SupportRequest.Balanced db (.dashboardDestroy pk))
      (fun db' => db'.Agreed ↔ SupportRequest.Balanced db (.dashboardDestroy pk))
      ((DashboardSupportMessageDetailAPIView.destroy pk).run SupportTables.exec) db := by
  refine ensures_getMessage (agreed_iff_of_none h) fun m hfind => ?_
  have hdelete : (db.exec (.deleteMessage m.id)).2.Agreed ↔
      SupportRequest.Balanced db (.dashboardDestroy pk) := by
    refine agreed_iff_of_write (db.exec (.deleteMessage m.id)).2 h hfind (fun _ => rfl)
      (fun _ _ => false) (fun chat => ?_)
      fun _ _ => rfl
    rw [show m.id = pk from Table.key_of_find? hfind]
    exact Table.count_delete hfind _
  exact ensures_execute (.deleteMessage m.id) (ensures_run_pure hdelete)

/-- A payload that is refused writes nothing. -/
theorem ensures_dashboardUpdate (h : db.Agreed) (pk : Uuid) (data : MessagePatch) :
    Ensures (fun _ db' => db'.Agreed ↔ SupportRequest.Balanced db (.dashboardUpdate pk data))
      (fun db' => db'.Agreed ↔ SupportRequest.Balanced db (.dashboardUpdate pk data))
      ((DashboardSupportMessageDetailAPIView.update pk data).run SupportTables.exec) db := by
  refine ensures_getMessage (fun hnone => ?_) fun m hfind => ?_
  · exact (agreed_iff_of_none h hnone).trans ⟨fun hb _ => hb, fun _ => by simp [hnone]⟩
  have hfind' : db.messages.find? (data.apply m).id = some m := by
    rw [show (data.apply m).id = pk from Table.key_of_find? hfind]
    exact hfind
  have hsave : (db.exec (.saveMessage (data.apply m))).2.Agreed ↔
      ∀ m ∈ db.messages.find? pk, ∀ chat ∈ m.chat,
        m.unreadIn chat = (data.apply m).unreadIn chat := by
    refine agreed_iff_of_write (db.exec (.saveMessage (data.apply m))).2 h hfind (fun _ => rfl)
      (fun m => (data.apply m).unreadIn)
      (fun chat => ?_) fun chat hchat => ?_
    · exact Table.count_save hfind' _
    · exact decide_eq_false fun hunread => hchat hunread.1
  refine ensures_run_bind ((ensures_validate data).mono ?_ ?_)
  · rintro _ _ - ⟨rfl, hvalid⟩
    refine ensures_execute (.saveMessage (data.apply m)) (ensures_run_ite (fun _ => ?_) ?_)
    · exact ensures_run_pure (hsave.trans ⟨fun hb _ => hb, fun hb => hb hvalid⟩)
    · intro hrows
      have hone : (db.exec (.saveMessage (data.apply m))).1 = 1 := by
        change Statement.rows (db.messages.find? (data.apply m).id) = 1
        rw [hfind']
        rfl
      exact absurd (hone.trans_ne one_ne_zero) hrows
  · rintro _ ⟨rfl, hinvalid⟩
    exact iff_of_true h fun hvalid => absurd hvalid hinvalid

/-- The tables after a request on its own agree exactly when it is balanced. -/
theorem agreed_iff_balanced (h : db.Agreed) (request : SupportRequest) :
    ((request.code stamp).run SupportTables.exec db).2.Agreed ↔ request.Balanced db := by
  cases request with
  | chat request => exact iff_of_true (agrees_chatRequest h request).store trivial
  | dashboardPost admin content data =>
      exact iff_of_true (ensures_dropped (agrees_dashboardPost h admin content data)).store trivial
  | dashboardRead pk => exact (ensures_dropped (ensures_dashboardRead h pk)).store
  | dashboardUpdate pk data => exact (ensures_dropped (ensures_dashboardUpdate h pk data)).store
  | dashboardDestroy pk => exact (ensures_dashboardDestroy h pk).store

end Requests

theorem SupportTables.agreed_empty (opening : SupportTables) :
    ({ opening with chats := .empty, messages := .empty } : SupportTables).Agreed := fun _ => rfl

/-- After support requests one after the other, each of them balanced, the counter of a
chat is the number of its unread messages. -/
theorem unread_by_admin_counts {opening db : SupportTables}
    (h : ((supportDesk opening).restrict fun db l => l.2.Balanced db).Reachable db) :
    ∀ chat ∈ db.chats.rows, chat.unreadByAdmin = db.unreadMessages chat.id := by
  have hagreed : db.Agreed := by
    refine Transition.System.Reachable.invariant_of_guard ?_ ?_ h
    · rintro db rfl
      exact opening.agreed_empty
    · rintro db l _ - hdb hbalanced rfl
      exact (agreed_iff_balanced hdb l.2).mpr hbalanced
  intro chat hchat
  have hfind : db.chats.find? chat.id = some chat := Table.find?_of_mem hchat
  have hagrees : db.unreadByAdmin chat.id = db.unreadMessages chat.id := hagreed chat.id
  rw [← hagrees, SupportTables.unreadByAdmin, hfind]
  rfl

namespace Sample

/-- One client, no chat. -/
def opening : SupportTables where
  clients := ⟨[{ id := 1, phone := "+998901234567" }], by decide⟩

/-- The client writes message 100, which opens chat 50. -/
def hello : Stamp × SupportRequest :=
  ({ now := 1, chat := 50, message := 100 }, .chat (.post .client 1 "Salom"))

/-- The dashboard marks message 100 as read. -/
def readHello : Stamp × SupportRequest :=
  ({ now := 2, chat := 51, message := 101 }, .dashboardRead 100)

/-- The staff opens the chat. -/
def openChat : Stamp × SupportRequest :=
  ({ now := 3, chat := 52, message := 102 }, .chat (.list 50))

/-- The client writes message 103 into the chat. -/
def again : Stamp × SupportRequest :=
  ({ now := 4, chat := 53, message := 103 }, .chat (.post .client 1 "Alo?"))

/-- The tables after some requests. -/
def after (ls : List (Stamp × SupportRequest)) : SupportTables :=
  ls.foldl (fun db l => ((l.2.code l.1).run SupportTables.exec db).2)
    { opening with chats := .empty, messages := .empty }

/-- The staff reads the first message twice; the second one is unread. -/
def chatted : SupportTables := after [hello, openChat, readHello, again]

end Sample

theorem unread_by_admin_counts_sample :
    Sample.chatted.unreadMessages 50 = 1 ∧
      ∀ chat ∈ Sample.chatted.chats.rows,
        chat.unreadByAdmin = Sample.chatted.unreadMessages chat.id := by
  have hread : Sample.readHello.2.Balanced (Sample.after [Sample.hello, Sample.openChat]) :=
    show ∀ m ∈ (Sample.after [Sample.hello, Sample.openChat]).messages.find? 100,
      ∀ chat ∈ m.chat, m.unreadIn chat = false from by decide
  have hstart : ((supportDesk Sample.opening).restrict fun db l => l.2.Balanced db).Reachable
      (Sample.after [Sample.hello, Sample.openChat]) :=
    .step (l := Sample.openChat) (.step (l := Sample.hello) (.init rfl) ⟨trivial, rfl⟩)
      ⟨trivial, rfl⟩
  have hreach : ((supportDesk Sample.opening).restrict fun db l => l.2.Balanced db).Reachable
      Sample.chatted :=
    .step (l := Sample.again) (.step (l := Sample.readHello) hstart ⟨hread, rfl⟩) ⟨trivial, rfl⟩
  exact ⟨by decide, unread_by_admin_counts hreach⟩

/-- A single message marked as read in the dashboard stays in the counter. -/
theorem unread_by_admin_drifts :
    ¬∀ opening db : SupportTables, (supportDesk opening).Reachable db →
      ∀ chat ∈ db.chats.rows, chat.unreadByAdmin = db.unreadMessages chat.id := by
  intro h
  have hreach : (supportDesk Sample.opening).Reachable
      (Sample.after [Sample.hello, Sample.readHello]) :=
    .step (l := Sample.readHello) (.step (l := Sample.hello) (.init rfl) rfl) rfl
  exact absurd (h _ _ hreach) (by decide)

end Support

end Homex
