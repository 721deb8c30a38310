import Homex.Realtime.Audience

/-!
# What a socket can show

The invariant of the server: a channel is in the group of its socket and in no other, and
what waits for a socket or is shown by it is about the topic of the socket. It carries the
two results: a user is shown nothing that is not theirs, and no consumer is ended by a
message that it cannot handle.
-/

namespace Homex

namespace Realtime

open Relational Orders Support Concurrency.Groups Transition

/-! ### Messages of the steps -/

section Sends

variable {past : Data → Prop} {geo : Geo}

theorem orderId_refreshOrders {ping : Ping} (l : List Order) (t : TrackingTables) :
    ∀ update ∈ (refreshOrders geo ping l t).2, update.2.orderId = update.1.id := by
  induction l generalizing t with
  | nil => exact fun update h => nomatch h
  | cons order l ih =>
      intro update hupdate
      rcases List.mem_cons.mp hupdate with rfl | hupdate
      · rfl
      · exact ih _ update hupdate

theorem carried_updates {l : List (Order × TrackingPayload)}
    (hl : ∀ update ∈ l, update.2.orderId = update.1.id) :
    ∀ sent ∈ (l.map fun update => (update.1.id, update.2)).map broadcastTracking,
      Carried past sent.1 sent.2 := by
  intro sent hsent
  rw [List.map_map] at hsent
  obtain ⟨update, hupdate, rfl⟩ := List.mem_map.mp hsent
  exact hl update hupdate

theorem carried_persist {now : Int} {master : Uuid} {ping : Ping} {t t' : TrackingTables}
    {saved : Saved} (h : persistMasterLocation geo now master ping t = (.ok (some saved), t')) :
    ∀ sent ∈ saved.broadcasts.map broadcastTracking, Carried past sent.1 sent.2 := by
  unfold persistMasterLocation at h
  split at h
  · dsimp only at h
    split at h
    · cases (Prod.mk.inj h).1
    · obtain ⟨hsaved, -⟩ := Prod.mk.inj h
      rw [← Option.some.inj (Except.ok.inj hsaved)]
      exact carried_updates (orderId_refreshOrders _ _)
    · obtain ⟨hsaved, -⟩ := Prod.mk.inj h
      rw [← Option.some.inj (Except.ok.inj hsaved)]
      exact carried_updates (orderId_refreshOrders _ _)
  · cases (Prod.mk.inj h).1

theorem ledOrder_of_concerned {d : Data} (hd : past d) {master : Uuid} {orderId : Option Uuid}
    {o : Order} (ho : o ∈ d.concerned master orderId) : LedOrder past master o.id := by
  obtain ⟨hfind, hmaster, -⟩ := mem_concerned.mp ho
  exact ⟨d, hd, o, Table.mem_of_find? hfind, rfl, hmaster⟩

theorem length_concerned_le (t : TrackingTables) (master : Uuid) (orderId : Option Uuid) :
    (t.concerned master orderId).length ≤ t.orders.count fun o => o.master = some master := by
  refine List.Nodup.length_le_of_subset ?_ fun o ho => ?_
  · exact (nodup_concerned t master orderId).of_map _
  · obtain ⟨hfind, hmaster, -⟩ := mem_concerned.mp ho
    exact List.mem_filter.mpr ⟨Table.mem_of_find? hfind, decide_eq_true hmaster⟩

/-- The answer to a location is about the orders of the master. -/
theorem acknowledges_persist {d : Data} (hd : past d) {now : Int} {master : Uuid} {ping : Ping}
    {t' : TrackingTables} {saved : Saved}
    (h : persistMasterLocation geo now master ping d.toTrackingTables = (.ok (some saved), t')) :
    Acknowledges past master saved.ack := by
  obtain ⟨shown, hupdates⟩ : ∃ shown : Order → TrackingPayload, (∀ o, (shown o).orderId = o.id) ∧
      (refreshMasterOrderTracking geo master ping
        (d.saveLocation now master ping true none)).2 =
      (d.concerned master ping.orderId).map fun o => (o, shown o) := by
    rw [refreshMasterOrderTracking, concerned_saveLocation]
    exact ⟨_, fun _ => rfl, updates_refreshOrders (nodup_concerned _ _ _) _⟩
  obtain ⟨hshown, hupdates⟩ := hupdates
  unfold persistMasterLocation at h
  split at h
  · dsimp only at h
    rw [hupdates] at h
    split at h
    · cases (Prod.mk.inj h).1
    · next update _ _ hcons =>
        obtain ⟨hsaved, -⟩ := Prod.mk.inj h
        rw [← Option.some.inj (Except.ok.inj hsaved)]
        obtain ⟨o, ho, rfl⟩ := List.mem_map.mp (hcons ▸ List.mem_cons_self)
        change LedOrder past master (shown o).orderId
        rw [hshown]
        exact ledOrder_of_concerned hd ho
    · obtain ⟨hsaved, -⟩ := Prod.mk.inj h
      rw [← Option.some.inj (Except.ok.inj hsaved)]
      refine ⟨d, hd, ?_⟩
      rw [List.length_map]
      exact length_concerned_le _ _ _
  · cases (Prod.mk.inj h).1

theorem carried_post {now : Int} {user : Uuid} {ping : Ping} {isOnline isAvailable : Bool}
    {t : TrackingTables} :
    ∀ sent ∈ ((MasterLocationUpdateView.post geo now user ping isOnline isAvailable
        t).1.toOption.elim [] LocationResponse.broadcasts).map broadcastTracking,
      Carried past sent.1 sent.2 := by
  unfold MasterLocationUpdateView.post
  dsimp only
  split
  · intro sent hsent
    cases hsent
  · exact carried_updates (orderId_refreshOrders _ _)

theorem carried_markRead {now : Int} {chat : SupportChat} {d : Data} (hd : past d)
    (hchat : chat ∈ d.support.chats.rows) :
    ∀ sent ∈ (markRead now chat d).1, Carried past sent.1 sent.2 := by
  intro sent hsent
  unfold markRead at hsent
  dsimp only at hsent
  split at hsent
  · cases hsent
  · rcases List.mem_append.mp hsent with hsent | hsent
    · split at hsent
      · cases hsent
      · refine carried_receipt hd hchat ?_ (fun role => ?_) sent hsent
        · rfl
        · cases role <;> rfl
    · exact carried_admin _ sent hsent

theorem shown_history {s : Socket} {d d' : Data} {chatId : Uuid} {chat : SupportChat}
    (hs : s.chat = some chatId) (hfind : d.support.chats.find? chatId = some chat) :
    Shown past s (serializeHistory d' chat.id) := by
  rw [show chat.id = chatId from Table.key_of_find? hfind]
  exact ⟨hs, fun message hmessage => of_decide_eq_true (List.mem_filter.mp hmessage).2⟩

theorem orderId_snapshot {user order : Uuid} {t : TrackingTables} {payload : TrackingPayload}
    (h : (t.clientTrackingSnapshot geo user order).1 = some payload) :
    payload.orderId = order := by
  unfold TrackingTables.clientTrackingSnapshot at h
  split at h
  · cases h
  · next o ho =>
      rw [← Option.some.inj h]
      exact Table.key_of_find? (Option.filter_eq_some_iff.mp ho).1

/-- The first frames are about the topic, and so is what is sent with them. -/
theorem greeting_sound {now : Int} {s : Socket} {d : Data} (hd : past d) {greeting : Greeting}
    (h : s.greeting geo now d = some greeting) :
    (∀ frame ∈ greeting.1, Shown past s frame) ∧
      ∀ sent ∈ greeting.2.1, Carried past sent.1 sent.2 := by
  have hempty : ∀ sent ∈ ([] : List (Topic × Message)), Carried past sent.1 sent.2 :=
    fun sent hsent => nomatch hsent
  unfold Socket.greeting at h
  split at h
  · next orderId id hendpoint _ =>
      cases h
      refine ⟨fun frame hframe => ?_, hempty⟩
      obtain ⟨payload, hpayload, rfl⟩ := List.mem_map.mp hframe
      change s.endpoint = .clientTracking payload.orderId
      rw [hendpoint, orderId_snapshot (Option.mem_toList.mp hpayload)]
  · next chatId _ hs =>
      obtain ⟨chat, hfind, rfl⟩ := Option.map_eq_some_iff.mp h
      exact ⟨List.forall_mem_singleton.mpr (shown_history hs hfind), hempty⟩
  · next chatId _ hs =>
      obtain ⟨chat, hfind, rfl⟩ := Option.map_eq_some_iff.mp h
      exact ⟨List.forall_mem_singleton.mpr (shown_history hs hfind), hempty⟩
  · next chatId _ hs =>
      obtain ⟨chat, hfind, rfl⟩ := Option.map_eq_some_iff.mp h
      exact ⟨List.forall_mem_singleton.mpr (shown_history hs hfind),
        carried_markRead hd (Table.mem_of_find? hfind)⟩
  · cases h
    exact ⟨fun frame hframe => (nomatch hframe), hempty⟩

end Sends

/-! ### The invariant -/

section Invariant

variable {C : Type} {past : Data → Prop} {geo : Geo} {σ σ' : Server C} {c : C} {s s' : Socket}

/-- What waits for a socket, or is shown by it, is about its topic; a channel is in the group
of its socket and in no other. -/
structure Sound (past : Data → Prop) (σ : Server C) : Prop where
  member : ∀ g c, (g, c) ∈ σ.layer.members → ∃ s, σ.sockets c = some s ∧ g = s.topic.name
  inbox : ∀ c, ∀ message ∈ σ.layer.inbox c,
    ∃ s, σ.sockets c = some s ∧ Carried past s.topic message
  outgoing : ∀ sent ∈ σ.outgoing, Carried past sent.1 sent.2
  socket : ∀ c s, σ.sockets c = some s →
    Entitled past s ∧ s.topic.IsUuid ∧ ∀ frame ∈ s.frames, Shown past s frame
  crashed : σ.crashed = []

namespace Sound

theorem init (d : Data) : Sound past ({ data := d } : Server C) where
  member _ _ h := nomatch h
  inbox _ _ h := nomatch h
  outgoing _ h := nomatch h
  socket _ _ h := nomatch h
  crashed := rfl

theorem mono {past' : Data → Prop} (hpast : ∀ d, past d → past' d) (h : Sound past σ) :
    Sound past' σ where
  member := h.member
  inbox c message hmessage := by
    obtain ⟨s, hs, hcarried⟩ := h.inbox c message hmessage
    exact ⟨s, hs, hcarried.mono hpast⟩
  outgoing sent hsent := (h.outgoing sent hsent).mono hpast
  socket c s hs := by
    obtain ⟨hentitled, huuid, hshown⟩ := h.socket c s hs
    exact ⟨hentitled.mono hpast, huuid, fun frame hframe => (hshown frame hframe).mono hpast⟩
  crashed := h.crashed

/-- The tables, and what was lost or closed, do not matter. -/
theorem congr (h : Sound past σ) (hsockets : σ'.sockets = σ.sockets) (hlayer : σ'.layer = σ.layer)
    (houtgoing : σ'.outgoing = σ.outgoing) (hcrashed : σ'.crashed = σ.crashed) :
    Sound past σ' := by
  constructor
  · rw [hsockets, hlayer]
    exact h.member
  · rw [hsockets, hlayer]
    exact h.inbox
  · rw [houtgoing]
    exact h.outgoing
  · rw [hsockets]
    exact h.socket
  · rw [hcrashed]
    exact h.crashed

theorem queue (h : Sound past σ) {d : Data} {l : List (Topic × Message)}
    (hl : ∀ sent ∈ l, Carried past sent.1 sent.2) :
    Sound past { σ with data := d, outgoing := σ.outgoing ++ l } where
  member := h.member
  inbox := h.inbox
  outgoing sent hsent := (List.mem_append.mp hsent).elim (h.outgoing sent) (hl sent)
  socket := h.socket
  crashed := h.crashed

/-- The group of the topic is joined. -/
theorem groupAdd (h : Sound past σ) (hs : σ.sockets c = some s) :
    Sound past { σ with layer := σ.layer.groupAdd s.topic.name c } where
  member g c' hmem := by
    rcases Layer.mem_groupAdd.mp hmem with heq | hmem
    · obtain ⟨rfl, rfl⟩ := Prod.mk.inj heq
      exact ⟨s, hs, rfl⟩
    · exact h.member g c' hmem
  inbox := h.inbox
  outgoing := h.outgoing
  socket := h.socket
  crashed := h.crashed

variable [DecidableEq C]

/-- A socket is new, or keeps its topic. -/
theorem setSocket (h : Sound past σ) (hs : ∀ s₀, σ.sockets c = some s₀ → s₀.topic = s.topic)
    (hentitled : Entitled past s) (huuid : s.topic.IsUuid)
    (hshown : ∀ frame ∈ s.frames, Shown past s frame) : Sound past (σ.setSocket c s) where
  member g c' hmem := by
    obtain ⟨s₀, hs₀, rfl⟩ := h.member g c' hmem
    rw [Server.sockets_setSocket]
    split
    · next hc => exact ⟨s, rfl, by rw [hs s₀ (hc ▸ hs₀)]⟩
    · exact ⟨s₀, hs₀, rfl⟩
  inbox c' message hmessage := by
    obtain ⟨s₀, hs₀, hcarried⟩ := h.inbox c' message hmessage
    rw [Server.sockets_setSocket]
    split
    · next hc => exact ⟨s, rfl, hs s₀ (hc ▸ hs₀) ▸ hcarried⟩
    · exact ⟨s₀, hs₀, hcarried⟩
  outgoing := h.outgoing
  socket c' s' hs' := by
    rw [Server.sockets_setSocket] at hs'
    split at hs'
    · rw [← Option.some.inj hs']
      exact ⟨hentitled, huuid, hshown⟩
    · exact h.socket c' s' hs'
  crashed := h.crashed

theorem close (h : Sound past σ) (hs : σ.sockets c = some s) : Sound past (σ.close c s) where
  member g c' hmem := by
    obtain ⟨hmem, hne⟩ := Layer.mem_close.mp hmem
    obtain ⟨s₀, hs₀, rfl⟩ := h.member g c' hmem
    have hc : c' ≠ c := by
      rintro rfl
      rw [hs] at hs₀
      rw [Option.some.inj hs₀] at hne
      exact hne rfl
    rw [Server.sockets_close, if_neg hc]
    exact ⟨s₀, hs₀, rfl⟩
  inbox c' message hmessage := by
    obtain ⟨hc, hmessage⟩ := Layer.mem_inbox_close.mp hmessage
    rw [Server.sockets_close, if_neg hc]
    exact h.inbox c' message hmessage
  outgoing := h.outgoing
  socket c' s' hs' := by
    rw [Server.sockets_close] at hs'
    split at hs'
    · cases hs'
    · exact h.socket c' s' hs'
  crashed := h.crashed

/-- A frame more. -/
theorem shows (h : Sound past σ) (hs : σ.sockets c = some s) {frame : Frame}
    (hframe : Shown past s frame) : Sound past (σ.setSocket c (s.show frame)) := by
  obtain ⟨hentitled, huuid, hshown⟩ := h.socket c s hs
  have hsame : ∀ frame', Shown past s frame' → Shown past (s.show frame) frame' := by
    intro frame' h'
    cases frame' <;> exact h'
  refine h.setSocket (fun s₀ hs₀ => ?_) (by exact hentitled) huuid fun frame' hframe' => ?_
  · rw [hs] at hs₀
    rw [← Option.some.inj hs₀]
    rfl
  · rcases List.mem_append.mp hframe' with hframe' | hframe'
    · exact hsame frame' (hshown frame' hframe')
    · rw [List.mem_singleton.mp hframe']
      exact hsame frame hframe

/-- The name of a group stands for one topic, so that a message reaches its topic only. -/
theorem send (h : Sound past σ) {topic : Topic} {message : Message} {i : Nat} {drops : List C}
    {lost : List (C × Message)} (htopic : topic.IsUuid)
    (hsent : σ.outgoing[i]? = some (topic, message)) :
    Sound past
      { σ with
        outgoing := σ.outgoing.eraseIdx i
        layer := σ.layer.groupSend topic.name message drops
        lost := lost } where
  member := h.member
  inbox c message' hmessage := by
    rcases Layer.mem_inbox_groupSend.mp hmessage with hmessage | ⟨rfl, hmem, -⟩
    · exact h.inbox c message' hmessage
    · obtain ⟨s, hs, hname⟩ := h.member _ c hmem
      have heq : topic = s.topic := Topic.name_injOn htopic (h.socket c s hs).2.1 hname
      exact ⟨s, hs, heq ▸ h.outgoing _ (List.mem_of_getElem? hsent)⟩
  outgoing sent hmem := h.outgoing sent (List.mem_of_mem_eraseIdx hmem)
  socket := h.socket
  crashed := h.crashed

theorem take (h : Sound past σ) : Sound past { σ with layer := σ.layer.take c } where
  member := h.member
  inbox c' message hmessage := h.inbox c' message (Layer.mem_inbox_of_take hmessage)
  outgoing := h.outgoing
  socket := h.socket
  crashed := h.crashed

theorem locate (h : Sound past σ) (hd : past σ.data) (hs : σ.sockets c = some s)
    (hendpoint : s.endpoint = .masterTracking) {master : Uuid}
    (huser : s.user = .participant .master master) (now : Int) (ping : Ping) :
    Sound past (σ.locate geo c s now master ping) := by
  unfold Server.locate
  generalize hresult : persistMasterLocation geo now master ping σ.data.toTrackingTables = result
  obtain ⟨result, t⟩ := result
  have hdata : Sound past { σ with data := { σ.data with toTrackingTables := t } } :=
    h.congr rfl rfl rfl rfl
  match result with
  | .error _ => exact hdata.close hs
  | .ok none => exact hdata.shows hs trivial
  | .ok (some saved) =>
      exact (h.queue (carried_persist hresult)).shows hs
        ⟨hendpoint, master, huser, acknowledges_persist hd hresult⟩

omit [DecidableEq C] in
/-- A socket with a chat is in the group of a participant who has had the chat. -/
theorem support_of_entitled (h : Entitled past s) {chatId : Uuid} (hchat : s.chat = some chatId) :
    ∃ role user, s.topic = .support role user ∧ HadChat past role user chatId := by
  obtain ⟨endpoint, user, topic, chat, phase, frames⟩ := s
  obtain rfl : chat = some chatId := hchat
  cases endpoint with
  | masterSupport =>
      obtain ⟨id, _, -, htopic, hchat, hhad⟩ := h
      exact ⟨.master, id, htopic, Option.some.inj hchat ▸ hhad⟩
  | clientSupport =>
      obtain ⟨id, _, -, htopic, hchat, hhad⟩ := h
      exact ⟨.client, id, htopic, Option.some.inj hchat ▸ hhad⟩
  | adminSupportChat _ =>
      obtain ⟨-, hchat, role, id, htopic, hhad⟩ := h
      exact ⟨role, id, htopic, Option.some.inj hchat ▸ hhad⟩
  | _ => exact nomatch h.1

theorem say (h : Sound past σ) (hs : σ.sockets c = some s) {chatId : Uuid}
    (hchat : s.chat = some chatId) (stamp : Stamp) (content : String) :
    Sound past (σ.say c s chatId stamp content) := by
  unfold Server.say
  split
  · exact h.shows hs trivial
  · split
    · exact h.close hs
    · next chat hfind =>
        dsimp only
        split
        · exact h.close hs
        · next unread d _ =>
            refine h.queue fun sent hsent => ?_
            rcases List.mem_cons.mp hsent with rfl | hsent
            · obtain ⟨role, user, htopic, hhad⟩ := support_of_entitled (h.socket c s hs).1 hchat
              dsimp only
              rw [htopic]
              refine ⟨chatId, ?_, hhad⟩
              rw [chat_supportMessage, show chat.id = chatId from Table.key_of_find? hfind]
              rfl
            · rw [List.mem_singleton.mp hsent]
              trivial

/-- Every step keeps the invariant. -/
theorem step (h : Sound past σ) (hd : past σ.data) (hd' : past σ'.data) {event : Event C}
    (hid : Identified σ event) (hstep : σ.step geo event = some σ') : Sound past σ' := by
  cases event with
  | request d =>
      cases hstep
      exact h.congr rfl rfl rfl rfl
  | broadcast call =>
      cases hstep
      exact h.queue (carried_of_sends hd call)
  | location now user ping isOnline isAvailable =>
      cases hstep
      exact h.queue carried_post
  | connect c endpoint user pk now =>
      rw [Server.step] at hstep
      split at hstep
      · cases hstep
      · next hnew =>
          rw [not_or, Option.not_isSome_iff_eq_none] at hnew
          split at hstep
          · cases hstep
            exact h.congr rfl rfl rfl rfl
          · next topic chat d hopen =>
              cases hstep
              have hdata : Sound past { σ with data := d } := h.congr rfl rfl rfl rfl
              refine hdata.setSocket (fun s₀ hs₀ => ?_) (entitled_open hd hd' hopen)
                (hid topic (by rw [Event.topic, hopen]; rfl)) fun frame hframe => (nomatch hframe)
              rw [hnew.1] at hs₀
              cases hs₀
  | join c =>
      rw [Server.step] at hstep
      split at hstep
      · cases hstep
      · next s hs =>
          split at hstep
          · cases hstep
            obtain ⟨hentitled, huuid, hshown⟩ := h.socket c s hs
            refine (h.groupAdd hs).setSocket (fun s₀ hs₀ => ?_) hentitled huuid hshown
            rw [← Option.some.inj (hs.symm.trans hs₀)]
          · cases hstep
  | greet c now =>
      rw [Server.step] at hstep
      split at hstep
      · cases hstep
      · next s hs =>
          split at hstep
          · split at hstep
            · cases hstep
              exact h.close hs
            · next frames sends d hgreeting =>
                cases hstep
                obtain ⟨hentitled, huuid, -⟩ := h.socket c s hs
                obtain ⟨hshown, hsends⟩ := greeting_sound hd hgreeting
                refine (h.queue hsends).setSocket (fun s₀ hs₀ => ?_) hentitled huuid hshown
                rw [← Option.some.inj (hs.symm.trans hs₀)]
          · cases hstep
  | disconnect c =>
      obtain ⟨s, hs, rfl⟩ := Option.map_eq_some_iff.mp hstep
      exact h.close hs
  | locate c now ping =>
      rw [Server.step] at hstep
      split at hstep
      · next s hs =>
          split at hstep
          · next id _ hendpoint huser =>
              cases hstep
              exact h.locate hd hs hendpoint huser now ping
          · cases hstep
      · cases hstep
  | say c stamp content =>
      rw [Server.step] at hstep
      split at hstep
      · next s hs =>
          split at hstep
          · next chatId _ hchat =>
              cases hstep
              exact h.say hs hchat stamp content
          · cases hstep
      · cases hstep
  | flush i drops =>
      obtain ⟨⟨topic, message⟩, hsent, rfl⟩ := Option.map_eq_some_iff.mp hstep
      exact h.send (hid topic (by rw [Event.topic, hsent]; rfl)) hsent
  | dispatch c =>
      rw [Server.step] at hstep
      split at hstep
      · next s message hs hhead =>
          obtain ⟨s₀, hs₀, hcarried⟩ := h.inbox c message (List.mem_of_mem_head? hhead)
          obtain rfl := Option.some.inj (hs.symm.trans hs₀)
          have hdispatch := dispatch_of_carried (h.socket c s hs).1 hcarried
          rw [hdispatch] at hstep
          split at hstep
          · cases hstep
            exact h.take.shows hs hcarried
          · cases hstep
      · cases hstep

end Sound

end Invariant

/-! ### Runs -/

section Runs

variable {C : Type} [DecidableEq C]

/-- The tables that the server has had up to this state. -/
def History (geo : Geo) (σ : Server C) (d : Data) : Prop :=
  ∃ σ₀, (server C geo).Reachable σ₀ ∧ (server C geo).Leads σ₀ σ ∧ σ₀.data = d

variable {geo : Geo} {σ : Server C}

theorem sound_of_reachable (h : (server C geo).Reachable σ) : Sound (History geo σ) σ := by
  induction h with
  | init h =>
      obtain ⟨d, rfl⟩ := h
      exact Sound.init d
  | @step σ σ' event h hstep ih =>
      have hpast : ∀ d, History geo σ d → History geo σ' d := by
        rintro d ⟨σ₀, hσ₀, hleads, rfl⟩
        exact ⟨σ₀, hσ₀, hleads.step hstep, rfl⟩
      exact (ih.mono hpast).step (hpast _ ⟨σ, h, .refl, rfl⟩)
        ⟨σ', h.step hstep, .refl, rfl⟩ hstep.1 hstep.2

/-- The user may read the chat: one of the staff, or a participant who has had it. -/
def MayRead (past : Data → Prop) (user : ScopeUser) (chatId : Uuid) : Prop :=
  user.isStaff = true ∨ ∃ role id, user = .participant role id ∧ HadChat past role id chatId

/-- The order has been one of the user. -/
def MayTrack (past : Data → Prop) (user : ScopeUser) (orderId : Uuid) : Prop :=
  ∃ id, user = .participant .client id ∧ HadOrder past id orderId

/-- What a user may be shown. -/
def Permitted (past : Data → Prop) (user : ScopeUser) : Frame → Prop
  | .error _ => True
  | .locationSaved ack => ∃ id, user = .participant .master id ∧ Acknowledges past id ack
  | .trackingSnapshot payload => MayTrack past user payload.orderId
  | .history messages chatId =>
      MayRead past user chatId ∧ ∀ message ∈ messages, message.chat = some chatId
  | .event (.trackingUpdate _ payload) => MayTrack past user payload.orderId
  | .event (.notificationEvent _ payload) =>
      ∃ role id, user = .participant role id ∧ payload.recipient = some (role, id)
  | .event (.dashboardOrderEvent _ _) => user.isStaff = true
  | .event (.chatMessage message) => ∃ chatId ∈ message.chat, MayRead past user chatId
  | .event (.chatRead chatId _ _) => MayRead past user chatId
  | .event (.chatUpdate _ _ _ _) => user.isStaff = true

/-- A message about a participant is for who may read the chats of the participant. -/
theorem permitted_of_support {past : Data → Prop} {user : ScopeUser} {role : ParticipantRole}
    {id : Uuid} {message : Message}
    (hread : ∀ chatId, HadChat past role id chatId → MayRead past user chatId)
    (h : Carried past (.support role id) message) : Permitted past user (.event message) := by
  cases message with
  | chatMessage message =>
      obtain ⟨chatId, hchat, hhad⟩ := h
      exact ⟨chatId, hchat, hread chatId hhad⟩
  | chatRead chatId _ _ => exact hread chatId h
  | _ => exact h.elim

theorem permitted_of_carried {past : Data → Prop} {s : Socket} {message : Message}
    (hs : Entitled past s) (h : Carried past s.topic message) :
    Permitted past s.user (.event message) := by
  obtain ⟨endpoint, user, topic, chat, phase, frames⟩ := s
  cases endpoint with
  | masterTracking =>
      obtain ⟨-, id, -, rfl⟩ := hs
      exact (not_carried_masterTracking h).elim
  | clientTracking order =>
      obtain ⟨-, rfl, id, rfl, hhad⟩ := hs
      cases message with
      | trackingUpdate _ payload =>
          obtain rfl : payload.orderId = order := h
          exact ⟨id, rfl, hhad⟩
      | _ => exact h.elim
  | masterNotifications =>
      obtain ⟨-, id, rfl, rfl⟩ := hs
      cases message with
      | notificationEvent _ payload => exact ⟨.master, id, rfl, h⟩
      | _ => exact h.elim
  | clientNotifications =>
      obtain ⟨-, id, rfl, rfl⟩ := hs
      cases message with
      | notificationEvent _ payload => exact ⟨.client, id, rfl, h⟩
      | _ => exact h.elim
  | dashboardOrders =>
      obtain ⟨-, hstaff, rfl⟩ := hs
      cases message with
      | dashboardOrderEvent _ _ => exact hstaff
      | _ => exact h.elim
  | masterSupport =>
      obtain ⟨id, _, rfl, rfl, -⟩ := hs
      exact permitted_of_support (fun chatId hhad => Or.inr ⟨.master, id, rfl, hhad⟩) h
  | clientSupport =>
      obtain ⟨id, _, rfl, rfl, -⟩ := hs
      exact permitted_of_support (fun chatId hhad => Or.inr ⟨.client, id, rfl, hhad⟩) h
  | adminSupportChat _ =>
      obtain ⟨hstaff, -, role, id, rfl, -⟩ := hs
      exact permitted_of_support (fun chatId _ => Or.inl hstaff) h
  | adminSupportLobby =>
      obtain ⟨-, hstaff, rfl⟩ := hs
      cases message with
      | chatUpdate _ _ _ _ => exact hstaff
      | _ => exact h.elim

theorem permitted_of_shown {past : Data → Prop} {s : Socket} {frame : Frame}
    (hs : Entitled past s) (h : Shown past s frame) : Permitted past s.user frame := by
  cases frame with
  | error _ => trivial
  | event message => exact permitted_of_carried hs h
  | locationSaved _ => exact h.2
  | trackingSnapshot payload =>
      obtain ⟨_, user, topic, chat, phase, frames⟩ := s
      obtain rfl : _ = Endpoint.clientTracking payload.orderId := h
      obtain ⟨-, -, id, huser, hhad⟩ := hs
      exact ⟨id, huser, hhad⟩
  | history messages chatId =>
      obtain ⟨hchat, hmessages⟩ := h
      refine ⟨?_, hmessages⟩
      obtain ⟨endpoint, user, topic, chat, phase, frames⟩ := s
      obtain rfl : chat = some chatId := hchat
      cases endpoint with
      | masterSupport =>
          obtain ⟨id, _, huser, -, hchat, hhad⟩ := hs
          exact Or.inr ⟨.master, id, huser, Option.some.inj hchat ▸ hhad⟩
      | clientSupport =>
          obtain ⟨id, _, huser, -, hchat, hhad⟩ := hs
          exact Or.inr ⟨.client, id, huser, Option.some.inj hchat ▸ hhad⟩
      | adminSupportChat _ => exact Or.inl hs.1
      | _ => exact nomatch hs.1

/-- A client tracks an order on a socket, and its master sends the location over another. -/
def Sample.tracking : List (Event Nat) :=
  [.connect 0 (.clientTracking 10) (.participant .client 1) 50 0, .join 0, .greet 0 1,
   .connect 1 .masterTracking (.participant .master 2) 51 1, .join 1, .greet 1 1,
   .locate 1 2 { Sample.ping with orderId := some 10 }, .flush 0 [], .dispatch 0]

/-- The frame carries the master's location. -/
def Sample.locates : Frame → Bool
  | .event (.trackingUpdate event _) => event = "master.location"
  | _ => false

/-- The frame answers a location of a named order. -/
def Sample.acknowledges : Frame → Bool
  | .locationSaved (.order _) => true
  | _ => false

/-- The user's socket shows a frame of this form. -/
def Sample.sees (user : ScopeUser) (form : Frame → Bool) (s : Socket) : Bool :=
  decide (s.user = user) && s.frames.any form

omit [DecidableEq C] in
theorem frame_of_sees {user : ScopeUser} {form : Frame → Bool} {c : C}
    (h : (σ.sockets c).any (Sample.sees user form) = true) :
    ∃ s frame, σ.sockets c = some s ∧ s.user = user ∧ frame ∈ s.frames ∧ form frame = true := by
  obtain ⟨s, hs, hsees⟩ := (Option.any_eq_true _ _).mp h
  obtain ⟨huser, hframes⟩ := (Bool.and_eq_true _ _).mp hsees
  obtain ⟨frame, hmem, hframe⟩ := List.any_eq_true.mp hframes
  exact ⟨s, frame, hs, of_decide_eq_true huser, hmem, hframe⟩

end Runs

end Realtime

end Homex
