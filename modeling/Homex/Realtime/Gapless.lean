import Homex.Realtime.Privacy

/-!
# No location is missed

A socket joins its group before it reads the snapshot, so that a location is in the snapshot
or is still to be sent when the socket has joined. `Advances` says what no step takes away:
a message that is to be sent stays so until every channel of its group has it or loses it,
and a message that waits for a socket stays so until the socket shows it.
-/

namespace Homex

namespace Realtime

open Relational Orders Support Concurrency.Groups Transition

section Advances

variable {C : Type} {σ σ' σ'' : Server C} {c : C} {s : Socket} {message : Message}

/-- The message waits for the socket or is shown by it; or the layer has lost it, or the
socket is closed. -/
def Reached (σ : Server C) (c : C) (message : Message) : Prop :=
  c ∈ σ.closed ∨ message ∈ σ.layer.inbox c ∨ (c, message) ∈ σ.lost ∨
    ∃ s, σ.sockets c = some s ∧ s.phase ≠ .checked ∧ .event message ∈ s.frames

/-- What a step, or a run, leaves of messages and sockets. -/
structure Advances (σ σ' : Server C) : Prop where
  closed : ∀ c ∈ σ.closed, c ∈ σ'.closed
  lost : ∀ p ∈ σ.lost, p ∈ σ'.lost
  member : ∀ p ∈ σ.layer.members, p.2 ∈ σ'.closed ∨ p ∈ σ'.layer.members
  frames : ∀ c s, σ.sockets c = some s → s.phase ≠ .checked → c ∈ σ'.closed ∨
    ∃ s', σ'.sockets c = some s' ∧ s'.phase ≠ .checked ∧ s.frames ⊆ s'.frames
  outgoing : ∀ sent ∈ σ.outgoing, sent ∈ σ'.outgoing ∨
    ∀ c, (sent.1.name, c) ∈ σ.layer.members → Reached σ' c sent.2
  inbox : ∀ c, ∀ message ∈ σ.layer.inbox c, Reached σ' c message

theorem Reached.advances (h : Reached σ c message) (hadv : Advances σ σ') :
    Reached σ' c message := by
  rcases h with hclosed | hwaits | hlost | ⟨s, hs, hphase, hshown⟩
  · exact Or.inl (hadv.closed c hclosed)
  · exact hadv.inbox c message hwaits
  · exact Or.inr (Or.inr (Or.inl (hadv.lost _ hlost)))
  · rcases hadv.frames c s hs hphase with hclosed | ⟨s', hs', hphase', hframes⟩
    · exact Or.inl hclosed
    · exact Or.inr (Or.inr (Or.inr ⟨s', hs', hphase', hframes hshown⟩))

/-- The message reaches the socket, or is still to be sent to its group. -/
def Underway (σ : Server C) (c : C) (topic : Topic) (message : Message) : Prop :=
  Reached σ c message ∨ (topic.name, c) ∈ σ.layer.members ∧ (topic, message) ∈ σ.outgoing

theorem Underway.advances {topic : Topic} (h : Underway σ c topic message)
    (hadv : Advances σ σ') : Underway σ' c topic message := by
  rcases h with hreached | ⟨hmem, hsent⟩
  · exact Or.inl (hreached.advances hadv)
  · rcases hadv.outgoing _ hsent with hsent' | hreached
    · rcases hadv.member _ hmem with hclosed | hmem'
      · exact Or.inl (Or.inl hclosed)
      · exact Or.inr ⟨hmem', hsent'⟩
    · exact Or.inl (hreached c hmem)

namespace Advances

theorem refl (σ : Server C) : Advances σ σ where
  closed _ h := h
  lost _ h := h
  member _ h := Or.inr h
  frames _ s hs hphase := Or.inr ⟨s, hs, hphase, fun _ h => h⟩
  outgoing _ h := Or.inl h
  inbox _ _ h := Or.inr (Or.inl h)

theorem trans (h : Advances σ σ') (h' : Advances σ' σ'') : Advances σ σ'' where
  closed c hc := h'.closed c (h.closed c hc)
  lost p hp := h'.lost p (h.lost p hp)
  member p hp := by
    rcases h.member p hp with hclosed | hp'
    · exact Or.inl (h'.closed _ hclosed)
    · exact h'.member p hp'
  frames c s hs hphase := by
    rcases h.frames c s hs hphase with hclosed | ⟨s', hs', hphase', hframes⟩
    · exact Or.inl (h'.closed c hclosed)
    · rcases h'.frames c s' hs' hphase' with hclosed | ⟨s'', hs'', hphase'', hframes'⟩
      · exact Or.inl hclosed
      · exact Or.inr ⟨s'', hs'', hphase'', fun _ hf => hframes' (hframes hf)⟩
  outgoing sent hsent := by
    rcases h.outgoing sent hsent with hsent' | hreached
    · rcases h'.outgoing sent hsent' with hsent'' | hreached
      · exact Or.inl hsent''
      · refine Or.inr fun c hmem => ?_
        rcases h.member _ hmem with hclosed | hmem'
        · exact Or.inl (h'.closed c hclosed)
        · exact hreached c hmem'
    · exact Or.inr fun c hmem => (hreached c hmem).advances h'
  inbox c message hmessage := (h.inbox c message hmessage).advances h'

/-- Other tables, and more to send. -/
theorem queue (d : Data) (l : List (Topic × Message)) :
    Advances σ { σ with data := d, outgoing := σ.outgoing ++ l } :=
  { refl σ with outgoing := fun _ h => Or.inl (List.mem_append_left _ h) }

theorem tables (d : Data) : Advances σ { σ with data := d } :=
  { refl σ with }

theorem groupAdd (g : String) : Advances σ { σ with layer := σ.layer.groupAdd g c } :=
  { refl σ with member := fun _ h => Or.inr (Layer.mem_groupAdd.mpr (Or.inr h)) }

/-- A channel is closed before it is let in. -/
theorem refuse (d : Data) : Advances σ { σ with data := d, closed := c :: σ.closed } where
  closed _ h := List.mem_cons_of_mem c h
  lost _ h := h
  member _ h := Or.inr h
  frames _ s hs hphase := Or.inr ⟨s, hs, hphase, fun _ h => h⟩
  outgoing _ h := Or.inl h
  inbox _ _ h := Or.inr (Or.inl h)

variable [DecidableEq C]

/-- A socket that keeps its frames; one that has not joined has none to keep. -/
theorem setSocket (h : ∀ s₀, σ.sockets c = some s₀ → s₀.phase ≠ .checked →
      s.phase ≠ .checked ∧ s₀.frames ⊆ s.frames) :
    Advances σ (σ.setSocket c s) where
  closed _ h := h
  lost _ h := h
  member _ h := Or.inr h
  frames c' s₀ hs₀ hphase := by
    right
    rw [Server.sockets_setSocket]
    split
    · next hc =>
        obtain ⟨hphase', hframes⟩ := h s₀ (hc ▸ hs₀) hphase
        exact ⟨s, rfl, hphase', hframes⟩
    · exact ⟨s₀, hs₀, hphase, fun _ hf => hf⟩
  outgoing _ h := Or.inl h
  inbox _ _ h := Or.inr (Or.inl h)

theorem shows (hs : σ.sockets c = some s) (hphase : s.phase = .ready) (frame : Frame) :
    Advances σ (σ.setSocket c (s.show frame)) := by
  refine setSocket fun s₀ hs₀ _ => ?_
  obtain rfl := Option.some.inj (hs.symm.trans hs₀)
  refine ⟨?_, List.subset_append_left _ _⟩
  change s.phase ≠ .checked
  rw [hphase]
  exact fun h => nomatch h

theorem close (c : C) (s : Socket) : Advances σ (σ.close c s) where
  closed _ h := List.mem_cons_of_mem c h
  lost _ h := h
  member p hp := by
    by_cases hc : p = (s.topic.name, c)
    · rw [hc]
      exact Or.inl List.mem_cons_self
    · exact Or.inr (Layer.mem_close.mpr ⟨hp, hc⟩)
  frames c' s' hs' hphase := by
    rw [Server.sockets_close]
    split
    · next hc => exact Or.inl (hc ▸ List.mem_cons_self)
    · exact Or.inr ⟨s', hs', hphase, fun _ hf => hf⟩
  outgoing _ h := Or.inl h
  inbox c' message hmessage := by
    by_cases hc : c' = c
    · rw [hc]
      exact Or.inl List.mem_cons_self
    · exact Or.inr (Or.inl (Layer.mem_inbox_close.mpr ⟨hc, hmessage⟩))

/-- A message that is sent waits for every channel of the group that does not lose it. -/
theorem flush {topic : Topic} {i : Nat} (hsent : σ.outgoing[i]? = some (topic, message))
    (drops : List C) :
    Advances σ
      { σ with
        outgoing := σ.outgoing.eraseIdx i
        layer := σ.layer.groupSend topic.name message drops
        lost := drops.map (fun c => (c, message)) ++ σ.lost } where
  closed _ h := h
  lost _ h := List.mem_append_right _ h
  member _ h := Or.inr h
  frames _ s hs hphase := Or.inr ⟨s, hs, hphase, fun _ hf => hf⟩
  outgoing sent hmem := by
    obtain ⟨j, hj, hget⟩ := List.mem_iff_getElem.mp hmem
    by_cases hij : j = i
    · right
      intro c hc
      have heq : sent = (topic, message) := by
        rw [← hij, List.getElem?_eq_getElem hj, hget] at hsent
        exact Option.some.inj hsent
      rw [heq] at hc ⊢
      by_cases hdrop : c ∈ drops
      · exact Or.inr (Or.inr (Or.inl
          (List.mem_append_left _ (List.mem_map.mpr ⟨c, hdrop, rfl⟩))))
      · exact Or.inr (Or.inl (Layer.mem_inbox_groupSend.mpr (Or.inr ⟨rfl, hc, hdrop⟩)))
    · left
      rw [List.mem_eraseIdx_iff_getElem]
      exact ⟨j, hj, hij, hget⟩
  inbox c m hm := Or.inr (Or.inl (Layer.mem_inbox_groupSend.mpr (Or.inl hm)))

/-- The consumer shows the message it takes. -/
theorem dispatch (hs : σ.sockets c = some s) (hphase : s.phase = .ready)
    (hhead : (σ.layer.inbox c).head? = some message) :
    Advances σ ({ σ with layer := σ.layer.take c }.setSocket c (s.show (.event message))) := by
  have hready : (s.show (.event message)).phase ≠ .checked := by
    change s.phase ≠ .checked
    rw [hphase]
    exact fun h => nomatch h
  constructor
  · exact fun _ h => h
  · exact fun _ h => h
  · exact fun _ h => Or.inr h
  · exact (shows hs hphase (.event message)).frames
  · exact fun _ h => Or.inl h
  · intro c' m hm
    rcases Layer.mem_inbox_take (c := c) hm with hm' | ⟨rfl, hm'⟩
    · exact Or.inr (Or.inl hm')
    · rw [hhead] at hm'
      obtain rfl := Option.some.inj hm'
      refine Or.inr (Or.inr (Or.inr ⟨_, ?_, hready, ?_⟩))
      · rw [Server.sockets_setSocket, if_pos rfl]
      · exact List.mem_append_right _ (List.mem_singleton.mpr rfl)

end Advances

end Advances

/-! ### Where a socket comes from -/

section Frames

variable {C : Type} [DecidableEq C] (geo : Geo) (σ : Server C) (c : C) (s : Socket)

/-- A location ends the consumer or is answered, and what it broadcasts is to be sent. -/
theorem locate_cases (now : Int) (master : Uuid) (ping : Ping) :
    ∃ d l, σ.locate geo c s now master ping = Server.close { σ with data := d } c s ∨
      ∃ frame, σ.locate geo c s now master ping =
        Server.setSocket { σ with data := d, outgoing := σ.outgoing ++ l } c (s.show frame) := by
  unfold Server.locate
  generalize persistMasterLocation geo now master ping σ.data.toTrackingTables = result
  obtain ⟨result, t⟩ := result
  refine ⟨{ σ.data with toTrackingTables := t }, ?_⟩
  match result with
  | .error _ => exact ⟨[], Or.inl rfl⟩
  | .ok none =>
      refine ⟨[], Or.inr ⟨.error "lat/lng required (or order not found)", ?_⟩⟩
      rw [List.append_nil]
  | .ok (some saved) => exact ⟨_, Or.inr ⟨_, rfl⟩⟩

/-- A message ends the consumer, or is refused, or is written and to be sent. -/
theorem say_cases (chatId : Uuid) (stamp : Stamp) (content : String) :
    σ.say c s chatId stamp content = σ.close c s ∨
      (∃ frame, σ.say c s chatId stamp content = σ.setSocket c (s.show frame)) ∨
        ∃ d l, σ.say c s chatId stamp content =
          { σ with data := d, outgoing := σ.outgoing ++ l } := by
  unfold Server.say
  split
  · exact Or.inr (Or.inl ⟨_, rfl⟩)
  · split
    · exact Or.inl rfl
    · dsimp only
      split
      · exact Or.inl rfl
      · exact Or.inr (Or.inr ⟨_, _, rfl⟩)

end Frames

section Origin

variable {C : Type} [DecidableEq C] {geo : Geo} {σ σ' : Server C} {c c₀ : C} {s s' s₀ : Socket}

/-- What a socket was before a step. -/
inductive Origin (geo : Geo) (σ : Server C) (c : C) (s' : Socket) : Prop
  | new (hphase : s'.phase = .checked) (hframes : s'.frames = [])
  | joined (s : Socket) (hs : σ.sockets c = some s) (hphase : s.phase = .checked)
      (heq : s' = { s with phase := .joined })
  | greeted (s : Socket) (hs : σ.sockets c = some s) (hphase : s.phase = .joined) (now : Int)
      (greeting : Greeting) (hgreeting : s.greeting geo now σ.data = some greeting)
      (heq : s' = { s with phase := .ready, frames := greeting.1 })
  | kept (s : Socket) (hs : σ.sockets c = some s)
      (heq : s' = s ∨ s.phase = .ready ∧ ∃ frame, s' = s.show frame)

/-- Where a socket comes from, and the groups it stays in. -/
structure Follows (geo : Geo) (σ σ' : Server C) (c : C) (s' : Socket) : Prop where
  origin : Origin geo σ c s'
  member : ∀ g, (g, c) ∈ σ.layer.members → (g, c) ∈ σ'.layer.members
  joins : s'.phase = .joined → (s'.topic.name, c) ∈ σ'.layer.members ∨ σ.sockets c = some s'

namespace Follows

omit [DecidableEq C] in
theorem same (hs : σ.sockets c = some s')
    (hmem : ∀ g, (g, c) ∈ σ.layer.members → (g, c) ∈ σ'.layer.members) : Follows geo σ σ' c s' :=
  ⟨.kept s' hs (Or.inl rfl), hmem, fun _ => Or.inr hs⟩

theorem close (τ : Server C) (hsockets : τ.sockets = σ.sockets) (hlayer : τ.layer = σ.layer)
    (hs' : (τ.close c₀ s₀).sockets c = some s') : Follows geo σ (τ.close c₀ s₀) c s' := by
  rw [Server.sockets_close] at hs'
  split at hs'
  · cases hs'
  · next hc =>
      refine same (hsockets ▸ hs') fun g hmem => ?_
      refine Layer.mem_close.mpr ⟨hlayer ▸ hmem, fun heq => hc ?_⟩
      exact (Prod.mk.inj heq).2

theorem shows (τ : Server C) (hs₀ : σ.sockets c₀ = some s₀) (hphase : s₀.phase = .ready)
    (hsockets : τ.sockets = σ.sockets) (hmem : τ.layer.members = σ.layer.members) {frame : Frame}
    (hs' : (τ.setSocket c₀ (s₀.show frame)).sockets c = some s') :
    Follows geo σ (τ.setSocket c₀ (s₀.show frame)) c s' := by
  have hmem' : ∀ g, (g, c) ∈ σ.layer.members →
      (g, c) ∈ (τ.setSocket c₀ (s₀.show frame)).layer.members := fun g h => by
    change (g, c) ∈ τ.layer.members
    rw [hmem]
    exact h
  rw [Server.sockets_setSocket] at hs'
  split at hs'
  · next hc =>
      obtain rfl := Option.some.inj hs'
      refine ⟨.kept s₀ (hc ▸ hs₀) (Or.inr ⟨hphase, frame, rfl⟩), hmem', fun hjoined => ?_⟩
      rw [show (s₀.show frame).phase = s₀.phase from rfl, hphase] at hjoined
      cases hjoined
  · exact same (hsockets ▸ hs') hmem'

end Follows

/-- Every step: where the sockets after it come from. -/
theorem follows_of_step {event : Event C} (h : σ.step geo event = some σ')
    (hs' : σ'.sockets c = some s') : Follows geo σ σ' c s' := by
  cases event with
  | request d =>
      cases h
      exact .same hs' fun _ hmem => hmem
  | broadcast call =>
      cases h
      exact .same hs' fun _ hmem => hmem
  | location now user ping isOnline isAvailable =>
      cases h
      exact .same hs' fun _ hmem => hmem
  | connect c₀ endpoint user pk now =>
      rw [Server.step] at h
      split at h
      · cases h
      · split at h
        · cases h
          exact .same hs' fun _ hmem => hmem
        · cases h
          rw [Server.sockets_setSocket] at hs'
          split at hs'
          · obtain rfl := Option.some.inj hs'
            refine ⟨.new rfl rfl, fun _ hmem => hmem, fun hjoined => ?_⟩
            cases hjoined
          · exact .same hs' fun _ hmem => hmem
  | join c₀ =>
      rw [Server.step] at h
      split at h
      · cases h
      · next s hs =>
          split at h
          · next hphase =>
              cases h
              have hmem : ∀ g, (g, c) ∈ σ.layer.members →
                  (g, c) ∈ (σ.layer.groupAdd s.topic.name c₀).members :=
                fun g hmem => Layer.mem_groupAdd.mpr (Or.inr hmem)
              rw [Server.sockets_setSocket] at hs'
              split at hs'
              · next hc =>
                  obtain rfl := Option.some.inj hs'
                  refine ⟨.joined s (hc ▸ hs) hphase rfl, hmem, fun _ => Or.inl ?_⟩
                  rw [hc]
                  exact Layer.mem_groupAdd.mpr (Or.inl rfl)
              · exact .same hs' hmem
          · cases h
  | greet c₀ now =>
      rw [Server.step] at h
      split at h
      · cases h
      · next s hs =>
          split at h
          · next hphase =>
              split at h
              · cases h
                exact .close σ rfl rfl hs'
              · next frames sends d hgreeting =>
                  cases h
                  rw [Server.sockets_setSocket] at hs'
                  split at hs'
                  · next hc =>
                      obtain rfl := Option.some.inj hs'
                      refine ⟨.greeted s (hc ▸ hs) hphase now _ hgreeting rfl,
                        fun _ hmem => hmem, fun hjoined => ?_⟩
                      cases hjoined
                  · exact .same hs' fun _ hmem => hmem
          · cases h
  | disconnect c₀ =>
      obtain ⟨s, -, rfl⟩ := Option.map_eq_some_iff.mp h
      exact .close σ rfl rfl hs'
  | locate c₀ now ping =>
      rw [Server.step] at h
      split at h
      · next s hs =>
          split at h
          · next id hphase _ _ =>
              cases h
              obtain ⟨d, l, heq | ⟨frame, heq⟩⟩ := locate_cases geo σ c₀ s now id ping
              · rw [heq] at hs' ⊢
                exact .close { σ with data := d } rfl rfl hs'
              · rw [heq] at hs' ⊢
                exact .shows { σ with data := d, outgoing := σ.outgoing ++ l } hs hphase rfl rfl hs'
          · cases h
      · cases h
  | say c₀ stamp content =>
      rw [Server.step] at h
      split at h
      · next s hs =>
          split at h
          · next chatId hphase _ =>
              cases h
              obtain heq | ⟨frame, heq⟩ | ⟨d, l, heq⟩ := say_cases σ c₀ s chatId stamp content
              · rw [heq] at hs' ⊢
                exact .close σ rfl rfl hs'
              · rw [heq] at hs' ⊢
                exact .shows σ hs hphase rfl rfl hs'
              · rw [heq] at hs' ⊢
                exact .same hs' fun _ hmem => hmem
          · cases h
      · cases h
  | flush i drops =>
      obtain ⟨_, -, rfl⟩ := Option.map_eq_some_iff.mp h
      exact .same hs' fun _ hmem => hmem
  | dispatch c₀ =>
      rw [Server.step] at h
      split at h
      · next s message hs hhead =>
          split at h
          · next hphase =>
              split at h
              · cases h
                have hclose : Follows geo σ (σ.close c₀ s) c s' := .close σ rfl rfl hs'
                exact ⟨hclose.origin, hclose.member, hclose.joins⟩
              · cases h
                exact .shows { σ with layer := σ.layer.take c₀ } hs hphase rfl rfl hs'
          · cases h
      · cases h

/-- A socket that has joined is in its group; before it is ready it has shown nothing. -/
structure Attached (σ : Server C) : Prop where
  member : ∀ c s, σ.sockets c = some s → s.phase ≠ .checked →
    (s.topic.name, c) ∈ σ.layer.members
  fresh : ∀ c s, σ.sockets c = some s → s.phase ≠ .ready → s.frames = []

theorem Attached.step (h : Attached σ) {event : Event C} (hstep : σ.step geo event = some σ') :
    Attached σ' := by
  constructor
  · intro c s' hs' hphase
    obtain ⟨horigin, hmember, hjoins⟩ := follows_of_step hstep hs'
    cases horigin with
    | new hchecked _ => exact absurd hchecked hphase
    | joined s hs hchecked heq =>
        rcases hjoins (by rw [heq]) with hmem | hs''
        · exact hmem
        · exact hmember _ (h.member c s' hs'' hphase)
    | greeted s hs hjoined now greeting _ heq =>
        rw [heq]
        exact hmember _ (h.member c s hs (by rw [hjoined]; exact fun hne => nomatch hne))
    | kept s hs heq =>
        have hsame : s'.topic = s.topic ∧ s'.phase = s.phase := by
          rcases heq with rfl | ⟨-, frame, rfl⟩
          · exact ⟨rfl, rfl⟩
          · exact ⟨rfl, rfl⟩
        rw [hsame.1]
        exact hmember _ (h.member c s hs (hsame.2 ▸ hphase))
  · intro c s' hs' hphase
    obtain ⟨horigin, -, -⟩ := follows_of_step hstep hs'
    cases horigin with
    | new _ hframes => exact hframes
    | joined s hs hchecked heq =>
        rw [heq]
        exact h.fresh c s hs (by rw [hchecked]; exact fun hne => nomatch hne)
    | greeted s hs _ now greeting _ heq =>
        rw [heq] at hphase
        exact absurd rfl hphase
    | kept s hs heq =>
        rcases heq with rfl | ⟨hready, frame, rfl⟩
        · exact h.fresh c s' hs hphase
        · exact absurd hready hphase

/-- Every step keeps what is under way. -/
theorem advances_of_step (h : Attached σ) {event : Event C}
    (hstep : σ.step geo event = some σ') : Advances σ σ' := by
  cases event with
  | request d =>
      cases hstep
      exact .tables d
  | broadcast call =>
      cases hstep
      exact .queue σ.data _
  | location now user ping isOnline isAvailable =>
      cases hstep
      exact .queue _ _
  | connect c₀ endpoint user pk now =>
      rw [Server.step] at hstep
      split at hstep
      · cases hstep
      · next hnew =>
          rw [not_or, Option.not_isSome_iff_eq_none] at hnew
          split at hstep
          · cases hstep
            exact .refuse _
          · next topic chat d hopen =>
              cases hstep
              refine (Advances.tables d).trans (.setSocket fun s₀ hs₀ => ?_)
              rw [hnew.1] at hs₀
              cases hs₀
  | join c₀ =>
      rw [Server.step] at hstep
      split at hstep
      · cases hstep
      · next s hs =>
          split at hstep
          · next hphase =>
              cases hstep
              refine (Advances.groupAdd _).trans (.setSocket fun s₀ hs₀ hphase₀ => ?_)
              obtain rfl := Option.some.inj (hs.symm.trans hs₀)
              exact absurd hphase hphase₀
          · cases hstep
  | greet c₀ now =>
      rw [Server.step] at hstep
      split at hstep
      · cases hstep
      · next s hs =>
          split at hstep
          · next hphase =>
              split at hstep
              · cases hstep
                exact .close c₀ s
              · next frames sends d hgreeting =>
                  cases hstep
                  have hnew : s.phase ≠ .ready := by
                    rw [hphase]
                    decide
                  refine (Advances.queue d sends).trans (.setSocket fun s₀ hs₀ _ => ?_)
                  obtain rfl := Option.some.inj (hs.symm.trans hs₀)
                  rw [h.fresh c₀ s hs hnew]
                  refine ⟨fun hne => ?_, List.nil_subset _⟩
                  cases hne
          · cases hstep
  | disconnect c₀ =>
      obtain ⟨s, -, rfl⟩ := Option.map_eq_some_iff.mp hstep
      exact .close c₀ s
  | locate c₀ now ping =>
      rw [Server.step] at hstep
      split at hstep
      · next s hs =>
          split at hstep
          · next id hphase _ _ =>
              cases hstep
              obtain ⟨d, l, heq | ⟨frame, heq⟩⟩ := locate_cases geo σ c₀ s now id ping
              · rw [heq]
                exact (Advances.tables d).trans (.close c₀ s)
              · have hs' : Server.sockets { σ with data := d, outgoing := σ.outgoing ++ l } c₀ =
                    some s := hs
                rw [heq]
                exact (Advances.queue d l).trans (.shows hs' hphase frame)
          · cases hstep
      · cases hstep
  | say c₀ stamp content =>
      rw [Server.step] at hstep
      split at hstep
      · next s hs =>
          split at hstep
          · next chatId hphase _ =>
              cases hstep
              obtain heq | ⟨frame, heq⟩ | ⟨d, l, heq⟩ := say_cases σ c₀ s chatId stamp content
              · rw [heq]
                exact .close c₀ s
              · rw [heq]
                exact .shows hs hphase frame
              · rw [heq]
                exact .queue d l
          · cases hstep
      · cases hstep
  | flush i drops =>
      obtain ⟨⟨topic, message⟩, hsent, rfl⟩ := Option.map_eq_some_iff.mp hstep
      exact .flush hsent drops
  | dispatch c₀ =>
      rw [Server.step] at hstep
      split at hstep
      · next s message hs hhead =>
          split at hstep
          · next hphase =>
              split at hstep
              · cases hstep
                have hclose : Advances σ (σ.close c₀ s) := .close c₀ s
                exact ⟨hclose.closed, hclose.lost, hclose.member, hclose.frames, hclose.outgoing,
                  hclose.inbox⟩
              · next frame hdispatch =>
                  cases hstep
                  unfold Endpoint.dispatch at hdispatch
                  split at hdispatch
                  · obtain rfl := Option.some.inj hdispatch
                    exact .dispatch hs hphase hhead
                  · cases hdispatch
          · cases hstep
      · cases hstep

end Origin

/-! ### Runs -/

section Runs

variable {C : Type} [DecidableEq C] {geo : Geo} {σ σ' : Server C} {c : C} {s : Socket}

theorem attached_of_reachable (h : (server C geo).Reachable σ) : Attached σ := by
  refine h.invariant (I := Attached) ?_ ?_
  · rintro _ ⟨d, rfl⟩
    exact ⟨fun c s hs => (nomatch hs), fun c s hs => (nomatch hs)⟩
  · intro σ event σ' _ hi hstep
    exact hi.step hstep.2

theorem underway_of_leads (h : (server C geo).Reachable σ) (hl : (server C geo).Leads σ σ')
    {topic : Topic} {message : Message} (hunderway : Underway σ c topic message) :
    Underway σ' c topic message := by
  refine hl.stable (P := fun σ => Underway σ c topic message) ?_ h hunderway
  intro σ event σ' hσ hunderway hstep
  exact hunderway.advances (advances_of_step (attached_of_reachable hσ) hstep.2)

/-- The step saves a location of the master of the order, for this order too. -/
def Locates (σ : Server C) (order : Order) : Event C → Prop
  | .location _ master ping _ _ => order ∈ σ.data.concerned master ping.orderId
  | .locate c _ ping => ∃ s master, σ.sockets c = some s ∧ s.user = .participant .master master ∧
      (σ.data.masters.find? master).isSome = true ∧ order ∈ σ.data.concerned master ping.orderId
  | _ => False

theorem not_foreign_of_concerned {t : TrackingTables} {master : Uuid} {ping : Ping}
    {order : Order} (h : order ∈ t.concerned master ping.orderId) : ¬ping.Foreign master t := by
  intro hforeign
  rw [concerned_of_foreign hforeign] at h
  cases h

/-- A location is broadcast for every order it is saved for. -/
theorem queued_of_locates {order : Order} {event : Event C} (hlocates : Locates σ order event)
    (hstep : σ.step geo event = some σ') :
    (.tracking order.id, .trackingUpdate "master.location" (σ'.data.payload geo order)) ∈
      σ'.outgoing := by
  have hqueued : ∀ {now : Int} {master : Uuid} {ping : Ping} {t : TrackingTables}
      {broadcasts : List (Uuid × TrackingPayload)},
      Located geo now master ping σ.data.toTrackingTables t broadcasts →
        order ∈ σ.data.concerned master ping.orderId →
          (Topic.tracking order.id, Message.trackingUpdate "master.location"
            (t.payload geo order)) ∈ σ.outgoing ++ broadcasts.map broadcastTracking := by
    intro now master ping t broadcasts hlocated hconcerned
    rw [hlocated.broadcasts]
    refine List.mem_append_right _ (List.mem_map.mpr ⟨(order.id, t.payload geo order), ?_, rfl⟩)
    exact List.mem_map.mpr ⟨order, hconcerned, rfl⟩
  cases event with
  | location now master ping isOnline isAvailable =>
      obtain ⟨response, t, hpost, hlocated⟩ := located_post geo now isOnline isAvailable
        (not_foreign_of_concerned hlocates)
      rw [Server.step, hpost] at hstep
      obtain rfl := Option.some.inj hstep
      exact hqueued hlocated hlocates
  | locate c now ping =>
      obtain ⟨s, master, hs, huser, hmaster, hconcerned⟩ := hlocates
      obtain ⟨saved, t, hpersist, hlocated⟩ := located_persist geo now hmaster
        (not_foreign_of_concerned hconcerned)
      rw [Server.step, hs] at hstep
      dsimp only at hstep
      split at hstep
      · next id _ _ huser' =>
          obtain rfl : id = master := by
            rw [huser] at huser'
            cases huser'
            rfl
          rw [Server.locate, hpersist] at hstep
          obtain rfl := Option.some.inj hstep
          exact hqueued hlocated hconcerned
      · cases hstep
  | _ => exact hlocates.elim

/-- A socket that is ready has read its first frames after it had joined its group. -/
def Greeted (geo : Geo) (σ : Server C) (c : C) (s : Socket) : Prop :=
  ∃ σ₀ s₀ now greeting, (server C geo).Reachable σ₀ ∧ (server C geo).Leads σ₀ σ ∧
    σ₀.sockets c = some s₀ ∧ s₀.phase = .joined ∧ s₀.endpoint = s.endpoint ∧ s₀.user = s.user ∧
      s₀.greeting geo now σ₀.data = some greeting ∧ greeting.1 <+: s.frames

theorem greeted_of_reachable (h : (server C geo).Reachable σ) (hs : σ.sockets c = some s)
    (hready : s.phase = .ready) : Greeted geo σ c s := by
  induction h generalizing s with
  | init h =>
      obtain ⟨d, rfl⟩ := h
      cases hs
  | @step σ σ' event h hstep ih =>
      obtain ⟨horigin, -, -⟩ := follows_of_step hstep.2 hs
      cases horigin with
      | new hchecked _ =>
          rw [hready] at hchecked
          cases hchecked
      | joined s₀ _ _ heq =>
          rw [heq] at hready
          cases hready
      | greeted s₀ hs₀ hjoined now greeting hgreeting heq =>
          refine ⟨σ, s₀, now, greeting, h, .step .refl hstep, hs₀, hjoined, ?_, ?_, hgreeting, ?_⟩
          all_goals rw [heq]
      | kept s₀ hs₀ heq =>
          have hready₀ : s₀.phase = .ready := by
            rcases heq with rfl | ⟨hready₀, -⟩
            · exact hready
            · exact hready₀
          obtain ⟨σ₁, s₁, now, greeting, hσ₁, hl, hs₁, hjoined, hendpoint, huser, hgreeting,
            hframes⟩ := ih hs₀ hready₀
          refine ⟨σ₁, s₁, now, greeting, hσ₁, hl.step hstep, hs₁, hjoined, ?_, ?_, hgreeting, ?_⟩
          all_goals
            rcases heq with rfl | ⟨-, frame, rfl⟩
            · assumption
          · exact hendpoint
          · exact huser
          · exact hframes.trans (List.prefix_append _ _)

theorem topic_of_entitled {past : Data → Prop} (h : Entitled past s) {orderId : Uuid}
    (hendpoint : s.endpoint = .clientTracking orderId) : s.topic = .tracking orderId := by
  obtain ⟨_, user, topic, chat, phase, frames⟩ := s
  obtain rfl : _ = Endpoint.clientTracking orderId := hendpoint
  exact h.2.1

/-- The first frame of a client that tracks an order of theirs. -/
theorem head_of_greeting {orderId : Uuid} {now : Int} {d : Data} {order : Order}
    {greeting : Greeting} (hendpoint : s.endpoint = .clientTracking orderId)
    (huser : s.user = .participant .client order.client)
    (hfind : d.orders.find? orderId = some order) (h : s.greeting geo now d = some greeting) :
    greeting.1 = [.trackingSnapshot (d.payload geo order)] := by
  obtain rfl : order.id = orderId := Table.key_of_find? hfind
  have hsnapshot : (d.clientTrackingSnapshot geo order.client order.id).1 =
      some (d.payload geo order) := by
    rw [TrackingTables.clientTrackingSnapshot, hfind, Option.filter_some_pos (by simp)]
    exact congrArg some (payload_ensureTracking geo order d.toTrackingTables)
  rw [Socket.greeting, hendpoint, huser] at h
  obtain rfl := Option.some.inj h
  exact congrArg (fun payload => payload.toList.map Frame.trackingSnapshot) hsnapshot

end Runs

end Realtime

end Homex
