import Homex.Orders.Lifecycle

/-!
# An order completes once and is paid out once

The journal lists the completions of an order as they happened. An order has one
exactly when it is completed, so it is credited at most once; and as long as
nobody writes wallet transactions by hand, the incoming rows of the order are
exactly the credits of its completions.
-/

namespace Homex

open Relational Action Orders Wallet Payme

variable {cfg : Settings} {ctx : Context} {db db' : DB} {r : Request} {o : Order}

/-- The completion an entry records. -/
def Event.completion? : Event → Option (Order × Option WalletTransaction)
  | .completed order credit => some (order, credit)
  | .checkSubmitted _ => none
  | .handoverAccepted _ _ => none

/-- The completions of an order, as saved, with their credits. -/
def DB.completions (db : DB) (id : Uuid) : List (Order × Option WalletTransaction) :=
  (db.journal.filterMap Event.completion?).filter fun p => p.1.id = id

/-- The incoming wallet transactions of an order. -/
def DB.creditRows (db : DB) (id : Uuid) : List WalletTransaction :=
  db.wallet.transactions.rows.filter fun t => t.transactionType = .in ∧ t.order = some id

/-- The credit is the one the completed order asks for: none without a master or
a total, else the total to its master, on the cash balance when the client paid
cash and on the online balance when Payme performed. -/
inductive ProperCredit (o : Order) : Option WalletTransaction → Prop
  | none : o.master = none ∨ o.totalAmount = 0 → ProperCredit o none
  | some {row : WalletTransaction} : o.master = some row.master → o.totalAmount ≠ 0 →
      row.amount = o.totalAmount →
      (o.paymentType = some .cash ∧ row.paymentMethod = .cash ∨
        o.paymentType = some .online ∧ row.paymentMethod = .online) →
      ProperCredit o (some row)

theorem completions_append {events : List Event} (h : db'.journal = db.journal ++ events)
    (id : Uuid) :
    db'.completions id =
      db.completions id ++ (events.filterMap Event.completion?).filter fun p => p.1.id = id := by
  unfold DB.completions
  rw [h, List.filterMap_append, List.filter_append]

theorem completions_congr (h : db'.journal = db.journal) (id : Uuid) :
    db'.completions id = db.completions id := by
  unfold DB.completions
  rw [h]

section Completing

variable {method : PaymentType} {credit : Option WalletTransaction}

theorem CompletesWithin.completions (h : CompletesWithin ctx method o credit db db' r)
    (id : Uuid) :
    db'.completions id =
      db.completions id ++ if o.id = id then [(completedOrder ctx method o, credit)] else [] := by
  rw [completions_append h.journal_eq]
  by_cases hid : o.id = id
  · simp [Event.completion?, completedOrder, hid]
  · simp [Event.completion?, completedOrder, hid]

/-- The credit of a completion is the one the saved order asks for. -/
theorem CompletesWithin.properCredit (h : CompletesWithin ctx method o credit db db' r) :
    ProperCredit (completedOrder ctx method o) credit := by
  cases h.credits with
  | skipped hskip _ => exact .none hskip
  | credited hm hne _ hamount hmethod _ _ =>
      refine .some hm hne hamount ?_
      cases h.pays with
      | cash => exact Or.inl ⟨rfl, hmethod⟩
      | online => exact Or.inr ⟨rfl, hmethod⟩

end Completing

/-- What a request appends to the journal. -/
theorem journal_of_effect (h : Effect cfg ctx db db' r) :
    db'.journal = db.journal ∨
      (∃ method o credit, CompletesWithin ctx method o credit db db' r) ∨
      (∃ o, db'.journal = db.journal ++ [.checkSubmitted o]) ∨
      ∃ w row, db'.journal = db.journal ++ [.handoverAccepted w row] := by
  cases h with
  | frame hf => exact Or.inl hf.journal
  | create _ _ _ _ hj => exact Or.inl hj
  | rewrite _ _ _ _ _ hj => exact Or.inl hj
  | check _ _ _ _ _ _ hj => exact Or.inr (Or.inr (Or.inl ⟨_, hj⟩))
  | pay hunpaid hc =>
      exact Or.inr (Or.inl ⟨_, _, _, .cash, hunpaid, db, rfl, rfl, rfl, hc⟩)
  | payme hp =>
      cases hp with
      | create _ _ _ _ _ _ _ hdb => exact Or.inl (by rw [hdb])
      | expire _ _ _ _ hdb => exact Or.inl (by rw [hdb])
      | cancel _ _ _ _ hdb => exact Or.inl (by rw [hdb])
      | refund _ _ _ _ _ hdb => exact Or.inl (by rw [hdb])
      | perform _ _ _ _ _ _ hmarks =>
          cases hmarks with
          | already _ hdb => exact Or.inl (by rw [hdb])
          | completed credit hunpaid hc =>
              exact Or.inr (Or.inl ⟨_, _, _, completesWithin_of_marksPaid rfl hunpaid hc⟩)
          | flagged _ _ hdb => exact Or.inl (by rw [hdb])
  | wallet hw =>
      rcases hw.journal with hsame | haccepted
      · exact Or.inl hsame
      · exact Or.inr (Or.inr (Or.inr haccepted))

/-- A request that completes nothing records no completion. -/
theorem completes_or_completions (h : Effect cfg ctx db db' r) :
    (∃ method o credit, CompletesWithin ctx method o credit db db' r) ∨
      ∀ id, db'.completions id = db.completions id := by
  rcases journal_of_effect h with hj | hc | ⟨o, hj⟩ | ⟨w, row, hj⟩
  · exact Or.inr (completions_congr hj)
  · exact Or.inl hc
  · exact Or.inr fun id => (completions_append hj id).trans (List.append_nil _)
  · exact Or.inr fun id => (completions_append hj id).trans (List.append_nil _)

/-- A terminal status survives every request. -/
theorem statusOf_terminal_of_effect (h : Effect cfg ctx db db' r) {id : Uuid} {s : OrderStatus}
    (hs : s ∈ terminalOrderStatuses) (hst : db.statusOf id = some s) :
    db'.statusOf id = some s := by
  obtain ⟨o, hfind, rfl⟩ := Option.map_eq_some_iff.mp hst
  obtain ⟨o', hfind', hcase⟩ := status_step (orderStep_of_effect h id) hfind
  rw [DB.statusOf_of_find hfind']
  rcases hcase with hadmin | ⟨hactive, -⟩ | ⟨method, credit, hc, -⟩
  · rw [eq_of_canAdminSetStatus hadmin hs]
  · exact absurd hs (not_mem_terminal_of_active hactive)
  · rw [hc.found.2] at hs
    exact absurd hs (by decide)

/-- An order that a request brings to `completed` is completed within it. -/
theorem completes_of_statusOf (h : Effect cfg ctx db db' r) {id : Uuid}
    (hbefore : db.statusOf id ≠ some .completed) (hafter : db'.statusOf id = some .completed) :
    ∃ method o credit, o.id = id ∧ CompletesWithin ctx method o credit db db' r := by
  obtain ⟨o', hfind', hst'⟩ := Option.map_eq_some_iff.mp hafter
  have hstep := orderStep_of_effect h id
  cases hfind : db.orders.find? id with
  | none =>
      rw [hfind, hfind'] at hstep
      cases hstep with
      | created hc => exact absurd hst' hc.status_ne
  | some o =>
      have hne : o.status ≠ .completed := by
        intro hc
        exact hbefore (by rw [DB.statusOf_of_find hfind, hc])
      obtain ⟨o'', hfind'', hcase⟩ := status_step hstep hfind
      obtain rfl : o' = o'' := Option.some.inj (hfind'.symm.trans hfind'')
      rcases hcase with hadmin | ⟨-, hst⟩ | ⟨method, credit, hc, -⟩
      · rw [hst'] at hadmin
        exact absurd (eq_completed_of_canAdminSetStatus hadmin) hne
      · rw [hst'] at hst
        cases hst
      · exact ⟨method, o, credit, Table.key_of_find? hfind, hc⟩

/-- An order has one recorded completion when it is completed, else none. -/
def CompletedOnce (db : DB) : Prop :=
  ∀ id, (db.statusOf id ≠ some .completed ∧ db.completions id = []) ∨
    (db.statusOf id = some .completed ∧
      ∃ o credit, db.completions id = [(o, credit)] ∧ ProperCredit o credit)

theorem completedOnce_of_effect (h : Effect cfg ctx db db' r) (hi : CompletedOnce db) :
    CompletedOnce db' := by
  intro id
  by_cases hafter : db'.statusOf id = some .completed
  · by_cases hbefore : db.statusOf id = some .completed
    · -- completed before: the request cannot complete it again
      obtain ⟨hne, -⟩ | ⟨-, o, credit, hlist, hproper⟩ := hi id
      · exact absurd hbefore hne
      refine Or.inr ⟨hafter, o, credit, ?_, hproper⟩
      rcases completes_or_completions h with ⟨method, o', credit', hc⟩ | hsame
      · have hne : o'.id ≠ id := by
          rintro rfl
          rw [DB.statusOf_of_find hc.found.1, hc.found.2] at hbefore
          cases hbefore
        rw [hc.completions, if_neg hne, List.append_nil, hlist]
      · rw [hsame, hlist]
    · obtain ⟨-, hnil⟩ | ⟨hst, -⟩ := hi id
      · obtain ⟨method, o, credit, rfl, hc⟩ := completes_of_statusOf h hbefore hafter
        refine Or.inr ⟨hafter, completedOrder ctx method o, credit, ?_, hc.properCredit⟩
        rw [hc.completions, if_pos rfl, hnil, List.nil_append]
      · exact absurd hst hbefore
  · refine Or.inl ⟨hafter, ?_⟩
    have hbefore : db.statusOf id ≠ some .completed := fun hst =>
      hafter (statusOf_terminal_of_effect h (by decide) hst)
    obtain ⟨-, hnil⟩ | ⟨hst, -⟩ := hi id
    · rcases completes_or_completions h with ⟨method, o', credit', hc⟩ | hsame
      · have hne : o'.id ≠ id := by
          rintro rfl
          apply hafter
          rw [DB.statusOf_of_find ((hc.find? o'.id).trans (if_pos rfl))]
          rfl
        rw [hc.completions, if_neg hne, List.append_nil, hnil]
      · rw [hsame, hnil]
    · exact absurd hst hbefore

theorem completedOnce_of_reachable {w : World} (h : (backend cfg).Reachable w) :
    CompletedOnce w.db := by
  refine h.invariant (I := fun w => CompletedOnce w.db) ?_ ?_
  · rintro w ⟨horders, -, -, hjournal⟩ id
    left
    rw [DB.statusOf, horders, DB.completions, hjournal]
    constructor
    · intro h
      cases h
    · rfl
  · intro w l w' _ hi hstep
    exact completedOnce_of_effect hstep.effect hi

section OrderRequests

/-- The endpoints of the wallet app. -/
def Request.isWallet : Request → Bool
  | .walletView _ => true
  | .withdrawCreate _ _ => true
  | .dashboardWithdrawCreate _ _ _ _ => true
  | .dashboardWithdrawUpdate _ _ => true
  | .dashboardWithdrawDestroy _ => true
  | .handoverAccept _ _ => true
  | .handoverReject _ _ => true
  | .transactionCreate _ => true
  | .transactionUpdate _ _ => true
  | .transactionDestroy _ => true
  | _ => false

/-- The order and payment requests: every endpoint but those of the wallet app. -/
def orderRequests (cfg : Settings) : Transition.System World (Context × Request) :=
  (backend cfg).restrict fun _ l => l.2.isWallet = false

theorem creditRows_congr (h : db'.wallet.transactions = db.wallet.transactions) (id : Uuid) :
    db'.creditRows id = db.creditRows id := by
  unfold DB.creditRows
  rw [h]

theorem creditRows_of_posted {row : WalletTransaction}
    (h : Posted db.wallet db'.wallet row) (id : Uuid) :
    db'.creditRows id =
      db.creditRows id ++ if row.transactionType = .in ∧ row.order = some id then [row]
        else [] := by
  unfold DB.creditRows
  rw [(Table.insert?_eq_some_iff.mp h.transactions).2, List.filter_append]
  by_cases hrow : row.transactionType = .in ∧ row.order = some id
  · simp [hrow]
  · simp [hrow]

/-- An order or payment request adds incoming rows only by completing an order. -/
theorem creditRows_or_completes (h : Effect cfg ctx db db' r) (hr : r.isWallet = false) :
    (∃ method o credit, CompletesWithin ctx method o credit db db' r) ∨
      ∀ id, db'.creditRows id = db.creditRows id := by
  cases h with
  | frame hf => exact Or.inr (creditRows_congr (by rw [hf.wallet]))
  | create _ _ _ hw _ => exact Or.inr (creditRows_congr (by rw [hw]))
  | rewrite _ _ _ _ hw _ => exact Or.inr (creditRows_congr (by rw [hw]))
  | check _ _ _ _ _ hw _ => exact Or.inr (creditRows_congr (by rw [hw]))
  | pay hunpaid hc => exact Or.inl ⟨_, _, _, .cash, hunpaid, db, rfl, rfl, rfl, hc⟩
  | payme hp =>
      cases hp with
      | create _ _ _ _ _ _ _ hdb => exact Or.inr (creditRows_congr (by rw [hdb]))
      | expire _ _ _ _ hdb => exact Or.inr (creditRows_congr (by rw [hdb]))
      | cancel _ _ _ _ hdb => exact Or.inr (creditRows_congr (by rw [hdb]))
      | refund _ _ _ _ _ hdb => exact Or.inr (creditRows_congr (by rw [hdb]))
      | perform _ _ _ _ _ _ hmarks =>
          cases hmarks with
          | already _ hdb => exact Or.inr (creditRows_congr (by rw [hdb]))
          | completed credit hunpaid hc =>
              exact Or.inl ⟨_, _, _, completesWithin_of_marksPaid rfl hunpaid hc⟩
          | flagged _ _ hdb => exact Or.inr (creditRows_congr (by rw [hdb]))
  | wallet hw =>
      right
      cases hw with
      | opened ho _ => exact creditRows_congr ho.transactions
      | rejected _ _ hdb => exact creditRows_congr (by rw [hdb])
      | @accepted _ w note w₁ _ _ hp hdb =>
          intro id
          have hp' : Posted db.wallet ({ db with wallet := w₁ } : DB).wallet
              (handoverDebit ctx w) := hp
          have hrows := creditRows_of_posted hp' id
          rw [if_neg (by simp [handoverDebit]), List.append_nil] at hrows
          rw [← hrows, hdb]
          rfl
      | _ => cases hr

theorem creditRows_of_completes {method : PaymentType} {credit : Option WalletTransaction}
    (h : CompletesWithin ctx method o credit db db' r) (id : Uuid) :
    db'.creditRows id = db.creditRows id ++ if o.id = id then credit.toList else [] := by
  cases h.credits with
  | skipped _ hw =>
      rw [Option.toList_none, ite_self, List.append_nil]
      exact creditRows_congr (by rw [hw]) id
  | credited _ _ htype _ _ horder hp =>
      rw [creditRows_of_posted hp, htype, horder]
      simp

theorem completions_credits_of_completes {method : PaymentType}
    {credit : Option WalletTransaction} (h : CompletesWithin ctx method o credit db db' r)
    (id : Uuid) :
    (db'.completions id).filterMap Prod.snd =
      (db.completions id).filterMap Prod.snd ++ if o.id = id then credit.toList else [] := by
  rw [h.completions, List.filterMap_append]
  by_cases hid : o.id = id
  · rw [if_pos hid, if_pos hid]
    cases credit <;> rfl
  · rw [if_neg hid, if_neg hid, List.filterMap_nil]

/-- In a run of order and payment requests the incoming rows of an order are the
credits of its completions. -/
theorem creditRows_of_reachable {w : World} (h : (orderRequests cfg).Reachable w) (id : Uuid) :
    w.db.creditRows id = (w.db.completions id).filterMap Prod.snd := by
  refine h.invariant_of_guard
    (I := fun w => ∀ id, w.db.creditRows id = (w.db.completions id).filterMap Prod.snd) ?_ ?_ id
  · rintro w ⟨-, -, hwallet, hjournal⟩ id
    rw [DB.creditRows, hwallet, DB.completions, hjournal]
    rfl
  · intro w l w' _ hi hr hstep id
    rcases creditRows_or_completes hstep.effect hr with ⟨method, o, credit, hc⟩ | hrows
    · rw [creditRows_of_completes hc, completions_credits_of_completes hc, hi]
    · rcases completes_or_completions hstep.effect with ⟨method, o, credit, hc⟩ | hcompl
      · have hboth := hrows id
        rw [creditRows_of_completes hc] at hboth
        rw [hrows, completions_credits_of_completes hc, ← hi]
        exact hboth.symm
      · rw [hrows, hcompl, hi]

/-- Order completion and payout, at most once. In every run of order and payment
requests: (a) an order becomes completed only inside `completePaidOrder`, which
finds it awaiting payment and records the completion; (b) a terminal status
never changes; (c) the order has at most one incoming transaction, exactly one
when it completed with a master and a total, and that transaction carries the
total of that moment to the master, on the balance of the payment method. -/
theorem order_completes_once (cfg : Settings) {w : World} (h : (orderRequests cfg).Reachable w) :
    (∀ l w' id, (orderRequests cfg).step w l w' → w.db.statusOf id ≠ some .completed →
      w'.db.statusOf id = some .completed →
      ∃ method o credit db₁, PaysWith o method l.2 ∧ w.db.orders.find? id = some o ∧
        o.status = .awaitingPayment ∧ db₁.orders = w.db.orders ∧
        completePaidOrder l.1 id method db₁ = (.ok true, w'.db) ∧
        w'.db.completions id = [(completedOrder l.1 method o, credit)]) ∧
    (∀ w' id s, (orderRequests cfg).Leads w w' → s ∈ terminalOrderStatuses →
      w.db.statusOf id = some s → w'.db.statusOf id = some s) ∧
    ∀ id,
      (w.db.completions id ≠ [] ↔ w.db.statusOf id = some .completed) ∧
      (w.db.completions id).length ≤ 1 ∧ (w.db.creditRows id).length ≤ 1 ∧
      ((w.db.creditRows id).length = 1 ↔
        ∃ p ∈ w.db.completions id, p.1.master ≠ none ∧ p.1.totalAmount ≠ 0) ∧
      ∀ row ∈ w.db.creditRows id, ∃ p ∈ w.db.completions id,
        p.1.master = some row.master ∧ row.amount = p.1.totalAmount ∧
        ((p.1.paymentType = some .cash ∧ row.paymentMethod = .cash) ∨
          (p.1.paymentType = some .online ∧ row.paymentMethod = .online)) := by
  have hreach := h.of_restrict
  have honce := completedOnce_of_reachable hreach
  refine ⟨?_, ?_, ?_⟩
  · intro l w' id hstep hbefore hafter
    obtain ⟨method, o, credit, rfl, hc⟩ :=
      completes_of_statusOf hstep.2.effect hbefore hafter
    obtain ⟨db₁, horders, -, -, hcompletes⟩ := hc.completes
    obtain ⟨-, hnil⟩ | ⟨hst, -⟩ := honce o.id
    · refine ⟨method, o, credit, db₁, hc.pays, hc.found.1, hc.found.2, horders,
        hcompletes.run, ?_⟩
      rw [hc.completions, if_pos rfl, hnil, List.nil_append]
    · exact absurd hst hbefore
  · intro w' id s hl hs hst
    refine hl.stable (P := fun w => w.db.statusOf id = some s) ?_ h hst
    intro w₁ l w₂ _ hst' hstep
    exact statusOf_terminal_of_effect hstep.2.effect hs hst'
  · intro id
    have hrows := creditRows_of_reachable h id
    obtain ⟨hst, hnil⟩ | ⟨hst, o, credit, hlist, hproper⟩ := honce id
    · rw [hrows, hnil]
      simp [hst]
    · rw [hrows, hlist]
      cases hproper with
      | none hskip =>
          simp only [hst, List.filterMap_cons, List.filterMap_nil]
          rcases hskip with hm | hzero
          · simp [hm]
          · simp [hzero]
      | some hm hne hamount hmethod =>
          simp [hst, hm, hne, hamount, hmethod]

theorem order_completes_once_sample :
    ((Sample.world.run {} Sample.paidInCash).db.creditRows 10).length = 1 ∧
      (Sample.world.run {} Sample.paidInCash).db.completions 10 ≠ [] := by
  have hreach : (orderRequests {}).Reachable (Sample.world.run {} Sample.paidInCash) :=
    reachable_run_restrict (.init ⟨rfl, rfl, rfl, rfl⟩) (by decide) ⟨rfl, rfl, rfl, trivial⟩
  have honce := (order_completes_once {} hreach).2.2 10
  exact ⟨by decide, honce.1.mpr (by decide)⟩

end OrderRequests

end Homex
