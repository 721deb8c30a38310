import Homex.Orders.Lifecycle

/-!
# The Payme transactions of a run

`TxStep` says what one request does to the transactions, and to the paid flags
of the orders with them: a transaction is created in state 1, cancelled,
refunded or performed. Every transaction belongs to an order that exists, and
none is in state 0.

A transaction is open while `perform_transaction` would still perform it. What
holds of every open transaction and its order is shown by the rule
`OpenHolds.step`.
-/

namespace Homex

namespace Payme

open Relational Action Orders

variable {cfg : Settings} {ctx : Context} {db db' : DB} {r : Request}

namespace PaymeTransaction

/-- Performing the transaction now would pay its order. -/
def isOpen (now : Int) (tx : PaymeTransaction) : Bool :=
  tx.isInitiating && !tx.isExpired now

variable {tx : PaymeTransaction} {now now' : Int}

theorem isOpen_iff : tx.isOpen now = true ↔ tx.state = .initiating ∧ tx.isExpired now = false := by
  simp [isOpen, isInitiating]

/-- A transaction does not open again. -/
theorem isOpen_mono (hle : now ≤ now') (h : tx.isOpen now' = true) : tx.isOpen now = true := by
  rw [isOpen_iff] at h ⊢
  refine ⟨h.1, ?_⟩
  have hexp := h.2
  simp only [isExpired, decide_eq_false_iff_not, not_lt] at hexp ⊢
  omega

theorem isCancelled_markAsCancelled (reason : Option Int) {state : State}
    (h : state = .canceled ∨ state = .canceledDuringInit) :
    (tx.markAsCancelled now reason state).isCancelled = true := by
  rw [isCancelled, markAsCancelled_state]
  exact decide_eq_true h

end PaymeTransaction

/-- What every reachable transaction table satisfies. -/
structure Sound (db : DB) : Prop where
  order_exists : ∀ tx ∈ db.payme.rows, ∃ o, db.orders.find? tx.order = some o
  started : ∀ tx ∈ db.payme.rows, tx.state ≠ .created

/-- The request creates the transaction for the order. -/
structure CreatesTx (cfg : Settings) (db : DB) (r : Request) (tx : PaymeTransaction)
    (o : Order) : Prop where
  request : ∃ params : Params, r = .paymeCreate params ∧ params.id = some tx.transactionId ∧
    params.orderId cfg = some o.id ∧ params.amount = some (some (orderAmountTiyin o))
  sole : cfg.paymeOneTimePayment = true → getActiveTransaction db o.id = none
  absent : db.payme.find? tx.transactionId = none
  found : db.orders.find? o.id = some o
  order : tx.order = o.id
  amount : tx.amount = orderAmountTiyin o
  state : tx.state = .initiating

/-- The request performs the open transaction of the order. -/
structure Performs (ctx : Context) (db : DB) (r : Request) (tx : PaymeTransaction)
    (o : Order) : Prop where
  request : ∃ params : Params, r = .paymePerform params ∧ params.id = some tx.transactionId
  found : db.payme.find? tx.transactionId = some tx
  isOpen : tx.isOpen ctx.now = true
  orderFound : db.orders.find? tx.order = some o

/-- What a request that leaves the transactions alone does to one order: it
keeps the paid flag, or completes the order in cash. -/
inductive FlagStep (r : Request) : Option Order → Option Order → Prop
  | same {o? : Option Order} : FlagStep r o? o?
  | created {o : Order} : o.isPaid = false → o.status ≠ .completed → FlagStep r none (some o)
  | kept {o o' : Order} : o'.isPaid = o.isPaid →
      (o'.status = .completed ↔ o.status = .completed) → FlagStep r (some o) (some o')
  | completed {o o' : Order} : r = .clientPay o.client o.id (.choice .cash) →
      o.status = .awaitingPayment → o.isPaid = false → o'.isPaid = true →
      o'.status = .completed → FlagStep r (some o) (some o')

/-- What a request does to the transactions. -/
inductive TxStep (cfg : Settings) (ctx : Context) (db db' : DB) (r : Request) : Prop
  | same (payme : db'.payme = db.payme)
      (flags : ∀ id, FlagStep r (db.orders.find? id) (db'.orders.find? id))
  | created {tx : PaymeTransaction} {o : Order} (creates : CreatesTx cfg db r tx o)
      (inserted : db.payme.insert? tx = some db'.payme) (orders : db'.orders = db.orders)
  | cancelled {tx new : PaymeTransaction} (found : db.payme.find? new.transactionId = some tx)
      (order : new.order = tx.order) (unperformed : tx.isPerformed = false)
      (state : new.isCancelled = true) (saved : db'.payme = db.payme.save new)
      (orders : db'.orders = db.orders)
  | refunded {tx new : PaymeTransaction} {o : Order}
      (found : db.payme.find? new.transactionId = some tx) (order : new.order = tx.order)
      (performed : tx.isPerformed = true) (state : new.isCancelled = true)
      (saved : db'.payme = db.payme.save new) (orderFound : db.orders.find? tx.order = some o)
      (status : o.status ≠ .completed)
      (orders : db'.orders = db.orders.save { o with isPaid := false })
  | performed {tx : PaymeTransaction} {o o' : Order} (performs : Performs ctx db r tx o)
      (saved : db'.payme =
        db.payme.save { tx with state := .successfully, performedAt := some ctx.now })
      (orders : db'.orders = db.orders.save o') (orderId : o'.id = o.id)
      (paid : o'.isPaid = true)
      (status : o'.status = o.status ∨ o.status = .awaitingPayment ∧ o'.status = .completed)

section Steps

theorem flagStep_of_save {o o' : Order} (hfind : db.orders.find? o.id = some o)
    (horders : db'.orders = db.orders.save o') (hid : o'.id = o.id)
    (hstep : FlagStep r (some o) (some o')) (id : Uuid) :
    FlagStep r (db.orders.find? id) (db'.orders.find? id) := by
  have hfind' : db.orders.find? (key o') = some o := by
    rw [key_order, hid]
    exact hfind
  rw [horders]
  exact Table.rel_of_save (fun _ => .same) hfind' hstep id

/-- An admin write leaves an order completed or not as it was. -/
theorem completed_iff_of_canAdminSetStatus {s t : OrderStatus}
    (h : canAdminSetStatus s t = true) : t = .completed ↔ s = .completed := by
  revert h
  cases s <;> cases t <;> decide

theorem txStep_of_performed (hs : Sound db) {params : Params} {tx : PaymeTransaction} {o : Order}
    (hr : r = .paymePerform params) (hid : params.id = some tx.transactionId)
    (hfind : db.payme.find? tx.transactionId = some tx) (hperf : tx.isPerformed = false)
    (hcanc : tx.isCancelled = false) (hexp : tx.isExpired ctx.now = false)
    (horder : db.orders.find? tx.order = some o)
    (hmarks : MarksPaid ctx o { db with payme := db.payme.save (tx.markAsPerformed ctx.now) } db') :
    TxStep cfg ctx db db' r := by
  have hst := PaymeTransaction.state_eq_initiating
    (hs.started tx (Table.mem_of_find? hfind)) hperf hcanc
  have hperforms : Performs ctx db r tx o :=
    ⟨⟨params, hr, hid⟩, hfind, PaymeTransaction.isOpen_iff.mpr ⟨hst, hexp⟩, horder⟩
  have hsave : db'.payme = db.payme.save (tx.markAsPerformed ctx.now) := hmarks.payme_eq
  rw [PaymeTransaction.markAsPerformed_of_initiating _ hst] at hsave
  have hfind' : db.orders.find? o.id = some o := by
    have hkey : o.id = tx.order := Table.key_of_find? horder
    rw [hkey]
    exact horder
  cases hmarks with
  | already paid eq =>
      have horders : db'.orders = db.orders.save o := by
        rw [eq, Table.save_of_find? hfind']
      exact .performed hperforms hsave horders rfl paid (Or.inl rfl)
  | completed credit unpaid hc =>
      have horders : db'.orders = db.orders.save (completedOrder ctx .online o) := by rw [hc.eq]
      exact .performed hperforms hsave horders rfl rfl (Or.inr ⟨hc.awaiting, rfl⟩)
  | flagged unpaid status eq =>
      have horders : db'.orders =
          db.orders.save { o with isPaid := true, paidAt := some ctx.now } := by rw [eq]
      exact .performed hperforms hsave horders rfl rfl (Or.inl rfl)

theorem txStep_of_effect (hs : Sound db) (h : Effect cfg ctx db db' r) :
    TxStep cfg ctx db db' r := by
  cases h with
  | frame hf =>
      refine .same hf.payme fun id => ?_
      rw [hf.orders]
      exact .same
  | create hc hins hpayme _ _ =>
      refine .same hpayme fun id => ?_
      have hnone := (Table.insert?_eq_some_iff.mp hins).1
      rw [Table.find?_insert? hins]
      split
      · next hid =>
          rw [← hid, hnone]
          exact .created hc.isPaid hc.status_ne
      · exact .same
  | rewrite hr hfind horders hpayme _ _ =>
      exact .same hpayme (flagStep_of_save hfind horders hr.id_eq
        (.kept hr.isPaid (completed_iff_of_canAdminSetStatus hr.status)))
  | check hfind hst _ horders hpayme _ _ =>
      refine .same hpayme (flagStep_of_save hfind horders rfl (.kept rfl ?_))
      refine iff_of_false (fun h => ?_) (fun h => ?_)
      · cases h
      · rw [h] at hst
        exact absurd hst (by decide)
  | @pay o _ hunpaid hc =>
      have hpayme : db'.payme = db.payme := by rw [hc.eq]
      have horders : db'.orders = db.orders.save (completedOrder ctx .cash o) := by rw [hc.eq]
      exact .same hpayme (flagStep_of_save hc.found horders rfl 
        (.completed rfl hc.awaiting hunpaid rfl rfl))
  | wallet hw =>
      refine .same (by rw [hw.eq]) fun id => ?_
      rw [hw.eq]
      exact .same
  | payme hp =>
      cases hp with
      | create hid horder hamount habsent hfind hsole hins hdb =>
          subst hdb
          exact .created ⟨⟨_, rfl, hid, horder, hamount⟩, hsole, habsent, hfind, rfl, rfl, rfl⟩
            hins rfl
      | expire hfind hperf _ _ hdb =>
          subst hdb
          exact .cancelled (by rw [PaymeTransaction.markAsCancelled_transactionId]; exact hfind)
            (PaymeTransaction.markAsCancelled_order ..) hperf
            (PaymeTransaction.isCancelled_markAsCancelled _ (Or.inr rfl)) rfl rfl
      | cancel _ hfind hperf _ hdb =>
          subst hdb
          exact .cancelled (by rw [PaymeTransaction.markAsCancelled_transactionId]; exact hfind)
            (PaymeTransaction.markAsCancelled_order ..) hperf
            (PaymeTransaction.isCancelled_markAsCancelled _ (Or.inr rfl)) rfl rfl
      | refund _ hfind hperf horder hst hdb =>
          subst hdb
          exact .refunded (by rw [PaymeTransaction.markAsCancelled_transactionId]; exact hfind)
            (PaymeTransaction.markAsCancelled_order ..) hperf
            (PaymeTransaction.isCancelled_markAsCancelled _ (Or.inl rfl)) rfl horder hst rfl
      | perform hid hfind hperf hcanc hexp horder hmarks =>
          exact txStep_of_performed hs rfl hid hfind hperf hcanc hexp horder hmarks

/-- A transaction found after a request was there before, was moved by it to an
end state, or was created by it. -/
theorem TxStep.origin (h : TxStep cfg ctx db db' r) {tx : PaymeTransaction}
    (hmem : tx ∈ db'.payme.rows) :
    tx ∈ db.payme.rows ∨
      (∃ old ∈ db.payme.rows, tx.order = old.order ∧
        (tx.isPerformed = true ∨ tx.isCancelled = true)) ∨
      ∃ o, CreatesTx cfg db r tx o ∧ db'.orders = db.orders := by
  cases h with
  | same hpayme _ => exact Or.inl (hpayme ▸ hmem)
  | created hc hins horders =>
      rcases (Table.mem_insert? hins).mp hmem with hold | rfl
      · exact Or.inl hold
      · exact Or.inr (Or.inr ⟨_, hc, horders⟩)
  | cancelled hfind horder _ hstate hsave _ =>
      rw [hsave, Table.mem_save] at hmem
      rcases hmem with ⟨hold, -⟩ | ⟨rfl, -⟩
      · exact Or.inl hold
      · exact Or.inr (Or.inl ⟨_, Table.mem_of_find? hfind, horder, Or.inr hstate⟩)
  | refunded hfind horder _ hstate hsave _ _ _ =>
      rw [hsave, Table.mem_save] at hmem
      rcases hmem with ⟨hold, -⟩ | ⟨rfl, -⟩
      · exact Or.inl hold
      · exact Or.inr (Or.inl ⟨_, Table.mem_of_find? hfind, horder, Or.inr hstate⟩)
  | performed hp hsave _ _ _ _ =>
      rw [hsave, Table.mem_save] at hmem
      rcases hmem with ⟨hold, -⟩ | ⟨rfl, -⟩
      · exact Or.inl hold
      · exact Or.inr (Or.inl ⟨_, Table.mem_of_find? hp.found, rfl, Or.inl rfl⟩)

end Steps

theorem Sound.effect (hs : Sound db) (h : Effect cfg ctx db db' r) : Sound db' := by
  constructor
  · intro tx hmem
    obtain hold | ⟨old, hold, horder, -⟩ | ⟨o, hc, -⟩ := (txStep_of_effect hs h).origin hmem
    · obtain ⟨o, hfind⟩ := hs.order_exists tx hold
      exact find?_order_of_effect h hfind
    · obtain ⟨o, hfind⟩ := hs.order_exists old hold
      rw [horder]
      exact find?_order_of_effect h hfind
    · rw [hc.order]
      exact find?_order_of_effect h hc.found
  · intro tx hmem hst
    obtain hold | ⟨old, -, -, hmoved⟩ | ⟨o, hc, -⟩ := (txStep_of_effect hs h).origin hmem
    · exact hs.started tx hold hst
    · simp [PaymeTransaction.isPerformed, PaymeTransaction.isCancelled, hst] at hmoved
    · rw [hc.state] at hst
      cases hst

theorem sound_of_reachable {w : World} (h : (backend cfg).Reachable w) : Sound w.db := by
  refine h.invariant (I := fun w => Sound w.db) ?_ ?_
  · rintro w ⟨-, hpayme, -, -⟩
    constructor
    · intro tx hmem
      rw [hpayme] at hmem
      cases hmem
    · intro tx hmem
      rw [hpayme] at hmem
      cases hmem
  · intro w l w' _ hi hstep
    exact hi.effect hstep.effect

/-- An order becomes paid by a cash payment or by a performed transaction. -/
theorem TxStep.pays (h : TxStep cfg ctx db db' r) {id : Uuid} {o o' : Order}
    (hfind : db.orders.find? id = some o) (hfind' : db'.orders.find? id = some o')
    (hunpaid : o.isPaid = false) (hpaid : o'.isPaid = true) :
    (r = .clientPay o.client o.id (.choice .cash) ∧ o.status = .awaitingPayment ∧
        db'.payme = db.payme) ∨
      ∃ tx, Performs ctx db r tx o ∧ tx.order = id ∧
        db'.payme =
          db.payme.save { tx with state := .successfully, performedAt := some ctx.now } := by
  have hsame : db'.orders.find? id = db.orders.find? id → False := by
    intro heq
    rw [hfind, hfind'] at heq
    rw [Option.some.inj heq, hunpaid] at hpaid
    cases hpaid
  cases h with
  | same hpayme hflags =>
      have hflag := hflags id
      rw [hfind, hfind'] at hflag
      cases hflag with
      | same => exact (hsame (hfind'.trans hfind.symm)).elim
      | kept hkept _ =>
          rw [hpaid, hunpaid] at hkept
          cases hkept
      | completed hr hst _ _ _ => exact Or.inl ⟨hr, hst, hpayme⟩
  | created _ _ horders => exact (hsame (by rw [horders])).elim
  | cancelled _ _ _ _ _ horders => exact (hsame (by rw [horders])).elim
  | @refunded tx _ o₁ _ _ _ _ _ hfind₁ _ horders =>
      exfalso
      rw [horders] at hfind'
      have hid : o₁.id = tx.order := Table.key_of_find? hfind₁
      have hfound : db.orders.find? o₁.id = some o₁ := by
        rw [hid]
        exact hfind₁
      by_cases heq : o₁.id = id
      · rw [find?_of_save { o₁ with isPaid := false } hfound rfl id, if_pos heq] at hfind'
        rw [← Option.some.inj hfind'] at hpaid
        cases hpaid
      · exact hsame (by rw [horders]; exact Table.find?_save_of_ne heq)
  | @performed tx o₁ o₂ hp hsave horders hid _ _ =>
      have hkey : o₁.id = tx.order := Table.key_of_find? hp.orderFound
      by_cases heq : tx.order = id
      · obtain rfl : o₁ = o := by
          have hfound := hp.orderFound
          rw [heq, hfind] at hfound
          exact (Option.some.inj hfound).symm
        exact Or.inr ⟨tx, hp, heq, hsave⟩
      · refine (hsame ?_).elim
        rw [horders]
        exact Table.find?_save_of_ne (by rw [key_order, hid, hkey]; exact heq)

/-- `P` holds of every open transaction and its order. -/
def OpenHolds (P : PaymeTransaction → Order → Prop) (w : World) : Prop :=
  ∀ tx ∈ w.db.payme.rows, tx.isOpen w.clock = true →
    ∀ o, w.db.orders.find? tx.order = some o → P tx o

theorem OpenHolds.init {P : PaymeTransaction → Order → Prop} {w : World} (h : w.Initial) :
    OpenHolds P w := by
  intro tx hmem
  rw [h.2.1] at hmem
  cases hmem

/-- What holds of a transaction and its order when the transaction is created,
and is kept while it stays open, holds of every open transaction. -/
theorem OpenHolds.step {P : PaymeTransaction → Order → Prop} {w w' : World}
    {l : Context × Request} (hs : Sound w.db) (hstep : World.Step cfg w l w')
    (hi : OpenHolds P w) (hcreate : ∀ tx o, CreatesTx cfg w.db l.2 tx o → P tx o)
    (hkeep : ∀ tx o o', tx ∈ w.db.payme.rows → tx ∈ w'.db.payme.rows →
      tx.isOpen l.1.now = true → w.db.orders.find? tx.order = some o →
      w'.db.orders.find? tx.order = some o' → P tx o → P tx o') :
    OpenHolds P w' := by
  intro tx hmem hopen o' hfind'
  rw [hstep.clock] at hopen
  obtain hold | ⟨-, -, -, hmoved⟩ | ⟨o, hc, horders⟩ :=
    (txStep_of_effect hs hstep.effect).origin hmem
  · obtain ⟨o, hfind⟩ := hs.order_exists tx hold
    have hP := hi tx hold (PaymeTransaction.isOpen_mono hstep.clock_le hopen) o hfind
    exact hkeep tx o o' hold hmem hopen hfind hfind' hP
  · have hst := (PaymeTransaction.isOpen_iff.mp hopen).1
    simp [PaymeTransaction.isPerformed, PaymeTransaction.isCancelled, hst] at hmoved
  · rw [horders, hc.order, hc.found] at hfind'
    exact Option.some.inj hfind' ▸ hcreate tx o hc

end Payme

end Homex
