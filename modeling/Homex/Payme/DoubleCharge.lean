import Homex.Orders.Completions
import Homex.Payme.OneTime

/-!
# Paying an order twice

`perform_transaction` marks the transaction performed before `mark_order_paid`
looks at the paid flag, so an open transaction of an order that was paid in the
meantime charges the client again. Runs in which no payment leaves another one
open behind it (`PaysAlone`) never charge a paid order.
-/

namespace Homex

namespace Payme

open Relational Action Orders

variable {cfg : Settings} {ctx : Context} {db db' : DB} {r : Request}

/-- No transaction is created for a paid order, and no payment, in cash or by a
transaction, is made while another transaction of the order is open. -/
structure PaysAlone (cfg : Settings) (w : World) (l : Context × Request) : Prop where
  create : ∀ tx o, CreatesTx cfg w.db l.2 tx o → o.isPaid = false
  cash : ∀ o, w.db.orders.find? o.id = some o →
    l.2 = .clientPay o.client o.id (.choice .cash) → o.status = .awaitingPayment →
    ∀ tx ∈ w.db.payme.rows, tx.order = o.id → tx.isOpen l.1.now = false
  perform : ∀ tx o, Performs l.1 w.db l.2 tx o →
    ∀ tx' ∈ w.db.payme.rows, tx'.order = tx.order → tx'.isOpen l.1.now = true → tx' = tx

/-- While every payment is made alone, the order of an open transaction is
unpaid. -/
theorem unpaid_of_open {w : World} (h : ((backend cfg).restrict (PaysAlone cfg)).Reachable w) :
    OpenHolds (fun _ o => o.isPaid = false) w := by
  refine h.invariant_of_guard (I := OpenHolds fun _ o => o.isPaid = false)
    (fun w hw => OpenHolds.init hw) ?_
  intro w l w' hreach hi halone hstep
  have hs := sound_of_reachable hreach
  refine hi.step hs hstep halone.create ?_
  intro tx o o' hmem hmem' hopen hfind hfind' hunpaid
  by_contra hpaid
  rw [Bool.not_eq_false] at hpaid
  have hid : o.id = tx.order := Table.key_of_find? hfind
  obtain ⟨hr, hst, -⟩ | ⟨tx₁, hp, horder, hsave⟩ :=
    (txStep_of_effect hs hstep.effect).pays hfind hfind' hunpaid hpaid
  · have hclosed := halone.cash o (hid ▸ hfind) hr hst tx hmem hid.symm
    rw [hopen] at hclosed
    cases hclosed
  · obtain rfl := halone.perform tx₁ o hp tx hmem horder.symm hopen
    -- the transaction was performed by this request, so it is no longer open
    rw [hsave, Table.mem_save] at hmem'
    rcases hmem' with ⟨-, hne⟩ | ⟨heq, -⟩
    · exact hne rfl
    · have hst := congrArg PaymeTransaction.state heq
      rw [(PaymeTransaction.isOpen_iff.mp hopen).1] at hst
      cases hst

/-- A transaction found in state 2 was there before, or has just been performed. -/
theorem TxStep.performed_of_mem (h : TxStep cfg ctx db db' r) {tx' : PaymeTransaction}
    (hmem' : tx' ∈ db'.payme.rows) (hperf : tx'.isPerformed = true) :
    tx' ∈ db.payme.rows ∨
      ∃ tx o, Performs ctx db r tx o ∧ tx.transactionId = tx'.transactionId ∧
        tx.order = tx'.order := by
  cases h with
  | same hpayme _ => exact Or.inl (hpayme ▸ hmem')
  | created hc hins _ =>
      rcases (Table.mem_insert? hins).mp hmem' with hold | rfl
      · exact Or.inl hold
      · simp [PaymeTransaction.isPerformed, hc.state] at hperf
  | cancelled _ _ _ hstate hsave _ =>
      rw [hsave, Table.mem_save] at hmem'
      rcases hmem' with ⟨hold, -⟩ | ⟨rfl, -⟩
      · exact Or.inl hold
      · exact absurd (PaymeTransaction.isActive_of_isPerformed hperf)
          (PaymeTransaction.not_isActive_of_isCancelled hstate)
  | refunded _ _ _ hstate hsave _ _ _ =>
      rw [hsave, Table.mem_save] at hmem'
      rcases hmem' with ⟨hold, -⟩ | ⟨rfl, -⟩
      · exact Or.inl hold
      · exact absurd (PaymeTransaction.isActive_of_isPerformed hperf)
          (PaymeTransaction.not_isActive_of_isCancelled hstate)
  | performed hp hsave _ _ _ _ =>
      rw [hsave, Table.mem_save] at hmem'
      rcases hmem' with ⟨hold, -⟩ | ⟨rfl, -⟩
      · exact Or.inl hold
      · exact Or.inr ⟨_, _, hp, rfl, rfl⟩

/-- A request that moves a transaction to state 2 performs it. -/
theorem TxStep.performs (h : TxStep cfg ctx db db' r) {tx tx' : PaymeTransaction}
    (hmem : tx ∈ db.payme.rows) (hmem' : tx' ∈ db'.payme.rows)
    (hid : tx'.transactionId = tx.transactionId) (hst : ¬tx.isPerformed = true)
    (hst' : tx'.isPerformed = true) : ∃ o, Performs ctx db r tx o := by
  have hfind := Table.find?_of_mem hmem
  obtain hold | ⟨tx₁, o, hp, hid₁, -⟩ := h.performed_of_mem hmem' hst'
  · have hfind' := Table.find?_of_mem hold
    rw [key_paymeTransaction, hid, ← key_paymeTransaction, hfind] at hfind'
    exact absurd (Option.some.inj hfind' ▸ hst') hst
  · rw [key_paymeTransaction, ← hid, ← hid₁] at hfind
    obtain rfl := Option.some.inj (hp.found.symm.trans hfind)
    exact ⟨o, hp⟩

theorem TxStep.has_performedOf (h : TxStep cfg ctx db db' r) {id : Uuid}
    (hhas : db'.payme.Has fun tx => performedOf id tx = true) :
    (db.payme.Has fun tx => performedOf id tx = true) ∨
      ∃ tx o, Performs ctx db r tx o ∧ tx.order = id := by
  obtain ⟨tx', hmem', hperf⟩ := hhas
  obtain ⟨horder, hperf'⟩ := performedOf_iff.mp hperf
  obtain hold | ⟨tx, o, hp, -, horder'⟩ := h.performed_of_mem hmem' hperf'
  · exact Or.inl ⟨tx', hold, hperf⟩
  · exact Or.inr ⟨tx, o, hp, horder'.trans horder⟩

/-- Transactions that are performed for unpaid orders only are performed once. -/
theorem PaidOnce.step (hflag : FlagSays db) (h : TxStep cfg ctx db db' r)
    (hunpaid : ∀ tx o, Performs ctx db r tx o → o.isPaid = false) (hi : PaidOnce db) :
    PaidOnce db' := by
  intro id
  cases h with
  | same hpayme _ =>
      rw [hpayme]
      exact hi id
  | created hc hins _ =>
      refine (hi id).insert? hins fun hperf => ?_
      have hperf := (performedOf_iff.mp hperf).2
      simp [PaymeTransaction.isPerformed, hc.state] at hperf
  | cancelled hfind _ _ hstate hsave _ =>
      rw [hsave]
      exact (hi id).save hfind fun hperf => absurd hperf (not_performedOf_of_isCancelled hstate)
  | refunded hfind _ _ hstate hsave _ _ _ =>
      rw [hsave]
      exact (hi id).save hfind fun hperf => absurd hperf (not_performedOf_of_isCancelled hstate)
  | @performed tx o _ hp hsave _ _ _ _ =>
      rw [hsave]
      by_cases horder : tx.order = id
      · have hfind := hp.orderFound
        rw [horder] at hfind
        refine Table.atMostOne_save fun hhas => ?_
        have hpaid := (hflag id o hfind).mpr (Or.inr hhas)
        rw [hunpaid tx o hp] at hpaid
        cases hpaid
      · exact (hi id).save hp.found fun hperf => absurd (performedOf_iff.mp hperf).1 horder

/-- An order that was completed in cash has no performed transaction. -/
def CashAlone (db : DB) : Prop :=
  ∀ id, ∀ p ∈ db.completions id, p.1.paymentType = some .cash →
    ¬db.payme.Has fun tx => performedOf id tx = true

theorem CashAlone.step (hflag : FlagSays db) (honce : CompletedOnce db)
    (he : Effect cfg ctx db db' r) (h : TxStep cfg ctx db db' r)
    (hunpaid : ∀ tx o, Performs ctx db r tx o → o.isPaid = false) (hi : CashAlone db) :
    CashAlone db' := by
  intro id p hp hcash hhas
  -- a completed order is paid, so neither a completion nor a perform follows one
  have hcompleted : ∀ o, db.orders.find? id = some o → db.completions id ≠ [] →
      o.isPaid = true := by
    intro o hfind hne
    obtain ⟨-, hnil⟩ | ⟨hst, -⟩ := honce id
    · exact absurd hnil hne
    · rw [DB.statusOf_of_find hfind] at hst
      exact (hflag id o hfind).mpr (Or.inl (Option.some.inj hst))
  have hold : p ∈ db.completions id ∨
      ∃ o, db.orders.find? id = some o ∧ o.isPaid = false ∧
        r = .clientPay o.client o.id (.choice .cash) := by
    rcases completes_or_completions he with ⟨method, o, credit, hc⟩ | hsame
    · rw [hc.completions, List.mem_append] at hp
      rcases hp with hp | hp
      · exact Or.inl hp
      · by_cases hid : o.id = id
        · rw [if_pos hid, List.mem_singleton] at hp
          subst hp
          obtain rfl : method = .cash := Option.some.inj hcash
          cases hc.pays with
          | cash => exact Or.inr ⟨o, hid ▸ hc.found.1, hc.unpaid, rfl⟩
        · rw [if_neg hid] at hp
          cases hp
    · exact Or.inl (hsame id ▸ hp)
  rcases h.has_performedOf hhas with hbefore | ⟨tx, o, hperforms, horder⟩
  · rcases hold with hold | ⟨o, hfind, hfalse, -⟩
    · exact hi id p hold hcash hbefore
    · have hpaid := (hflag id o hfind).mpr (Or.inr hbefore)
      rw [hfalse] at hpaid
      cases hpaid
  · rcases hold with hold | ⟨_, -, -, hr⟩
    · have hfind := hperforms.orderFound
      rw [horder] at hfind
      have hpaid := hcompleted o hfind (List.ne_nil_of_mem hold)
      rw [hunpaid tx o hperforms] at hpaid
      cases hpaid
    · obtain ⟨params, hr', -⟩ := hperforms.request
      rw [hr'] at hr
      cases hr

/-- While every payment is made alone, a performed transaction finds its order
unpaid. -/
theorem unpaid_of_performs {w : World}
    (h : ((backend cfg).restrict (PaysAlone cfg)).Reachable w) (hle : w.clock ≤ ctx.now)
    {tx : PaymeTransaction} {o : Order} (hp : Performs ctx w.db r tx o) : o.isPaid = false :=
  unpaid_of_open h tx (Table.mem_of_find? hp.found)
    (PaymeTransaction.isOpen_mono hle hp.isOpen) o hp.orderFound

theorem paidOnce_of_paysAlone {w : World}
    (h : ((backend cfg).restrict (PaysAlone cfg)).Reachable w) :
    FlagSays w.db ∧ PaidOnce w.db ∧ CashAlone w.db := by
  refine h.invariant (I := fun w => FlagSays w.db ∧ PaidOnce w.db ∧ CashAlone w.db) ?_ ?_
  · rintro w ⟨horders, hpayme, -, -⟩
    refine ⟨fun id o hfind => ?_, fun id => ?_, fun id p _ _ => ?_⟩
    · rw [horders] at hfind
      cases hfind
    · rw [hpayme]
      exact .empty
    · rw [hpayme]
      exact Table.not_has_empty
  · rintro w l w' hreach ⟨hflag, honce, hcash⟩ hstep
    have hs := sound_of_reachable hreach.of_restrict
    have htx := txStep_of_effect hs hstep.2.effect
    have hunpaid : ∀ tx o, Performs l.1 w.db l.2 tx o → o.isPaid = false :=
      fun tx o hp => unpaid_of_performs hreach hstep.2.clock_le hp
    exact ⟨hflag.step hs honce htx, honce.step hflag htx hunpaid,
      hcash.step hflag (completedOnce_of_reachable hreach.of_restrict) hstep.2.effect htx
        hunpaid⟩

/-- No double charge, in every run whose payments are made alone: a transaction
moves to state 2 only while its order is unpaid, and no order is paid twice,
neither by two transactions nor in cash and by a transaction. -/
theorem no_double_charge (cfg : Settings) {w : World}
    (h : ((backend cfg).restrict (PaysAlone cfg)).Reachable w) :
    (∀ l w' tx o, World.Step cfg w l w' → tx ∈ w.db.payme.rows → tx.state ≠ .successfully →
      (∃ tx' ∈ w'.db.payme.rows, tx'.transactionId = tx.transactionId ∧
        tx'.state = .successfully) →
      w.db.orders.find? tx.order = some o → o.isPaid = false) ∧
    ∀ id, w.db.payme.count (performedOf id) ≤ 1 ∧
      ∀ p ∈ w.db.completions id, p.1.paymentType = some .cash →
        w.db.payme.count (performedOf id) = 0 := by
  obtain ⟨-, honce, hcash⟩ := paidOnce_of_paysAlone h
  constructor
  · rintro l w' tx o hstep hmem hst ⟨tx', hmem', hid, hst'⟩ hfind
    have hs := sound_of_reachable h.of_restrict
    obtain ⟨o', hp⟩ := (txStep_of_effect hs hstep.effect).performs hmem hmem' hid
      (by simpa [PaymeTransaction.isPerformed] using hst)
      (by simpa [PaymeTransaction.isPerformed] using hst')
    obtain rfl := Option.some.inj (hfind.symm.trans hp.orderFound)
    exact unpaid_of_performs h hstep.clock_le hp
  · intro id
    refine ⟨(honce id).count_le_one, fun p hp hpay => ?_⟩
    exact Table.count_eq_zero_iff.mpr (hcash id p hp hpay)

/-- Enough for a payment to be made alone: there is one transaction at most, every
order is unpaid before a transaction is created, and none awaits payment when the
client chooses cash. -/
theorem PaysAlone.of_rows {w : World} {l : Context × Request}
    (hcreate : (∀ params, l.2 ≠ .paymeCreate params) ∨
      ∀ o ∈ w.db.orders.rows, o.isPaid = false)
    (hcash : (∀ client id, l.2 ≠ .clientPay client id (.choice .cash)) ∨
      ∀ o ∈ w.db.orders.rows, o.status ≠ .awaitingPayment)
    (hone : ∀ tx ∈ w.db.payme.rows, ∀ tx' ∈ w.db.payme.rows,
      tx'.transactionId = tx.transactionId) : PaysAlone cfg w l where
  create := by
    rintro tx o hc
    obtain ⟨params, hr, -⟩ := hc.request
    exact hcreate.resolve_left (fun hne => hne params hr) o (Table.mem_of_find? hc.found)
  cash := by
    intro o hfind hr hst
    exact absurd hst
      (hcash.resolve_left (fun hne => hne o.client o.id hr) o (Table.mem_of_find? hfind))
  perform := by
    rintro tx o hp tx' hmem' - -
    have hfind' := Table.find?_of_mem hmem'
    rw [key_paymeTransaction, hone tx (Table.mem_of_find? hp.found) tx' hmem', hp.found] at hfind'
    exact (Option.some.inj hfind').symm

/-- Payme performs the open transaction, and the client chooses cash too late. -/
def Sample.paidOnline : List (Context × Request) :=
  [(Sample.at_ 23, Sample.paymePerform), (Sample.at_ 24, .clientPay 1 10 (.choice .cash))]

/-- The order is unpaid when its transaction is performed, and paid once after
the client's choice. -/
theorem no_double_charge_sample :
    (∀ tx ∈ (Sample.world.run {} Sample.paymeOpened).db.payme.rows, ∀ o,
      (Sample.world.run {} Sample.paymeOpened).db.orders.find? tx.order = some o →
        o.isPaid = false) ∧
      ((Sample.world.run {} Sample.paymeOpened).run {} Sample.paidOnline).db.payme.count
        (performedOf 10) = 1 := by
  have hopened : ((backend {}).restrict (PaysAlone {})).Reachable
      (Sample.world.run {} Sample.paymeOpened) := by
    refine reachable_run_restrict (.init ⟨rfl, rfl, rfl, rfl⟩) (by decide)
      ⟨.of_rows (.inl ?_) (.inl ?_) (by decide), .of_rows (.inl ?_) (.inl ?_) (by decide),
        .of_rows (.inr (by decide)) (.inl ?_) (by decide), trivial⟩
    all_goals intros; rintro ⟨⟩
  have hpaid : ((backend {}).restrict (PaysAlone {})).Reachable
      ((Sample.world.run {} Sample.paymeOpened).run {} Sample.paidOnline) := by
    refine reachable_run_restrict hopened (by decide)
      ⟨.of_rows (.inl ?_) (.inl ?_) (by decide), .of_rows (.inl ?_) (.inr (by decide)) (by decide),
        trivial⟩
    all_goals intros; rintro ⟨⟩
  have hperformed : ∀ tx ∈ (Sample.world.run {} Sample.paymeOpened).db.payme.rows,
      tx.state ≠ .successfully ∧
        ∃ tx' ∈ ((Sample.world.run {} Sample.paymeOpened).next {}
          (Sample.at_ 23, Sample.paymePerform)).db.payme.rows,
          tx'.transactionId = tx.transactionId ∧ tx'.state = .successfully := by decide
  refine ⟨fun tx hmem o hfind => ?_, le_antisymm ((no_double_charge {} hpaid).2 10).1 (by decide)⟩
  exact (no_double_charge {} hopened).1 (Sample.at_ 23, Sample.paymePerform) _ tx o
    ⟨by decide, rfl, rfl⟩ hmem (hperformed tx hmem).1 (hperformed tx hmem).2 hfind

/-- The client pays in cash while a transaction is open. -/
def Sample.cashWhileOpen : List (Context × Request) :=
  Sample.awaiting ++ [(Sample.at_ 22, Sample.paymeCreate),
    (Sample.at_ 23, .clientPay 1 10 (.choice .cash))]

/-- Performing the transaction then charges the paid order. -/
theorem paid_order_charged :
    (backend {}).Reachable (Sample.world.run {} Sample.cashWhileOpen) ∧
      World.Step {} (Sample.world.run {} Sample.cashWhileOpen)
        (Sample.at_ 24, Sample.paymePerform)
        ((Sample.world.run {} Sample.cashWhileOpen).next {}
          (Sample.at_ 24, Sample.paymePerform)) ∧
      ((Sample.world.run {} Sample.cashWhileOpen).db.orders.find? 10).map Order.isPaid =
        some true ∧
      ((Sample.world.run {} Sample.cashWhileOpen).db.payme.find? "tx").map
        (fun tx => (tx.order, tx.state)) = some (10, .initiating) ∧
      (((Sample.world.run {} Sample.cashWhileOpen).next {}
        (Sample.at_ 24, Sample.paymePerform)).db.payme.find? "tx").map
          (fun tx => (tx.order, tx.state)) = some (10, .successfully) :=
  ⟨reachable_run Sample.reachable (by decide), ⟨by decide, rfl, rfl⟩, by decide, by decide,
    by decide⟩

end Payme

end Homex
