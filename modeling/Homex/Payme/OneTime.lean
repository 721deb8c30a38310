import Homex.Payme.Transactions

/-!
# One payment at a time, and the paid flag

With one-time payment an order has at most one transaction that is not
cancelled, and its paid flag is set exactly when it is completed or its
transaction is performed. The second law rests on the first: a refund unsets the
flag, so no other performed transaction may be left.
-/

namespace Homex

namespace Payme

open Relational Action Orders

variable {cfg : Settings} {ctx : Context} {db db' : DB} {r : Request}

/-- A transaction of the order in state 0, 1 or 2. -/
def activeOf (id : Uuid) (tx : PaymeTransaction) : Bool := tx.order = id && tx.isActive

/-- A transaction of the order in state 2. -/
def performedOf (id : Uuid) (tx : PaymeTransaction) : Bool := tx.order = id && tx.isPerformed

theorem activeOf_iff {id : Uuid} {tx : PaymeTransaction} :
    activeOf id tx = true ↔ tx.order = id ∧ tx.isActive = true := by
  simp [activeOf]

theorem performedOf_iff {id : Uuid} {tx : PaymeTransaction} :
    performedOf id tx = true ↔ tx.order = id ∧ tx.isPerformed = true := by
  simp [performedOf]

theorem PaymeTransaction.isActive_of_isPerformed {tx : PaymeTransaction}
    (h : tx.isPerformed = true) : tx.isActive = true := by
  simp only [isPerformed, decide_eq_true_eq] at h
  simp [isActive, h]

theorem PaymeTransaction.isActive_of_isOpen {tx : PaymeTransaction} {now : Int}
    (h : tx.isOpen now = true) : tx.isActive = true := by
  have hst := (isOpen_iff.mp h).1
  simp [isActive, hst]

/-- A cancelled transaction is not active. -/
theorem PaymeTransaction.not_isActive_of_isCancelled {tx : PaymeTransaction}
    (h : tx.isCancelled = true) : ¬tx.isActive = true := by
  simp only [isCancelled, decide_eq_true_eq] at h
  rcases h with h | h <;> simp [isActive, h]

theorem not_performedOf_of_isCancelled {id : Uuid} {tx : PaymeTransaction}
    (h : tx.isCancelled = true) : ¬performedOf id tx = true := by
  intro hperf
  exact PaymeTransaction.not_isActive_of_isCancelled h
    (PaymeTransaction.isActive_of_isPerformed (performedOf_iff.mp hperf).2)

theorem not_has_of_getActiveTransaction {id : Uuid} (h : getActiveTransaction db id = none) :
    ¬db.payme.Has fun tx => activeOf id tx = true := by
  rintro ⟨tx, hmem, hactive⟩
  rw [getActiveTransaction, List.getLast?_eq_none_iff, List.filter_eq_nil_iff] at h
  exact h tx hmem (decide_eq_true (activeOf_iff.mp hactive))

/-- Each order has at most one transaction that is not cancelled. -/
def Sole (db : DB) : Prop := ∀ id, db.payme.AtMostOne fun tx => activeOf id tx = true

theorem Sole.step (hone : cfg.paymeOneTimePayment = true) (h : TxStep cfg ctx db db' r)
    (hi : Sole db) : Sole db' := by
  intro id
  cases h with
  | same hpayme _ =>
      rw [hpayme]
      exact hi id
  | created hc hins _ =>
      refine (hi id).insert? hins fun hactive => ?_
      rw [← (activeOf_iff.mp hactive).1, hc.order]
      exact not_has_of_getActiveTransaction (hc.sole hone)
  | cancelled hfind _ _ hstate hsave _ =>
      rw [hsave]
      refine (hi id).save hfind fun hactive => ?_
      exact absurd (activeOf_iff.mp hactive).2 (PaymeTransaction.not_isActive_of_isCancelled hstate)
  | refunded hfind _ _ hstate hsave _ _ _ =>
      rw [hsave]
      refine (hi id).save hfind fun hactive => ?_
      exact absurd (activeOf_iff.mp hactive).2 (PaymeTransaction.not_isActive_of_isCancelled hstate)
  | performed hp hsave _ _ _ _ =>
      rw [hsave]
      refine (hi id).save hp.found fun hactive => ?_
      exact activeOf_iff.mpr
        ⟨(activeOf_iff.mp hactive).1, PaymeTransaction.isActive_of_isOpen hp.isOpen⟩

/-- Each order has at most one performed transaction. -/
def PaidOnce (db : DB) : Prop := ∀ id, db.payme.AtMostOne fun tx => performedOf id tx = true

theorem Sole.paidOnce (h : Sole db) : PaidOnce db := by
  intro id tx hmem tx' hmem' hperf hperf'
  rw [performedOf_iff] at hperf hperf'
  exact h id tx hmem tx' hmem'
    (activeOf_iff.mpr ⟨hperf.1, PaymeTransaction.isActive_of_isPerformed hperf.2⟩)
    (activeOf_iff.mpr ⟨hperf'.1, PaymeTransaction.isActive_of_isPerformed hperf'.2⟩)

/-- The paid flag of an order is what its status and its transactions say. -/
def FlagSays (db : DB) : Prop :=
  ∀ id o, db.orders.find? id = some o →
    (o.isPaid = true ↔
      o.status = .completed ∨ db.payme.Has fun tx => performedOf id tx = true)

/-- Rewriting a transaction of one order does not matter to another. -/
theorem has_save_of_ne {id : Uuid} {old : PaymeTransaction} (new : PaymeTransaction)
    (hfind : db.payme.find? new.transactionId = some old) (horder : new.order = old.order)
    (hne : old.order ≠ id) :
    ((db.payme.save new).Has fun tx => performedOf id tx = true) ↔
      db.payme.Has fun tx => performedOf id tx = true := by
  refine Table.has_save_of_not hfind (fun h => hne (performedOf_iff.mp h).1) fun h => ?_
  exact hne (horder.symm.trans (performedOf_iff.mp h).1)

theorem FlagSays.step (hs : Sound db) (honce : PaidOnce db) (h : TxStep cfg ctx db db' r)
    (hi : FlagSays db) : FlagSays db' := by
  intro id o' hfind'
  cases h with
  | same hpayme hflags =>
      have hflag := hflags id
      rw [hfind'] at hflag
      rw [hpayme]
      cases hfind : db.orders.find? id with
      | none =>
          rw [hfind] at hflag
          cases hflag with
          | created hunpaid hst =>
              refine iff_of_false (by rw [hunpaid]; exact Bool.false_ne_true) ?_
              rintro (h | ⟨tx, hmem, hperf⟩)
              · exact hst h
              · obtain ⟨o, ho⟩ := hs.order_exists tx hmem
                rw [(performedOf_iff.mp hperf).1, hfind] at ho
                cases ho
      | some o =>
          have hsays := hi id o hfind
          rw [hfind] at hflag
          cases hflag with
          | same => exact hsays
          | kept hpaid hst => rw [hpaid, hst]; exact hsays
          | completed _ _ _ hpaid hst => exact iff_of_true hpaid (Or.inl hst)
  | @created tx _ hc hins horders =>
      rw [horders] at hfind'
      have hnot : ¬performedOf id tx = true := by
        rw [performedOf_iff]
        simp [PaymeTransaction.isPerformed, hc.state]
      rw [Table.has_insert? hins, or_iff_left hnot]
      exact hi id o' hfind'
  | cancelled hfind _ hunperf hstate hsave horders =>
      rw [horders] at hfind'
      rw [hsave, Table.has_save_of_not hfind _ (not_performedOf_of_isCancelled hstate)]
      · exact hi id o' hfind'
      · intro hperf
        rw [performedOf_iff, hunperf] at hperf
        exact Bool.false_ne_true hperf.2
  | @refunded tx new o hfind horder hperf hstate hsave hfound hst horders =>
      have hid : o.id = tx.order := Table.key_of_find? hfound
      have hfound' : db.orders.find? o.id = some o := by
        rw [hid]
        exact hfound
      rw [horders, find?_of_save { o with isPaid := false } hfound' rfl, hid] at hfind'
      rw [hsave]
      by_cases heq : tx.order = id
      · rw [if_pos heq] at hfind'
        obtain rfl := Option.some.inj hfind'
        refine iff_of_false Bool.false_ne_true ?_
        rintro (h | h)
        · exact hst h
        · exact (honce id).not_has_save hfind (performedOf_iff.mpr ⟨heq, hperf⟩)
            (not_performedOf_of_isCancelled hstate) h
      · rw [if_neg heq] at hfind'
        rw [has_save_of_ne new hfind horder heq]
        exact hi id o' hfind'
  | @performed tx o₁ o₂ hp hsave horders hid hpaid _ =>
      have hid₁ : o₁.id = tx.order := Table.key_of_find? hp.orderFound
      have hfound' : db.orders.find? o₁.id = some o₁ := by
        rw [hid₁]
        exact hp.orderFound
      rw [horders, find?_of_save o₂ hfound' hid, hid₁] at hfind'
      rw [hsave]
      by_cases heq : tx.order = id
      · rw [if_pos heq] at hfind'
        obtain rfl := Option.some.inj hfind'
        refine iff_of_true hpaid (Or.inr (Table.has_save hp.found ?_))
        exact performedOf_iff.mpr ⟨heq, rfl⟩
      · rw [if_neg heq] at hfind'
        rw [has_save_of_ne { tx with state := .successfully, performedAt := some ctx.now }
          hp.found rfl heq]
        exact hi id o' hfind'

theorem sole_flagSays_of_reachable (hone : cfg.paymeOneTimePayment = true) {w : World}
    (h : (backend cfg).Reachable w) : Sole w.db ∧ FlagSays w.db := by
  refine h.invariant (I := fun w => Sole w.db ∧ FlagSays w.db) ?_ ?_
  · rintro w ⟨horders, hpayme, -, -⟩
    constructor
    · intro id
      rw [hpayme]
      exact .empty
    · intro id o hfind
      rw [horders] at hfind
      cases hfind
  · rintro w l w' hreach ⟨hsole, hflag⟩ hstep
    have hs := sound_of_reachable hreach
    have htx := txStep_of_effect hs hstep.effect
    exact ⟨hsole.step hone htx, hflag.step hs hsole.paidOnce htx⟩

/-- One-time payment and the paid flag: in every state a run reaches an order has
at most one transaction in state 0, 1 or 2, and is paid if and only if it is
completed or exactly one of its transactions is in state 2. -/
theorem one_time_payment (cfg : Settings) (hone : cfg.paymeOneTimePayment = true) {w : World}
    (h : (backend cfg).Reachable w) (id : Uuid) :
    w.db.payme.count (activeOf id) ≤ 1 ∧
      ∀ o, w.db.orders.find? id = some o →
        (o.isPaid = true ↔
          o.status = .completed ∨ w.db.payme.count (performedOf id) = 1) := by
  obtain ⟨hsole, hflag⟩ := sole_flagSays_of_reachable hone h
  refine ⟨(hsole id).count_le_one, fun o hfind => ?_⟩
  rw [(hsole.paidOnce id).count_eq_one_iff]
  exact hflag id o hfind

theorem one_time_payment_sample :
    ((Sample.world.run {} Sample.prepaid).db.orders.find? 10).map Order.isPaid = some true := by
  have hreach : (backend {}).Reachable (Sample.world.run {} Sample.prepaid) :=
    reachable_run Sample.reachable (by decide)
  have hsome : ((Sample.world.run {} Sample.prepaid).db.orders.find? 10).isSome = true := by
    decide
  obtain ⟨o, hfind⟩ := Option.isSome_iff_exists.mp hsome
  have hpaid := ((one_time_payment {} rfl hreach 10).2 o hfind).mpr (Or.inr (by decide))
  rw [hfind, Option.map_some, hpaid]

end Payme

end Homex
