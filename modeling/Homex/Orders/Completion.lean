import Homex.Payme.Services
import Homex.Wallet.Ledger

/-!
# What a payment does to the tables

`Completes` relates the database before and after `completePaidOrder` completes
an order: the order row is rewritten, the completion is recorded, and `Credits`
says what happened to the wallets. `MarksPaid` is the same for `markOrderPaid`,
with its two other outcomes.
-/

namespace Homex

namespace Orders

open Relational Action Code Wallet

/-- The row of an order once it is completed. -/
def completedOrder (ctx : Context) (method : PaymentType) (o : Order) : Order :=
  { o with status := .completed, paymentType := some method, isPaid := true,
           paidAt := some ctx.now }

/-- The credit of a completion: nothing without a master or a total, else the
total to the master of the order. -/
inductive Credits (o : Order) (method : PaymentType) (w w' : WalletTables) :
    Option WalletTransaction → Prop
  | skipped : o.master = none ∨ o.totalAmount = 0 → w' = w → Credits o method w w' none
  | credited {row : WalletTransaction} : o.master = some row.master → o.totalAmount ≠ 0 →
      row.transactionType = .in → row.amount = o.totalAmount →
      row.paymentMethod = method.walletMethod → row.order = some o.id → Posted w w' row →
      Credits o method w w' (some row)

/-- `completePaidOrder` completed the awaiting order `o`, with the given credit. -/
structure Completes (ctx : Context) (method : PaymentType) (o : Order)
    (credit : Option WalletTransaction) (db db' : DB) : Prop where
  run : completePaidOrder ctx o.id method db = (.ok true, db')
  found : db.orders.find? o.id = some o
  awaiting : o.status = .awaitingPayment
  credits : Credits o method db.wallet db'.wallet credit
  eq : db' = { db with
    orders := db.orders.save (completedOrder ctx method o)
    wallet := db'.wallet
    journal := db.journal ++ [.completed (completedOrder ctx method o) credit] }

/-- What `markOrderPaid` does to the order `o`. -/
inductive MarksPaid (ctx : Context) (o : Order) (db db' : DB) : Prop
  | already (paid : o.isPaid = true) (eq : db' = db)
  | completed (credit : Option WalletTransaction) (unpaid : o.isPaid = false)
      (completes : Completes ctx .online o credit db db')
  | flagged (unpaid : o.isPaid = false) (status : o.status ≠ .awaitingPayment)
      (eq : db' = { db with
        orders := db.orders.save { o with isPaid := true, paidAt := some ctx.now } })

variable {ctx : Context} {db db' : DB}

theorem MarksPaid.payme_eq {o : Order} (h : MarksPaid ctx o db db') : db'.payme = db.payme := by
  cases h with
  | already _ eq => rw [eq]
  | completed _ _ completes => rw [completes.eq]
  | flagged _ _ eq => rw [eq]

theorem creditMaster_ok {o : Order} {method : PaymentType} {credit : Option WalletTransaction}
    (h : creditMaster ctx o method db = (.ok credit, db')) :
    ∃ w, db' = { db with wallet := w } ∧ Credits o method db.wallet w credit := by
  unfold creditMaster at h
  cases hm : o.master with
  | none =>
      rw [hm, pure_eq_ok] at h
      obtain ⟨rfl, rfl⟩ := h
      exact ⟨_, rfl, .skipped (Or.inl hm) rfl⟩
  | some master =>
      simp only [hm, ite_eq_ok, pure_eq_ok, bind_eq_ok, fetch_eq_ok] at h
      rcases h with ⟨hzero, rfl, rfl⟩ | ⟨hne, service, _, ⟨-, rfl⟩, row, _, hpost, rfl, rfl⟩
      · exact ⟨_, rfl, .skipped (Or.inr hzero) rfl⟩
      · obtain ⟨rfl, w, rfl, hposted⟩ := postWalletTransaction_ok hpost
        exact ⟨w, rfl, .credited hm hne rfl rfl rfl rfl hposted⟩

/-- A credit depends on the master and the total of the order only. -/
theorem Credits.of_completedOrder {o : Order} {method : PaymentType} {w w' : WalletTables}
    {credit : Option WalletTransaction}
    (h : Credits (completedOrder ctx method o) method w w' credit) :
    Credits o method w w' credit := by
  cases h with
  | skipped hskip hw => exact .skipped hskip hw
  | credited hm hne htype hamount hmethod horder hposted =>
      exact .credited hm hne htype hamount hmethod horder hposted

/-- `completePaidOrder` completes the order, or does nothing because the order
does not await payment. -/
theorem completePaidOrder_ok {pk : Uuid} {method : PaymentType} {b : Bool}
    (h : completePaidOrder ctx pk method db = (.ok b, db')) :
    ∃ o, db.orders.find? pk = some o ∧
      ((b = false ∧ o.status ≠ .awaitingPayment ∧ db' = db) ∨
        (b = true ∧ ∃ credit, Completes ctx method o credit db db')) := by
  have hrun := h
  simp only [completePaidOrder, atomic_eq_ok, bind_eq_ok, fetch_eq_ok, ite_eq_ok, pure_eq_ok,
    saveOrder, record, modify_eq_ok] at h
  obtain ⟨o, _, ⟨hfind, rfl⟩, ⟨hst, rfl, rfl⟩ | ⟨hst, _, _, rfl, credit, _, hcredit, _, _, rfl,
    rfl, rfl⟩⟩ := h
  · exact ⟨o, hfind, Or.inl ⟨rfl, hst, rfl⟩⟩
  · obtain ⟨w, rfl, hcredits⟩ := creditMaster_ok hcredit
    have hid : o.id = pk := Table.key_of_find? hfind
    refine ⟨o, hfind, Or.inr ⟨rfl, credit, ?_⟩⟩
    exact ⟨hid ▸ hrun, hid ▸ hfind, not_not.mp hst, hcredits.of_completedOrder, rfl⟩

end Orders

namespace Payme

open Relational Action Code Orders

theorem markOrderPaid_ok {ctx : Context} {db db' : DB} {o : Order} {u : Unit}
    (hfind : db.orders.find? o.id = some o) (h : markOrderPaid ctx o db = (.ok u, db')) :
    MarksPaid ctx o db db' := by
  simp only [markOrderPaid, ite_eq_ok, bind_eq_ok, pure_eq_ok, saveOrder, modify_eq_ok] at h
  obtain ⟨hpaid, -, rfl⟩ | ⟨hpaid, b, db₁, hcomplete, h⟩ := h
  · exact .already hpaid rfl
  have hunpaid : o.isPaid = false := by simpa using hpaid
  obtain ⟨o', hfind', ⟨rfl, hst, rfl⟩ | ⟨rfl, credit, hc⟩⟩ := completePaidOrder_ok hcomplete
  · obtain rfl : o = o' := Option.some.inj (hfind.symm.trans hfind')
    rcases h with ⟨-, rfl⟩ | ⟨hfalse, -⟩
    · exact .flagged hunpaid hst rfl
    · exact absurd rfl hfalse
  · obtain rfl : o = o' := Option.some.inj (hfind.symm.trans hfind')
    rcases h with ⟨htrue, -⟩ | ⟨-, -, rfl⟩
    · cases htrue
    · exact .completed credit hunpaid hc

/-- Unmarking leaves the flag unset. -/
theorem markOrderPaymentCancelled_ok {db db' : DB} {o : Order} {u : Unit}
    (hfind : db.orders.find? o.id = some o)
    (h : markOrderPaymentCancelled o db = (.ok u, db')) :
    db' = { db with orders := db.orders.save { o with isPaid := false } } := by
  simp only [markOrderPaymentCancelled, ite_eq_ok, pure_eq_ok, saveOrder, modify_eq_ok] at h
  rcases h with ⟨hunpaid, -, rfl⟩ | ⟨-, rfl⟩
  · have hsame : { o with isPaid := false } = o := by rw [← hunpaid]
    rw [hsame, Table.save_of_find? hfind]
  · rfl

end Payme

end Homex
