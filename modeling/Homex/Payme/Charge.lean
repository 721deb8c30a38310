import Homex.Orders.Completions
import Homex.Orders.Totals
import Homex.Payme.Transactions

/-!
# What the client is charged and what the master is credited

The amount of a transaction is compared with the total of its order when the
transaction is created, and not again when it is performed. The two still agree
at the payment in runs that write no other total to an order while one of its
transactions is open.
-/

namespace Homex

namespace Payme

open Relational Action Orders Wallet

variable {cfg : Settings} {ctx : Context} {db db' : DB} {r : Request}

/-- The request writes no other total to an order with an open transaction. -/
def KeepsCharge (w : World) (l : Context × Request) : Prop :=
  ∀ tx ∈ w.db.payme.rows, tx.isOpen l.1.now = true →
    ∀ o, w.db.orders.find? tx.order = some o → l.2.KeepsTotal o

/-- While totals are kept, an open transaction has the amount of its order. -/
theorem amount_of_open {w : World} (h : ((backend cfg).restrict KeepsCharge).Reachable w) :
    OpenHolds (fun tx o => tx.amount = orderAmountTiyin o) w := by
  refine h.invariant_of_guard (I := OpenHolds fun tx o => tx.amount = orderAmountTiyin o)
    (fun w hw => OpenHolds.init hw) ?_
  intro w l w' hreach hi hkeeps hstep
  refine hi.step (sound_of_reachable hreach) hstep (fun tx o hc => hc.amount) ?_
  intro tx o o' hmem _ hopen hfind hfind' hamount
  have horder := orderStep_of_effect hstep.effect tx.order
  rw [hfind, hfind'] at horder
  have htotal := horder.totalAmount (hkeeps tx hmem hopen o hfind)
  rw [hamount, orderAmountTiyin, orderAmountTiyin, htotal]

/-- A completion by Payme performs the transaction the request names. -/
theorem performs_of_completes (hs : Sound db) (he : Effect cfg ctx db db' r) {params : Params}
    (hr : r = .paymePerform params) {tx : PaymeTransaction}
    (hid : params.id = some tx.transactionId)
    (hfind : db.payme.find? tx.transactionId = some tx) {method : PaymentType} {o : Order}
    {credit : Option WalletTransaction} (hc : CompletesWithin ctx method o credit db db' r) :
    Performs ctx db r tx o := by
  have hfind' : db'.orders.find? o.id = some (completedOrder ctx method o) := by
    rw [hc.find?, if_pos rfl]
  obtain ⟨hcash, -⟩ | ⟨tx₁, hp, -⟩ :=
    (txStep_of_effect hs he).pays hc.found.1 hfind' hc.unpaid rfl
  · rw [hr] at hcash
    cases hcash
  · obtain ⟨params₁, hr₁, hid₁⟩ := hp.request
    rw [hr] at hr₁
    cases hr₁
    rw [hid] at hid₁
    rw [Option.some.inj hid₁, hp.found] at hfind
    exact Option.some.inj hfind ▸ hp

/-- Payme creates the transaction of the order that awaits payment. -/
def Sample.charged : List (Context × Request) :=
  Sample.awaiting ++ [(Sample.at_ 22, Sample.paymeCreate)]

/-- The transaction as it is created. -/
def Sample.openTx : PaymeTransaction where
  transactionId := "tx"
  order := 10
  amount := 100000
  state := .initiating
  createdAt := 22

/-- The dashboard lowers the fee between the creation of the transaction and its
performing. -/
def Sample.lowered : List (Context × Request) :=
  Sample.charged ++ [(Sample.at_ 23, .dashboardUpdate 10 { serviceFee := some 50000 })]

end Payme

end Homex
