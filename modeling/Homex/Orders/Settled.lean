import Homex.Orders.Completions
import Homex.Orders.Totals

/-!
# The total of a settled order

Nothing that writes a total asks whether the order is completed: equipment can be
used on it, and the dashboard and internal writes recalculate it. In runs that
write no other total to a completed order, its total is what its master was
credited.
-/

namespace Homex

open Relational Action Orders Wallet Payme

variable {cfg : Settings} {ctx : Context} {db db' : DB} {r : Request}

/-- The request writes no other total to a completed order. -/
def KeepsSettled (w : World) (l : Context × Request) : Prop :=
  ∀ o, w.db.orders.find? o.id = some o → o.status = .completed → l.2.KeepsTotal o

/-- The total of a completed order is the amount it was credited. -/
def Settled (db : DB) : Prop :=
  ∀ id o, db.orders.find? id = some o → o.status = .completed →
    ∀ p ∈ db.completions id, ∀ row, p.2 = some row → row.amount = o.totalAmount

theorem Settled.effect (honce : CompletedOnce db) (he : Effect cfg ctx db db' r)
    (hkeeps : ∀ o, db.orders.find? o.id = some o → o.status = .completed → r.KeepsTotal o)
    (hi : Settled db) : Settled db' := by
  intro id o' hfind' hst' p hp row hrow
  have hafter : db'.statusOf id = some .completed := by
    rw [DB.statusOf_of_find hfind', hst']
  by_cases hbefore : db.statusOf id = some .completed
  · -- completed before: it keeps its completion and its total
    obtain ⟨o, hfind, hst⟩ := Option.map_eq_some_iff.mp hbefore
    have hkey : o.id = id := Table.key_of_find? hfind
    have hstep := orderStep_of_effect he id
    rw [hfind, hfind'] at hstep
    rw [hstep.totalAmount (hkeeps o (hkey ▸ hfind) hst)]
    refine hi id o hfind hst p ?_ row hrow
    rcases completes_or_completions he with ⟨method, o₁, credit, hc⟩ | hsame
    · have hne : o₁.id ≠ id := by
        rintro rfl
        rw [DB.statusOf_of_find hc.found.1, hc.found.2] at hbefore
        cases hbefore
      rw [hc.completions, if_neg hne, List.append_nil] at hp
      exact hp
    · exact hsame id ▸ hp
  · obtain ⟨method, o, credit, hkey, hc⟩ := completes_of_statusOf he hbefore hafter
    rw [hc.find?, if_pos hkey] at hfind'
    obtain rfl := Option.some.inj hfind'
    obtain ⟨-, hnil⟩ | ⟨hst, -⟩ := honce id
    · rw [hc.completions, if_pos hkey, hnil, List.nil_append, List.mem_singleton] at hp
      subst hp
      obtain rfl : credit = some row := hrow
      cases hc.properCredit with
      | some _ _ hamount _ => exact hamount
    · exact absurd hst hbefore

/-- A settled order's amount is frozen, in every run that writes no other total
to a completed order: in each state the run reaches, a completed order that was
credited has the total of its credit. -/
theorem settled_total (cfg : Settings) {w : World}
    (h : ((backend cfg).restrict KeepsSettled).Reachable w) {id : Uuid} {o o₁ : Order}
    {row : WalletTransaction} (hfind : w.db.orders.find? id = some o)
    (hst : o.status = .completed) (hcredited : (o₁, some row) ∈ w.db.completions id) :
    o.totalAmount = row.amount := by
  have hsettled : Settled w.db := by
    refine h.invariant_of_guard (I := fun w => Settled w.db) ?_ ?_
    · rintro w ⟨horders, -, -, -⟩ id o hfind
      rw [horders] at hfind
      cases hfind
    · intro w l w' hreach hi hkeeps hstep
      exact hi.effect (completedOnce_of_reachable hreach) hstep.effect hkeeps
  exact (hsettled id o hfind hst (o₁, some row) hcredited row rfl).symm

/-- The order is completed with a credit for its master. -/
def Sample.completed : Order where
  id := 10
  client := 1
  master := some 2
  service := 4
  addressText := "Chilonzor"
  lat := 0
  lng := 0
  scheduledDate := 0
  scheduledTime := 0
  status := .completed
  paymentType := some .cash
  serviceFee := 100000
  totalAmount := 100000
  isPaid := true
  paidAt := some 30
  receiptApprovedAt := some 21
  receiptApprovedBy := some 2

/-- What the master was credited for it. -/
def Sample.credit : WalletTransaction where
  id := 30
  master := 2
  transactionType := .in
  amount := 100000
  description := "Konditsioner tozalash"
  paymentMethod := .cash
  order := some 10

theorem settled_total_sample : Sample.completed.totalAmount = Sample.credit.amount := by
  have hreach : ((backend {}).restrict KeepsSettled).Reachable
      (Sample.world.run {} Sample.paidInCash) := by
    refine reachable_run_restrict (.init ⟨rfl, rfl, rfl, rfl⟩) (by decide) ⟨?_, ?_, ?_, trivial⟩
    · rintro o - -
      trivial
    · rintro o - hst - -
      rw [hst]
      decide
    · rintro o - - - - hmethod
      exact absurd rfl hmethod
  exact settled_total {} hreach
    (show (Sample.world.run {} Sample.paidInCash).db.orders.find? 10 = some Sample.completed by
      decide) rfl
    (show (Sample.completed, some Sample.credit) ∈
      (Sample.world.run {} Sample.paidInCash).db.completions 10 by decide)

/-- The master uses a filter on the order after it was paid. -/
def Sample.usedAfterwards : List (Context × Request) :=
  Sample.paidInCash ++
    [(Sample.at_ 40, .useInventory 2 6 { quantity := ⟨100, Sample.piece_pos⟩, orderId := 10 })]

/-- Its total then exceeds what the client paid and the master was credited. -/
theorem settled_total_changed :
    (backend {}).Reachable (Sample.world.run {} Sample.usedAfterwards) ∧
      ((Sample.world.run {} Sample.usedAfterwards).db.orders.find? 10).map
        (fun o => (o.status, o.totalAmount)) = some (.completed, 102000) ∧
      (Sample.world.run {} Sample.usedAfterwards).db.completions 10 =
        [(Sample.completed, some Sample.credit)] ∧
      Sample.credit ∈ (Sample.world.run {} Sample.usedAfterwards).db.creditRows 10 :=
  ⟨reachable_run Sample.reachable (by decide), by decide, by decide, by decide⟩

end Homex
