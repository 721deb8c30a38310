import Homex.Orders.Completions

/-!
# Paid checks that cannot be paid

The webhook takes a payment for an order in any status, and only sets the paid
flag when the order does not await payment. A check submitted afterwards leaves
the order awaiting a payment that both payment flows refuse. Runs that put no
paid order into `awaiting_payment` do not reach such an order.
-/

namespace Homex

namespace Payme

open Relational Action Orders Wallet

variable {cfg : Settings} {ctx : Context} {db db' : DB} {r : Request} {o o' : Order}

/-- The order awaits a payment it already has. -/
def Stuck (o : Order) : Prop := o.status = .awaitingPayment ∧ o.isPaid = true

/-- The request does not put the order, if it is paid, into `awaiting_payment`. -/
def SubmitsUnpaid (o : Order) : Request → Prop
  | .masterComplete user pk _ =>
      pk = o.id → o.master = some user → o.status ∈ activeOrderStatuses → o.isPaid = false
  | .dashboardStatus pk data =>
      pk = o.id → data.status = .awaitingPayment →
        canAdminSetStatus o.status .awaitingPayment = true → o.isPaid = false
  | .dashboardUpdate pk data =>
      pk = o.id → data.status = some .awaitingPayment →
        canAdminSetStatus o.status .awaitingPayment = true → o.isPaid = false
  | _ => True

theorem not_stuck_of_unpaid (h : o.isPaid = false) : ¬Stuck o := by
  rintro ⟨-, hpaid⟩
  rw [h] at hpaid
  cases hpaid

theorem not_stuck_of_status (h : o.status ≠ .awaitingPayment) : ¬Stuck o := fun hs => h hs.1

theorem not_stuck_of_rewrites (h : Rewrites ctx r o o') (hk : SubmitsUnpaid o r)
    (hi : ¬Stuck o) : ¬Stuck o' := by
  rintro ⟨hst, hpaid⟩
  rw [h.isPaid] at hpaid
  have hunpaid : o.isPaid = false → False := by
    intro hfalse
    rw [hpaid] at hfalse
    cases hfalse
  cases h with
  | cancel _ => cases hst
  | payOnline hold _ => exact hi ⟨hold, hpaid⟩
  | accept _ => cases hst
  | onWay _ => cases hst
  | start _ => cases hst
  | reject _ => cases hst
  | confirm _ => exact hi ⟨hst, hpaid⟩
  | useInventory _ _ => exact hi ⟨hst, hpaid⟩
  | @dashboardUpdate data _ _ hdata hadmin =>
      rw [(dashboardUpdated_columns o hdata).1] at hst
      rw [hst] at hadmin
      cases hs : data.status with
      | none =>
          rw [hs, Option.getD_none] at hst
          exact hi ⟨hst, hpaid⟩
      | some s =>
          rw [hs, Option.getD_some] at hst
          exact hunpaid (hk rfl (by rw [hs, hst]) hadmin)
  | @dashboardStatus data _ _ _ hadmin =>
      change data.status = .awaitingPayment at hst
      rw [hst] at hadmin
      exact hunpaid (hk rfl hst hadmin)
  | internalUpdate _ => exact hi ⟨awaiting_of_internal hst, hpaid⟩
  | internalAssign =>
      unfold InternalApi.assigned at hst
      split at hst
      · cases hst
      · exact hi ⟨hst, hpaid⟩

theorem not_stuck_of_orderStep {o? : Option Order} (h : OrderStep ctx db db' r o? (some o'))
    (hk : ∀ o, o? = some o → SubmitsUnpaid o r) (hi : ∀ o, o? = some o → ¬Stuck o) :
    ¬Stuck o' := by
  cases h with
  | same => exact hi o' rfl
  | created hc => exact not_stuck_of_unpaid hc.isPaid
  | @rewritten o _ hr => exact not_stuck_of_rewrites hr (hk o rfl) (hi o rfl)
  | @checked user data _ o hr hst hmaster =>
      subst hr
      exact not_stuck_of_unpaid (hk o rfl rfl hmaster hst)
  | completed _ =>
      refine not_stuck_of_status fun hst => ?_
      cases hst
  | flagged _ _ hst => exact not_stuck_of_status hst
  | unflagged _ _ => exact not_stuck_of_unpaid rfl

/-- The request puts no paid order into `awaiting_payment`. -/
def ChecksUnpaid (w : World) (l : Context × Request) : Prop :=
  ∀ o, w.db.orders.find? o.id = some o → SubmitsUnpaid o l.2

/-- No stuck paid check, in every run that puts no paid order into
`awaiting_payment`. -/
theorem no_stuck_check (cfg : Settings) {w : World}
    (h : ((backend cfg).restrict ChecksUnpaid).Reachable w) {id : Uuid} {o : Order}
    (hfind : w.db.orders.find? id = some o) :
    ¬(o.status = .awaitingPayment ∧ o.isPaid = true) := by
  refine h.invariant_of_guard
    (I := fun w => ∀ id o, w.db.orders.find? id = some o → ¬Stuck o) ?_ ?_ id o hfind
  · rintro w ⟨horders, -, -, -⟩ id o hfind
    rw [horders] at hfind
    cases hfind
  · intro w l w' _ hi hk hstep id o' hfind'
    have horder := orderStep_of_effect hstep.effect id
    rw [hfind'] at horder
    refine not_stuck_of_orderStep horder (fun o hfind => ?_) (fun o hfind => hi id o hfind)
    have hkey : o.id = id := Table.key_of_find? hfind
    exact hk o (hkey ▸ hfind)

theorem no_stuck_check_sample :
    ((Sample.world.run {} Sample.awaiting).db.orders.find? 10).map Order.isPaid = some false := by
  have hreach : ((backend {}).restrict ChecksUnpaid).Reachable
      (Sample.world.run {} Sample.awaiting) := by
    refine reachable_run_restrict (.init ⟨rfl, rfl, rfl, rfl⟩) (by decide)
      ⟨fun _ _ => trivial, ?_, trivial⟩
    intro o hfind hid _ _
    rw [← hid] at hfind
    have hpaid : ((Sample.world.run {} Sample.accepted).db.orders.find? 10).map
        Order.isPaid = some false := by decide
    rw [show (Sample.world.run {} Sample.accepted).db.orders.find? 10 = some o from hfind,
      Option.map_some] at hpaid
    exact Option.some.inj hpaid
  have hst : ((Sample.world.run {} Sample.awaiting).db.orders.find? 10).map Order.status =
      some .awaitingPayment := by decide
  obtain ⟨o, hfind, hst⟩ := Option.map_eq_some_iff.mp hst
  have hfree := no_stuck_check {} hreach hfind
  rw [hfind, Option.map_some, Bool.eq_false_iff.mpr fun hpaid => hfree ⟨hst, hpaid⟩]

/-- The master submits the check of an order that was paid through Payme before. -/
theorem stuck_check_reached :
    (backend {}).Reachable (Sample.world.run {}
        (Sample.prepaid ++ [(Sample.at_ 24, .masterComplete 2 10 { serviceFee := 100000 })])) ∧
      ((Sample.world.run {} (Sample.prepaid ++
        [(Sample.at_ 24, .masterComplete 2 10 { serviceFee := 100000 })])).db.orders.find? 10).map
          (fun o => (o.status, o.isPaid)) = some (.awaitingPayment, true) :=
  ⟨reachable_run Sample.reachable (by decide), by decide⟩

/-- No request completes a stuck order. -/
theorem not_completed_of_stuck (h : Effect cfg ctx db db' r) {id : Uuid}
    (hfind : db.orders.find? id = some o) (hs : Stuck o) :
    db'.statusOf id ≠ some .completed := by
  intro hafter
  have hbefore : db.statusOf id ≠ some .completed := by
    rw [DB.statusOf_of_find hfind, hs.1]
    decide
  obtain ⟨method, o₁, credit, rfl, hc⟩ := completes_of_statusOf h hbefore hafter
  obtain rfl := Option.some.inj (hfind.symm.trans hc.found.1)
  exact not_stuck_of_unpaid hc.unpaid hs

end Payme

end Homex
