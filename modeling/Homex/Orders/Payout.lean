import Homex.Orders.Completions

/-!
# Who is paid for an order

`complete_paid_order` credits the master who leads the order at that moment, and
nobody when there is none. The dashboard and the internal API may replace or
clear the master of an order that awaits payment. In runs without such writes the
credited master is the one who submitted the check.
-/

namespace Homex

open Relational Action Orders Wallet Payme

variable {cfg : Settings} {ctx : Context} {db db' : DB} {r : Request} {o o' : Order}

/-- The request neither puts the order into `awaiting_payment` without a check nor
changes its master there. -/
def Request.KeepsPayee (o : Order) : Request → Prop
  | .dashboardStatus pk data =>
      pk = o.id → data.status = .awaitingPayment → o.status = .awaitingPayment
  | .dashboardUpdate pk data =>
      pk = o.id →
        (data.status = some .awaitingPayment → o.status = .awaitingPayment) ∧
        (o.status = .awaitingPayment → data.master.getD o.master = o.master)
  | .internalUpdate pk data =>
      pk = o.id → o.status = .awaitingPayment → data.master.getD o.master = o.master
  | .internalAssign pk master => pk = o.id → o.status = .awaitingPayment → master = o.master
  | _ => True

/-- The same of every order, also of the one the request creates. -/
structure KeepsPayee (w : World) (l : Context × Request) : Prop where
  create : ∀ data, l.2 = .dashboardCreate data → data.status ≠ some .awaitingPayment
  orders : ∀ o, w.db.orders.find? o.id = some o → l.2.KeepsPayee o

/-- An order that awaits payment is led by the master who submitted its check. -/
def Orders.Order.PayeeKept (o : Order) : Prop :=
  o.status = .awaitingPayment → ∃ master, o.master = some master ∧ o.receiptApprovedBy = some master

theorem Creates.payeeKept (h : Creates ctx r o)
    (hcreate : ∀ data, r = .dashboardCreate data → data.status ≠ some .awaitingPayment) :
    o.PayeeKept := by
  intro hst
  exfalso
  cases h with
  | client => cases hst
  | @dashboard data _ _ _ _ _ _ _ _ hdata _ =>
      change Option.getD _ OrderStatus.new = .awaitingPayment at hst
      rw [hdata] at hst
      cases hs : data.status with
      | none =>
          rw [hs] at hst
          cases hst
      | some s =>
          rw [hs, Option.getD_some] at hst
          exact hcreate data rfl (by rw [hs, hst])
  | internal _ => exact absurd (awaiting_of_internal hst) (by decide)

theorem Rewrites.payeeKept (h : Rewrites ctx r o o') (hk : r.KeepsPayee o) (hi : o.PayeeKept) :
    o'.PayeeKept := by
  intro hst
  cases h with
  | cancel _ => cases hst
  | payOnline _ _ => exact hi hst
  | accept _ => cases hst
  | onWay _ => cases hst
  | start _ => cases hst
  | reject _ => cases hst
  | confirm hcompleted =>
      change o.status = .awaitingPayment at hst
      rw [hcompleted] at hst
      cases hst
  | useInventory _ _ => exact hi hst
  | @dashboardUpdate data _ _ hdata _ =>
      obtain ⟨hst', hmaster', -, hreceipt'⟩ := dashboardUpdated_columns o hdata
      obtain ⟨hset, hmaster⟩ := hk rfl
      have hold : o.status = .awaitingPayment := by
        rw [hst'] at hst
        cases hs : data.status with
        | none =>
            rw [hs, Option.getD_none] at hst
            exact hst
        | some s =>
            rw [hs, Option.getD_some] at hst
            exact hset (by rw [hs, hst])
      rw [hmaster', hreceipt', hmaster hold]
      exact hi hold
  | dashboardStatus _ => exact hi (hk rfl hst)
  | internalUpdate _ =>
      have hold := awaiting_of_internal hst
      obtain ⟨master, hmaster, hreceipt⟩ := hi hold
      exact ⟨master, (hk rfl hold).trans hmaster, hreceipt⟩
  | @internalAssign master _ =>
      have hold : o.status = .awaitingPayment := by
        unfold InternalApi.assigned at hst
        split at hst
        · cases hst
        · exact hst
      obtain ⟨lead, hlead, hreceipt⟩ := hi hold
      exact ⟨lead, (hk rfl hold).trans hlead, hreceipt⟩

theorem OrderStep.payeeKept {o? : Option Order} (h : OrderStep ctx db db' r o? (some o'))
    (hcreate : ∀ data, r = .dashboardCreate data → data.status ≠ some .awaitingPayment)
    (hk : ∀ o, o? = some o → r.KeepsPayee o) (hi : ∀ o, o? = some o → o.PayeeKept) :
    o'.PayeeKept := by
  cases h with
  | same => exact hi o' rfl
  | created hc => exact hc.payeeKept hcreate
  | @rewritten o _ hr => exact hr.payeeKept (hk o rfl) (hi o rfl)
  | @checked user _ _ o _ _ hmaster => exact fun _ => ⟨user, hmaster, hmaster⟩
  | completed _ =>
      intro hst
      cases hst
  | @flagged _ o _ _ _ => exact hi o rfl
  | @unflagged _ o _ _ => exact hi o rfl

/-- While payees are kept, an order that awaits payment is led by the master who
submitted its check. -/
theorem payeeKept_of_reachable {w : World} (h : ((backend cfg).restrict KeepsPayee).Reachable w) :
    ∀ id o, w.db.orders.find? id = some o → o.PayeeKept := by
  refine h.invariant_of_guard
    (I := fun w => ∀ id o, w.db.orders.find? id = some o → o.PayeeKept) ?_ ?_
  · rintro w ⟨horders, -, -, -⟩ id o hfind
    rw [horders] at hfind
    cases hfind
  · intro w l w' _ hi hkeeps hstep id o' hfind'
    have horder := orderStep_of_effect hstep.effect id
    rw [hfind'] at horder
    refine horder.payeeKept hkeeps.create (fun o hfind => ?_) (fun o hfind => hi id o hfind)
    have hkey : o.id = id := Table.key_of_find? hfind
    exact hkeeps.orders o (hkey ▸ hfind)

/-- There is no credit exactly when the order has no master or no total. -/
theorem Orders.Credits.eq_none_iff {method : PaymentType} {ws ws' : WalletTables}
    {credit : Option WalletTransaction} (h : Credits o method ws ws' credit) :
    credit = none ↔ o.master = none ∨ o.totalAmount = 0 := by
  cases h with
  | skipped hskip _ => exact iff_of_true rfl hskip
  | credited hmaster htotal _ _ _ _ _ =>
      refine iff_of_false (Option.some_ne_none _) (not_or.mpr ⟨?_, htotal⟩)
      rw [hmaster]
      exact Option.some_ne_none _

/-- The credit goes to the lead master. -/
theorem Orders.Credits.to_lead {method : PaymentType} {ws ws' : WalletTables}
    {credit : Option WalletTransaction} {master : Uuid} (h : Credits o method ws ws' credit)
    (hmaster : o.master = some master) (htotal : o.totalAmount ≠ 0) :
    ∃ row, credit = some row ∧ row.master = master := by
  cases h with
  | skipped hskip _ =>
      rcases hskip with hno | hzero
      · cases hmaster.symm.trans hno
      · exact absurd hzero htotal
  | @credited row hlead _ _ _ _ _ _ =>
      exact ⟨row, rfl, Option.some.inj (hlead.symm.trans hmaster)⟩

/-- Who is paid for an order. Whenever a step of a run completes an order, it
credits the master who leads the order then, by one incoming transaction, if the
order has a master and a total; otherwise it leaves every wallet and every ledger
row alone. The order gains no other incoming transaction by it. In a run in which no admin
write changes the master of an order that awaits payment, or puts an order into
`awaiting_payment` without a check, every order with a total is credited, to the
master who submitted the check. -/
theorem payout_to_lead (cfg : Settings) {w w' : World} {l : Context × Request}
    (h : (backend cfg).Reachable w) (hstep : World.Step cfg w l w') {id : Uuid}
    (hbefore : w.db.statusOf id ≠ some .completed)
    (hafter : w'.db.statusOf id = some .completed) :
    ∃ o credit, w.db.orders.find? id = some o ∧
      (∃ method, w'.db.completions id = [(completedOrder l.1 method o, credit)]) ∧
      w'.db.creditRows id = w.db.creditRows id ++ credit.toList ∧
      (credit = none ↔ o.master = none ∨ o.totalAmount = 0) ∧
      (credit = none → w'.db.wallet = w.db.wallet) ∧
      (∀ row, credit = some row → Posted w.db.wallet w'.db.wallet row ∧
        row ∈ w'.db.creditRows id ∧ o.master = some row.master ∧ row.amount = o.totalAmount) ∧
      (((backend cfg).restrict KeepsPayee).Reachable w → o.totalAmount ≠ 0 →
        ∃ row, credit = some row ∧ o.receiptApprovedBy = some row.master) := by
  obtain ⟨method, o, credit, hkey, hc⟩ := completes_of_statusOf hstep.effect hbefore hafter
  subst hkey
  have hrows : w'.db.creditRows o.id = w.db.creditRows o.id ++ credit.toList := by
    rw [creditRows_of_completes hc, if_pos rfl]
  refine ⟨o, credit, hc.found.1, ⟨method, ?_⟩, hrows, hc.credits.eq_none_iff, ?_, ?_, ?_⟩
  · obtain ⟨-, hnil⟩ | ⟨hst, -⟩ := completedOnce_of_reachable h o.id
    · rw [hc.completions, if_pos rfl, hnil, List.nil_append]
    · exact absurd hst hbefore
  · rintro rfl
    cases hc.credits with
    | skipped _ hwallet => exact hwallet
  · rintro row rfl
    cases hc.credits with
    | credited hmaster _ _ hamount _ _ hposted =>
        refine ⟨hposted, ?_, hmaster, hamount⟩
        rw [hrows]
        exact List.mem_append_right _ (List.mem_singleton_self row)
  · intro hkept htotal
    obtain ⟨master, hmaster, hreceipt⟩ :=
      payeeKept_of_reachable hkept o.id o hc.found.1 hc.found.2
    obtain ⟨row, hrow, hlead⟩ := hc.credits.to_lead hmaster htotal
    exact ⟨row, hrow, hreceipt.trans (congrArg some hlead.symm)⟩

/-- The client pays the check in cash. -/
def Sample.payCash : Context × Request := (Sample.at_ 30, .clientPay 1 10 (.choice .cash))

theorem payout_to_lead_sample :
    ∃ o row, (Sample.world.run {} Sample.awaiting).db.orders.find? 10 = some o ∧
      ((Sample.world.run {} Sample.awaiting).next {} Sample.payCash).db.creditRows 10 = [row] ∧
      row.amount = 100000 ∧ o.receiptApprovedBy = some row.master := by
  have hkept : ((backend {}).restrict KeepsPayee).Reachable
      (Sample.world.run {} Sample.awaiting) := by
    refine reachable_run_restrict (.init ⟨rfl, rfl, rfl, rfl⟩) (by decide)
      ⟨⟨?_, fun _ _ => trivial⟩, ⟨?_, fun _ _ => trivial⟩, trivial⟩
    · rintro data ⟨⟩
      decide
    · rintro data ⟨⟩
  have hstep : World.Step {} (Sample.world.run {} Sample.awaiting) Sample.payCash
      ((Sample.world.run {} Sample.awaiting).next {} Sample.payCash) := ⟨by decide, rfl, rfl⟩
  have hbefore : (Sample.world.run {} Sample.awaiting).db.statusOf 10 ≠ some .completed := by
    decide
  obtain ⟨o, credit, hfind, -, hrows, -, -, hcredit, hpaid⟩ :=
    payout_to_lead {} hkept.of_restrict hstep hbefore (by decide)
  have htotal : ((Sample.world.run {} Sample.awaiting).db.orders.find? 10).map
      Order.totalAmount = some 100000 := by decide
  rw [hfind, Option.map_some] at htotal
  obtain ⟨row, rfl, hreceipt⟩ := hpaid hkept (Option.some.inj htotal ▸ by decide)
  exact ⟨o, row, hfind, hrows, (hcredit row rfl).2.2.2.trans (Option.some.inj htotal), hreceipt⟩

/-- The dashboard changes the master of the order that awaits payment. -/
def Sample.reassigned (master : Option Uuid) : List (Context × Request) :=
  Sample.awaiting ++ [(Sample.at_ 25, .dashboardUpdate 10 { master := some master })]

/-- The order then completes without a credit, or with one for the other master,
while master 2 submitted the check. -/
theorem payout_to_nobody_or_another :
    (backend {}).Reachable (Sample.world.run {} (Sample.reassigned none)) ∧
      ((Sample.world.run {} (Sample.reassigned none ++ [Sample.payCash])).db.orders.find? 10).map
        (fun o => (o.status, o.totalAmount, o.receiptApprovedBy)) =
          some (.completed, 100000, some 2) ∧
      (Sample.world.run {} (Sample.reassigned none ++ [Sample.payCash])).db.creditRows 10 = [] ∧
      ((Sample.world.run {} (Sample.reassigned (some 3) ++
        [Sample.payCash])).db.orders.find? 10).map
          (fun o => (o.status, o.receiptApprovedBy)) = some (.completed, some 2) ∧
      ((Sample.world.run {} (Sample.reassigned (some 3) ++
        [Sample.payCash])).db.creditRows 10).map WalletTransaction.master = [3] ∧
      (backend {}).Reachable
        (Sample.world.run {} (Sample.reassigned none ++ [Sample.payCash])) ∧
      (backend {}).Reachable
        (Sample.world.run {} (Sample.reassigned (some 3) ++ [Sample.payCash])) :=
  ⟨reachable_run Sample.reachable (by decide), by decide, by decide, by decide, by decide,
    reachable_run Sample.reachable (by decide), reachable_run Sample.reachable (by decide)⟩

end Homex
