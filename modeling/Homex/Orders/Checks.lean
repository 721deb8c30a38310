import Homex.Orders.Completions

/-!
# A check is submitted once

Submitting the check of an order deducts the master's stock, and only an active
order takes one. An admin may put an order into `awaiting_payment` without a
check, and may take one that awaits payment back to an active status, where its
check can be submitted a second time. In runs without such writes an order
awaits payment, or is completed, exactly when its one check was submitted.
-/

namespace Homex

open Relational Action Orders Wallet Payme

variable {cfg : Settings} {ctx : Context} {db db' : DB} {r : Request} {o o' : Order}

/-- The submitted check an entry records. -/
def Event.check? : Event → Option Order
  | .completed _ _ => none
  | .checkSubmitted order => some order
  | .handoverAccepted _ _ => none

/-- The checks submitted for an order, as saved. -/
def DB.checks (db : DB) (id : Uuid) : List Order :=
  (db.journal.filterMap Event.check?).filter fun o => o.id = id

theorem checks_append {events : List Event} (h : db'.journal = db.journal ++ events) (id : Uuid) :
    db'.checks id =
      db.checks id ++ (events.filterMap Event.check?).filter fun o => o.id = id := by
  unfold DB.checks
  rw [h, List.filterMap_append, List.filter_append]

theorem checks_congr (h : db'.journal = db.journal) (id : Uuid) : db'.checks id = db.checks id := by
  unfold DB.checks
  rw [h]

/-- The check of an order, as it is recorded. -/
theorem checks_singleton {order : Order} {id : Uuid} (hid : order.id = id) :
    ([Event.checkSubmitted order].filterMap Event.check?).filter (fun o : Order => o.id = id) =
      [order] := by
  simp [Event.check?, hid]

/-- What one request does to one order, and the checks of it the request
submits. -/
inductive CheckStep (ctx : Context) (r : Request) : Option Order → Option Order → List Order → Prop
  | same {o? : Option Order} : CheckStep ctx r o? o? []
  | created {o : Order} : Creates ctx r o → CheckStep ctx r none (some o) []
  | rewritten {o o' : Order} : Rewrites ctx r o o' → CheckStep ctx r (some o) (some o') []
  | checked {user data total} {o : Order} : r = .masterComplete user o.id data →
      o.status ∈ activeOrderStatuses →
      CheckStep ctx r (some o) (some (OrderCompleteSerializer.checked ctx data o total))
        [OrderCompleteSerializer.checked ctx data o total]
  | paid {o o' : Order} : o'.receiptApprovedAt = o.receiptApprovedAt →
      (o'.status = o.status ∨ o.status = .awaitingPayment ∧ o'.status = .completed) →
      CheckStep ctx r (some o) (some o') []

section Steps

/-- What is done to the order `id`, with the checks submitted for it. -/
def ChecksWithin (ctx : Context) (db db' : DB) (r : Request) (id : Uuid) : Prop :=
  ∃ checks, db'.checks id = db.checks id ++ checks ∧
    CheckStep ctx r (db.orders.find? id) (db'.orders.find? id) checks

variable {id : Uuid}

theorem checksWithin_of_same (horders : db'.orders = db.orders)
    (hchecks : db'.checks id = db.checks id) : ChecksWithin ctx db db' r id := by
  refine ⟨[], by rw [hchecks, List.append_nil], ?_⟩
  rw [horders]
  exact .same

/-- One order is replaced without a check, the others keep their rows. -/
theorem checksWithin_of_save (hfind : db.orders.find? o.id = some o)
    (horders : db'.orders = db.orders.save o') (hid : o'.id = o.id)
    (hchecks : db'.checks id = db.checks id) (hstep : CheckStep ctx r (some o) (some o') []) :
    ChecksWithin ctx db db' r id := by
  refine ⟨[], by rw [hchecks, List.append_nil], ?_⟩
  have hfind' : db.orders.find? (key o') = some o := by
    rw [key_order, hid]
    exact hfind
  rw [horders]
  exact Table.rel_of_save (R := fun o? o'? => CheckStep ctx r o? o'? []) (fun _ => .same) hfind'
    hstep id

theorem checksWithin_of_completes {method : PaymentType} {credit : Option WalletTransaction}
    (h : CompletesWithin ctx method o credit db db' r) : ChecksWithin ctx db db' r id := by
  refine checksWithin_of_save h.found.1 h.orders_eq rfl ?_ (.paid rfl (Or.inr ⟨h.found.2, rfl⟩))
  exact (checks_append h.journal_eq id).trans (List.append_nil _)

theorem checksWithin_of_paymeEffect (h : PaymeEffect cfg ctx db db' r) :
    ChecksWithin ctx db db' r id := by
  cases h with
  | create _ _ _ _ _ _ _ hdb =>
      exact checksWithin_of_same (by rw [hdb]) (checks_congr (by rw [hdb]) id)
  | expire _ _ _ _ hdb =>
      exact checksWithin_of_same (by rw [hdb]) (checks_congr (by rw [hdb]) id)
  | cancel _ _ _ _ hdb =>
      exact checksWithin_of_same (by rw [hdb]) (checks_congr (by rw [hdb]) id)
  | @refund _ tx o _ _ _ hfind _ hdb =>
      have hid : o.id = tx.order := Table.key_of_find? hfind
      rw [← hid] at hfind
      exact checksWithin_of_save hfind (congrArg DB.orders hdb) rfl
        (checks_congr (by rw [hdb]) id) (.paid rfl (Or.inl rfl))
  | @perform _ tx o _ _ _ _ _ hfind hmarks =>
      have hid : o.id = tx.order := Table.key_of_find? hfind
      rw [← hid] at hfind
      cases hmarks with
      | already _ hdb => exact checksWithin_of_same (by rw [hdb]) (checks_congr (by rw [hdb]) id)
      | completed credit hunpaid hc =>
          exact checksWithin_of_completes (completesWithin_of_marksPaid rfl hunpaid hc)
      | flagged _ _ hdb =>
          exact checksWithin_of_save hfind (congrArg DB.orders hdb) rfl
            (checks_congr (by rw [hdb]) id) (.paid rfl (Or.inl rfl))

theorem checksWithin_of_effect (h : Effect cfg ctx db db' r) (id : Uuid) :
    ChecksWithin ctx db db' r id := by
  cases h with
  | frame hf => exact checksWithin_of_same hf.orders (checks_congr hf.journal id)
  | @create _ o hc hins _ _ hj =>
      refine ⟨[], by rw [checks_congr hj, List.append_nil], ?_⟩
      have hnone := (Table.insert?_eq_some_iff.mp hins).1
      rw [key_order] at hnone
      rw [Table.find?_insert? hins, key_order]
      by_cases hid : o.id = id
      · subst hid
        rw [if_pos rfl, hnone]
        exact .created hc
      · rw [if_neg hid]
        exact .same
  | rewrite hr hfind horders _ _ hj =>
      exact checksWithin_of_save hfind horders hr.id_eq (checks_congr hj id) (.rewritten hr)
  | @check user data o total hfind hst _ horders _ _ hj =>
      refine ⟨_, checks_append hj id, ?_⟩
      rw [horders, find?_of_save (OrderCompleteSerializer.checked ctx data o total) hfind rfl]
      by_cases hid : o.id = id
      · subst hid
        have hchecks := checks_singleton
          (show (OrderCompleteSerializer.checked ctx data o total).id = o.id from rfl)
        rw [if_pos rfl, hfind, hchecks]
        exact .checked rfl hst
      · rw [if_neg hid]
        simp only [List.filterMap_cons, Event.check?, List.filterMap_nil,
          List.filter_cons, OrderCompleteSerializer.checked, hid, decide_false]
        exact .same
  | pay hunpaid hc => exact checksWithin_of_completes ⟨.cash, hunpaid, db, rfl, rfl, rfl, hc⟩
  | payme hp => exact checksWithin_of_paymeEffect hp
  | wallet hw =>
      refine checksWithin_of_same (by rw [hw.eq]) ?_
      rcases hw.journal with hsame | ⟨w, row, hj⟩
      · exact checks_congr hsame id
      · exact (checks_append hj id).trans (List.append_nil _)

end Steps

/-- An admin write moves an order neither into `awaiting_payment` nor out of it,
other than to a terminal status. -/
def leavesCheck (s t : OrderStatus) : Bool :=
  t ∈ terminalOrderStatuses || (t = .awaitingPayment) = (s = .awaitingPayment)

/-- The request writes no status that goes around the check of the order. -/
def Request.LeavesCheck (o : Order) : Request → Prop
  | .dashboardStatus pk data =>
      pk = o.id → canAdminSetStatus o.status data.status = true →
        leavesCheck o.status data.status = true
  | .dashboardUpdate pk data =>
      pk = o.id → canAdminSetStatus o.status (data.status.getD o.status) = true →
        leavesCheck o.status (data.status.getD o.status) = true
  | .internalUpdate pk data =>
      pk = o.id →
        canAdminSetStatus o.status
          ((data.status.map InternalApi.orderStatusFromDashboard).getD o.status) = true →
        leavesCheck o.status
          ((data.status.map InternalApi.orderStatusFromDashboard).getD o.status) = true
  | _ => True

/-- No order is created awaiting payment. -/
def Request.CreatesUnchecked : Request → Prop
  | .dashboardCreate data => data.status ≠ some .awaitingPayment
  | _ => True

/-- The checks an order may have had, by its status. -/
structure Checked (o : Order) (checks : List Order) : Prop where
  once : checks.length ≤ 1
  unchecked : o.status = .new ∨ o.status ∈ activeOrderStatuses → checks = []
  checked : o.status = .awaitingPayment ∨ o.status = .completed →
    checks.length = 1 ∧ o.receiptApprovedAt ≠ none

theorem leavesCheck_self (s : OrderStatus) : leavesCheck s s = true := by
  simp [leavesCheck]

theorem Rewrites.leavesCheck (h : Rewrites ctx r o o') (hk : r.LeavesCheck o) :
    leavesCheck o.status o'.status = true := by
  cases h with
  | cancel _ => rfl
  | payOnline _ _ => exact leavesCheck_self _
  | accept hst => rw [hst]; rfl
  | onWay hst => rw [hst]; rfl
  | start hst => rw [hst]; rfl
  | reject _ => rfl
  | confirm _ => exact leavesCheck_self _
  | useInventory _ _ => exact leavesCheck_self _
  | dashboardUpdate hdata hst =>
      rw [(dashboardUpdated_columns o hdata).1]
      exact hk rfl hst
  | dashboardStatus hst => exact hk rfl hst
  | internalUpdate hst => exact hk rfl hst
  | internalAssign =>
      unfold InternalApi.assigned
      split
      · next h => rw [h.2]; rfl
      · exact leavesCheck_self _

/-- No generic writer takes the receipt back. -/
theorem Rewrites.receiptApprovedAt (h : Rewrites ctx r o o') (ho : o.receiptApprovedAt ≠ none) :
    o'.receiptApprovedAt ≠ none := by
  cases h with
  | confirm _ => exact Option.some_ne_none _
  | @dashboardUpdate data data' o _ _ =>
      obtain ⟨total, heq⟩ := Dashboard.DashboardOrderSerializer.updated_eq data' o
      rw [heq]
      exact ho
  | _ => exact ho

theorem Creates.unchecked (h : Creates ctx r o) (hk : r.CreatesUnchecked) :
    o.status ≠ .awaitingPayment := by
  intro hst
  cases h with
  | client => cases hst
  | @dashboard data data' _ _ _ _ _ _ _ hdata hadmin =>
      change data'.status.getD OrderStatus.new = .awaitingPayment at hst
      rw [hdata] at hst
      cases hs : data.status with
      | none =>
          rw [hs] at hst
          cases hst
      | some s =>
          rw [hs, Option.getD_some] at hst
          exact hk (by rw [hs, hst])
  | internal _ => cases awaiting_of_internal hst

/-- The statuses before and after a write that leaves the check alone. -/
theorem checked_of_leavesCheck {checks : List Order}
    (hadmin : canAdminSetStatus o.status o'.status = true)
    (hleaves : leavesCheck o.status o'.status = true)
    (hreceipt : o.receiptApprovedAt ≠ none → o'.receiptApprovedAt ≠ none)
    (hi : Checked o checks) : Checked o' checks := by
  refine ⟨hi.once, fun hst => hi.unchecked ?_, fun hst => ?_⟩
  · revert hadmin hleaves hst
    cases o.status <;> cases o'.status <;> decide
  · have hsame : o.status = o'.status := by
      revert hadmin hleaves hst
      cases o.status <;> cases o'.status <;> decide
    rw [← hsame] at hst
    exact ⟨(hi.checked hst).1, hreceipt (hi.checked hst).2⟩

/-- What the checks of an order are, after a request that leaves its check
alone. -/
theorem CheckStep.keeps {o? : Option Order} {checks new : List Order}
    (h : CheckStep ctx r o? (some o') new) (hk : ∀ o, o? = some o → r.LeavesCheck o)
    (hc : r.CreatesUnchecked) (hnone : o? = none → checks = [])
    (hi : ∀ o, o? = some o → Checked o checks) : Checked o' (checks ++ new) := by
  cases h with
  | same =>
      rw [List.append_nil]
      exact hi o' rfl
  | created hcreates =>
      rw [hnone rfl]
      refine ⟨Nat.zero_le 1, fun _ => rfl, fun hst => ?_⟩
      rcases hst with hst | hst
      · exact absurd hst (hcreates.unchecked hc)
      · exact absurd hst hcreates.status_ne
  | @rewritten o _ hr =>
      rw [List.append_nil]
      exact checked_of_leavesCheck hr.status (hr.leavesCheck (hk o rfl)) hr.receiptApprovedAt
        (hi o rfl)
  | @checked _ _ _ o _ hst =>
      rw [(hi o rfl).unchecked (Or.inr hst)]
      refine ⟨Nat.le_refl 1, fun hst => ?_, fun _ => ⟨rfl, Option.some_ne_none _⟩⟩
      rcases hst with hst | hst
      · cases hst
      · exact absurd hst (show ¬OrderStatus.awaitingPayment ∈ activeOrderStatuses by decide)
  | @paid o _ hreceipt hst =>
      rw [List.append_nil]
      have ho := hi o rfl
      refine ⟨ho.once, fun hopen => ?_, fun hclosed => ?_⟩
      · rcases hst with hst | ⟨-, hst⟩
        · exact ho.unchecked (hst ▸ hopen)
        · rw [hst] at hopen
          exact absurd hopen (by decide)
      · rw [hreceipt]
        rcases hst with hst | ⟨hst, -⟩
        · exact ho.checked (hst ▸ hclosed)
        · exact ho.checked (Or.inl hst)

/-- Every order has had the checks its status allows. -/
structure ChecksHold (db : DB) : Prop where
  absent : ∀ id, db.orders.find? id = none → db.checks id = []
  checked : ∀ id o, db.orders.find? id = some o → Checked o (db.checks id)

/-- The request goes around no check: no admin write moves an order into
`awaiting_payment`, or out of it other than to a terminal status. -/
def LeavesChecks (w : World) (l : Context × Request) : Prop :=
  l.2.CreatesUnchecked ∧ ∀ o, w.db.orders.find? o.id = some o → l.2.LeavesCheck o

theorem checksHold_of_reachable {w : World}
    (h : ((backend cfg).restrict LeavesChecks).Reachable w) : ChecksHold w.db := by
  refine h.invariant_of_guard (I := fun w => ChecksHold w.db) ?_ ?_
  · rintro w ⟨horders, -, -, hjournal⟩
    constructor
    · intro id _
      rw [DB.checks, hjournal]
      rfl
    · intro id o hfind
      rw [horders] at hfind
      cases hfind
  · rintro w l w' - hi ⟨hcreates, hleaves⟩ hstep
    constructor
    · intro id hnone
      obtain ⟨new, hchecks, hcase⟩ := checksWithin_of_effect hstep.effect id
      cases hfind : w.db.orders.find? id with
      | none =>
          rw [hfind, hnone] at hcase
          cases hcase
          rw [hchecks, hi.absent id hfind, List.append_nil]
      | some o =>
          obtain ⟨o', hfind'⟩ := find?_order_of_effect hstep.effect hfind
          rw [hnone] at hfind'
          cases hfind'
    · intro id o' hfind'
      obtain ⟨new, hchecks, hcase⟩ := checksWithin_of_effect hstep.effect id
      rw [hfind'] at hcase
      rw [hchecks]
      refine hcase.keeps (fun o hfind => ?_) hcreates (hi.absent id) (hi.checked id)
      obtain rfl : o.id = id := Table.key_of_find? hfind
      exact hleaves o hfind

/-- A check is submitted only for an order that has had none. -/
theorem checks_of_masterComplete {user pk : Uuid} {data : OrderCompletePayload}
    {response : Response} (hi : ChecksHold db)
    (h : (handle cfg ctx (.masterComplete user pk data) db).1 = .ok response) :
    db.checks pk = [] ∧
      ((handle cfg ctx (.masterComplete user pk data) db).2.checks pk).length = 1 := by
  obtain ⟨o', hrun, -⟩ := map_eq_ok.mp (view_of_handle_ok h)
  obtain ⟨o, inMemory, db₁, hfind, hid, -, hst, hitems, ho', hdb⟩ := masterComplete_ok hrun
  have hnone : db.checks pk = [] := (hi.checked pk o hfind).unchecked (Or.inr hst)
  have hframe := within_useItems _ _ _ hitems
  have hjournal : (handle cfg ctx (.masterComplete user pk data) db).2.journal =
      db.journal ++ [.checkSubmitted o'] := by
    rw [hdb, ← hframe.journal]
  refine ⟨hnone, ?_⟩
  rw [checks_append hjournal, hnone, checks_singleton (by rw [ho']; exact hid)]
  rfl

/-- A check is submitted once, and only through the check flow, in every run in
which no admin write goes around a check: an order has at most one check, one that
awaits payment or is completed has exactly one and its receipt is approved, and
the check that is submitted, and deducts the stock, is the first of its order. -/
theorem check_submitted_once (cfg : Settings) {w : World}
    (h : ((backend cfg).restrict LeavesChecks).Reachable w) :
    (∀ id, (w.db.checks id).length ≤ 1) ∧
      (∀ id o, w.db.orders.find? id = some o →
        o.status = .awaitingPayment ∨ o.status = .completed →
          (w.db.checks id).length = 1 ∧ o.receiptApprovedAt ≠ none) ∧
      ∀ ctx user pk data response,
        (handle cfg ctx (.masterComplete user pk data) w.db).1 = .ok response →
          w.db.checks pk = [] ∧
            ((handle cfg ctx (.masterComplete user pk data) w.db).2.checks pk).length = 1 := by
  have hi := checksHold_of_reachable h
  refine ⟨fun id => ?_, fun id o hfind hst => (hi.checked id o hfind).checked hst, ?_⟩
  · cases hfind : w.db.orders.find? id with
    | none =>
        rw [hi.absent id hfind]
        exact Nat.zero_le 1
    | some o => exact (hi.checked id o hfind).once
  · intro ctx user pk data response hok
    exact checks_of_masterComplete hi hok

/-- Runs of requests that set no status from outside. -/
theorem check_submitted_once_sample :
    ((Sample.world.run {} Sample.awaiting).db.checks 10).length = 1 := by
  have hreach : ((backend {}).restrict LeavesChecks).Reachable
      (Sample.world.run {} Sample.awaiting) := by
    refine reachable_run_restrict (.init ⟨rfl, rfl, rfl, rfl⟩) (by decide) ?_
    refine ⟨⟨?_, fun _ _ => trivial⟩, ⟨trivial, fun _ _ => trivial⟩, trivial⟩
    exact (show ¬some OrderStatus.accepted = some OrderStatus.awaitingPayment by decide)
  have hst : ((Sample.world.run {} Sample.awaiting).db.orders.find? 10).map Order.status =
      some .awaitingPayment := by decide
  obtain ⟨o, hfind, hst⟩ := Option.map_eq_some_iff.mp hst
  exact ((check_submitted_once {} hreach).2.1 10 o hfind (Or.inl hst)).1

/-- A check that uses one piece of the stock. -/
def Sample.checkWithItem : Request :=
  .masterComplete 2 10
    { serviceFee := 100000
      usedItems := [{ inventoryId := 6, quantity := ⟨100, Sample.piece_pos⟩ }] }

/-- The dashboard takes the order back to the master after its check, and the
check is submitted again. -/
def Sample.submittedTwice : List (Context × Request) :=
  Sample.accepted ++
    [(Sample.at_ 21, Sample.checkWithItem),
      (Sample.at_ 22, .dashboardStatus 10 { status := .arrived }),
      (Sample.at_ 23, Sample.checkWithItem)]

/-- The stock is then deducted twice, and an order that never had a check can
await payment. -/
theorem check_submitted_again :
    (backend {}).Reachable (Sample.world.run {} Sample.submittedTwice) ∧
      ((Sample.world.run {} Sample.submittedTwice).db.checks 10).length = 2 ∧
      ((Sample.world.run {} Sample.submittedTwice).db.inventory.find? 6).map
        (fun item => item.quantity) = some 100 ∧
      (backend {}).Reachable (Sample.world.run {} (Sample.accepted ++
        [(Sample.at_ 21, .dashboardStatus 10 { status := .awaitingPayment })])) ∧
      ((Sample.world.run {} (Sample.accepted ++
        [(Sample.at_ 21, .dashboardStatus 10 { status := .awaitingPayment })])).db.orders.find?
          10).map (fun o => (o.status, o.receiptApprovedAt)) = some (.awaitingPayment, none) :=
  ⟨reachable_run Sample.reachable (by decide +kernel), by decide +kernel, by decide +kernel,
    reachable_run Sample.reachable (by decide), by decide⟩

end Homex
