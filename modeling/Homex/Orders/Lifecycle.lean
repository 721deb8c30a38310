import Homex.System.Runs

/-!
# The lifecycle of an order

`OrderStep` is what one request does to one order: nothing, creation, a rewrite
by one of the generic writers, a submitted check, a completion, or a change of
the paid flag. A rewrite never completes an order and never moves a terminal
one, so an order completes only inside `completePaidOrder`, once, and stays
completed.
-/

namespace Homex

open Relational Action Orders Wallet Payme

variable {cfg : Settings} {ctx : Context} {db db' : DB} {r : Request} {o o' : Order}

section Rewrites

open Dashboard DashboardOrderSerializer in
/-- The columns of a patched order the later arguments read. -/
theorem dashboardUpdated_columns {data data' : Dashboard.OrderPayload} (o : Order)
    (hdata : data' = data ∨ ∃ a, data' = withAddress data a) :
    (updated data' o).status = data.status.getD o.status ∧
      (updated data' o).master = data.master.getD o.master ∧
      (updated data' o).isPaid = o.isPaid ∧
      (updated data' o).receiptApprovedBy = o.receiptApprovedBy := by
  rcases hdata with rfl | ⟨a, rfl⟩
  · unfold updated
    split <;> exact ⟨rfl, rfl, rfl, rfl⟩
  · unfold updated
    split <;> exact ⟨rfl, rfl, rfl, rfl⟩

/-- An internal write leaves an order awaiting payment only if it found it so. -/
theorem awaiting_of_internal {status : Option InternalApi.DashboardStatus} {s : OrderStatus}
    (h : (status.map InternalApi.orderStatusFromDashboard).getD s = .awaitingPayment) :
    s = .awaitingPayment := by
  cases status with
  | none => exact h
  | some t => exact absurd h (InternalApi.orderStatusFromDashboard_ne_awaitingPayment t)

theorem Rewrites.id_eq (h : Rewrites ctx r o o') : o'.id = o.id := by
  cases h with
  | dashboardUpdate _ _ =>
      obtain ⟨total, h⟩ := Dashboard.DashboardOrderSerializer.updated_eq _ o
      rw [h]
      rfl
  | _ => rfl

/-- A generic writer changes the status only as `canAdminSetStatus` allows. -/
theorem Rewrites.status (h : Rewrites ctx r o o') :
    canAdminSetStatus o.status o'.status = true := by
  cases h with
  | cancel hst =>
      simp only [cancellableStatuses, List.mem_cons, List.not_mem_nil, or_false] at hst
      rcases hst with h | h | h <;> rw [h] <;> rfl
  | payOnline _ _ => exact canAdminSetStatus_self _
  | accept hst => rw [hst]; rfl
  | onWay hst => rw [hst]; rfl
  | start hst => rw [hst]; rfl
  | reject hst =>
      simp only [rejectableStatuses, List.mem_cons, List.not_mem_nil, or_false] at hst
      rcases hst with h | h | h | h <;> rw [h] <;> rfl
  | confirm _ => exact canAdminSetStatus_self _
  | useInventory _ _ => exact canAdminSetStatus_self _
  | dashboardUpdate hdata hst =>
      rw [(dashboardUpdated_columns o hdata).1]
      exact hst
  | dashboardStatus hst => exact hst
  | internalUpdate hst => exact hst
  | internalAssign =>
      unfold InternalApi.assigned
      split
      · next h => rw [h.2]; rfl
      · exact canAdminSetStatus_self _

/-- Only the payment flows touch the paid flag. -/
theorem Rewrites.isPaid (h : Rewrites ctx r o o') : o'.isPaid = o.isPaid := by
  cases h with
  | dashboardUpdate hdata _ => exact (dashboardUpdated_columns o hdata).2.2.1
  | _ => rfl

theorem Creates.status_ne (h : Creates ctx r o) : o.status ≠ .completed := by
  intro hst
  cases h with
  | client => cases hst
  | dashboard hdata hadmin =>
      change Option.getD _ OrderStatus.new = .completed at hst
      rw [hdata] at hst
      rw [hst] at hadmin
      cases hadmin
  | internal hadmin =>
      change (Option.map InternalApi.orderStatusFromDashboard _).getD OrderStatus.new =
        .completed at hst
      rw [hst] at hadmin
      cases hadmin

theorem Creates.isPaid (h : Creates ctx r o) : o.isPaid = false := by
  cases h <;> rfl

end Rewrites

/-- The request under which a payment completes an order, with its method. -/
inductive PaysWith (o : Order) : PaymentType → Request → Prop
  | cash : PaysWith o .cash (.clientPay o.client o.id (.choice .cash))
  | online {params} : PaysWith o .online (.paymePerform params)

/-- A completion within a request: `completePaidOrder` ran after the request had
at most moved a Payme transaction. -/
structure CompletesWithin (ctx : Context) (method : PaymentType) (o : Order)
    (credit : Option WalletTransaction) (db db' : DB) (r : Request) : Prop where
  pays : PaysWith o method r
  unpaid : o.isPaid = false
  completes : ∃ db₁ : DB, db₁.orders = db.orders ∧ db₁.wallet = db.wallet ∧
    db₁.journal = db.journal ∧ Completes ctx method o credit db₁ db'

section Completing

variable {method : PaymentType} {credit : Option WalletTransaction}

theorem CompletesWithin.found (h : CompletesWithin ctx method o credit db db' r) :
    db.orders.find? o.id = some o ∧ o.status = .awaitingPayment := by
  obtain ⟨db₁, horders, -, -, hc⟩ := h.completes
  exact ⟨horders ▸ hc.found, hc.awaiting⟩

theorem CompletesWithin.credits (h : CompletesWithin ctx method o credit db db' r) :
    Credits o method db.wallet db'.wallet credit := by
  obtain ⟨db₁, -, hwallet, -, hc⟩ := h.completes
  exact hwallet ▸ hc.credits

theorem CompletesWithin.orders_eq (h : CompletesWithin ctx method o credit db db' r) :
    db'.orders = db.orders.save (completedOrder ctx method o) := by
  obtain ⟨db₁, horders, -, -, hc⟩ := h.completes
  rw [hc.eq, horders]

theorem CompletesWithin.journal_eq (h : CompletesWithin ctx method o credit db db' r) :
    db'.journal = db.journal ++ [.completed (completedOrder ctx method o) credit] := by
  obtain ⟨db₁, -, -, hjournal, hc⟩ := h.completes
  rw [hc.eq, hjournal]

theorem CompletesWithin.find? (h : CompletesWithin ctx method o credit db db' r) (id : Uuid) :
    db'.orders.find? id =
      if o.id = id then some (completedOrder ctx method o) else db.orders.find? id := by
  rw [h.orders_eq]
  exact find?_of_save (completedOrder ctx method o) h.found.1 rfl id

end Completing

/-- What one request does to one order. -/
inductive OrderStep (ctx : Context) (db db' : DB) (r : Request) :
    Option Order → Option Order → Prop
  | same {o? : Option Order} : OrderStep ctx db db' r o? o?
  | created {o : Order} : Creates ctx r o → OrderStep ctx db db' r none (some o)
  | rewritten {o o' : Order} : Rewrites ctx r o o' → OrderStep ctx db db' r (some o) (some o')
  | checked {user data total} {o : Order} : r = .masterComplete user o.id data →
      o.status ∈ activeOrderStatuses → o.master = some user →
      OrderStep ctx db db' r (some o) (some (OrderCompleteSerializer.checked ctx data o total))
  | completed {method credit} {o : Order} : CompletesWithin ctx method o credit db db' r →
      OrderStep ctx db db' r (some o) (some (completedOrder ctx method o))
  | flagged {params} {o : Order} : r = .paymePerform params → o.isPaid = false →
      o.status ≠ .awaitingPayment →
      OrderStep ctx db db' r (some o) (some { o with isPaid := true, paidAt := some ctx.now })
  | unflagged {params} {o : Order} : r = .paymeCancel params → o.status ≠ .completed →
      OrderStep ctx db db' r (some o) (some { o with isPaid := false })

/-- One order is replaced, the others keep their rows. -/
theorem orderStep_of_save (hfind : db.orders.find? o.id = some o)
    (horders : db'.orders = db.orders.save o') (hid : o'.id = o.id)
    (hstep : OrderStep ctx db db' r (some o) (some o')) (id : Uuid) :
    OrderStep ctx db db' r (db.orders.find? id) (db'.orders.find? id) := by
  have hfind' : db.orders.find? (key o') = some o := by
    rw [key_order, hid]
    exact hfind
  rw [horders]
  exact Table.rel_of_save (fun _ => .same) hfind' hstep id

theorem orderStep_of_completes {method : PaymentType} {credit : Option WalletTransaction}
    (h : CompletesWithin ctx method o credit db db' r) (id : Uuid) :
    OrderStep ctx db db' r (db.orders.find? id) (db'.orders.find? id) := by
  obtain ⟨db₁, horders, -, -, hc⟩ := h.completes
  have hfind := hc.found
  have hsave : db'.orders = db₁.orders.save (completedOrder ctx method o) := by
    rw [hc.eq]
  rw [horders] at hfind hsave
  exact orderStep_of_save hfind hsave rfl (.completed h) id

/-- A performed payment, seen from the orders. -/
theorem completesWithin_of_marksPaid {params : Params} {t : Table PaymeTransaction}
    {credit : Option WalletTransaction} (hr : r = .paymePerform params)
    (hunpaid : o.isPaid = false)
    (h : Completes ctx .online o credit { db with payme := t } db') :
    CompletesWithin ctx .online o credit db db' r :=
  ⟨hr ▸ .online, hunpaid, { db with payme := t }, rfl, rfl, rfl, h⟩

theorem orderStep_of_paymeEffect (h : PaymeEffect cfg ctx db db' r) (id : Uuid) :
    OrderStep ctx db db' r (db.orders.find? id) (db'.orders.find? id) := by
  cases h with
  | create _ _ _ _ _ _ _ hdb =>
      subst hdb
      exact .same
  | expire _ _ _ _ hdb =>
      subst hdb
      exact .same
  | cancel _ _ _ _ hdb =>
      subst hdb
      exact .same
  | @refund _ tx o _ _ _ hfind hst hdb =>
      have hid : o.id = tx.order := Table.key_of_find? hfind
      rw [← hid] at hfind
      have horders : db'.orders = db.orders.save { o with isPaid := false } := by rw [hdb]
      exact orderStep_of_save hfind horders rfl (.unflagged rfl hst) id
  | @perform _ tx o _ _ _ _ _ hfind hmarks =>
      have hid : o.id = tx.order := Table.key_of_find? hfind
      cases hmarks with
      | already _ hdb =>
          subst hdb
          exact .same
      | completed credit hunpaid hc =>
          exact orderStep_of_completes (completesWithin_of_marksPaid rfl hunpaid hc) id
      | flagged hunpaid hst hdb =>
          rw [← hid] at hfind
          have horders := congrArg DB.orders hdb
          exact orderStep_of_save hfind horders rfl (.flagged rfl hunpaid hst) id

theorem orderStep_of_effect (h : Effect cfg ctx db db' r) (id : Uuid) :
    OrderStep ctx db db' r (db.orders.find? id) (db'.orders.find? id) := by
  cases h with
  | frame hf =>
      rw [hf.orders]
      exact .same
  | @create _ o hc hins _ _ _ =>
      have hnone := (Table.insert?_eq_some_iff.mp hins).1
      rw [key_order] at hnone
      rw [Table.find?_insert? hins, key_order]
      by_cases hid : o.id = id
      · subst hid
        rw [if_pos rfl, hnone]
        exact .created hc
      · rw [if_neg hid]
        exact .same
  | rewrite hr hfind horders _ _ _ =>
      exact orderStep_of_save hfind horders hr.id_eq (.rewritten hr) id
  | check hfind hst hmaster horders _ _ _ =>
      exact orderStep_of_save hfind horders rfl (.checked rfl hst hmaster) id
  | pay hunpaid hc =>
      exact orderStep_of_completes ⟨.cash, hunpaid, db, rfl, rfl, rfl, hc⟩ id
  | payme hp => exact orderStep_of_paymeEffect hp id
  | wallet hw =>
      rw [hw.eq]
      exact .same

/-- A status changes by a generic write, by a check, or by completing. -/
theorem status_step {o? o'? : Option Order} (h : OrderStep ctx db db' r o? o'?)
    {o : Order} (ho : o? = some o) :
    ∃ o', o'? = some o' ∧
      (canAdminSetStatus o.status o'.status = true ∨
        (o.status ∈ activeOrderStatuses ∧ o'.status = .awaitingPayment) ∨
        ∃ method credit, CompletesWithin ctx method o credit db db' r ∧
          o' = completedOrder ctx method o) := by
  subst ho
  cases h with
  | same => exact ⟨o, rfl, Or.inl (canAdminSetStatus_self _)⟩
  | rewritten hr => exact ⟨_, rfl, Or.inl hr.status⟩
  | checked _ hst _ => exact ⟨_, rfl, Or.inr (Or.inl ⟨hst, rfl⟩)⟩
  | completed hc => exact ⟨_, rfl, Or.inr (Or.inr ⟨_, _, hc, rfl⟩)⟩
  | flagged _ _ _ => exact ⟨_, rfl, Or.inl (canAdminSetStatus_self _)⟩
  | unflagged _ _ => exact ⟨_, rfl, Or.inl (canAdminSetStatus_self _)⟩

/-- Orders are never deleted. -/
theorem find?_order_of_effect (h : Effect cfg ctx db db' r) {id : Uuid}
    (hfind : db.orders.find? id = some o) : ∃ o', db'.orders.find? id = some o' := by
  obtain ⟨o', hfind', -⟩ := status_step (orderStep_of_effect h id) hfind
  exact ⟨o', hfind'⟩

end Homex
