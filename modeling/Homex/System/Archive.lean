import Homex.Dashboard.Services
import Homex.Orders.Lifecycle
import Homex.Relational.Part
import Homex.System.Deletions

/-!
# When an order was last saved

`updated_at` is an `auto_now` column: every save of the row refreshes it, also a
save that changes nothing else. No view reads it, so it stands beside the
database: `savedOrder` is the order that a request saves, and `Archive.next` puts
the instant of the request on it. The accounts and the staff can also delete rows:
an order goes when it is deleted, and with its client. A deletion sets the
references to what goes to null, which is no save of the row.
-/

namespace Homex

open Relational Action Code Orders Wallet Warehouse Payme Dashboard

/-- The order of the Payme transaction, and the transaction. -/
def Payme.Params.paidOrder (params : Params) (db : DB) : Option (PaymeTransaction × Order) := do
  let tx ← params.id.bind db.payme.find?
  let order ← db.orders.find? tx.order
  pure (tx, order)

/-- The order that the view saves, when it does not fail. -/
def Request.saves (ctx : Context) (db : DB) : Request → Option Uuid
  | .clientCreate _ _ => some (ctx.uuid .order)
  | .clientCancel _ pk _ => some pk
  | .clientPay _ pk _ => some pk
  -- the first master who accepts; the others only mark their assignment
  | .masterAccept _ pk => if db.statusOf pk = some .new then some pk else none
  | .masterOnWay _ pk => some pk
  -- a second start answers with the order as it is
  | .masterStart _ pk => if db.statusOf pk = some .arrived then none else some pk
  | .masterReject _ pk _ => some pk
  | .masterComplete _ pk _ => some pk
  -- a receipt that is approved stays so
  | .masterReceiptConfirm _ pk =>
      if (db.orders.find? pk).any fun order => order.receiptApprovedAt.isSome then none else some pk
  | .useInventory _ _ data => some data.orderId
  | .dashboardCreate _ => some (ctx.uuid .order)
  | .dashboardUpdate pk _ => some pk
  | .dashboardStatus pk _ => some pk
  | .internalCreate _ => some (ctx.uuid .order)
  | .internalExpress _ => some (ctx.uuid .order)
  | .internalUpdate pk _ => some pk
  | .internalAssign pk _ => some pk
  -- `mark_order_paid`, once for a transaction, and for an order that is not paid
  | .paymePerform params =>
      ((params.paidOrder db).filter fun p => !p.1.isPerformed && !p.2.isPaid).map fun p => p.2.id
  -- `mark_order_payment_cancelled`
  | .paymeCancel params =>
      ((params.paidOrder db).filter fun p => p.1.isPerformed && p.2.isPaid).map fun p => p.2.id
  | _ => none

/-- The order that the request saves. -/
def savedOrder (cfg : Settings) (ctx : Context) (r : Request) (db : DB) : Option Uuid :=
  match (handle cfg ctx r db).1 with
  | .ok _ => r.saves ctx db
  | .error _ => none

/-- A request to one of the endpoints, or a deletion. -/
inductive ArchiveRequest
  | request (r : Request)
  | destroy (d : Deletion)

/-- The database, the column `updated_at` of the orders, and the clock. -/
structure Archive where
  db : DB
  updatedAt : Uuid → Int
  clock : Int

namespace Archive

/-- One request. -/
def next (cfg : Settings) (w : Archive) : Context × ArchiveRequest → Archive
  | (ctx, .request r) =>
      { db := (handle cfg ctx r w.db).2
        updatedAt := fun pk =>
          if savedOrder cfg ctx r w.db = some pk then ctx.now else w.updatedAt pk
        clock := ctx.now }
  | (ctx, .destroy d) => { w with db := (d.destroy w.db).2, clock := ctx.now }

def run (cfg : Settings) (w : Archive) (ls : List (Context × ArchiveRequest)) : Archive :=
  ls.foldl (next cfg) w

end Archive

/-- Requests and deletions, in the order of time, from a database without orders. -/
def archive (cfg : Settings) : Transition.System Archive (Context × ArchiveRequest) where
  init w := World.Initial ⟨w.db, w.clock⟩
  step w l w' := w.clock ≤ l.1.now ∧ w' = w.next cfg l

/-- The deletion takes the order with it: the order itself, or its client. -/
def Deletion.Takes (order : Order) : Deletion → Prop
  | .order pk => order.id = pk
  | .client pk => order.client = pk
  | _ => False

instance (order : Order) (d : Deletion) : Decidable (d.Takes order) := by
  cases d <;> unfold Deletion.Takes <;> infer_instance

section Deletions

variable {d : Deletion} {db db' : DB} {o : Order}

/-- A client goes only when it is deleted itself. -/
theorem client_mem_gone_iff {pk : Uuid} :
    DBKey.client pk ∈ db.table.gone d.target ↔ d.target = .client pk := by
  constructor
  · intro h
    rcases Table.mem_gone_cases h with hroot | ⟨row, -, hkey, k, -, href⟩
    · exact hroot.symm
    · cases row with
      | client row => exact absurd href List.not_mem_nil
      | _ => cases hkey
  · rintro h
    rw [h]
    exact Table.self_mem_gone

theorem not_cascade_of_nullable {key : Uuid → DBKey} {pk : Option Uuid} {k : DBKey} :
    (OnDelete.cascade, k) ∉ DBRow.nullable key pk := by
  intro h
  obtain ⟨pk', -, heq⟩ := List.mem_map.mp h
  cases (Prod.mk.inj heq).1

/-- An order goes with its client. -/
theorem cascade_of_order {k : DBKey} :
    (OnDelete.cascade, k) ∈ refs (DBRow.order o) ↔ k = .client o.client := by
  change _ ∈ DBRow.refs _ ↔ _
  simp [DBRow.refs, not_cascade_of_nullable]

theorem order_mem_gone_iff (hmem : o ∈ db.orders.rows) :
    DBKey.order o.id ∈ db.table.gone d.target ↔ d.Takes o := by
  have hrow : DBRow.order o ∈ db.table.rows :=
    DB.mem_table.mpr ⟨.order, by decide, List.mem_map_of_mem hmem⟩
  refine (Table.key_mem_gone_iff hrow).trans ?_
  simp only [cascade_of_order, exists_eq_right, client_mem_gone_iff]
  change DBKey.order o.id = d.target ∨ d.target = .client o.client ↔ _
  cases d <;> simp [Deletion.target, Deletion.Takes, eq_comm]

/-- A deletion is refused when it would take an order that Payme has a row for. -/
theorem not_takes_of_destroy {u : Unit} (h : d.destroy db = (.ok u, db')) {tx : PaymeTransaction}
    (htx : tx ∈ db.payme.rows) (hfind : db.orders.find? tx.order = some o) : ¬d.Takes o := by
  intro htakes
  obtain ⟨hprotect, -⟩ := deleteCascade?_eq_some_iff.mp (destroy_eq_ok h)
  have hgone := (order_mem_gone_iff (d := d) (Table.mem_of_find? hfind)).mpr htakes
  rw [show o.id = tx.order from Table.key_of_find? hfind] at hgone
  exact hprotect _ (payme_mem_table htx) _ hgone (List.mem_singleton.mpr rfl)

/-- The orders after a deletion: those it does not take, with references set to null. -/
theorem find?_of_destroy {u : Unit} (h : d.destroy db = (.ok u, db')) (pk : Uuid) :
    db'.orders.find? pk = ((db.orders.find? pk).filter fun o => ¬d.Takes o).map
      (DBRow.clearOrder (Table.inside (db.table.gone d.target))) := by
  obtain ⟨-, rfl⟩ := deleteCascade?_eq_some_iff.mp (destroy_eq_ok h)
  rw [DB.orders_without, Table.find?_retain]
  cases hfind : db.orders.find? pk with
  | none => rfl
  | some o =>
      have hgone := order_mem_gone_iff (d := d) (Table.mem_of_find? hfind)
      by_cases htakes : d.Takes o
      · rw [Option.filter_some_neg (by simpa using hgone.mpr htakes),
          Option.filter_some_neg (by simpa using htakes)]
      · rw [Option.filter_some_pos (by simpa using mt hgone.mp htakes),
          Option.filter_some_pos (by simpa using htakes)]

end Deletions

section Saves

variable {cfg : Settings} {ctx : Context} {db db' : DB} {r : Request} {o o' : Order} {id : Uuid}

/-- A perform that is answered with an error has not written an order. -/
theorem orders_of_perform_error {params : Params} {e : Error}
    (h : PaymeWebHookAPIView.performTransaction ctx params db = (.error e, db')) :
    db'.orders = db.orders := by
  rcases bind_error h with hkey | ⟨id, s, hkey, h⟩
  · rw [within_fetch (R := Eq) _ _ _ hkey]
  obtain rfl := eq_of_reads within_fetch hkey
  rcases bind_error h with hlocked | ⟨result?, s', hlocked, h⟩
  · rw [(atomic_eq_error.mp hlocked).1]
  cases result? with
  | some result => cases h
  | none =>
      obtain rfl := within_performAnswer (R := Eq) _ _ _ h
      simp only [PaymeWebHookAPIView.performLocked, savePayme, atomic_eq_ok, bind_eq_ok, ite_eq_ok,
        modify_eq_ok, pure_eq_ok, raise_ne_ok, reduceCtorEq, and_false, false_and, false_or,
        or_false, exists_false] at hlocked
      obtain ⟨tx, s₁, hlock, -, -, -, _, _, rfl, -, rfl⟩ := hlocked
      obtain ⟨-, -, rfl⟩ := lockedTx_ok hlock
      rfl

/-- A request that is answered with an error has not written an order. -/
theorem order_of_error {e : Error} (h : (handle cfg ctx r db).1 = .error e) (id : Uuid) :
    (handle cfg ctx r db).2.orders.find? id = db.orders.find? id ∨
      (db.orders.find? id = none ∧
        ∃ o, (handle cfg ctx r db).2.orders.find? id = some o ∧ Creates ctx r o) := by
  obtain ⟨e', hview⟩ := view_of_handle_error h
  by_cases hcreate : ∃ params, r = .paymeCreate params
  · obtain ⟨params, rfl⟩ := hcreate
    have hstep := orderStep_of_effect (effect_handle cfg ctx (.paymeCreate params) db) id
    generalize db.orders.find? id = o? at hstep
    generalize (handle cfg ctx (.paymeCreate params) db).2.orders.find? id = o?' at hstep
    cases hstep with
    | same => exact Or.inl rfl
    | created hc => exact Or.inr ⟨rfl, _, rfl, hc⟩
    | rewritten hr => cases hr
    | checked hr => cases hr
    | completed hc => cases hc.pays
    | flagged hr => cases hr
    | unflagged hr => cases hr
  by_cases hperform : ∃ params, r = .paymePerform params
  · obtain ⟨params, rfl⟩ := hperform
    obtain hrun | ⟨_, _, -, hpure⟩ := bind_error (f := fun a => pure (Response.payme a)) hview
    · rw [orders_of_perform_error hrun]
      exact Or.inl rfl
    · cases hpure
  · have hframe := clean_view (not_exists.mp hcreate) (not_exists.mp hperform) db e' _ hview
    rw [hframe.orders]
    exact Or.inl rfl

/-- A receipt that is approved again stays as it is. -/
theorem confirm_again {user pk : Uuid} (hfind : db.orders.find? pk = some o)
    (happroved : o.receiptApprovedAt.isSome = true) :
    (handle cfg ctx (.masterReceiptConfirm user pk) db).2 = db := by
  rw [handle_snd, view, map_snd]
  unfold MasterOrderReceiptConfirmView.post
  rcases hget : getMasterOrder pk user db with ⟨e | o', s⟩
  · rw [run_bind_error hget]
    exact (within_getMasterOrder (R := Eq) _ _ _ hget).symm
  · obtain ⟨hfind', -, -, rfl⟩ := getMasterOrder_ok hget
    obtain rfl : o = o' := Option.some.inj (hfind.symm.trans hfind')
    rw [run_bind_ok hget]
    unfold approveOrderReceipt
    by_cases hst : o.status = .completed
    · rw [run_bind_ok (run_require hst), if_pos happroved]
      rfl
    · rw [run_bind_error (run_require_not hst)]

/-- A rewritten order was saved, unless its receipt was approved already. -/
theorem saves_of_rewrites (h : Rewrites ctx r o o') (hfind : db.orders.find? o.id = some o) :
    r.saves ctx db = some o.id ∨
      ∃ user, r = .masterReceiptConfirm user o.id ∧ o.receiptApprovedAt.isSome = true := by
  cases h with
  | accept hst => exact Or.inl (if_pos (by rw [DB.statusOf_of_find hfind, hst]))
  | start hst =>
      refine Or.inl (if_neg ?_)
      rw [DB.statusOf_of_find hfind, hst]
      decide
  | @confirm user _ hst =>
      by_cases happroved : o.receiptApprovedAt.isSome = true
      · exact Or.inr ⟨user, rfl, happroved⟩
      · refine Or.inl (if_neg ?_)
        rw [hfind, Option.any_some]
        exact happroved
  | useInventory hid _ => exact Or.inl (congrArg some hid)
  | _ => exact Or.inl rfl

theorem find?_save_of_id_ne (horders : db'.orders = db.orders.save o') (hid : o'.id = o.id)
    (hne : o.id ≠ id) : db'.orders.find? id = db.orders.find? id := by
  rw [horders, Table.find?_save_of_ne]
  rw [key_order, hid]
  exact hne

theorem paidOrder_eq {params : Params} {tx : PaymeTransaction}
    (hid : params.id = some tx.transactionId)
    (htx : db.payme.find? tx.transactionId = some tx) (horder : db.orders.find? tx.order = some o) :
    params.paidOrder db = some (tx, o) := by
  simp [Params.paidOrder, hid, htx, horder]

/-- A payment that writes an order saves it. -/
theorem order_of_paymeEffect (h : PaymeEffect cfg ctx db db' r)
    (hsaves : r.saves ctx db ≠ some id) :
    db'.orders.find? id = db.orders.find? id := by
  cases h with
  | create _ _ _ _ _ _ _ hdb => rw [hdb]
  | expire _ _ _ _ hdb => rw [hdb]
  | cancel _ _ _ _ hdb => rw [hdb]
  | @refund params tx o hid htx hperf horder _ hdb =>
      have hkey : o.id = tx.order := Table.key_of_find? horder
      have hsaved : db'.orders = db.orders.save { o with isPaid := false } := by rw [hdb]
      cases hpaid : o.isPaid with
      | true =>
          have hne : o.id ≠ id := by
            intro hoid
            apply hsaves
            simp [Request.saves, paidOrder_eq hid htx horder, hperf, hpaid, hoid]
          exact find?_save_of_id_ne hsaved rfl hne
      | false =>
          -- saving the flag as it is changes nothing
          have hsame : ({ o with isPaid := false } : Order) = o := by rw [← hpaid]
          have hfind : db.orders.find? o.id = some o := hkey ▸ horder
          rw [hsaved, hsame, Table.save_of_find? hfind]
  | @perform params tx o hid htx hperf _ _ horder hmarks =>
      have hkey : o.id = tx.order := Table.key_of_find? horder
      have hne : o.isPaid = false → o.id ≠ id := by
        intro hunpaid hoid
        apply hsaves
        simp [Request.saves, paidOrder_eq hid htx horder, hperf, hunpaid, hoid]
      cases hmarks with
      | already _ hdb => rw [hdb]
      | completed credit hunpaid hc =>
          have hsaved : db'.orders = db.orders.save (completedOrder ctx .online o) := by rw [hc.eq]
          exact find?_save_of_id_ne hsaved rfl (hne hunpaid)
      | flagged hunpaid _ hdb =>
          have hsaved : db'.orders =
              db.orders.save { o with isPaid := true, paidAt := some ctx.now } := by rw [hdb]
          exact find?_save_of_id_ne hsaved rfl (hne hunpaid)

/-- The orders that a request does not save stay as they are; a new order may appear. -/
theorem order_of_not_saved (h : savedOrder cfg ctx r db ≠ some id) :
    (handle cfg ctx r db).2.orders.find? id = db.orders.find? id ∨
      (db.orders.find? id = none ∧
        ∃ o, (handle cfg ctx r db).2.orders.find? id = some o ∧ Creates ctx r o) := by
  unfold savedOrder at h
  cases hanswer : (handle cfg ctx r db).1 with
  | error e => exact order_of_error hanswer id
  | ok response =>
      rw [hanswer] at h
      have heffect := effect_handle cfg ctx r db
      cases heffect with
      | frame hf =>
          rw [hf.orders]
          exact Or.inl rfl
      | @create _ o hc hins _ _ _ =>
          have hnone := (Table.insert?_eq_some_iff.mp hins).1
          rw [key_order] at hnone
          rw [Table.find?_insert? hins, key_order]
          by_cases hid : o.id = id
          · rw [if_pos hid]
            exact Or.inr ⟨hid ▸ hnone, o, rfl, hc⟩
          · rw [if_neg hid]
            exact Or.inl rfl
      | @rewrite _ o o' hr hfind horders _ _ _ =>
          refine Or.inl ?_
          rcases saves_of_rewrites hr hfind with hsaves | ⟨user, rfl, happroved⟩
          · refine find?_save_of_id_ne horders hr.id_eq fun hid => h ?_
            rw [hsaves, hid]
          · rw [confirm_again hfind happroved]
      | @check user data o total hfind _ _ horders _ _ _ =>
          exact Or.inl (find?_save_of_id_ne horders rfl fun hid => h (congrArg some hid))
      | @pay o credit _ hc =>
          have hsaved : (handle cfg ctx (.clientPay o.client o.id (.choice .cash)) db).2.orders =
              db.orders.save (completedOrder ctx .cash o) := by rw [hc.eq]
          exact Or.inl (find?_save_of_id_ne hsaved rfl fun hid => h (congrArg some hid))
      | payme hp => exact Or.inl (order_of_paymeEffect hp h)
      | wallet hw =>
          rw [hw.eq]
          exact Or.inl rfl

theorem Rewrites.paidAt (h : Rewrites ctx r o o') : o'.paidAt = o.paidAt := by
  cases h with
  | dashboardUpdate hdata _ =>
      obtain ⟨total, h⟩ := Dashboard.DashboardOrderSerializer.updated_eq _ o
      rw [h]
      rcases hdata with rfl | ⟨a, rfl⟩ <;> rfl
  | _ => rfl

/-- An order that is completed was so before, and is paid when it was, or it is paid
just now. -/
theorem paidAt_step {o? : Option Order} (h : OrderStep ctx db db' r o? (some o'))
    (hst : o'.status = .completed) :
    o'.paidAt = some ctx.now ∨
      ∃ o, o? = some o ∧ o.status = .completed ∧ o'.paidAt = o.paidAt := by
  cases h with
  | same => exact Or.inr ⟨o', rfl, hst, rfl⟩
  | created hc => exact absurd hst hc.status_ne
  | rewritten hr =>
      have hadmin := hr.status
      rw [hst] at hadmin
      exact Or.inr ⟨_, rfl, eq_completed_of_canAdminSetStatus hadmin, hr.paidAt⟩
  | checked _ _ _ => cases hst
  | completed _ => exact Or.inl rfl
  | flagged _ _ _ => exact Or.inl rfl
  | unflagged _ hne => exact absurd hst hne

end Saves

end Homex
