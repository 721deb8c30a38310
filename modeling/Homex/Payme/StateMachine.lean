import Homex.Payme.Transactions

/-!
# The state machine of a transaction

`RowStep` is what one request does to one transaction: it is created in state 1,
and moves from 1 to 2, from 1 to −1 or from 2 to −2, each move with its stamp.
The stamps of a row therefore tell its state, and what a run leaves of a
transaction is the row it found, moved further along the machine.

`markOrderPaid` is reached by the move from 1 to 2 alone. To say so, the call is
made a parameter of the request: a request that does not reach it has the same
outcome whatever is put in its place.
-/

namespace Homex

namespace Payme

open Relational Action Code Orders

variable {cfg : Settings} {ctx : Context} {db db' : DB} {r : Request}

/-- What one request, handled at instant `now`, does to one transaction. -/
inductive RowStep (now : Int) : Option PaymeTransaction → Option PaymeTransaction → Prop
  | same {tx? : Option PaymeTransaction} : RowStep now tx? tx?
  | created {transactionId : String} {order : Uuid} {amount : Int} :
      RowStep now none
        (some { transactionId, order, amount, state := .initiating, createdAt := now })
  | performed {tx : PaymeTransaction} : tx.state = .initiating →
      RowStep now (some tx) (some { tx with state := .successfully, performedAt := some now })
  | cancelled {tx : PaymeTransaction} {reason : Option Int} : tx.state = .initiating →
      RowStep now (some tx)
        (some { tx with
          state := .canceledDuringInit, cancelReason := reason, cancelledAt := some now })
  | refunded {tx : PaymeTransaction} {reason : Option Int} : tx.state = .successfully →
      RowStep now (some tx)
        (some { tx with state := .canceled, cancelReason := reason, cancelledAt := some now })

theorem PaymeTransaction.markAsCancelled_of_ne {tx : PaymeTransaction} {now : Int}
    {reason : Option Int} {state : State} (h : tx.state ≠ state) :
    tx.markAsCancelled now reason state =
      { tx with state := state, cancelReason := reason, cancelledAt := some now } := by
  unfold markAsCancelled
  rw [if_neg h]

section Rows

/-- A rewritten transaction is found under its id. -/
theorem find?_save_transaction {t : Table PaymeTransaction} {tx : PaymeTransaction}
    (new : PaymeTransaction) (hfind : t.find? tx.transactionId = some tx)
    (hid : new.transactionId = tx.transactionId) :
    (t.save new).find? tx.transactionId = some new := by
  have hfind' : t.find? (key new) = some tx := by
    rw [key_paymeTransaction, hid]
    exact hfind
  rw [Table.find?_save hfind', key_paymeTransaction, if_pos hid]

/-- One transaction is replaced, the others keep their rows. -/
theorem rowStep_of_save {tx new : PaymeTransaction} {now : Int}
    (hfind : db.payme.find? tx.transactionId = some tx)
    (hid : new.transactionId = tx.transactionId) (hsave : db'.payme = db.payme.save new)
    (hstep : RowStep now (some tx) (some new)) (id : String) :
    RowStep now (db.payme.find? id) (db'.payme.find? id) := by
  have hfind' : db.payme.find? (key new) = some tx := by
    rw [key_paymeTransaction, hid]
    exact hfind
  rw [hsave]
  exact Table.rel_of_save (fun _ => .same) hfind' hstep id

theorem rowStep_of_cancelled {tx : PaymeTransaction} {now : Int} {reason : Option Int}
    (hfind : db.payme.find? tx.transactionId = some tx) (hst : tx.state = .initiating)
    (hsave : db'.payme = db.payme.save (tx.markAsCancelled now reason .canceledDuringInit))
    (id : String) : RowStep now (db.payme.find? id) (db'.payme.find? id) := by
  have hne : tx.state ≠ .canceledDuringInit := by
    rw [hst]
    decide
  rw [PaymeTransaction.markAsCancelled_of_ne hne] at hsave
  refine rowStep_of_save hfind ?_ hsave (.cancelled hst) id
  rfl

theorem rowStep_of_paymeEffect (hs : Sound db) (h : PaymeEffect cfg ctx db db' r) (id : String) :
    RowStep ctx.now (db.payme.find? id) (db'.payme.find? id) := by
  cases h with
  | create _ _ _ habsent _ _ hins hdb =>
      subst hdb
      rw [Table.find?_insert? hins]
      split
      · next hid =>
          rw [key_paymeTransaction] at hid
          rw [← hid, habsent]
          exact .created
      · exact .same
  | expire hfind hperf hcanc _ hdb =>
      have hst := PaymeTransaction.state_eq_initiating
        (hs.started _ (Table.mem_of_find? hfind)) hperf hcanc
      exact rowStep_of_cancelled hfind hst (by rw [hdb]) id
  | cancel _ hfind hperf hcanc hdb =>
      have hst := PaymeTransaction.state_eq_initiating
        (hs.started _ (Table.mem_of_find? hfind)) hperf hcanc
      exact rowStep_of_cancelled hfind hst (by rw [hdb]) id
  | @refund params tx o _ hfind hperf _ _ hdb =>
      have hst : tx.state = .successfully := by simpa [PaymeTransaction.isPerformed] using hperf
      have hne : tx.state ≠ .canceled := by
        rw [hst]
        decide
      have hsave : db'.payme =
          db.payme.save (tx.markAsCancelled ctx.now params.reason .canceled) := by
        rw [hdb]
      rw [PaymeTransaction.markAsCancelled_of_ne hne] at hsave
      refine rowStep_of_save hfind ?_ hsave (.refunded hst) id
      rfl
  | perform _ hfind hperf hcanc _ _ hmarks =>
      have hst := PaymeTransaction.state_eq_initiating
        (hs.started _ (Table.mem_of_find? hfind)) hperf hcanc
      have hsave := hmarks.payme_eq
      rw [PaymeTransaction.markAsPerformed_of_initiating _ hst] at hsave
      refine rowStep_of_save hfind ?_ hsave (.performed hst) id
      rfl

theorem rowStep_of_effect (hs : Sound db) (h : Effect cfg ctx db db' r) (id : String) :
    RowStep ctx.now (db.payme.find? id) (db'.payme.find? id) := by
  have hsame : db'.payme = db.payme →
      RowStep ctx.now (db.payme.find? id) (db'.payme.find? id) := by
    intro heq
    rw [heq]
    exact .same
  cases h with
  | frame hf => exact hsame hf.payme
  | create _ _ hpayme _ _ => exact hsame hpayme
  | rewrite _ _ _ hpayme _ _ => exact hsame hpayme
  | check _ _ _ _ hpayme _ _ => exact hsame hpayme
  | pay _ hc => exact hsame (by rw [hc.eq])
  | wallet hw => exact hsame (by rw [hw.eq])
  | payme hp => exact rowStep_of_paymeEffect hs hp id

end Rows

/-- The stamps of a transaction tell its state. -/
structure Stamped (tx : PaymeTransaction) : Prop where
  started : tx.state ≠ .created
  performedAt : tx.performedAt ≠ none ↔ tx.state = .successfully ∨ tx.state = .canceled
  cancelledAt : tx.cancelledAt ≠ none ↔ tx.state = .canceledDuringInit ∨ tx.state = .canceled

theorem Stamped.step {now : Int} {tx? : Option PaymeTransaction} {tx' : PaymeTransaction}
    (h : RowStep now tx? (some tx')) (hi : ∀ tx, tx? = some tx → Stamped tx) : Stamped tx' := by
  cases h with
  | same => exact hi tx' rfl
  | created => exact ⟨by simp, by simp, by simp⟩
  | @performed tx hst =>
      have hcanc := (hi tx rfl).cancelledAt
      rw [hst] at hcanc
      exact ⟨by simp, by simp, by simpa using hcanc⟩
  | @cancelled tx _ hst =>
      have hperf := (hi tx rfl).performedAt
      rw [hst] at hperf
      exact ⟨by simp, by simpa using hperf, by simp⟩
  | @refunded tx _ hst =>
      have hperf := (hi tx rfl).performedAt
      rw [hst] at hperf
      exact ⟨by simp, by simpa using hperf, by simp⟩

theorem stamped_of_reachable {w : World} (h : (backend cfg).Reachable w) {id : String}
    {tx : PaymeTransaction} (hfind : w.db.payme.find? id = some tx) : Stamped tx := by
  refine h.invariant
    (I := fun w => ∀ id tx, w.db.payme.find? id = some tx → Stamped tx) ?_ ?_ id tx hfind
  · rintro w ⟨-, hpayme, -, -⟩ id tx hfind
    rw [hpayme] at hfind
    cases hfind
  · intro w l w' hw hi hstep id tx hfind
    have hrow := rowStep_of_effect (sound_of_reachable hw) hstep.effect id
    rw [hfind] at hrow
    exact Stamped.step hrow (hi id)

/-- What a later row of a transaction keeps of an earlier one. -/
structure Continues (tx tx' : PaymeTransaction) : Prop where
  order : tx'.order = tx.order
  amount : tx'.amount = tx.amount
  createdAt : tx'.createdAt = tx.createdAt
  performedAt : tx.performedAt ≠ none → tx'.performedAt = tx.performedAt
  cancelled : tx.state = .canceledDuringInit ∨ tx.state = .canceled → tx' = tx

theorem Continues.rfl (tx : PaymeTransaction) : Continues tx tx := by
  constructor <;> intros <;> trivial

theorem Continues.trans {tx tx' tx'' : PaymeTransaction} (h : Continues tx tx')
    (h' : Continues tx' tx'') : Continues tx tx'' where
  order := h'.order.trans h.order
  amount := h'.amount.trans h.amount
  createdAt := h'.createdAt.trans h.createdAt
  performedAt hset := by
    have hkept := h.performedAt hset
    rw [h'.performedAt (hkept ▸ hset), hkept]
  cancelled hst := by
    have hkept := h.cancelled hst
    subst hkept
    exact h'.cancelled hst

/-- A request leaves a continuation of the row it finds. -/
theorem RowStep.continues {now : Int} {tx : PaymeTransaction} {tx'? : Option PaymeTransaction}
    (h : RowStep now (some tx) tx'?) (hs : Stamped tx) :
    ∃ tx', tx'? = some tx' ∧ Continues tx tx' := by
  cases h with
  | same => exact ⟨tx, Eq.refl _, .rfl tx⟩
  | performed hst =>
      refine ⟨_, Eq.refl _, Eq.refl _, Eq.refl _, Eq.refl _, fun hset => ?_, fun hcanc => ?_⟩
      · rw [hs.performedAt, hst] at hset
        simp at hset
      · rw [hst] at hcanc
        simp at hcanc
  | cancelled hst =>
      refine ⟨_, Eq.refl _, Eq.refl _, Eq.refl _, Eq.refl _, fun _ => Eq.refl _, fun hcanc => ?_⟩
      rw [hst] at hcanc
      simp at hcanc
  | refunded hst =>
      refine ⟨_, Eq.refl _, Eq.refl _, Eq.refl _, Eq.refl _, fun _ => Eq.refl _, fun hcanc => ?_⟩
      rw [hst] at hcanc
      simp at hcanc

theorem continues_of_leads {w w' : World} (h : (backend cfg).Reachable w)
    (hl : (backend cfg).Leads w w') {id : String} {tx : PaymeTransaction}
    (hfind : w.db.payme.find? id = some tx) :
    ∃ tx', w'.db.payme.find? id = some tx' ∧ Continues tx tx' := by
  refine hl.stable (P := fun w' => ∃ tx', w'.db.payme.find? id = some tx' ∧ Continues tx tx')
    ?_ h ⟨tx, hfind, .rfl tx⟩
  rintro s l s' hs ⟨tx', hfind', hcont⟩ hstep
  have hrow := rowStep_of_effect (sound_of_reachable hs) hstep.effect id
  rw [hfind'] at hrow
  obtain ⟨tx'', hfind'', hcont'⟩ := hrow.continues (stamped_of_reachable hs hfind')
  exact ⟨tx'', hfind'', hcont.trans hcont'⟩

section MarkOrderPaid

open PaymeWebHookAPIView

/-- `performLocked` with `pay` in the place of `markOrderPaid`. -/
def performLockedWith (pay : Order → Code Unit) (ctx : Context) (id : String) :
    Code (Option Result) := do
  let tx ← lockedTx id
  if tx.isPerformed = true then
    pure (some (performResult tx))
  else if tx.isCancelled = true then
    raise (.payme .unableToPerformOperation id)
  else if tx.isExpired ctx.now = true then
    savePayme (tx.markAsCancelled ctx.now (some timeoutCancelReason) .canceledDuringInit)
    pure none
  else
    savePayme (tx.markAsPerformed ctx.now)
    let order ← fetch (fun db => db.orders.find? tx.order) (.serverError "DoesNotExist")
    pay order
    pure (some (performResult (tx.markAsPerformed ctx.now)))

/-- `performTransaction` with `pay` in the place of `markOrderPaid`. -/
def performTransactionWith (pay : Order → Code Unit) (ctx : Context) (params : Params) :
    Code Result := do
  let id ← requireKey "id" params.id
  let result? ← atomic (performLockedWith pay ctx id)
  performAnswer id result?

/-- The view of a request with `pay` in the place of `markOrderPaid`. -/
def viewWith (pay : Order → Code Unit) (cfg : Settings) (ctx : Context) :
    Request → Code Response
  | .paymePerform params => .payme <$> performTransactionWith pay ctx params
  | r => view cfg ctx r

theorem viewWith_markOrderPaid : viewWith (markOrderPaid ctx) cfg ctx r = view cfg ctx r := by
  cases r <;> rfl

/-- The request reaches `markOrderPaid`: what is called there makes a difference
to its outcome. -/
def RunsMarkOrderPaid (cfg : Settings) (ctx : Context) (db : DB) (r : Request) : Prop :=
  ∃ pay, viewWith pay cfg ctx r db ≠ view cfg ctx r db

variable {id : String} {tx : PaymeTransaction}

theorem run_lockedTx (hfind : db.payme.find? id = some tx) : lockedTx id db = (.ok tx, db) :=
  run_fetch_some hfind

theorem run_lockedTx_none (hfind : db.payme.find? id = none) :
    lockedTx id db = (.error (.payme .transactionNotFound id), db) :=
  run_fetch_none hfind

/-- The call is reached with an open transaction at hand only. -/
theorem performLockedWith_eq (pay : Order → Code Unit)
    (hclosed : ∀ tx, db.payme.find? id = some tx → tx.isPerformed = false →
      tx.isCancelled = false → tx.isExpired ctx.now = true) :
    performLockedWith pay ctx id db = performLocked ctx id db := by
  unfold performLockedWith performLocked
  cases hfind : db.payme.find? id with
  | none => rw [run_bind_error (run_lockedTx_none hfind), run_bind_error (run_lockedTx_none hfind)]
  | some tx =>
      rw [run_bind_ok (run_lockedTx hfind), run_bind_ok (run_lockedTx hfind)]
      by_cases hperf : tx.isPerformed = true
      · rw [if_pos hperf, if_pos hperf]
      by_cases hcanc : tx.isCancelled = true
      · rw [if_neg hperf, if_pos hcanc, if_neg hperf, if_pos hcanc]
      have hexp := hclosed tx hfind (by simpa using hperf) (by simpa using hcanc)
      rw [if_neg hperf, if_neg hcanc, if_pos hexp, if_neg hperf, if_neg hcanc, if_pos hexp]

theorem performTransactionWith_eq {params : Params} (pay : Order → Code Unit)
    (hclosed : ∀ id tx, params.id = some id → db.payme.find? id = some tx →
      tx.isPerformed = false → tx.isCancelled = false → tx.isExpired ctx.now = true) :
    performTransactionWith pay ctx params db = performTransaction ctx params db := by
  unfold performTransactionWith performTransaction
  cases hid : params.id with
  | none =>
      have hkey : requireKey "id" (none : Option String) db =
          (.error (.payme .invalidRequest "id"), db) := run_fetch_none rfl
      rw [run_bind_error hkey, run_bind_error hkey]
  | some id =>
      have hkey : requireKey "id" (some id) db = (.ok id, db) := run_fetch_some rfl
      rw [run_bind_ok hkey, run_bind_ok hkey]
      exact run_bind_congr (run_atomic_congr (performLockedWith_eq pay (hclosed id · hid)))

/-- A request that reaches `markOrderPaid` performs an open transaction. -/
theorem performs_of_runsMarkOrderPaid (hs : Sound db) (h : RunsMarkOrderPaid cfg ctx db r) :
    ∃ params tx, r = .paymePerform params ∧ params.id = some tx.transactionId ∧
      db.payme.find? tx.transactionId = some tx ∧ tx.state = .initiating ∧
      tx.isExpired ctx.now = false := by
  obtain ⟨pay, hne⟩ := h
  cases r with
  | paymePerform params =>
      by_contra hnot
      apply hne
      refine run_map_congr (performTransactionWith_eq pay fun id tx hid hfind hperf hcanc => ?_)
      by_contra hexp
      have htx : tx.transactionId = id := Table.key_of_find? hfind
      have hst := PaymeTransaction.state_eq_initiating
        (hs.started tx (Table.mem_of_find? hfind)) hperf hcanc
      exact hnot ⟨params, tx, rfl, htx ▸ hid, htx ▸ hfind, hst, by simpa using hexp⟩
  | _ => exact absurd rfl hne

theorem run_requireKey {α : Type} {key : String} {a : α} :
    requireKey key (some a) db = (.ok a, db) :=
  run_fetch_some rfl

theorem performLocked_payme {result? : Option Result} (hfind : db.payme.find? id = some tx)
    (hst : tx.state = .initiating) (hexp : tx.isExpired ctx.now = false)
    (h : performLocked ctx id db = (.ok result?, db')) :
    db'.payme = db.payme.save (tx.markAsPerformed ctx.now) := by
  have hperf : ¬tx.isPerformed = true := by simp [PaymeTransaction.isPerformed, hst]
  have hcanc : ¬tx.isCancelled = true := by simp [PaymeTransaction.isCancelled, hst]
  unfold performLocked at h
  rw [run_bind_ok (run_lockedTx hfind), if_neg hperf, if_neg hcanc, if_neg (by simp [hexp])] at h
  simp only [savePayme, bind_eq_ok, modify_eq_ok, fetch_eq_ok, pure_eq_ok] at h
  obtain ⟨_, _, rfl, o, _, ⟨horder, rfl⟩, _, _, hpaid, -, rfl⟩ := h
  have hid : o.id = tx.order := Table.key_of_find? horder
  exact (markOrderPaid_ok (hid ▸ horder) hpaid).payme_eq

/-- Performing an open transaction moves it to state 2, or is undone as a whole. -/
theorem perform_moves {params : Params} (hid : params.id = some tx.transactionId)
    (hfind : db.payme.find? tx.transactionId = some tx) (hst : tx.state = .initiating)
    (hexp : tx.isExpired ctx.now = false) :
    (handle cfg ctx (.paymePerform params) db).2.payme.find? tx.transactionId =
        some { tx with state := .successfully, performedAt := some ctx.now } ∨
      (handle cfg ctx (.paymePerform params) db).2 = db := by
  have hdb : (handle cfg ctx (.paymePerform params) db).2 =
      (performTransaction ctx params db).2 := by
    rw [handle_snd, view, map_snd]
  rw [hdb]
  rcases hrun : performTransaction ctx params db with ⟨result, db'⟩
  unfold performTransaction at hrun
  rw [hid, run_bind_ok run_requireKey] at hrun
  obtain ⟨result', hrun⟩ := bind_reads (fun _ => within_performAnswer) hrun
  rcases atomic_cases hrun with rfl | ⟨result?, hlocked⟩
  · exact Or.inr rfl
  · left
    have hsave := performLocked_payme hfind hst hexp hlocked
    rw [PaymeTransaction.markAsPerformed_of_initiating _ hst] at hsave
    rw [hsave]
    refine find?_save_transaction _ hfind ?_
    rfl

end MarkOrderPaid

/-- `CheckTransaction` answers what is stored. -/
theorem handle_paymeCheck {id : String} {tx : PaymeTransaction} {params : Params}
    (hid : params.id = some id) (hfind : db.payme.find? id = some tx) :
    handle cfg ctx (.paymeCheck params) db =
      (.ok (.payme (.check id tx.state.code (timeToPayme (some tx.createdAt))
        (timeToPayme tx.performedAt) (timeToPayme tx.cancelledAt) tx.cancelReason)), db) := by
  have htx : tx.transactionId = id := Table.key_of_find? hfind
  apply handle_of_ok
  apply run_map_ok
  unfold PaymeWebHookAPIView.checkTransaction
  rw [hid, run_bind_ok run_requireKey, run_bind_ok (run_lockedTx hfind), htx]
  rfl

/-- The Payme transaction state machine, for every sequence of requests. A stored
transaction has the stamps of its state and is reported as it is stored; a
request moves it along the machine; whatever happens afterwards, its order, amount
and times of creation and performing stay, and a cancelled row stays as it is; and
`markOrderPaid` is reached only by a request that finds the transaction in state
1, and either moves it to state 2 or is undone as a whole. -/
theorem transaction_state_machine (cfg : Settings) {w : World} (h : (backend cfg).Reachable w) :
    (∀ id tx, w.db.payme.find? id = some tx →
      Stamped tx ∧
        (∀ ctx params, params.id = some id →
          handle cfg ctx (.paymeCheck params) w.db =
            (.ok (.payme (.check id tx.state.code (timeToPayme (some tx.createdAt))
              (timeToPayme tx.performedAt) (timeToPayme tx.cancelledAt) tx.cancelReason)), w.db)) ∧
        ∀ w', (backend cfg).Leads w w' →
          ∃ tx', w'.db.payme.find? id = some tx' ∧ Continues tx tx') ∧
      (∀ l w', World.Step cfg w l w' →
        ∀ id, RowStep l.1.now (w.db.payme.find? id) (w'.db.payme.find? id)) ∧
      ∀ ctx r, RunsMarkOrderPaid cfg ctx w.db r →
        ∃ params id tx, r = .paymePerform params ∧ params.id = some id ∧
          w.db.payme.find? id = some tx ∧ tx.state = .initiating ∧
          ((handle cfg ctx r w.db).2.payme.find? id =
              some { tx with state := .successfully, performedAt := some ctx.now } ∨
            (handle cfg ctx r w.db).2 = w.db) := by
  refine ⟨fun id tx hfind => ⟨stamped_of_reachable h hfind, ?_, ?_⟩, ?_, ?_⟩
  · intro ctx params hid
    exact handle_paymeCheck hid hfind
  · intro w' hl
    exact continues_of_leads h hl hfind
  · intro l w' hstep id
    exact rowStep_of_effect (sound_of_reachable h) hstep.effect id
  · intro ctx r hruns
    obtain ⟨params, tx, rfl, hid, hfind, hst, hexp⟩ :=
      performs_of_runsMarkOrderPaid (sound_of_reachable h) hruns
    exact ⟨params, tx.transactionId, tx, rfl, hid, hfind, hst, perform_moves hid hfind hst hexp⟩

/-- The transaction of the prepaid order. -/
def Sample.performedTx : PaymeTransaction where
  transactionId := "tx"
  order := 10
  amount := 100000
  state := .successfully
  createdAt := 22
  performedAt := some 23

theorem transaction_state_machine_sample :
    Stamped Sample.performedTx ∧
      ∀ w', (backend {}).Leads (Sample.world.run {} Sample.prepaid) w' →
        ∃ tx', w'.db.payme.find? "tx" = some tx' ∧ tx'.performedAt = some 23 := by
  have hreach : (backend {}).Reachable (Sample.world.run {} Sample.prepaid) :=
    reachable_run Sample.reachable (by decide)
  have hfind : (Sample.world.run {} Sample.prepaid).db.payme.find? "tx" =
      some Sample.performedTx := by decide
  obtain ⟨hstamped, -, hlater⟩ := (transaction_state_machine {} hreach).1 "tx" _ hfind
  refine ⟨hstamped, fun w' hl => ?_⟩
  obtain ⟨tx', hfind', hcont⟩ := hlater w' hl
  exact ⟨tx', hfind', hcont.performedAt (by decide)⟩

end Payme

end Homex
