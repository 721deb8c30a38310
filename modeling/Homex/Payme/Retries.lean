import Homex.Payme.Charge
import Homex.Payme.StateMachine

/-!
# Repeated webhook requests

A request that is sent twice in a row, before the transaction's timeout passes,
is answered the same way twice and the second time changes nothing. The exception
is a `CreateTransaction` that repeats a transaction in state 1 that has timed out:
the first request cancels it and answers with an error, and the second one
answers with the cancelled transaction.
-/

namespace Homex

namespace Payme

open Relational Action Orders Wallet PaymeWebHookAPIView
open Code hiding createTransaction

variable {cfg : Settings} {ctx ctx' : Context} {db db' : DB} {params : Params} {id : String}
  {tx : PaymeTransaction} {o o' : Order} {e : Error}

section FailedPayments

/-! A payment that fails, fails again: as long as the id it draws for the ledger
row is new, what it fails on does not depend on the request. -/

/-- The id the request draws for a ledger row is new. -/
def DrawsFresh (ctx : Context) (db : DB) : Prop :=
  db.wallet.transactions.find? (ctx.uuid .walletTransaction) = none

theorem DrawsFresh.createTransaction (h : DrawsFresh ctx db) {r : WalletTransaction}
    (hid : r.id = ctx.uuid .walletTransaction) {s : DB}
    (hs : s.wallet.transactions = db.wallet.transactions) :
    ∃ s', Code.createTransaction r s = (.ok (), s') := by
  have hnone : s.wallet.transactions.find? (key r) = none := by
    rw [key_walletTransaction, hid, hs]
    exact h
  obtain ⟨t, hins⟩ := Table.exists_insert? hnone
  refine ⟨{ s with wallet.transactions := t }, run_write ?_⟩
  rw [hins, Option.map_some]

/-- A posting into the wallet fails on its amount only. -/
theorem not_pos_of_post_error {master : Uuid} {amount : Int} {method : PaymentMethod}
    {description : String} {order : Option Uuid} (hfresh : DrawsFresh ctx db)
    (h : postWalletTransaction ctx master .in amount method description order db =
      (.error e, db')) : ¬0 < amount := by
  intro hpos
  obtain ⟨-, s₁, h⟩ := atomic_eq_error.mp h
  rw [run_bind_ok (run_require hpos)] at h
  rcases bind_error h with hwallet | ⟨wallet, db₁, hwallet, h⟩
  · exact total_getOrCreateWallet master _ _ _ hwallet
  obtain ⟨-, ws, rfl, -, -⟩ := getOrCreateWallet_ok hwallet
  dsimp only at h
  rcases bind_error h with hsave | ⟨_, db₁, hsave, h⟩
  · cases hsave
  simp only [saveWallet, modify_eq_ok] at hsave
  subst hsave
  rcases bind_error h with hcreate | ⟨_, _, -, hpure⟩
  · obtain ⟨s', hok⟩ := hfresh.createTransaction
      (s := { db with wallet.wallets := ws.save (wallet.move method amount amount 0) })
      (r := { id := ctx.uuid .walletTransaction, master, transactionType := .in, amount
              description, paymentMethod := method, order }) rfl rfl
    rw [hok] at hcreate
    cases hcreate
  · cases hpure

theorem post_error_of_not_pos {master : Uuid} {type : TransactionType} {amount : Int}
    {method : PaymentMethod} {description : String} {order : Option Uuid} (h : ¬0 < amount) :
    postWalletTransaction ctx master type amount method description order db =
      (.error (.validation "amount" "Summa musbat bo'lishi kerak"), db) :=
  run_atomic_error (run_bind_error (run_require_not h))

/-- What the credit of an order fails on, it fails on again. -/
theorem creditMaster_error {method : PaymentType} (hfresh : DrawsFresh ctx db)
    (h : creditMaster ctx o method db = (.error e, db')) {s : DB} (hs : s.services = db.services)
    (hmaster : o'.master = o.master) (htotal : o'.totalAmount = o.totalAmount)
    (hservice : o'.service = o.service) :
    ∃ s', creditMaster ctx' o' method s = (.error e, s') := by
  unfold creditMaster at h ⊢
  rw [hmaster, htotal, hservice]
  cases hm : o.master with
  | none =>
      rw [hm] at h
      cases h
  | some master =>
      rw [hm] at h
      dsimp only at h ⊢
      by_cases hzero : o.totalAmount = 0
      · rw [if_pos hzero] at h
        cases h
      rw [if_neg hzero] at h ⊢
      cases hfind : db.services.find? o.service with
      | none =>
          have hfetch : ∀ s : DB, s.services = db.services →
              fetch (fun db : DB => db.services.find? o.service)
                (Error.serverError "DoesNotExist") s =
                  (.error (.serverError "DoesNotExist"), s) := by
            intro s hs
            apply run_fetch_none
            rw [hs, hfind]
          rw [run_bind_error (hfetch db rfl)] at h
          cases h
          exact ⟨s, run_bind_error (hfetch s hs)⟩
      | some service =>
          have hfetch : ∀ s : DB, s.services = db.services →
              fetch (fun db : DB => db.services.find? o.service)
                (Error.serverError "DoesNotExist") s = (.ok service, s) := by
            intro s hs
            apply run_fetch_some
            rw [hs, hfind]
          rw [run_bind_ok (hfetch db rfl)] at h
          rw [run_bind_ok (hfetch s hs)]
          rcases bind_error h with hpost | ⟨_, _, -, hpure⟩
          · have hpos := not_pos_of_post_error hfresh hpost
            rw [post_error_of_not_pos hpos] at hpost
            cases hpost
            exact ⟨s, run_bind_error (post_error_of_not_pos hpos)⟩
          · cases hpure

theorem run_saveOrder : saveOrder o db = (.ok (), { db with orders := db.orders.save o }) := rfl

theorem completePaidOrder_error {pk : Uuid} {method : PaymentType} (hfresh : DrawsFresh ctx db)
    (h : completePaidOrder ctx pk method db = (.error e, db')) {s : DB}
    (horders : s.orders = db.orders) (hservices : s.services = db.services) :
    ∃ s', completePaidOrder ctx' pk method s = (.error e, s') := by
  obtain ⟨-, s₁, h⟩ := atomic_eq_error.mp h
  cases hfind : db.orders.find? pk with
  | none =>
      have hfetch : ∀ s : DB, s.orders = db.orders →
          fetch (fun db : DB => db.orders.find? pk) (Error.serverError "DoesNotExist") s =
            (.error (.serverError "DoesNotExist"), s) := by
        intro s hs
        apply run_fetch_none
        rw [hs, hfind]
      rw [run_bind_error (hfetch db rfl)] at h
      cases h
      exact ⟨s, run_atomic_error (run_bind_error (hfetch s horders))⟩
  | some o =>
      have hfetch : ∀ s : DB, s.orders = db.orders →
          fetch (fun db : DB => db.orders.find? pk) (Error.serverError "DoesNotExist") s =
            (.ok o, s) := by
        intro s hs
        apply run_fetch_some
        rw [hs, hfind]
      rw [run_bind_ok (hfetch db rfl)] at h
      by_cases hst : o.status ≠ .awaitingPayment
      · rw [if_pos hst] at h
        cases h
      rw [if_neg hst, run_bind_ok run_saveOrder] at h
      rcases bind_error h with hcredit | ⟨_, _, -, h⟩
      · have hfresh' : DrawsFresh ctx
            { db with orders := db.orders.save (completedOrder ctx method o) } := hfresh
        have hagain : ∃ s', creditMaster ctx' (completedOrder ctx' method o) method
            { s with orders := s.orders.save (completedOrder ctx' method o) } = (.error e, s') :=
          creditMaster_error hfresh' hcredit hservices rfl rfl rfl
        obtain ⟨s', hagain⟩ := hagain
        refine ⟨s, atomic_eq_error.mpr ⟨rfl, s', ?_⟩⟩
        rw [run_bind_ok (hfetch s horders), if_neg hst, run_bind_ok run_saveOrder]
        exact run_bind_error hagain
      · rcases bind_error h with hrecord | ⟨_, _, -, hpure⟩
        · cases hrecord
        · cases hpure

/-- A payment that fails leaves its error to the next try. -/
theorem markOrderPaid_error (hfresh : DrawsFresh ctx db)
    (h : markOrderPaid ctx o db = (.error e, db')) {s : DB} (horders : s.orders = db.orders)
    (hservices : s.services = db.services) : ∃ s', markOrderPaid ctx' o s = (.error e, s') := by
  unfold markOrderPaid at h ⊢
  by_cases hpaid : o.isPaid = true
  · rw [if_pos hpaid] at h
    cases h
  rw [if_neg hpaid] at h ⊢
  rcases bind_error h with hcomplete | ⟨completed, db₁, -, h⟩
  · have hagain : ∃ s', completePaidOrder ctx' o.id .online s = (.error e, s') :=
      completePaidOrder_error hfresh hcomplete horders hservices
    obtain ⟨s', hagain⟩ := hagain
    exact ⟨s', run_bind_error hagain⟩
  · by_cases hflag : completed = false
    · rw [if_pos hflag] at h
      cases h
    · rw [if_neg hflag] at h
      cases h

end FailedPayments

theorem run_savePayme :
    savePayme tx db = (.ok (), { db with payme := db.payme.save tx }) := rfl

section Perform

variable (hid : params.id = some id)
include hid

theorem performTransaction_of_id :
    performTransaction ctx params db =
      (atomic (performLocked ctx id) >>= performAnswer id) db := by
  unfold performTransaction
  rw [hid, run_bind_ok run_requireKey]

theorem perform_missing (hfind : db.payme.find? id = none) :
    performTransaction ctx params db = (.error (.payme .transactionNotFound id), db) := by
  rw [performTransaction_of_id hid]
  apply run_bind_error
  exact run_atomic_error (run_bind_error (run_lockedTx_none hfind))

theorem perform_performed (hfind : db.payme.find? id = some tx) (hperf : tx.isPerformed = true) :
    performTransaction ctx params db = (.ok (performResult tx), db) := by
  have hlocked : performLocked ctx id db = (.ok (some (performResult tx)), db) := by
    unfold performLocked
    rw [run_bind_ok (run_lockedTx hfind), if_pos hperf]
    rfl
  rw [performTransaction_of_id hid, run_bind_ok (run_atomic_ok hlocked)]
  rfl

theorem perform_cancelled (hfind : db.payme.find? id = some tx) (hperf : ¬tx.isPerformed = true)
    (hcanc : tx.isCancelled = true) :
    performTransaction ctx params db = (.error (.payme .unableToPerformOperation id), db) := by
  have hlocked : performLocked ctx id db = (.error (.payme .unableToPerformOperation id), db) := by
    unfold performLocked
    rw [run_bind_ok (run_lockedTx hfind), if_neg hperf, if_pos hcanc]
    rfl
  rw [performTransaction_of_id hid, run_bind_error (run_atomic_error hlocked)]

theorem perform_expired (hfind : db.payme.find? id = some tx) (hperf : ¬tx.isPerformed = true)
    (hcanc : ¬tx.isCancelled = true) (hexp : tx.isExpired ctx.now = true) :
    performTransaction ctx params db =
      (.error (.payme .unableToPerformOperation id), { db with
        payme := db.payme.save
          (tx.markAsCancelled ctx.now (some timeoutCancelReason) .canceledDuringInit) }) := by
  have hlocked : performLocked ctx id db = (.ok none, { db with
      payme := db.payme.save
        (tx.markAsCancelled ctx.now (some timeoutCancelReason) .canceledDuringInit) }) := by
    unfold performLocked
    rw [run_bind_ok (run_lockedTx hfind), if_neg hperf, if_neg hcanc, if_pos hexp]
    rfl
  rw [performTransaction_of_id hid, run_bind_ok (run_atomic_ok hlocked)]
  rfl

/-- The database a performed transaction is paid in. -/
theorem perform_open (hfind : db.payme.find? id = some tx) (hperf : ¬tx.isPerformed = true)
    (hcanc : ¬tx.isCancelled = true) (hexp : ¬tx.isExpired ctx.now = true)
    (horder : db.orders.find? tx.order = some o) :
    performTransaction ctx params db =
      match markOrderPaid ctx o
        { db with payme := db.payme.save (tx.markAsPerformed ctx.now) } with
      | (.ok _, db') => (.ok (performResult (tx.markAsPerformed ctx.now)), db')
      | (.error e, _) => (.error e, db) := by
  have hfetch : fetch (fun db : DB => db.orders.find? tx.order)
      (Error.serverError "DoesNotExist")
      { db with payme := db.payme.save (tx.markAsPerformed ctx.now) } =
        (.ok o, { db with payme := db.payme.save (tx.markAsPerformed ctx.now) }) :=
    run_fetch_some horder
  have hlocked : performLocked ctx id db =
      (markOrderPaid ctx o >>= fun _ => pure (some (performResult (tx.markAsPerformed ctx.now))))
        { db with payme := db.payme.save (tx.markAsPerformed ctx.now) } := by
    unfold performLocked
    rw [run_bind_ok (run_lockedTx hfind), if_neg hperf, if_neg hcanc, if_neg hexp]
    rw [run_bind_ok run_savePayme, run_bind_ok hfetch]
  rw [performTransaction_of_id hid]
  rcases hpaid : markOrderPaid ctx o
    { db with payme := db.payme.save (tx.markAsPerformed ctx.now) } with ⟨e | u, db'⟩
  · rw [run_bind_error hpaid] at hlocked
    exact run_bind_error (run_atomic_error hlocked)
  · rw [run_bind_ok hpaid] at hlocked
    exact run_bind_ok (run_atomic_ok hlocked)

end Perform

section Cancel

variable (hid : params.id = some id)
include hid

theorem cancelTransaction_of_id :
    cancelTransaction ctx params db =
      (atomic (cancelLocked ctx id params.reason) >>= fun tx =>
        pure (.cancel tx.transactionId tx.state.code (timeToPayme tx.cancelledAt))) db := by
  unfold cancelTransaction
  rw [hid, run_bind_ok run_requireKey]

theorem cancel_of_error (h : cancelLocked ctx id params.reason db = (.error e, db')) :
    cancelTransaction ctx params db = (.error e, db) := by
  rw [cancelTransaction_of_id hid, run_bind_error (run_atomic_error h)]

theorem cancel_of_ok (h : cancelLocked ctx id params.reason db = (.ok tx, db')) :
    cancelTransaction ctx params db =
      (.ok (.cancel tx.transactionId tx.state.code (timeToPayme tx.cancelledAt)), db') := by
  rw [cancelTransaction_of_id hid, run_bind_ok (run_atomic_ok h)]
  rfl

omit hid

theorem cancelLocked_cancelled {reason : Option Int} (hfind : db.payme.find? id = some tx)
    (hcanc : tx.isCancelled = true) : cancelLocked ctx id reason db = (.ok tx, db) := by
  unfold cancelLocked
  rw [run_bind_ok (run_lockedTx hfind), if_pos hcanc]
  rfl

theorem cancelLocked_completed {reason : Option Int} (hfind : db.payme.find? id = some tx)
    (hcanc : ¬tx.isCancelled = true) (hperf : tx.isPerformed = true)
    (horder : db.orders.find? tx.order = some o) (hst : o.status = .completed) :
    cancelLocked ctx id reason db = (.error (.payme .unableToCancelTransaction id), db) := by
  have hfetch : fetch (fun db : DB => db.orders.find? tx.order)
      (Error.serverError "DoesNotExist") db = (.ok o, db) := run_fetch_some horder
  unfold cancelLocked
  rw [run_bind_ok (run_lockedTx hfind), if_neg hcanc, if_pos hperf, run_bind_ok hfetch]
  exact run_bind_error (run_require_not (not_not.mpr hst))

/-- Unmarking does not fail, and writes the orders only. -/
theorem run_markOrderPaymentCancelled (o : Order) (db : DB) :
    ∃ orders, markOrderPaymentCancelled o db = (.ok (), { db with orders := orders }) := by
  unfold markOrderPaymentCancelled
  by_cases hunpaid : o.isPaid = false
  · rw [if_pos hunpaid]
    exact ⟨db.orders, rfl⟩
  · rw [if_neg hunpaid]
    exact ⟨_, rfl⟩

/-- A transaction that may be cancelled is saved in an end state. -/
theorem cancelLocked_live (ctx : Context) (reason : Option Int) (hs : Sound db)
    (hfind : db.payme.find? id = some tx) (hcanc : ¬tx.isCancelled = true)
    (hlive : tx.isPerformed = true → db.statusOf tx.order ≠ some .completed) :
    ∃ state db', (state = .canceled ∨ state = .canceledDuringInit) ∧
      cancelLocked ctx id reason db = (.ok (tx.markAsCancelled ctx.now reason state), db') ∧
      db'.payme = db.payme.save (tx.markAsCancelled ctx.now reason state) := by
  by_cases hperf : tx.isPerformed = true
  · obtain ⟨o, horder⟩ := hs.order_exists tx (Table.mem_of_find? hfind)
    have hst : o.status ≠ .completed := by
      intro hst
      exact hlive hperf (by rw [DB.statusOf_of_find horder, hst])
    have hfetch : fetch (fun db : DB => db.orders.find? tx.order)
        (Error.serverError "DoesNotExist") db = (.ok o, db) := run_fetch_some horder
    obtain ⟨orders, hunmark⟩ := run_markOrderPaymentCancelled o
      { db with payme := db.payme.save (tx.markAsCancelled ctx.now reason .canceled) }
    refine ⟨.canceled, { db with
      payme := db.payme.save (tx.markAsCancelled ctx.now reason .canceled), orders := orders },
      Or.inl rfl, ?_, rfl⟩
    unfold cancelLocked
    rw [run_bind_ok (run_lockedTx hfind), if_neg hcanc, if_pos hperf, run_bind_ok hfetch,
      run_bind_ok (run_require hst), run_bind_ok run_savePayme, run_bind_ok hunmark]
    rfl
  · refine ⟨.canceledDuringInit, { db with
      payme := db.payme.save (tx.markAsCancelled ctx.now reason .canceledDuringInit) },
      Or.inr rfl, ?_, rfl⟩
    unfold cancelLocked
    rw [run_bind_ok (run_lockedTx hfind), if_neg hcanc, if_neg hperf]
    rfl

end Cancel

theorem requireKey_none {α : Type} {key : String} :
    requireKey key (none : Option α) db = (.error (.payme .invalidRequest key), db) :=
  run_fetch_none rfl

/-- Performing twice in a row. -/
theorem perform_twice (hs : Sound db) (hfresh : DrawsFresh ctx db)
    (hcross : ∀ id tx, params.id = some id →
      (performTransaction ctx params db).2.payme.find? id = some tx →
      tx.isExpired ctx'.now = tx.isExpired ctx.now) :
    performTransaction ctx' params (performTransaction ctx params db).2 =
      performTransaction ctx params db := by
  cases hid : params.id with
  | none =>
      have hmissing : ∀ ctx, performTransaction ctx params db =
          (.error (.payme .invalidRequest "id"), db) := by
        intro ctx
        unfold performTransaction
        rw [hid, run_bind_error requireKey_none]
      rw [hmissing ctx]
      exact hmissing ctx'
  | some id =>
      cases hfind : db.payme.find? id with
      | none =>
          rw [perform_missing hid hfind]
          exact perform_missing hid hfind
      | some tx =>
          have htx : tx.transactionId = id := Table.key_of_find? hfind
          subst htx
          by_cases hperf : tx.isPerformed = true
          · rw [perform_performed hid hfind hperf]
            exact perform_performed hid hfind hperf
          by_cases hcanc : tx.isCancelled = true
          · rw [perform_cancelled hid hfind hperf hcanc]
            exact perform_cancelled hid hfind hperf hcanc
          by_cases hexp : tx.isExpired ctx.now = true
          · -- cancelled by the first request, and found cancelled by the second
            rw [perform_expired hid hfind hperf hcanc hexp]
            have hfind' := find?_save_transaction
              (tx.markAsCancelled ctx.now (some timeoutCancelReason) .canceledDuringInit) hfind
              (PaymeTransaction.markAsCancelled_transactionId ..)
            refine perform_cancelled hid hfind' ?_
              (PaymeTransaction.isCancelled_markAsCancelled _ (Or.inr rfl))
            simp [PaymeTransaction.isPerformed]
          obtain ⟨o, horder⟩ := hs.order_exists tx (Table.mem_of_find? hfind)
          have hst := PaymeTransaction.state_eq_initiating
            (hs.started tx (Table.mem_of_find? hfind)) (by simpa using hperf) (by simpa using hcanc)
          have hrun := perform_open hid hfind hperf hcanc hexp horder
          rcases hpaid : markOrderPaid ctx o
            { db with payme := db.payme.save (tx.markAsPerformed ctx.now) } with ⟨e | u, db'⟩
          · -- rolled back, and failing on the same thing again
            rw [hpaid] at hrun
            rw [hrun] at hcross
            have hexp' : ¬tx.isExpired ctx'.now = true := by
              rw [hcross _ tx hid hfind]
              exact hexp
            have hfresh' : DrawsFresh ctx
                { db with payme := db.payme.save (tx.markAsPerformed ctx.now) } := hfresh
            have hagain : ∃ s', markOrderPaid ctx' o
                { db with payme := db.payme.save (tx.markAsPerformed ctx'.now) } =
                  (.error e, s') :=
              markOrderPaid_error hfresh' hpaid rfl rfl
            obtain ⟨s', hagain⟩ := hagain
            have hrun' := perform_open hid hfind hperf hcanc hexp' horder
            rw [hagain] at hrun'
            rw [hrun]
            exact hrun'
          · -- performed by the first request, and found performed by the second
            rw [hpaid] at hrun
            have horderId : o.id = tx.order := Table.key_of_find? horder
            have hsave := (markOrderPaid_ok (horderId ▸ horder) hpaid).payme_eq
            rw [PaymeTransaction.markAsPerformed_of_initiating _ hst] at hsave hrun
            have hfind' : db'.payme.find? tx.transactionId =
                some { tx with state := .successfully, performedAt := some ctx.now } := by
              rw [hsave]
              refine find?_save_transaction _ hfind ?_
              rfl
            rw [hrun]
            exact perform_performed hid hfind' rfl

/-- Cancelling twice in a row. -/
theorem cancel_twice (hs : Sound db) :
    cancelTransaction ctx' params (cancelTransaction ctx params db).2 =
      cancelTransaction ctx params db := by
  cases hid : params.id with
  | none =>
      have hmissing : ∀ ctx, cancelTransaction ctx params db =
          (.error (.payme .invalidRequest "id"), db) := by
        intro ctx
        unfold cancelTransaction
        rw [hid, run_bind_error requireKey_none]
      rw [hmissing ctx]
      exact hmissing ctx'
  | some id =>
      cases hfind : db.payme.find? id with
      | none =>
          have hlocked : ∀ ctx, cancelLocked ctx id params.reason db =
              (.error (.payme .transactionNotFound id), db) :=
            fun ctx => run_bind_error (run_lockedTx_none hfind)
          rw [cancel_of_error hid (hlocked ctx)]
          exact cancel_of_error hid (hlocked ctx')
      | some tx =>
          have htx : tx.transactionId = id := Table.key_of_find? hfind
          subst htx
          by_cases hcanc : tx.isCancelled = true
          · rw [cancel_of_ok hid (cancelLocked_cancelled hfind hcanc)]
            exact cancel_of_ok hid (cancelLocked_cancelled hfind hcanc)
          by_cases hrefused : tx.isPerformed = true ∧ db.statusOf tx.order = some .completed
          · obtain ⟨hperf, hst⟩ := hrefused
            obtain ⟨o, horder, hst⟩ := Option.map_eq_some_iff.mp hst
            rw [cancel_of_error hid (cancelLocked_completed hfind hcanc hperf horder hst)]
            exact cancel_of_error hid (cancelLocked_completed hfind hcanc hperf horder hst)
          · -- cancelled by the first request, and found cancelled by the second
            obtain ⟨state, db', hstate, hlocked, hsave⟩ :=
              cancelLocked_live ctx params.reason hs hfind hcanc
                fun hperf hst => hrefused ⟨hperf, hst⟩
            have hfind' : db'.payme.find? tx.transactionId =
                some (tx.markAsCancelled ctx.now params.reason state) := by
              rw [hsave]
              exact find?_save_transaction _ hfind
                (PaymeTransaction.markAsCancelled_transactionId ..)
            rw [cancel_of_ok hid hlocked]
            exact cancel_of_ok hid (cancelLocked_cancelled hfind'
              (PaymeTransaction.isCancelled_markAsCancelled _ hstate))

/-- The locked part of `create_transaction`. -/
def createLocked (cfg : Settings) (ctx : Context) (order : Order) (amount : Int) (id : String) :
    Code (Option PaymeTransaction) := do
  let db ← get
  match db.payme.find? id with
  | some tx => createAgain ctx order amount tx
  | none => createFresh cfg ctx order amount id

theorem fetchAccount_cases (cfg : Settings) (account : List (String × Uuid)) (db : DB) :
    ((∀ o : Order, accountOrder cfg account = some o.id → db.orders.find? o.id ≠ some o) ∧
      ∃ e, ∀ s : DB, s.orders = db.orders → fetchAccount cfg account s = (.error e, s)) ∨
      ∃ o, accountOrder cfg account = some o.id ∧ db.orders.find? o.id = some o ∧
        ∀ s : DB, s.orders = db.orders → fetchAccount cfg account s = (.ok o, s) := by
  unfold fetchAccount
  cases hpk : accountOrder cfg account with
  | none =>
      refine Or.inl ⟨fun o h => ?_, _, fun s _ => run_bind_error (run_fetch_none rfl)⟩
      cases h
  | some pk =>
      cases hfind : db.orders.find? pk with
      | none =>
          refine Or.inl ⟨fun o h hfound => ?_,
            .payme .accountDoesNotExist cfg.paymeAccountField, fun s hs => ?_⟩
          · rw [← Option.some.inj h, hfind] at hfound
            cases hfound
          · rw [run_bind_ok run_fetch_value]
            apply run_fetch_none
            rw [hs, hfind]
      | some o =>
          have hid : o.id = pk := Table.key_of_find? hfind
          refine Or.inr ⟨o, by rw [hid], by rw [hid, hfind], fun s hs => ?_⟩
          rw [run_bind_ok run_fetch_value]
          apply run_fetch_some
          rw [hs, hfind]

theorem validateAmount_cases (o : Order) (amount : Option Int) :
    (amount ≠ some (orderAmountTiyin o) ∧ ∃ e, ∀ s, validateAmount o amount s = (.error e, s)) ∨
      amount = some (orderAmountTiyin o) ∧
        ∀ s, validateAmount o amount s = (.ok (orderAmountTiyin o), s) := by
  unfold validateAmount
  cases amount with
  | none =>
      refine Or.inl ⟨fun h => ?_, _, fun s => run_bind_error (run_fetch_none rfl)⟩
      cases h
  | some provided =>
      by_cases htotal : provided = orderAmountTiyin o
      · refine Or.inr ⟨by rw [htotal], fun s => ?_⟩
        rw [run_bind_ok run_fetch_value, run_bind_ok (run_require htotal), htotal]
        rfl
      · refine Or.inl ⟨fun h => htotal (Option.some.inj h), .payme .incorrectAmount "amount",
          fun s => ?_⟩
        rw [run_bind_ok run_fetch_value]
        exact run_bind_error (run_require_not htotal)

/-- The parameters name the transaction, and the order with its total. -/
structure Names (cfg : Settings) (params : Params) (db : DB) (id : String) (o : Order) :
    Prop where
  id : params.id = some id
  order : params.orderId cfg = some o.id
  amount : params.amount = some (some (orderAmountTiyin o))
  found : db.orders.find? o.id = some o

/-- Create fails on its parameters, whatever the transactions are, or it comes to
its locked part with the order and the amount they name. -/
theorem createTransaction_cases (cfg : Settings) (params : Params) (db : DB) :
    ((∀ id o, ¬Names cfg params db id o) ∧
      ∃ e, ∀ ctx, ∀ s : DB, s.orders = db.orders →
        createTransaction cfg ctx params s = (.error e, s)) ∨
      ∃ id o, Names cfg params db id o ∧
        ∀ ctx, ∀ s : DB, s.orders = db.orders →
          createTransaction cfg ctx params s =
            (atomic (createLocked cfg ctx o (orderAmountTiyin o) id) >>= createAnswer id) s := by
  unfold createTransaction
  cases hid : params.id with
  | none =>
      refine Or.inl ⟨fun id o h => ?_, _, fun ctx s _ => run_bind_error requireKey_none⟩
      cases hid.symm.trans h.id
  | some id =>
  cases hamount : params.amount with
  | none =>
      refine Or.inl ⟨fun id o h => ?_, .payme .invalidRequest "amount", fun ctx s _ => ?_⟩
      · cases hamount.symm.trans h.amount
      · rw [run_bind_ok run_requireKey]
        exact run_bind_error requireKey_none
  | some amount =>
  cases haccount : params.account with
  | none =>
      refine Or.inl ⟨fun id o h => ?_, .payme .invalidRequest "account", fun ctx s _ => ?_⟩
      · have horder := h.order
        rw [Params.orderId, haccount] at horder
        cases horder
      · rw [run_bind_ok run_requireKey, run_bind_ok run_requireKey]
        exact run_bind_error requireKey_none
  | some account =>
  have horderId : params.orderId cfg = accountOrder cfg account := by
    rw [Params.orderId, haccount]
    rfl
  rcases fetchAccount_cases cfg account db with ⟨hnone, e, herror⟩ | ⟨o, horder, hfind, hrun⟩
  · refine Or.inl ⟨fun id o h => hnone o (horderId ▸ h.order) h.found, e, fun ctx s hs => ?_⟩
    rw [run_bind_ok run_requireKey, run_bind_ok run_requireKey, run_bind_ok run_requireKey]
    exact run_bind_error (herror s hs)
  rcases validateAmount_cases o amount with ⟨hne, e, herror⟩ | ⟨htotal, hvalid⟩
  · refine Or.inl ⟨fun id o' h => ?_, e, fun ctx s hs => ?_⟩
    · have hid' : o.id = o'.id := Option.some.inj (horder.symm.trans (horderId.symm.trans h.order))
      have ho : o = o' := by
        have hfound := h.found
        rw [← hid', hfind] at hfound
        exact Option.some.inj hfound
      have hparam := h.amount
      rw [hamount, ← ho] at hparam
      exact hne (Option.some.inj hparam)
    · rw [run_bind_ok run_requireKey, run_bind_ok run_requireKey, run_bind_ok run_requireKey,
        run_bind_ok (hrun s hs)]
      exact run_bind_error (herror s)
  · refine Or.inr ⟨id, o, ⟨hid, horderId.trans horder, by rw [hamount, htotal], hfind⟩,
      fun ctx s hs => ?_⟩
    rw [run_bind_ok run_requireKey, run_bind_ok run_requireKey, run_bind_ok run_requireKey,
      run_bind_ok (hrun s hs), run_bind_ok (hvalid s)]
    rfl

section CreateLocked

variable {amount : Int}

theorem createLocked_found (hfind : db.payme.find? id = some tx) :
    createLocked cfg ctx o amount id db = createAgain ctx o amount tx db := by
  unfold createLocked
  rw [run_bind_ok run_get, hfind]

theorem createAgain_other (hother : ¬(tx.order = o.id ∧ tx.amount = amount)) :
    createAgain ctx o amount tx db =
      (.error (.payme .transactionAlreadyExists tx.transactionId), db) :=
  run_bind_error (run_require_not hother)

theorem createAgain_expired (hsame : tx.order = o.id ∧ tx.amount = amount)
    (hexp : tx.isInitiating = true ∧ tx.isExpired ctx.now = true) :
    createAgain ctx o amount tx db =
      (.ok none, { db with
        payme := db.payme.save
          (tx.markAsCancelled ctx.now (some timeoutCancelReason) .canceledDuringInit) }) := by
  unfold createAgain
  rw [run_bind_ok (run_require hsame), if_pos hexp]
  rfl

theorem createAgain_known (hsame : tx.order = o.id ∧ tx.amount = amount)
    (hexp : ¬(tx.isInitiating = true ∧ tx.isExpired ctx.now = true)) :
    createAgain ctx o amount tx db = (.ok (some tx), db) := by
  unfold createAgain
  rw [run_bind_ok (run_require hsame), if_neg hexp]
  rfl

/-- The row of a new id. -/
def newTransaction (ctx : Context) (o : Order) (amount : Int) (id : String) :
    PaymeTransaction where
  transactionId := id
  order := o.id
  amount := amount
  state := .initiating
  createdAt := ctx.now

/-- A new id is refused for a reason that stays, or gets its row. -/
theorem createLocked_new (cfg : Settings) (o : Order) (amount : Int)
    (hfind : db.payme.find? id = none) :
    (∃ e, ∀ ctx, createLocked cfg ctx o amount id db = (.error e, db)) ∨
      ∀ ctx, ∃ t, db.payme.insert? (newTransaction ctx o amount id) = some t ∧
        createLocked cfg ctx o amount id db =
          (.ok (some (newTransaction ctx o amount id)), { db with payme := t }) := by
  have hfresh : ∀ ctx, createLocked cfg ctx o amount id db =
      createFresh cfg ctx o amount id db := by
    intro ctx
    unfold createLocked
    rw [run_bind_ok run_get, hfind]
  have hcreate : ∀ ctx, ∃ t, db.payme.insert? (newTransaction ctx o amount id) = some t ∧
      createPayme (newTransaction ctx o amount id) db = (.ok (), { db with payme := t }) := by
    intro ctx
    obtain ⟨t, hins⟩ := Table.exists_insert? (r := newTransaction ctx o amount id) hfind
    refine ⟨t, hins, run_write ?_⟩
    rw [hins, Option.map_some]
  by_cases hopen : ∃ active, getActiveTransaction db o.id = some active ∧
      ¬cfg.paymeOneTimePayment = false
  · obtain ⟨active, hactive, hone⟩ := hopen
    refine Or.inl ⟨.payme .transactionAlreadyExists active.transactionId, fun ctx => ?_⟩
    rw [hfresh]
    unfold createFresh
    rw [run_bind_ok run_get, hactive]
    exact run_bind_error (run_require_not hone)
  · refine Or.inr fun ctx => ?_
    obtain ⟨t, hins, hrun⟩ := hcreate ctx
    refine ⟨t, hins, ?_⟩
    rw [hfresh]
    unfold createFresh
    rw [run_bind_ok run_get]
    cases hactive : getActiveTransaction db o.id with
    | none => exact run_bind_ok hrun
    | some active =>
        have hone : cfg.paymeOneTimePayment = false := by
          by_contra hone
          exact hopen ⟨active, hactive, hone⟩
        exact (run_bind_ok (run_require hone)).trans (run_bind_ok hrun)

end CreateLocked

/-- The request creates again a transaction in state 1 that has timed out. -/
def RecreatesExpired (cfg : Settings) (ctx : Context) (db : DB) (r : Request) : Prop :=
  ∃ params id tx o, r = .paymeCreate params ∧ Names cfg params db id o ∧
    db.payme.find? id = some tx ∧ tx.order = o.id ∧ tx.amount = orderAmountTiyin o ∧
    tx.state = .initiating ∧ tx.isExpired ctx.now = true

theorem Names.unique {id₁ id₂ : String} {o₁ o₂ : Order} (h₁ : Names cfg params db id₁ o₁)
    (h₂ : Names cfg params db id₂ o₂) : id₁ = id₂ ∧ o₁ = o₂ := by
  have horder : o₁.id = o₂.id := Option.some.inj (h₁.order.symm.trans h₂.order)
  refine ⟨Option.some.inj (h₁.id.symm.trans h₂.id), ?_⟩
  have hfound := h₂.found
  rw [← horder, h₁.found] at hfound
  exact Option.some.inj hfound

section CreateTwice

variable (hnames : Names cfg params db id o)
  (hrun : ∀ ctx, ∀ s : DB, s.orders = db.orders →
    createTransaction cfg ctx params s =
      (atomic (createLocked cfg ctx o (orderAmountTiyin o) id) >>= createAnswer id) s)
include hnames hrun

omit hnames in
theorem create_twice_new (hfind : db.payme.find? id = none)
    (hcross : ∀ tx, (createTransaction cfg ctx params db).2.payme.find? id = some tx →
      tx.isExpired ctx'.now = tx.isExpired ctx.now) :
    createTransaction cfg ctx' params (createTransaction cfg ctx params db).2 =
      createTransaction cfg ctx params db := by
  rcases createLocked_new cfg o (orderAmountTiyin o) hfind with ⟨e, herror⟩ | hcreate
  · rw [(hrun ctx db rfl).trans (run_bind_error (run_atomic_error (herror ctx)))]
    exact (hrun ctx' db rfl).trans (run_bind_error (run_atomic_error (herror ctx')))
  obtain ⟨t, hins, hlocked⟩ := hcreate ctx
  have hfirst := (hrun ctx db rfl).trans (run_bind_ok (run_atomic_ok hlocked))
  have hfind' : t.find? id = some (newTransaction ctx o (orderAmountTiyin o) id) := by
    rw [Table.find?_insert? hins]
    exact if_pos rfl
  rw [hfirst] at hcross ⊢
  have hopen : ¬((newTransaction ctx o (orderAmountTiyin o) id).isInitiating = true ∧
      (newTransaction ctx o (orderAmountTiyin o) id).isExpired ctx'.now = true) := by
    rintro ⟨-, hexp⟩
    rw [hcross _ hfind'] at hexp
    simp [PaymeTransaction.isExpired, newTransaction, transactionTimeoutMs] at hexp
  refine (hrun ctx' { db with payme := t } rfl).trans (run_bind_ok (run_atomic_ok ?_))
  rw [createLocked_found hfind']
  exact createAgain_known ⟨rfl, rfl⟩ hopen

theorem create_twice_known (hfind : db.payme.find? id = some tx)
    (hnot : ¬RecreatesExpired cfg ctx db (.paymeCreate params))
    (hcross : ∀ tx, (createTransaction cfg ctx params db).2.payme.find? id = some tx →
      tx.isExpired ctx'.now = tx.isExpired ctx.now) :
    createTransaction cfg ctx' params (createTransaction cfg ctx params db).2 =
      createTransaction cfg ctx params db := by
  by_cases hsame : tx.order = o.id ∧ tx.amount = orderAmountTiyin o
  · have hopen : ¬(tx.isInitiating = true ∧ tx.isExpired ctx.now = true) := by
      rintro ⟨hinit, hexp⟩
      have hst : tx.state = .initiating := by simpa [PaymeTransaction.isInitiating] using hinit
      exact hnot ⟨params, id, tx, o, rfl, hnames, hfind, hsame.1, hsame.2, hst, hexp⟩
    have hlocked : ∀ ctx₁ : Context, tx.isExpired ctx₁.now = tx.isExpired ctx.now →
        createLocked cfg ctx₁ o (orderAmountTiyin o) id db = (.ok (some tx), db) := by
      intro ctx₁ hexp
      rw [createLocked_found hfind]
      apply createAgain_known hsame
      rw [hexp]
      exact hopen
    rw [(hrun ctx db rfl).trans (run_bind_ok (run_atomic_ok (hlocked ctx rfl)))] at hcross ⊢
    exact (hrun ctx' db rfl).trans
      (run_bind_ok (run_atomic_ok (hlocked ctx' (hcross tx hfind))))
  · have hlocked : ∀ ctx, createLocked cfg ctx o (orderAmountTiyin o) id db =
        (.error (.payme .transactionAlreadyExists tx.transactionId), db) := by
      intro ctx
      rw [createLocked_found hfind]
      exact createAgain_other hsame
    rw [(hrun ctx db rfl).trans (run_bind_error (run_atomic_error (hlocked ctx)))]
    exact (hrun ctx' db rfl).trans (run_bind_error (run_atomic_error (hlocked ctx')))

/-- The transaction that timed out is cancelled by the first request, which fails,
and answered with by the second. -/
theorem create_twice_expired (hexp : RecreatesExpired cfg ctx db (.paymeCreate params)) :
    ∃ db' time, createTransaction cfg ctx params db =
        (.error (.payme .unableToPerformOperation id), db') ∧
      createTransaction cfg ctx' params db' =
        (.ok (.create id State.canceledDuringInit.code time), db') := by
  obtain ⟨params₁, id₁, tx, o₁, hr, hnames₁, hfind, horder, hamount, hst, hexp⟩ := hexp
  cases hr
  obtain ⟨rfl, rfl⟩ := hnames.unique hnames₁
  obtain rfl : tx.transactionId = id := Table.key_of_find? hfind
  have hinit : tx.isInitiating = true := by simp [PaymeTransaction.isInitiating, hst]
  have hlocked : createLocked cfg ctx o (orderAmountTiyin o) tx.transactionId db =
      (.ok none, { db with
        payme := db.payme.save
          (tx.markAsCancelled ctx.now (some timeoutCancelReason) .canceledDuringInit) }) := by
    rw [createLocked_found hfind]
    exact createAgain_expired ⟨horder, hamount⟩ ⟨hinit, hexp⟩
  have hfirst := (hrun ctx db rfl).trans (run_bind_ok (run_atomic_ok hlocked))
  have hfind' := find?_save_transaction
    (tx.markAsCancelled ctx.now (some timeoutCancelReason) .canceledDuringInit) hfind
    (PaymeTransaction.markAsCancelled_transactionId ..)
  have hagain : createLocked cfg ctx' o (orderAmountTiyin o) tx.transactionId
      { db with
        payme := db.payme.save
          (tx.markAsCancelled ctx.now (some timeoutCancelReason) .canceledDuringInit) } =
      (.ok (some (tx.markAsCancelled ctx.now (some timeoutCancelReason) .canceledDuringInit)),
        { db with
          payme := db.payme.save
            (tx.markAsCancelled ctx.now (some timeoutCancelReason) .canceledDuringInit) }) := by
    rw [createLocked_found hfind']
    refine createAgain_known ⟨?_, ?_⟩ ?_
    · rw [PaymeTransaction.markAsCancelled_order, horder]
    · rw [PaymeTransaction.markAsCancelled_amount, hamount]
    · simp [PaymeTransaction.isInitiating]
  have hsecond := (hrun ctx' { db with
    payme := db.payme.save
      (tx.markAsCancelled ctx.now (some timeoutCancelReason) .canceledDuringInit) } rfl).trans
    (run_bind_ok (run_atomic_ok hagain))
  refine ⟨_, timeToPayme (some
    (tx.markAsCancelled ctx.now (some timeoutCancelReason) .canceledDuringInit).createdAt),
    hfirst, hsecond.trans ?_⟩
  simp only [createAnswer, PaymeTransaction.markAsCancelled_transactionId,
    PaymeTransaction.markAsCancelled_state]
  rfl

end CreateTwice

/-- Creating twice in a row, when the transaction has not timed out. -/
theorem create_twice (hnot : ¬RecreatesExpired cfg ctx db (.paymeCreate params))
    (hcross : ∀ id tx, params.id = some id →
      (createTransaction cfg ctx params db).2.payme.find? id = some tx →
      tx.isExpired ctx'.now = tx.isExpired ctx.now) :
    createTransaction cfg ctx' params (createTransaction cfg ctx params db).2 =
      createTransaction cfg ctx params db := by
  rcases createTransaction_cases cfg params db with ⟨-, e, herror⟩ | ⟨id, o, hnames, hrun⟩
  · rw [herror ctx db rfl]
    exact herror ctx' db rfl
  cases hfind : db.payme.find? id with
  | none => exact create_twice_new hrun hfind fun tx => hcross id tx hnames.id
  | some tx => exact create_twice_known hnames hrun hfind hnot fun tx => hcross id tx hnames.id

/-- An answer that is given twice by the method is given twice by the webhook. -/
theorem handle_twice {r : Request} {x y : Code Result}
    (hx : view cfg ctx r = Response.payme <$> x) (hy : view cfg ctx' r = Response.payme <$> y)
    (h : y (x db).2 = x db) :
    handle cfg ctx' r (handle cfg ctx r db).2 = handle cfg ctx r db := by
  have hview : view cfg ctx' r (view cfg ctx r db).2 = view cfg ctx r db := by
    rw [hx, hy, map_snd]
    exact run_map_congr h
  rw [handle_snd]
  unfold handle
  rw [hview]

/-- The two answers to a creation that is repeated after the timeout. -/
theorem handle_recreate (ctx' : Context) (h : RecreatesExpired cfg ctx db (.paymeCreate params)) :
    ∃ id time db',
      handle cfg ctx (.paymeCreate params) db =
          (.error (.payme .unableToPerformOperation id), db') ∧
        handle cfg ctx' (.paymeCreate params) db' =
          (.ok (.payme (.create id State.canceledDuringInit.code time)), db') := by
  rcases createTransaction_cases cfg params db with ⟨hnone, -⟩ | ⟨id, o, hnames, hrun⟩
  · obtain ⟨params₁, id, tx, o, hr, hnames, -⟩ := h
    cases hr
    exact absurd hnames (hnone id o)
  · obtain ⟨db', time, hfirst, hsecond⟩ := create_twice_expired hnames hrun h
    exact ⟨id, time, db', handle_of_paymeError (run_map_error hfirst),
      handle_of_ok (run_map_ok hsecond)⟩

/-- Webhook retries are idempotent, except for the creation of a transaction that
has timed out: a Create, Perform or Cancel request sent twice in a row, without the
clock crossing the timeout of its transaction in between, gives the same answer
both times and the same state as sent once, if and only if it does not create
again a transaction in state 1 that has timed out. -/
theorem webhook_retry_idempotent (cfg : Settings) {w : World} (h : (backend cfg).Reachable w)
    {r : Request} {params : Params}
    (hr : r = .paymeCreate params ∨ r = .paymePerform params ∨ r = .paymeCancel params)
    {ctx ctx' : Context} (hfresh : DrawsFresh ctx w.db)
    (hcross : ∀ id tx, params.id = some id →
      (handle cfg ctx r w.db).2.payme.find? id = some tx →
      tx.isExpired ctx'.now = tx.isExpired ctx.now) :
    handle cfg ctx' r (handle cfg ctx r w.db).2 = handle cfg ctx r w.db ↔
      ¬RecreatesExpired cfg ctx w.db r := by
  have hs := sound_of_reachable h
  rcases hr with rfl | rfl | rfl
  · constructor
    · intro htwice hexp
      obtain ⟨id, time, db', hfirst, hsecond⟩ := handle_recreate ctx' hexp
      rw [hfirst] at htwice
      cases htwice.symm.trans hsecond
    · intro hnot
      rw [handle_snd, view, map_snd] at hcross
      exact handle_twice rfl rfl (create_twice hnot hcross)
  · rw [handle_snd, view, map_snd] at hcross
    refine iff_of_true (handle_twice rfl rfl (perform_twice hs hfresh hcross)) ?_
    rintro ⟨params₁, id, tx, o, hr, -⟩
    cases hr
  · refine iff_of_true (handle_twice rfl rfl (cancel_twice hs)) ?_
    rintro ⟨params₁, id, tx, o, hr, -⟩
    cases hr

theorem webhook_retry_idempotent_sample :
    handle {} (Sample.at_ 25) Sample.paymePerform
        (handle {} (Sample.at_ 24) Sample.paymePerform
          (Sample.world.run {} Sample.charged).db).2 =
      handle {} (Sample.at_ 24) Sample.paymePerform (Sample.world.run {} Sample.charged).db := by
  have hreach : (backend {}).Reachable (Sample.world.run {} Sample.charged) :=
    reachable_run Sample.reachable (by decide)
  refine (webhook_retry_idempotent {} hreach (Or.inr (Or.inl rfl)) (by rfl) ?_).mpr ?_
  · intro id tx hid hfind
    cases hid
    have hperformed : (handle {} (Sample.at_ 24) Sample.paymePerform
        (Sample.world.run {} Sample.charged).db).2.payme.find? "tx" =
          some { Sample.openTx with state := .successfully, performedAt := some 24 } := by decide
    obtain rfl := Option.some.inj (hperformed.symm.trans hfind)
    decide
  · rintro ⟨params, id, tx, o, hr, -⟩
    cases hr

/-- An instant at which the transaction has timed out. -/
def Sample.late (later : Nat) : Context := Sample.at_ (43200000100 + later)

/-- The transaction is created again after its timeout, twice: the first request
is answered with an error, the second with the cancelled transaction. -/
theorem retry_answered_differently :
    (backend {}).Reachable (Sample.world.run {} Sample.charged) ∧
      (Sample.world.run {} Sample.charged).clock ≤ (Sample.late 0).now ∧
      ((handle {} (Sample.late 0) Sample.paymeCreate
        (Sample.world.run {} Sample.charged).db).2.payme.rows.all fun tx =>
          tx.isExpired (Sample.late 1).now = tx.isExpired (Sample.late 0).now) = true ∧
      (handle {} (Sample.late 0) Sample.paymeCreate
        (Sample.world.run {} Sample.charged).db).1 =
          .error (.payme .unableToPerformOperation "tx") ∧
      (handle {} (Sample.late 1) Sample.paymeCreate
        (handle {} (Sample.late 0) Sample.paymeCreate
          (Sample.world.run {} Sample.charged).db).2).1 = .ok (.payme (.create "tx" (-1) 0)) :=
  ⟨reachable_run Sample.reachable (by decide), by decide, by decide, rfl, rfl⟩

end Payme

end Homex
