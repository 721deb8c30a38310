import Homex.Orders.Completion
import Homex.System.Refusals

/-!
# What a request does to the database

`Effect` lists the ways a request can change the orders, payments and wallets:
it creates or rewrites an order, submits a check, pays one in cash, moves a Payme
transaction, or touches the wallet tables. Every request has one of them
(`effect_handle`), so that an invariant is proved by cases on effects and no
proof opens a view again.
-/

namespace Homex

open Relational Action Code Orders Wallet Warehouse Payme

/-- The order rows a request creates. -/
inductive Creates (ctx : Context) : Request → Order → Prop
  | client {user data device} :
      Creates ctx (.clientCreate user data)
        { OrderSerializer.newOrder ctx user data with device }
  | dashboard {data data' : Dashboard.OrderPayload} {client service : Uuid} {addressText : String}
      {lat lng scheduledDate scheduledTime : Int} :
      data'.status = data.status →
      canAdminSetStatus .new (data.status.getD .new) = true →
      Creates ctx (.dashboardCreate data)
        (Order.recalculateTotal (Dashboard.DashboardOrderSerializer.setFields data'
          { id := ctx.uuid .order, client, service, addressText, lat, lng, scheduledDate
            scheduledTime }))
  | internal {r data date time client service} :
      canAdminSetStatus .new ((data.status.map InternalApi.orderStatusFromDashboard).getD .new) =
        true →
      Creates ctx r
        (InternalApi.InternalOrderWriteSerializer.newOrder ctx
          (InternalApi.InternalOrderWriteSerializer.attrsOf data date time) client
          service).recalculateTotal

/-- The order rows a request rewrites, other than by a check or a payment. -/
inductive Rewrites (ctx : Context) : Request → Order → Order → Prop
  | cancel {user o reason} : o.status ∈ cancellableStatuses →
      Rewrites ctx (.clientCancel user o.id reason) o
        { o with status := .cancelled, cancelReason := reason }
  | payOnline {o method} : o.status = .awaitingPayment → method ≠ .cash →
      Rewrites ctx (.clientPay o.client o.id (.choice method)) o
        (Order.recalculateTotal { o with paymentType := some .online })
  | accept {user o} : o.status = .new →
      Rewrites ctx (.masterAccept user o.id) o { o with master := some user, status := .accepted }
  | onWay {user o} : o.status = .accepted →
      Rewrites ctx (.masterOnWay user o.id) o { o with status := .onWay }
  | start {user o} : o.status = .onWay →
      Rewrites ctx (.masterStart user o.id) o { o with status := .arrived }
  | reject {user o reason} : o.status ∈ rejectableStatuses →
      Rewrites ctx (.masterReject user o.id reason) o
        { o with status := .rejected, rejectedReason := reason }
  | confirm {user o} : o.status = .completed →
      Rewrites ctx (.masterReceiptConfirm user o.id) o
        { o with receiptApprovedAt := some ctx.now, receiptApprovedBy := some user }
  | useInventory {user item data o total} : data.orderId = o.id → o.master = some user →
      Rewrites ctx (.useInventory user item data) o (withInventoryTotal o total)
  | dashboardUpdate {data data' o} :
      (data' = data ∨ ∃ a, data' = Dashboard.DashboardOrderSerializer.withAddress data a) →
      canAdminSetStatus o.status (data.status.getD o.status) = true →
      Rewrites ctx (.dashboardUpdate o.id data) o
        (Dashboard.DashboardOrderSerializer.updated data' o)
  | dashboardStatus {data o cancelReason rejectedReason} :
      canAdminSetStatus o.status data.status = true →
      Rewrites ctx (.dashboardStatus o.id data) o
        { o with status := data.status, cancelReason, rejectedReason }
  | internalUpdate {data date time o} :
      canAdminSetStatus o.status
        ((data.status.map InternalApi.orderStatusFromDashboard).getD o.status) = true →
      Rewrites ctx (.internalUpdate o.id data) o
        (InternalApi.InternalOrderWriteSerializer.updated
          (InternalApi.InternalOrderWriteSerializer.attrsOf data date time) o)
  | internalAssign {master o} :
      Rewrites ctx (.internalAssign o.id master) o (InternalApi.assigned master o)

/-- The changes of the Payme transactions. -/
inductive PaymeEffect (cfg : Settings) (ctx : Context) (db db' : DB) : Request → Prop
  | create {params id o t} : params.id = some id → params.orderId cfg = some o.id →
      params.amount = some (some (orderAmountTiyin o)) →
      db.payme.find? id = none → db.orders.find? o.id = some o →
      (cfg.paymeOneTimePayment = true → getActiveTransaction db o.id = none) →
      db.payme.insert?
        { transactionId := id, order := o.id, amount := orderAmountTiyin o
          state := .initiating, createdAt := ctx.now } = some t →
      db' = { db with payme := t } →
      PaymeEffect cfg ctx db db' (.paymeCreate params)
  | expire {r tx} : db.payme.find? tx.transactionId = some tx →
      tx.isPerformed = false → tx.isCancelled = false → tx.isExpired ctx.now = true →
      db' = { db with
        payme := db.payme.save
          (tx.markAsCancelled ctx.now (some timeoutCancelReason) .canceledDuringInit) } →
      PaymeEffect cfg ctx db db' r
  | cancel {params tx} : params.id = some tx.transactionId →
      db.payme.find? tx.transactionId = some tx →
      tx.isPerformed = false → tx.isCancelled = false →
      db' = { db with
        payme := db.payme.save
          (tx.markAsCancelled ctx.now params.reason .canceledDuringInit) } →
      PaymeEffect cfg ctx db db' (.paymeCancel params)
  | refund {params tx o} : params.id = some tx.transactionId →
      db.payme.find? tx.transactionId = some tx → tx.isPerformed = true →
      db.orders.find? tx.order = some o → o.status ≠ .completed →
      db' = { db with
        orders := db.orders.save { o with isPaid := false }
        payme := db.payme.save (tx.markAsCancelled ctx.now params.reason .canceled) } →
      PaymeEffect cfg ctx db db' (.paymeCancel params)
  | perform {params tx o} : params.id = some tx.transactionId →
      db.payme.find? tx.transactionId = some tx →
      tx.isPerformed = false → tx.isCancelled = false → tx.isExpired ctx.now = false →
      db.orders.find? tx.order = some o →
      MarksPaid ctx o { db with payme := db.payme.save (tx.markAsPerformed ctx.now) } db' →
      PaymeEffect cfg ctx db db' (.paymePerform params)

/-- The changes of the wallet tables that no order makes. -/
inductive WalletEffect (ctx : Context) (db db' : DB) : Request → Prop
  | opened {r} : Opened db.wallet db'.wallet → db' = { db with wallet := db'.wallet } →
      WalletEffect ctx db db' r
  | withdrawCreated {user amount w t} : Opened db.wallet w →
      amount.1 ≤ (db.wallet.wallet user).balanceCash - pendingWithdraw db user →
      db.wallet.withdraws.insert?
        { id := ctx.uuid .withdraw, master := user, amount := amount.1 } = some t →
      db' = { db with wallet := { w with withdraws := t } } →
      WalletEffect ctx db db' (.withdrawCreate user amount)
  | dashboardWithdrawCreated {master amount status adminNote w t} : Opened db.wallet w →
      amount.1 ≤ (db.wallet.wallet master).balanceCash - pendingWithdraw db master →
      db.wallet.withdraws.insert?
        { id := ctx.uuid .withdraw, master, amount := amount.1, status := status.getD .pending
          adminNote := adminNote.getD "" } = some t →
      db' = { db with wallet := { w with withdraws := t } } →
      WalletEffect ctx db db' (.dashboardWithdrawCreate master amount status adminNote)
  | accepted {r w note w₁} : db.wallet.withdraws.find? w.id = some w → w.status = .pending →
      Posted db.wallet w₁ (handoverDebit ctx w) →
      db' = { db with
        wallet := { w₁ with withdraws := db.wallet.withdraws.save (approvedHandover w note) }
        journal := db.journal ++
          [.handoverAccepted (approvedHandover w note) (handoverDebit ctx w)] } →
      WalletEffect ctx db db' r
  | rejected {r w note} : db.wallet.withdraws.find? w.id = some w → w.status = .pending →
      db' = { db with
        wallet.withdraws := db.wallet.withdraws.save (rejectedHandover w note) } →
      WalletEffect ctx db db' r
  | saved {w data} : db.wallet.withdraws.find? w.id = some w →
      ¬(w.status = .pending ∧ data.status.getD w.status = .approved) →
      ¬(w.status = .pending ∧ data.status.getD w.status = .rejected) →
      (w.status = .pending ∨ (data.amount.map Subtype.val).getD w.amount = w.amount) →
      db' = { db with wallet.withdraws := db.wallet.withdraws.save (data.apply w) } →
      WalletEffect ctx db db' (.dashboardWithdrawUpdate w.id data)
  | destroyed {w} : db.wallet.withdraws.find? w.id = some w → w.status = .pending →
      db' = { db with wallet.withdraws := db.wallet.withdraws.delete w.id } →
      WalletEffect ctx db db' (.dashboardWithdrawDestroy w.id)
  | posted {data row} : Posted db.wallet db'.wallet row →
      db' = { db with wallet := db'.wallet } →
      WalletEffect ctx db db' (.transactionCreate data)
  | described {txn data description} : db.wallet.transactions.find? txn.id = some txn →
      db' = { db with
        wallet.transactions := db.wallet.transactions.save { txn with description } } →
      WalletEffect ctx db db' (.transactionUpdate txn.id data)
  | deleted {txn w} : db.wallet.transactions.find? txn.id = some txn →
      Reversed db.wallet w txn →
      db' = { db with
        wallet := { w with transactions := db.wallet.transactions.delete txn.id } } →
      WalletEffect ctx db db' (.transactionDestroy txn.id)

theorem WalletEffect.eq {ctx : Context} {db db' : DB} {r : Request}
    (h : WalletEffect ctx db db' r) :
    db' = { db with wallet := db'.wallet, journal := db'.journal } := by
  cases h with
  | opened _ hdb => rw [hdb]
  | withdrawCreated _ _ _ hdb => rw [hdb]
  | dashboardWithdrawCreated _ _ _ hdb => rw [hdb]
  | accepted _ _ _ hdb => rw [hdb]
  | rejected _ _ hdb => rw [hdb]
  | saved _ _ _ _ hdb => rw [hdb]
  | destroyed _ _ hdb => rw [hdb]
  | posted _ hdb => rw [hdb]
  | described _ hdb => rw [hdb]
  | deleted _ _ hdb => rw [hdb]

/-- Of the wallet endpoints only an accepted handover is recorded. -/
theorem WalletEffect.journal {ctx : Context} {db db' : DB} {r : Request}
    (h : WalletEffect ctx db db' r) :
    db'.journal = db.journal ∨ ∃ w row, db'.journal = db.journal ++ [.handoverAccepted w row] := by
  cases h with
  | accepted _ _ _ hdb => exact Or.inr ⟨_, _, by rw [hdb]⟩
  | opened _ hdb => exact Or.inl (by rw [hdb])
  | withdrawCreated _ _ _ hdb => exact Or.inl (by rw [hdb])
  | dashboardWithdrawCreated _ _ _ hdb => exact Or.inl (by rw [hdb])
  | rejected _ _ hdb => exact Or.inl (by rw [hdb])
  | saved _ _ _ _ hdb => exact Or.inl (by rw [hdb])
  | destroyed _ _ hdb => exact Or.inl (by rw [hdb])
  | posted _ hdb => exact Or.inl (by rw [hdb])
  | described _ hdb => exact Or.inl (by rw [hdb])
  | deleted _ _ hdb => exact Or.inl (by rw [hdb])

/-- What a request does to the database. -/
inductive Effect (cfg : Settings) (ctx : Context) (db db' : DB) : Request → Prop
  | frame {r} : Frame db db' → Effect cfg ctx db db' r
  | create {r o} : Creates ctx r o → db.orders.insert? o = some db'.orders →
      db'.payme = db.payme → db'.wallet = db.wallet → db'.journal = db.journal →
      Effect cfg ctx db db' r
  | rewrite {r o o'} : Rewrites ctx r o o' → db.orders.find? o.id = some o →
      db'.orders = db.orders.save o' → db'.payme = db.payme → db'.wallet = db.wallet →
      db'.journal = db.journal → Effect cfg ctx db db' r
  | check {user data o total} : db.orders.find? o.id = some o →
      o.status ∈ activeOrderStatuses → o.master = some user →
      db'.orders = db.orders.save (OrderCompleteSerializer.checked ctx data o total) →
      db'.payme = db.payme → db'.wallet = db.wallet →
      db'.journal = db.journal ++
        [.checkSubmitted (OrderCompleteSerializer.checked ctx data o total)] →
      Effect cfg ctx db db' (.masterComplete user o.id data)
  | pay {o credit} : o.isPaid = false → Completes ctx .cash o credit db db' →
      Effect cfg ctx db db' (.clientPay o.client o.id (.choice .cash))
  | payme {r} : PaymeEffect cfg ctx db db' r → Effect cfg ctx db db' r
  | wallet {r} : WalletEffect ctx db db' r → Effect cfg ctx db db' r

end Homex
