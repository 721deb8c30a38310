import Homex.Orders.Serializers
import Homex.Wallet.Services

/-!
# Wallet endpoints

The master's withdraw request, and the dashboard's writes of wallet transactions
and withdraw requests. The dashboard PATCH of a withdraw request routes the two
transitions out of `pending` through the services and saves every other payload
as it is.
-/

namespace Homex

namespace Wallet

open Relational Action Code Orders

/-- The sum of a master's pending requests. -/
def pendingWithdraw (db : DB) (master : Uuid) : Int :=
  db.wallet.withdraws.sum fun w =>
    if w.master = master ∧ w.status = .pending then w.amount else 0

/-- A view that reads the wallet opens it: `MasterWalletView`, `WalletStatsView`,
`MasterHomeStatsView` and `DashboardMasterWalletAPIView`. -/
def MasterWalletView.get (master : Uuid) : Code MasterWallet :=
  getOrCreateWallet master

/-- A positive amount field. -/
abbrev Amount := { a : Int // 0 < a }

/-- `wallet.WithdrawRequestCreateView`; the status is read-only there. -/
def WithdrawRequestCreateView.performCreate (ctx : Context) (user : Uuid) (amount : Amount) :
    Code WithdrawRequest :=
  atomic do
    let wallet ← getOrCreateWallet user
    let db ← Action.get
    require (amount ≤ wallet.balanceCash - pendingWithdraw db user)
      (.validation none "Naqd balans yetarli emas")
    let request := { id := ctx.uuid .withdraw, master := user, amount }
    createWithdraw request
    pure request

/-- `DashboardWithdrawRequestSerializer`, every field optional as in a PATCH. -/
structure WithdrawPayload where
  master : Option Uuid := none
  amount : Option Amount := none
  status : Option WithdrawStatus := none
  adminNote : Option String := none

/-- `DashboardWithdrawRequestListCreateAPIView.perform_create`. -/
def DashboardWithdrawRequestListCreateAPIView.performCreate (ctx : Context) (master : Uuid)
    (amount : Amount) (status : Option WithdrawStatus) (adminNote : Option String) :
    Code WithdrawRequest := do
  requirePk DB.masters "master" (some master)
  atomic do
    let wallet ← getOrCreateWallet master
    let db ← Action.get
    require (amount ≤ wallet.balanceCash - pendingWithdraw db master)
      (.validation "amount" "Naqd balans yetarli emas")
    let request :=
      { id := ctx.uuid .withdraw, master, amount, status := status.getD .pending
        adminNote := adminNote.getD "" }
    createWithdraw request
    pure request

/-- `serializer.save()` on a withdraw request. -/
def WithdrawPayload.apply (data : WithdrawPayload) (w : WithdrawRequest) : WithdrawRequest :=
  { w with
      master := data.master.getD w.master
      amount := (data.amount.map Subtype.val).getD w.amount
      status := data.status.getD w.status
      adminNote := data.adminNote.getD w.adminNote }

/-- `perform_update`. -/
def DashboardWithdrawRequestDetailAPIView.performUpdate (ctx : Context) (pk : Uuid)
    (data : WithdrawPayload) : Code Unit := do
  let withdraw ← fetch (fun db => db.wallet.withdraws.find? pk) (.notFound "WithdrawRequest")
  requirePk DB.masters "master" data.master
  let newStatus := data.status.getD withdraw.status
  let note := data.adminNote.getD ""
  if withdraw.status = .pending ∧ newStatus = .approved then
    let _ ← acceptCashHandover ctx pk note
    pure ()
  else if withdraw.status = .pending ∧ newStatus = .rejected then
    let _ ← rejectCashHandover pk note
    pure ()
  else
    require (withdraw.status = .pending ∨
        (data.amount.map Subtype.val).getD withdraw.amount = withdraw.amount)
      (.validation "amount" "Yakunlangan so'rov summasini o'zgartirib bo'lmaydi")
    saveWithdraw (data.apply withdraw)

/-- `perform_destroy`. -/
def DashboardWithdrawRequestDetailAPIView.performDestroy (pk : Uuid) : Code Unit := do
  let withdraw ← fetch (fun db => db.wallet.withdraws.find? pk) (.notFound "WithdrawRequest")
  require (withdraw.status = .pending)
    (.validation "status" "Faqat 'pending' so'rovni o'chirish mumkin")
  deleteWithdraw pk

/-- `DashboardCashHandoverAcceptAPIView`. -/
def DashboardCashHandoverAcceptAPIView.post (ctx : Context) (pk : Uuid) (note : String) :
    Code Bool := do
  let _ ← fetch (fun db => db.wallet.withdraws.find? pk) (.notFound "WithdrawRequest")
  acceptCashHandover ctx pk note

/-- `DashboardCashHandoverRejectAPIView`. -/
def DashboardCashHandoverRejectAPIView.post (pk : Uuid) (note : String) : Code Bool := do
  let _ ← fetch (fun db => db.wallet.withdraws.find? pk) (.notFound "WithdrawRequest")
  rejectCashHandover pk note

/-- The text of a `description` field: not blank, and no longer than its column. -/
abbrev Description := { text : String // text ≠ "" ∧ text.length ≤ 200 }

/-- `DashboardWalletTransactionSerializer`, as a POST requires it. -/
structure TransactionPayload where
  master : Uuid
  transactionType : TransactionType
  amount : Int
  description : Description
  paymentMethod : PaymentMethod
  order : Option Uuid := none

/-- `perform_create`: a manual transaction moves the balance too. -/
def DashboardWalletTransactionListCreateAPIView.performCreate (ctx : Context)
    (data : TransactionPayload) : Code WalletTransaction := do
  requirePk DB.masters "master" (some data.master)
  requirePk DB.orders "order" data.order
  postWalletTransaction ctx data.master data.transactionType data.amount data.paymentMethod
    data.description data.order

/-- `DashboardWalletTransactionSerializer`, as a PATCH may leave fields out. -/
structure TransactionPatch where
  master : Option Uuid := none
  transactionType : Option TransactionType := none
  amount : Option Int := none
  description : Option Description := none
  paymentMethod : Option PaymentMethod := none
  order : Option (Option Uuid) := none

/-- `LEDGER_IMMUTABLE_MSG`. -/
def ledgerImmutableMsg : String :=
  "Ledger yozuvining moliyaviy maydonini o'zgartirib bo'lmaydi"

/-- `perform_update`: only the description of a posted transaction may change. -/
def DashboardWalletTransactionDetailAPIView.performUpdate (pk : Uuid) (data : TransactionPatch) :
    Code Unit := do
  let txn ← fetch (fun db => db.wallet.transactions.find? pk) (.notFound "WalletTransaction")
  requirePk DB.masters "master" data.master
  requirePk DB.orders "order" (data.order.getD none)
  require (data.master.getD txn.master = txn.master) (.validation "master" ledgerImmutableMsg)
  require (data.transactionType.getD txn.transactionType = txn.transactionType)
    (.validation "transaction_type" ledgerImmutableMsg)
  require (data.amount.getD txn.amount = txn.amount) (.validation "amount" ledgerImmutableMsg)
  require (data.paymentMethod.getD txn.paymentMethod = txn.paymentMethod)
    (.validation "payment_method" ledgerImmutableMsg)
  require (data.order.getD txn.order = txn.order) (.validation "order" ledgerImmutableMsg)
  saveTransaction
    { txn with description := (data.description.map Subtype.val).getD txn.description }

/-- `perform_destroy`: the balance effect is reversed, then the row deleted. -/
def DashboardWalletTransactionDetailAPIView.performDestroy (pk : Uuid) : Code Unit := do
  let txn ← fetch (fun db => db.wallet.transactions.find? pk) (.notFound "WalletTransaction")
  reverseWalletTransaction txn
  deleteTransaction pk

end Wallet

end Homex
