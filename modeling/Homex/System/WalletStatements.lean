import Homex.System.Statements

/-!
# The wallet requests, statement by statement

The dashboard's writes of wallet transactions and the cash handovers. A deletion
loads the transaction first, takes its effect back in a transaction of its own,
and deletes the row after that is committed.
-/

namespace Homex

open Relational Concurrency Orders Wallet

namespace Statements

open Program

/-- `MasterWallet.objects.select_for_update().get(…)`. -/
def lockWallet (master : Uuid) : Statements MasterWallet :=
  fetchForUpdate (.wallet master) (fun db => db.wallet.wallets.find? master)
    (.serverError "DoesNotExist")

/-- `select_for_update().get_or_create(master=…)`. -/
def lockOrCreateWallet (master : Uuid) : Statements MasterWallet :=
  .lock (.wallet master) (fun db => (db.wallet.wallets.find? master).isSome) fun db =>
    match db.wallet.wallets.find? master with
    | some wallet => pure wallet
    | none => do
        insertWallet master
        lockWallet master

/-- `txn` is the instance the view has loaded. -/
def reverseWalletTransaction (txn : WalletTransaction) : Statements Unit :=
  atomic do
    getOrCreateWallet txn.master
    let wallet ← lockWallet txn.master
    match txn.transactionType with
    | .in => do
        require (txn.amount ≤ wallet.balance txn.paymentMethod)
          (.validation "amount"
            "Bu tranzaksiyani bekor qilib bo'lmaydi — balans yetarli emas (mablag' sarflangan)")
        moveWallet wallet.master txn.paymentMethod (-txn.amount) (-txn.amount) 0
    | .out => moveWallet wallet.master txn.paymentMethod txn.amount 0 (-txn.amount)

def DashboardWalletTransactionDetailAPIView.performDestroy (pk : Uuid) : Statements Unit := do
  let txn ← fetch (.walletTransaction pk) (fun db => db.wallet.transactions.find? pk)
    (.notFound "WalletTransaction")
  reverseWalletTransaction txn
  write (.walletTransaction pk) fun db =>
    { db with wallet.transactions := db.wallet.transactions.delete pk }

def DashboardWalletTransactionListCreateAPIView.performCreate (ctx : Context)
    (data : TransactionPayload) : Statements WalletTransaction := do
  select (requirePk DB.masters "master" (some data.master))
  select (requirePk DB.orders "order" data.order)
  atomic (postWalletTransaction ctx data.master data.transactionType data.amount
    data.paymentMethod data.description data.order)

def updateWithdraw (pk : Uuid) (set : WithdrawRequest → WithdrawRequest) : Statements Unit :=
  write (.withdraw pk) fun db =>
    { db with wallet.withdraws := db.wallet.withdraws.update pk set }

/-- `select_related` locks the master too. -/
def acceptCashHandover (ctx : Context) (pk : Uuid) (note : String) : Statements Bool :=
  atomic do
    let handover ← fetchForUpdate (.withdraw pk) (fun db => db.wallet.withdraws.find? pk)
      (.serverError "DoesNotExist")
    let master ← fetchForUpdate (.master handover.master)
      (fun db => db.masters.find? handover.master) (.serverError "DoesNotExist")
    if handover.status ≠ .pending then
      pure false
    else do
      require (0 < handover.amount) (.validation none "Pul yechish summasi musbat bo'lishi kerak")
      let wallet ← lockOrCreateWallet master.id
      require (handover.amount ≤ wallet.balanceCash) (.validation none "Naqd balans yetarli emas")
      moveWallet wallet.master .cash (-handover.amount) 0 handover.amount
      createTransaction
        { id := ctx.uuid .walletTransaction, master := handover.master, transactionType := .out,
          amount := handover.amount, description := "Naqd pul admin tomonidan qabul qilindi",
          paymentMethod := .cash }
      updateWithdraw pk fun row =>
        { row with
            status := .approved
            adminNote := if note = "" then "Naqd qabul qilindi" else note }
      pure true

def rejectCashHandover (pk : Uuid) (note : String) : Statements Bool :=
  atomic do
    let handover ← fetchForUpdate (.withdraw pk) (fun db => db.wallet.withdraws.find? pk)
      (.serverError "DoesNotExist")
    if handover.status ≠ .pending then
      pure false
    else do
      updateWithdraw pk fun row =>
        { row with
            status := .rejected
            adminNote := if note = "" then "Rad etildi" else note }
      pure true

def getWithdraw (pk : Uuid) : Statements WithdrawRequest :=
  fetch (.withdraw pk) (fun db => db.wallet.withdraws.find? pk) (.notFound "WithdrawRequest")

/-- The handover is read again for the answer. -/
def DashboardCashHandoverAcceptAPIView.post (ctx : Context) (pk : Uuid) (note : String) :
    Statements WithdrawRequest := do
  let _ ← getWithdraw pk
  let _ ← acceptCashHandover ctx pk note
  getWithdraw pk

def DashboardCashHandoverRejectAPIView.post (pk : Uuid) (note : String) :
    Statements WithdrawRequest := do
  let _ ← getWithdraw pk
  let _ ← rejectCashHandover pk note
  getWithdraw pk

end Statements

/-- The requests that move a wallet from the dashboard. -/
inductive WalletRequest
  | transactionCreate (data : TransactionPayload)
  | transactionDestroy (pk : Uuid)
  | handoverAccept (pk : Uuid) (note : String)
  | handoverReject (pk : Uuid) (note : String)

open Statements in
/-- The statements of a request. -/
def WalletRequest.statements (ctx : Context) : WalletRequest → Statements Response
  | .transactionCreate data =>
      .transaction <$> DashboardWalletTransactionListCreateAPIView.performCreate ctx data
  | .transactionDestroy pk =>
      (fun _ => .done) <$> DashboardWalletTransactionDetailAPIView.performDestroy pk
  | .handoverAccept pk note =>
      .withdraw <$> DashboardCashHandoverAcceptAPIView.post ctx pk note
  | .handoverReject pk note => .withdraw <$> DashboardCashHandoverRejectAPIView.post pk note

end Homex
