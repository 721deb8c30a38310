import Homex.Common.Store

/-!
# Moving wallet balances

`postWalletTransaction` writes a ledger row together with the balance change,
`reverseWalletTransaction` takes the change of a row back before the row is
deleted, and `acceptCashHandover` debits an approved withdrawal. Each runs in a
transaction of its own.
-/

namespace Homex

namespace Wallet

open Relational Action Code

/-- `MasterWallet.objects.get_or_create(master=…)`. -/
def getOrCreateWallet (master : Uuid) : Code MasterWallet := do
  let db ← get
  match db.wallet.wallets.find? master with
  | some wallet => pure wallet
  | none =>
      createWallet { master }
      pure { master }

def postWalletTransaction (ctx : Context) (master : Uuid) (type : TransactionType)
    (amount : Int) (method : PaymentMethod) (description : String) (order : Option Uuid) :
    Code WalletTransaction :=
  atomic do
    require (0 < amount) (.validation "amount" "Summa musbat bo'lishi kerak")
    let wallet ← getOrCreateWallet master
    match type with
    | .in => saveWallet (wallet.move method amount amount 0)
    | .out =>
        require (amount ≤ wallet.balance method) (.validation "amount" "Balans yetarli emas")
        saveWallet (wallet.move method (-amount) 0 amount)
    let row : WalletTransaction :=
      { id := ctx.uuid .walletTransaction, master, transactionType := type, amount, description,
        paymentMethod := method, order }
    createTransaction row
    pure row

def reverseWalletTransaction (txn : WalletTransaction) : Code Unit :=
  atomic do
    let wallet ← getOrCreateWallet txn.master
    match txn.transactionType with
    | .in =>
        require (txn.amount ≤ wallet.balance txn.paymentMethod)
          (.validation "amount"
            "Bu tranzaksiyani bekor qilib bo'lmaydi — balans yetarli emas (mablag' sarflangan)")
        saveWallet (wallet.move txn.paymentMethod (-txn.amount) (-txn.amount) 0)
    | .out => saveWallet (wallet.move txn.paymentMethod txn.amount 0 (-txn.amount))

/-- The request is looked up again under a lock; `True` is returned when it was
still pending. -/
def acceptCashHandover (ctx : Context) (pk : Uuid) (note : String) : Code Bool :=
  atomic do
    let handover ← fetch (fun db => db.wallet.withdraws.find? pk) (.serverError "DoesNotExist")
    if handover.status ≠ .pending then
      pure false
    else
      require (0 < handover.amount) (.validation none "Pul yechish summasi musbat bo'lishi kerak")
      let wallet ← getOrCreateWallet handover.master
      require (handover.amount ≤ wallet.balanceCash) (.validation none "Naqd balans yetarli emas")
      saveWallet (wallet.move .cash (-handover.amount) 0 handover.amount)
      let row : WalletTransaction :=
        { id := ctx.uuid .walletTransaction, master := handover.master, transactionType := .out,
          amount := handover.amount, description := "Naqd pul admin tomonidan qabul qilindi",
          paymentMethod := .cash }
      createTransaction row
      let accepted :=
        { handover with
            status := .approved
            adminNote := if note = "" then "Naqd qabul qilindi" else note }
      saveWithdraw accepted
      record (.handoverAccepted accepted row)
      pure true

def rejectCashHandover (pk : Uuid) (note : String) : Code Bool :=
  atomic do
    let handover ← fetch (fun db => db.wallet.withdraws.find? pk) (.serverError "DoesNotExist")
    if handover.status ≠ .pending then
      pure false
    else
      saveWithdraw
        { handover with
            status := .rejected
            adminNote := if note = "" then "Rad etildi" else note }
      pure true

end Wallet

end Homex
