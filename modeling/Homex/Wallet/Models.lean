import Homex.Common.Money
import Homex.Relational.Table

/-!
# Wallets

A master's wallet caches what the transaction rows say: two balances, one for
each payment method, and the totals of money in and money out. `signed`,
`earned` and `withdrawn` are the contributions of one transaction row to them.
-/

namespace Homex

namespace Wallet

open Relational

/-- `kirim` and `chiqim`. -/
inductive TransactionType
  | «in»
  | out
  deriving DecidableEq, Repr

/-- The balance a transaction moves. -/
inductive PaymentMethod
  | online
  | cash
  deriving DecidableEq, Repr

inductive WithdrawStatus
  | pending
  | approved
  | rejected
  deriving DecidableEq, Repr

/-- `wallet.MasterWallet`; one for a master. -/
structure MasterWallet where
  master : Uuid
  balanceOnline : Int := 0
  balanceCash : Int := 0
  totalEarned : Int := 0
  totalWithdrawn : Int := 0
  deriving DecidableEq, Repr

/-- `wallet.WalletTransaction`. -/
structure WalletTransaction where
  id : Uuid
  master : Uuid
  transactionType : TransactionType
  amount : Int
  description : String
  paymentMethod : PaymentMethod
  order : Option Uuid := none
  deriving DecidableEq, Repr

/-- `wallet.WithdrawRequest`. -/
structure WithdrawRequest where
  id : Uuid
  master : Uuid
  amount : Int
  status : WithdrawStatus := .pending
  adminNote : String := ""
  deriving DecidableEq, Repr

instance : Keyed MasterWallet Uuid := ⟨MasterWallet.master⟩

instance : Keyed WalletTransaction Uuid := ⟨WalletTransaction.id⟩

instance : Keyed WithdrawRequest Uuid := ⟨WithdrawRequest.id⟩

@[simp] theorem key_masterWallet (w : MasterWallet) : key w = w.master := rfl

@[simp] theorem key_walletTransaction (t : WalletTransaction) : key t = t.id := rfl

@[simp] theorem key_withdrawRequest (w : WithdrawRequest) : key w = w.id := rfl

/-- The balance that matches a payment method. -/
def MasterWallet.balance (w : MasterWallet) : PaymentMethod → Int
  | .cash => w.balanceCash
  | .online => w.balanceOnline

/-- Moves one balance, and the totals, by the given amounts. -/
def MasterWallet.move (w : MasterWallet) (method : PaymentMethod)
    (delta earned withdrawn : Int) : MasterWallet where
  master := w.master
  balanceOnline := if method = .online then w.balanceOnline + delta else w.balanceOnline
  balanceCash := if method = .cash then w.balanceCash + delta else w.balanceCash
  totalEarned := w.totalEarned + earned
  totalWithdrawn := w.totalWithdrawn + withdrawn

@[simp] theorem MasterWallet.move_master (w : MasterWallet) (method : PaymentMethod)
    (delta earned withdrawn : Int) : (w.move method delta earned withdrawn).master = w.master :=
  rfl

theorem MasterWallet.balance_move (w : MasterWallet) (method m : PaymentMethod)
    (delta earned withdrawn : Int) :
    (w.move method delta earned withdrawn).balance m =
      w.balance m + if method = m then delta else 0 := by
  cases method <;> cases m <;> simp [move, balance]

namespace WalletTransaction

/-- What a row adds to a balance of its master. -/
def signed (t : WalletTransaction) : Int :=
  match t.transactionType with
  | .in => t.amount
  | .out => -t.amount

/-- What a row adds to the total earned. -/
def earned (t : WalletTransaction) : Int :=
  match t.transactionType with
  | .in => t.amount
  | .out => 0

/-- What a row adds to the total withdrawn. -/
def withdrawn (t : WalletTransaction) : Int :=
  match t.transactionType with
  | .in => 0
  | .out => t.amount

end WalletTransaction

end Wallet

end Homex
