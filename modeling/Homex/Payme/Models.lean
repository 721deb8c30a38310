import Homex.Common.Money
import Homex.Relational.Table

/-!
# Payme transactions

The rows of the merchant side of the Payme protocol. A transaction is created
in state 1, performed to state 2, and cancelled to −1 or −2 depending on whether
it had been performed. The amount is in tiyin and only whole numbers are ever
written to it.
-/

namespace Homex

namespace Payme

open Relational

/-- `PaymeTransaction.STATE`. -/
inductive State
  | created
  | initiating
  | successfully
  | canceledDuringInit
  | canceled
  deriving DecidableEq, Repr

/-- The protocol's number of a state. -/
def State.code : State → Int
  | .created => 0
  | .initiating => 1
  | .successfully => 2
  | .canceledDuringInit => -1
  | .canceled => -2

/-- `TRANSACTION_TIMEOUT_MS`. -/
def transactionTimeoutMs : Int := 43200000

/-- `TIMEOUT_CANCEL_REASON`. -/
def timeoutCancelReason : Int := 4

/-- `payme.PaymeTransaction`. -/
structure PaymeTransaction where
  transactionId : String
  order : Uuid
  amount : Int
  state : State
  cancelReason : Option Int := none
  createdAt : Int
  performedAt : Option Int := none
  cancelledAt : Option Int := none
  deriving DecidableEq, Repr

instance : Keyed PaymeTransaction String := ⟨PaymeTransaction.transactionId⟩

@[simp] theorem key_paymeTransaction (tx : PaymeTransaction) : key tx = tx.transactionId := rfl

namespace PaymeTransaction

def isPerformed (tx : PaymeTransaction) : Bool := tx.state = .successfully

def isCancelled (tx : PaymeTransaction) : Bool :=
  tx.state = .canceled ∨ tx.state = .canceledDuringInit

def isInitiating (tx : PaymeTransaction) : Bool := tx.state = .initiating

/-- The states `get_active_transaction` selects. -/
def isActive (tx : PaymeTransaction) : Bool :=
  tx.state = .created ∨ tx.state = .initiating ∨ tx.state = .successfully

/-- `PaymeWebHookAPIView._is_expired`; the age is taken exactly. -/
def isExpired (now : Int) (tx : PaymeTransaction) : Bool :=
  now - tx.createdAt > transactionTimeoutMs * 1000

/-- `mark_as_cancelled`: the row it saves, or leaves alone when it is in that
state already. -/
def markAsCancelled (now : Int) (reason : Option Int) (state : State)
    (tx : PaymeTransaction) : PaymeTransaction :=
  if tx.state = state then tx
  else { tx with state := state, cancelReason := reason, cancelledAt := some now }

/-- `mark_as_performed`. -/
def markAsPerformed (now : Int) (tx : PaymeTransaction) : PaymeTransaction :=
  if tx.state ≠ .initiating then tx
  else { tx with state := .successfully, performedAt := some now }

section Marks

variable (now : Int) (reason : Option Int) (state : State) (tx : PaymeTransaction)

@[simp] theorem markAsCancelled_state : (tx.markAsCancelled now reason state).state = state := by
  unfold markAsCancelled
  split
  · assumption
  · rfl

@[simp] theorem markAsCancelled_transactionId :
    (tx.markAsCancelled now reason state).transactionId = tx.transactionId := by
  unfold markAsCancelled
  split <;> rfl

@[simp] theorem markAsCancelled_order :
    (tx.markAsCancelled now reason state).order = tx.order := by
  unfold markAsCancelled
  split <;> rfl

@[simp] theorem markAsCancelled_amount :
    (tx.markAsCancelled now reason state).amount = tx.amount := by
  unfold markAsCancelled
  split <;> rfl

variable {tx}

/-- Performing a transaction in state 1 moves it to state 2. -/
theorem markAsPerformed_of_initiating (h : tx.state = .initiating) :
    tx.markAsPerformed now = { tx with state := .successfully, performedAt := some now } := by
  unfold markAsPerformed
  rw [if_neg (not_not.mpr h)]

end Marks

/-- A transaction that was started and neither performed nor cancelled is in
state 1. -/
theorem state_eq_initiating {tx : PaymeTransaction} (hstarted : tx.state ≠ .created)
    (hperf : tx.isPerformed = false) (hcanc : tx.isCancelled = false) :
    tx.state = .initiating := by
  cases h : tx.state with
  | created => exact absurd h hstarted
  | initiating => rfl
  | successfully => simp [isPerformed, h] at hperf
  | canceledDuringInit => simp [isCancelled, h] at hcanc
  | canceled => simp [isCancelled, h] at hcanc

end PaymeTransaction

/-- The JSON-RPC errors of `payme.exceptions.webhook` the six methods raise. -/
inductive PaymeError
  | internalServiceError
  | invalidRequest
  | accountDoesNotExist
  | incorrectAmount
  | transactionAlreadyExists
  | transactionNotFound
  | unableToPerformOperation
  | unableToCancelTransaction
  deriving DecidableEq, Repr

namespace PaymeError

def errorCode : PaymeError → Int
  | internalServiceError => -32400
  | invalidRequest => -32600
  | accountDoesNotExist => -31050
  | incorrectAmount => -31001
  | transactionAlreadyExists => -31099
  | transactionNotFound => -31003
  | unableToPerformOperation => -31008
  | unableToCancelTransaction => -31007

/-- The English text of the message. -/
def message : PaymeError → String
  | internalServiceError => "Internal service error."
  | invalidRequest => "Invalid request."
  | accountDoesNotExist => "Account does not exist."
  | incorrectAmount => "Incorrect amount."
  | transactionAlreadyExists => "Transaction already exists."
  | transactionNotFound => "Transaction not found."
  | unableToPerformOperation => "Unable to perform operation."
  | unableToCancelTransaction => "Unable to cancel transaction."

end PaymeError

end Payme

end Homex
