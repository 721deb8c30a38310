import Homex.Payme.Services

/-!
# The Payme webhook

The six methods of the merchant protocol. A transaction that has timed out is
cancelled by the request that finds it, and the cancellation is committed before
the request answers with an error, so those two methods are not one `atomic`
block.
-/

namespace Homex

namespace Payme

open Relational Action Code Orders

/-- The parameters of a method. The keys of `account` come with the order ids
they parse to, empty values left out; `amount` is `none` inside when it is not a
number. -/
structure Params where
  id : Option String := none
  amount : Option (Option Int) := none
  account : Option (List (String × Uuid)) := none
  reason : Option Int := none
  fromTime : Option Int := none
  toTime : Option Int := none

/-- A transaction as the answers show it. -/
structure Statement where
  id : String
  amount : Int
  order : Uuid
  createTime : Int
  performTime : Int
  cancelTime : Int
  state : Int
  reason : Option Int
  deriving DecidableEq, Repr

/-- The results of the methods. -/
inductive Result
  | checkPerform (allow : Bool) (items : List Item)
  | create (transaction : String) (state : Int) (createTime : Int)
  | perform (transaction : String) (state : Int) (performTime : Int)
  | cancel (transaction : String) (state : Int) (cancelTime : Int)
  | check (transaction : String) (state : Int) (createTime performTime cancelTime : Int)
      (reason : Option Int)
  | statement (transactions : List Statement)
  deriving DecidableEq, Repr

/-- `time_to_payme`: milliseconds, 0 for a time that is not set. The code truncates the
product of floats `value.timestamp() * 1000`; here it is the exact value that is truncated. -/
def timeToPayme : Option Int → Int
  | none => 0
  | some t => t.tdiv 1000

/-- `time_to_service`. -/
def timeToService (milliseconds : Int) : Int := milliseconds * 1000

/-- `_require` of one key. -/
def requireKey {α : Type} (key : String) (value : Option α) : Code α :=
  fetch (fun _ => value) (.payme .invalidRequest key)

/-- The order id an account names. -/
def accountOrder (cfg : Settings) (account : List (String × Uuid)) : Option Uuid :=
  ((account.lookup cfg.paymeAccountField).or (account.lookup "order_id")).or
    (account.lookup "id")

/-- The order id the parameters name. -/
def Params.orderId (cfg : Settings) (params : Params) : Option Uuid :=
  params.account.bind (accountOrder cfg)

/-- `fetch_account`. -/
def fetchAccount (cfg : Settings) (account : List (String × Uuid)) : Code Order := do
  let pk ← fetch (fun _ => accountOrder cfg account)
    (.payme .accountDoesNotExist cfg.paymeAccountField)
  fetch (fun db => db.orders.find? pk) (.payme .accountDoesNotExist cfg.paymeAccountField)

/-- `validate_amount`; returns the number. -/
def validateAmount (order : Order) (amount : Option Int) : Code Int := do
  let provided ← fetch (fun _ => amount) (.payme .incorrectAmount "amount")
  require (provided = orderAmountTiyin order) (.payme .incorrectAmount "amount")
  pure provided

/-- `get_active_transaction`: of the order's transactions in state 0, 1 or 2 the
last one created. -/
def getActiveTransaction (db : DB) (order : Uuid) : Option PaymeTransaction :=
  (db.payme.rows.filter fun tx => tx.order = order ∧ tx.isActive).getLast?

/-- `_locked_tx`. -/
def lockedTx (id : String) : Code PaymeTransaction :=
  fetch (fun db => db.payme.find? id) (.payme .transactionNotFound id)

def performResult (tx : PaymeTransaction) : Result :=
  .perform tx.transactionId tx.state.code (timeToPayme tx.performedAt)

namespace PaymeWebHookAPIView

def checkPerformTransaction (cfg : Settings) (params : Params) : Code Result := do
  let amount ← requireKey "amount" params.amount
  let account ← requireKey "account" params.account
  let order ← fetchAccount cfg account
  let _ ← validateAmount order amount
  let db ← get
  pure (.checkPerform true (buildFiscalItems db order))

/-- The locked part of `create_transaction` for an id that exists: `none` means
that it had expired and is now cancelled. -/
def createAgain (ctx : Context) (order : Order) (amount : Int) (tx : PaymeTransaction) :
    Code (Option PaymeTransaction) := do
  require (tx.order = order.id ∧ tx.amount = amount)
    (.payme .transactionAlreadyExists tx.transactionId)
  if tx.isInitiating = true ∧ tx.isExpired ctx.now = true then
    savePayme (tx.markAsCancelled ctx.now (some timeoutCancelReason) .canceledDuringInit)
    pure none
  else
    pure (some tx)

/-- The locked part of `create_transaction` for a new id. -/
def createFresh (cfg : Settings) (ctx : Context) (order : Order) (amount : Int) (id : String) :
    Code (Option PaymeTransaction) := do
  let db ← get
  match getActiveTransaction db order.id with
  | some active =>
      require (cfg.paymeOneTimePayment = false)
        (.payme .transactionAlreadyExists active.transactionId)
  | none => pure ()
  let tx : PaymeTransaction :=
    { transactionId := id, order := order.id, amount, state := .initiating
      createdAt := ctx.now }
  createPayme tx
  pure (some tx)

/-- The answer once the locked part is committed. -/
def createAnswer (id : String) : Option PaymeTransaction → Code Result
  | none => raise (.payme .unableToPerformOperation id)
  | some tx => pure (.create tx.transactionId tx.state.code (timeToPayme (some tx.createdAt)))

def createTransaction (cfg : Settings) (ctx : Context) (params : Params) : Code Result := do
  let id ← requireKey "id" params.id
  let amountParam ← requireKey "amount" params.amount
  let account ← requireKey "account" params.account
  let order ← fetchAccount cfg account
  let amount ← validateAmount order amountParam
  let tx? ← atomic do
    let db ← get
    match db.payme.find? id with
    | some tx => createAgain ctx order amount tx
    | none => createFresh cfg ctx order amount id
  createAnswer id tx?

/-- The locked part of `perform_transaction`: `none` means that the transaction
had expired and is now cancelled. -/
def performLocked (ctx : Context) (id : String) : Code (Option Result) := do
  let tx ← lockedTx id
  if tx.isPerformed = true then
    pure (some (performResult tx))
  else if tx.isCancelled = true then
    raise (.payme .unableToPerformOperation id)
  else if tx.isExpired ctx.now = true then
    savePayme (tx.markAsCancelled ctx.now (some timeoutCancelReason) .canceledDuringInit)
    pure none
  else
    savePayme (tx.markAsPerformed ctx.now)
    let order ← fetch (fun db => db.orders.find? tx.order) (.serverError "DoesNotExist")
    markOrderPaid ctx order
    pure (some (performResult (tx.markAsPerformed ctx.now)))

/-- The answer once the locked part is committed. -/
def performAnswer (id : String) : Option Result → Code Result
  | none => raise (.payme .unableToPerformOperation id)
  | some result => pure result

def performTransaction (ctx : Context) (params : Params) : Code Result := do
  let id ← requireKey "id" params.id
  let result? ← atomic (performLocked ctx id)
  performAnswer id result?

/-- The locked part of `cancel_transaction`. -/
def cancelLocked (ctx : Context) (id : String) (reason : Option Int) :
    Code PaymeTransaction := do
  let tx ← lockedTx id
  if tx.isCancelled = true then
    pure tx
  else if tx.isPerformed = true then
    let order ← fetch (fun db => db.orders.find? tx.order) (.serverError "DoesNotExist")
    require (order.status ≠ .completed) (.payme .unableToCancelTransaction id)
    let cancelled := tx.markAsCancelled ctx.now reason .canceled
    savePayme cancelled
    markOrderPaymentCancelled order
    pure cancelled
  else
    let cancelled := tx.markAsCancelled ctx.now reason .canceledDuringInit
    savePayme cancelled
    pure cancelled

def cancelTransaction (ctx : Context) (params : Params) : Code Result := do
  let id ← requireKey "id" params.id
  let tx ← atomic (cancelLocked ctx id params.reason)
  pure (.cancel tx.transactionId tx.state.code (timeToPayme tx.cancelledAt))

def checkTransaction (params : Params) : Code Result := do
  let id ← requireKey "id" params.id
  let tx ← lockedTx id
  pure (.check tx.transactionId tx.state.code (timeToPayme (some tx.createdAt))
    (timeToPayme tx.performedAt) (timeToPayme tx.cancelledAt) tx.cancelReason)

/-- One line of the statement. -/
def statementOf (tx : PaymeTransaction) : Statement where
  id := tx.transactionId
  amount := tx.amount
  order := tx.order
  createTime := timeToPayme (some tx.createdAt)
  performTime := timeToPayme tx.performedAt
  cancelTime := timeToPayme tx.cancelledAt
  state := tx.state.code
  reason := tx.cancelReason

def getStatement (params : Params) : Code Result := do
  let first ← requireKey "from" params.fromTime
  let last ← requireKey "to" params.toTime
  let db ← get
  let selected := db.payme.rows.filter fun tx =>
    timeToService first ≤ tx.createdAt ∧ tx.createdAt ≤ timeToService last
  pure (.statement (selected.reverse.map statementOf))

end PaymeWebHookAPIView

end Payme

end Homex
