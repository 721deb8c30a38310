import Homex.Orders.Models
import Homex.Payme.Models
import Homex.Profiles.Models
import Homex.Relational.Action
import Homex.Wallet.Models
import Homex.Warehouse.Models

/-!
# The database and the code that runs against it

One record holds the tables the order, payment, wallet and stock flows touch.
`Code` is a piece of request code over it, with the errors the API answers.

The journal is a history variable: it records, next to the rows themselves, which
order completed with which credit, which check was submitted and which
withdrawal was debited. No code reads it, and it rolls back with the transaction
that wrote it.
-/

namespace Homex

open Relational Orders Profiles Wallet Warehouse Payme

/-- An entry of the journal. -/
inductive Event
  /-- `complete_paid_order` completed the order, as saved, with this credit. -/
  | completed (order : Order) (credit : Option WalletTransaction)
  /-- A master submitted the check of the order, as saved. -/
  | checkSubmitted (order : Order)
  /-- `accept_cash_handover` debited the request through this transaction. -/
  | handoverAccepted (handover : WithdrawRequest) (debit : WalletTransaction)
  deriving DecidableEq

/-- The tables of the wallet app. -/
structure WalletTables where
  wallets : Table MasterWallet := .empty
  transactions : Table WalletTransaction := .empty
  withdraws : Table WithdrawRequest := .empty

/-- The tables. -/
structure DB where
  clients : Table Client := .empty
  masters : Table Master := .empty
  services : Table Service := .empty
  addresses : Table ClientAddress := .empty
  devices : Table ClientDevice := .empty
  categories : Table WarehouseCategory := .empty
  products : Table WarehouseProduct := .empty
  movements : Table StockMovement := .empty
  inventory : Table MasterInventory := .empty
  orders : Table Order := .empty
  assignedMasters : Table Assignment := .empty
  assistants : Table Assignment := .empty
  usages : Table OrderInventoryUsage := .empty
  wallet : WalletTables := {}
  payme : Table PaymeTransaction := .empty
  journal : List Event := []

/-- What a request can fail with. `validation` is a 400 on a field, or on the
payload as a whole; `invalidPk` is the 400 of a foreign key field;
`serverError` an exception nothing catches. -/
inductive Error
  | validation (field : Option String) (message : String)
  | invalidPk (field : String) (pk : Uuid)
  | notFound (model : String)
  | serverError (exception : String)
  | payme (error : PaymeError) (data : String)
  deriving DecidableEq, Repr

/-- The new rows of a request whose ids it draws with `uuid4`. -/
inductive Draw
  | client
  | address
  | device
  | order
  | walletTransaction
  | withdraw
  | product
  | movement
  | inventory
  | usage (i : Nat)
  deriving DecidableEq, Repr

/-- What a request reads from its surroundings. -/
structure Context where
  now : Int
  localDate : Int := 0
  localTime : Int := 0
  uuid : Draw → Uuid

/-- The settings the payment flows read. -/
structure Settings where
  paymeOneTimePayment : Bool := true
  paymeAccountField : String := "order_id"

/-- Request code. -/
abbrev Code (α : Type) := Action DB Error α

namespace Code

open Action

def integrityError : Error := .serverError "IntegrityError"

def saveOrder (o : Order) : Code Unit :=
  modify fun db => { db with orders := db.orders.save o }

def createOrder (o : Order) : Code Unit :=
  write (fun db => (db.orders.insert? o).map fun t => { db with orders := t }) integrityError

def saveWallet (w : MasterWallet) : Code Unit :=
  modify fun db => { db with wallet.wallets := db.wallet.wallets.save w }

def createWallet (w : MasterWallet) : Code Unit :=
  write (fun db => (db.wallet.wallets.insert? w).map fun ws => { db with wallet.wallets := ws })
    integrityError

def saveTransaction (t : WalletTransaction) : Code Unit :=
  modify fun db => { db with wallet.transactions := db.wallet.transactions.save t }

def createTransaction (t : WalletTransaction) : Code Unit :=
  write
    (fun db => (db.wallet.transactions.insert? t).map fun ts =>
      { db with wallet.transactions := ts })
    integrityError

def deleteTransaction (id : Uuid) : Code Unit :=
  modify fun db => { db with wallet.transactions := db.wallet.transactions.delete id }

def saveWithdraw (w : WithdrawRequest) : Code Unit :=
  modify fun db => { db with wallet.withdraws := db.wallet.withdraws.save w }

def createWithdraw (w : WithdrawRequest) : Code Unit :=
  write (fun db => (db.wallet.withdraws.insert? w).map fun ws => { db with wallet.withdraws := ws })
    integrityError

def deleteWithdraw (id : Uuid) : Code Unit :=
  modify fun db => { db with wallet.withdraws := db.wallet.withdraws.delete id }

def savePayme (tx : PaymeTransaction) : Code Unit :=
  modify fun db => { db with payme := db.payme.save tx }

def createPayme (tx : PaymeTransaction) : Code Unit :=
  write (fun db => (db.payme.insert? tx).map fun t => { db with payme := t }) integrityError

def saveProduct (p : WarehouseProduct) : Code Unit :=
  modify fun db => { db with products := db.products.save p }

def createProduct (p : WarehouseProduct) : Code Unit :=
  write (fun db => (db.products.insert? p).map fun t => { db with products := t }) integrityError

def saveMovement (m : StockMovement) : Code Unit :=
  modify fun db => { db with movements := db.movements.save m }

def createMovement (m : StockMovement) : Code Unit :=
  write (fun db => (db.movements.insert? m).map fun t => { db with movements := t }) integrityError

def deleteMovement (id : Uuid) : Code Unit :=
  modify fun db => { db with movements := db.movements.delete id }

def createInventory (i : MasterInventory) : Code Unit :=
  write (fun db => (db.inventory.insert? i).map fun t => { db with inventory := t }) integrityError

def deleteInventory (id : Uuid) : Code Unit :=
  modify fun db => { db with inventory := db.inventory.delete id }

def saveInventory (i : MasterInventory) : Code Unit :=
  modify fun db => { db with inventory := db.inventory.save i }

def createUsage (u : OrderInventoryUsage) : Code Unit :=
  write (fun db => (db.usages.insert? u).map fun t => { db with usages := t }) integrityError

def saveAssignedMaster (a : Assignment) : Code Unit :=
  modify fun db => { db with assignedMasters := db.assignedMasters.save a }

def createAssignedMaster (a : Assignment) : Code Unit :=
  write (fun db => (db.assignedMasters.insert? a).map fun t => { db with assignedMasters := t })
    integrityError

def saveAssistant (a : Assignment) : Code Unit :=
  modify fun db => { db with assistants := db.assistants.save a }

def createAssistant (a : Assignment) : Code Unit :=
  write (fun db => (db.assistants.insert? a).map fun t => { db with assistants := t })
    integrityError

def createClient (c : Client) : Code Unit :=
  write (fun db => (db.clients.insert? c).map fun t => { db with clients := t }) integrityError

def createAddress (a : ClientAddress) : Code Unit :=
  write (fun db => (db.addresses.insert? a).map fun t => { db with addresses := t }) integrityError

def createDevice (d : ClientDevice) : Code Unit :=
  write (fun db => (db.devices.insert? d).map fun t => { db with devices := t }) integrityError

/-- Append to the journal. -/
def record (e : Event) : Code Unit :=
  modify fun db => { db with journal := db.journal ++ [e] }

/-- `get_object_or_404(Order, pk=…)`. -/
def getOrder (pk : Uuid) : Code Order :=
  fetch (fun db => db.orders.find? pk) (.notFound "Order")

end Code

end Homex
