import Homex.Dashboard.Orders
import Homex.Dashboard.Warehouse
import Homex.InternalApi.Orders
import Homex.Payme.Views
import Homex.Transition.Run
import Homex.Wallet.Views
import Homex.Warehouse.Views

/-!
# Requests, one atomic step each

A request names its endpoint, its user and its payload; `handle` runs the view.
The state of the system is the database and the clock, and a step handles one
request at an instant that is not before the last one.
-/

namespace Homex

open Relational Action Orders Wallet Warehouse Payme

/-- A request to the stock endpoints of the dashboard or of the admin API. -/
inductive StockRequest
  | productCreate (data : Dashboard.ProductPayload)
  | productUpdate (pk : Uuid) (data : Dashboard.ProductPayload)
  | movementCreate (data : Dashboard.MovementPayload)
  | movementUpdate (pk : Uuid) (data : Dashboard.MovementPatch)
  | movementDestroy (pk : Uuid)
  | inventoryCreate (master product : Uuid) (quantity : Amount)
  | inventoryUpdate (pk : Uuid) (data : Dashboard.InventoryPayload)
  | inventoryDestroy (pk : Uuid)
  | adminAssign (master : Uuid) (data : AdminAssignPayload)
  | adminUpdate (master item : Uuid) (quantity : { q : Int // 0 ≤ q })
  | adminDelete (master item : Uuid)

/-- A request to one of the endpoints. -/
inductive Request
  | clientCreate (user : Uuid) (data : Orders.OrderPayload)
  | clientCancel (user pk : Uuid) (reason : String)
  | clientPay (user pk : Uuid) (method : PaymentMethodField)
  | masterAccept (user pk : Uuid)
  | masterOnWay (user pk : Uuid)
  | masterStart (user pk : Uuid)
  | masterReject (user pk : Uuid) (reason : String)
  | masterComplete (user pk : Uuid) (data : OrderCompletePayload)
  | masterReceiptConfirm (user pk : Uuid)
  | useInventory (user pk : Uuid) (data : UseInventoryPayload)
  | dashboardCreate (data : Dashboard.OrderPayload)
  | dashboardUpdate (pk : Uuid) (data : Dashboard.OrderPayload)
  | dashboardStatus (pk : Uuid) (data : Dashboard.OrderStatusPayload)
  | dashboardAssign (admin : Option Uuid) (pk : Uuid) (data : Dashboard.OrderAssignPayload)
  | internalCreate (data : InternalApi.OrderPayload)
  | internalExpress (data : InternalApi.ExpressPayload)
  /-- `OrderDetailAPIView` and `OrderStatusAPIView`. -/
  | internalUpdate (pk : Uuid) (data : InternalApi.OrderPayload)
  | internalAssign (pk : Uuid) (master : Option Uuid)
  | paymeCheckPerform (params : Params)
  | paymeCreate (params : Params)
  | paymePerform (params : Params)
  | paymeCancel (params : Params)
  | paymeCheck (params : Params)
  | paymeStatement (params : Params)
  | walletView (master : Uuid)
  | withdrawCreate (user : Uuid) (amount : Amount)
  | dashboardWithdrawCreate (master : Uuid) (amount : Amount) (status : Option WithdrawStatus)
      (adminNote : Option String)
  | dashboardWithdrawUpdate (pk : Uuid) (data : WithdrawPayload)
  | dashboardWithdrawDestroy (pk : Uuid)
  | handoverAccept (pk : Uuid) (note : String)
  | handoverReject (pk : Uuid) (note : String)
  | transactionCreate (data : TransactionPayload)
  | transactionUpdate (pk : Uuid) (data : TransactionPatch)
  | transactionDestroy (pk : Uuid)
  | stock (request : StockRequest)

/-- What a request is answered with. -/
inductive Response
  | order (order : Order)
  | pay (response : PayResponse)
  | inventory (item : MasterInventory)
  | product (product : WarehouseProduct)
  | movement (movement : StockMovement)
  | assigned (masters : List Uuid)
  | payme (result : Result)
  | wallet (wallet : MasterWallet)
  | withdraw (request : WithdrawRequest)
  | transaction (transaction : WalletTransaction)
  | flag (changed : Bool)
  | done

/-- The view of a stock request. -/
def StockRequest.view (ctx : Context) : StockRequest → Code Response
  | .productCreate data =>
      .product <$> Dashboard.DashboardWarehouseProductListCreateAPIView.performCreate ctx data
  | .productUpdate pk data =>
      .product <$> Dashboard.DashboardWarehouseProductDetailAPIView.performUpdate ctx pk data
  | .movementCreate data =>
      .movement <$> Dashboard.DashboardStockMovementListCreateAPIView.performCreate ctx data
  | .movementUpdate pk data =>
      .movement <$> Dashboard.DashboardStockMovementDetailAPIView.performUpdate pk data
  | .movementDestroy pk =>
      (fun _ => .done) <$> Dashboard.DashboardStockMovementDetailAPIView.performDestroy pk
  | .inventoryCreate master product quantity =>
      .inventory <$> Dashboard.DashboardMasterInventoryListCreateAPIView.create ctx master product
        quantity
  | .inventoryUpdate pk data =>
      .inventory <$> Dashboard.DashboardMasterInventoryDetailAPIView.performUpdate ctx pk data
  | .inventoryDestroy pk =>
      (fun _ => .done) <$> Dashboard.DashboardMasterInventoryDetailAPIView.performDestroy ctx pk
  | .adminAssign master data => .inventory <$> AdminMasterInventoryListView.post ctx master data
  | .adminUpdate master item quantity =>
      .inventory <$> AdminUpdateInventoryView.put ctx master item quantity
  | .adminDelete master item =>
      (fun _ => .done) <$> AdminUpdateInventoryView.delete ctx master item

/-- The view of a request. -/
def view (cfg : Settings) (ctx : Context) : Request → Code Response
  | .clientCreate user data => .order <$> ClientOrderListCreateView.post ctx user data
  | .clientCancel user pk reason => .order <$> ClientOrderCancelView.post user pk reason
  | .clientPay user pk method => .pay <$> ClientOrderPayView.post ctx user pk method
  | .masterAccept user pk => .order <$> MasterOrderAcceptView.post user pk
  | .masterOnWay user pk => .order <$> MasterOrderOnWayView.post user pk
  | .masterStart user pk => .order <$> MasterOrderStartView.post user pk
  | .masterReject user pk reason => .order <$> MasterOrderRejectView.post user pk reason
  | .masterComplete user pk data => .order <$> MasterOrderCompleteView.post ctx user pk data
  | .masterReceiptConfirm user pk =>
      .flag <$> MasterOrderReceiptConfirmView.post ctx user pk
  | .useInventory user pk data => .inventory <$> UseInventoryView.post ctx user pk data
  | .dashboardCreate data => .order <$> Dashboard.DashboardOrderSerializer.create ctx data
  | .dashboardUpdate pk data => .order <$> Dashboard.DashboardOrderSerializer.update pk data
  | .dashboardStatus pk data => .order <$> Dashboard.DashboardOrderStatusAPIView.patch pk data
  | .dashboardAssign admin pk data =>
      .assigned <$> Dashboard.DashboardOrderAssignAPIView.patch admin pk data
  | .internalCreate data =>
      .order <$> InternalApi.InternalOrderWriteSerializer.create ctx data
  | .internalExpress data => .order <$> InternalApi.OrderExpressCreateAPIView.post ctx data
  | .internalUpdate pk data =>
      .order <$> InternalApi.InternalOrderWriteSerializer.update ctx pk data
  | .internalAssign pk master => .order <$> InternalApi.OrderAssignAPIView.patch pk master
  | .paymeCheckPerform params =>
      .payme <$> PaymeWebHookAPIView.checkPerformTransaction cfg params
  | .paymeCreate params => .payme <$> PaymeWebHookAPIView.createTransaction cfg ctx params
  | .paymePerform params => .payme <$> PaymeWebHookAPIView.performTransaction ctx params
  | .paymeCancel params => .payme <$> PaymeWebHookAPIView.cancelTransaction ctx params
  | .paymeCheck params => .payme <$> PaymeWebHookAPIView.checkTransaction params
  | .paymeStatement params => .payme <$> PaymeWebHookAPIView.getStatement params
  | .walletView master => .wallet <$> MasterWalletView.get master
  | .withdrawCreate user amount =>
      .withdraw <$> WithdrawRequestCreateView.performCreate ctx user amount
  | .dashboardWithdrawCreate master amount status adminNote =>
      .withdraw <$> DashboardWithdrawRequestListCreateAPIView.performCreate ctx master amount
        status adminNote
  | .dashboardWithdrawUpdate pk data =>
      (fun _ => .done) <$> DashboardWithdrawRequestDetailAPIView.performUpdate ctx pk data
  | .dashboardWithdrawDestroy pk =>
      (fun _ => .done) <$> DashboardWithdrawRequestDetailAPIView.performDestroy pk
  | .handoverAccept pk note =>
      .flag <$> DashboardCashHandoverAcceptAPIView.post ctx pk note
  | .handoverReject pk note => .flag <$> DashboardCashHandoverRejectAPIView.post pk note
  | .transactionCreate data =>
      .transaction <$> DashboardWalletTransactionListCreateAPIView.performCreate ctx data
  | .transactionUpdate pk data =>
      (fun _ => .done) <$> DashboardWalletTransactionDetailAPIView.performUpdate pk data
  | .transactionDestroy pk =>
      (fun _ => .done) <$> DashboardWalletTransactionDetailAPIView.performDestroy pk
  | .stock request => request.view ctx

/-- Whether the request goes to the Payme webhook. -/
def Request.isPayme : Request → Bool
  | .paymeCheckPerform _ => true
  | .paymeCreate _ => true
  | .paymePerform _ => true
  | .paymeCancel _ => true
  | .paymeCheck _ => true
  | .paymeStatement _ => true
  | _ => false

/-- The webhook's `handle_exception`: an error that is not the protocol's own is
answered as an internal one. -/
def renderError (r : Request) (e : Error) : Error :=
  match e with
  | .payme error data => .payme error data
  | e => if r.isPayme then .payme .internalServiceError "" else e

/-- The answer to a request, and the database after it. -/
def handle (cfg : Settings) (ctx : Context) (r : Request) (db : DB) :
    Except Error Response × DB :=
  match view cfg ctx r db with
  | (.ok response, db') => (.ok response, db')
  | (.error e, db') => (.error (renderError r e), db')

/-- The database and the clock. -/
structure World where
  db : DB
  clock : Int

/-- No order, payment, wallet or withdrawal yet; the other tables are arbitrary. -/
def World.Initial (w : World) : Prop :=
  w.db.orders = .empty ∧ w.db.payme = .empty ∧ w.db.wallet = {} ∧ w.db.journal = []

/-- One request, handled at an instant that is not before the clock. -/
structure World.Step (cfg : Settings) (w : World) (l : Context × Request) (w' : World) :
    Prop where
  clock_le : w.clock ≤ l.1.now
  clock : w'.clock = l.1.now
  db : w'.db = (handle cfg l.1 l.2 w.db).2

/-- The backend: every sequence of requests. -/
def backend (cfg : Settings) : Transition.System World (Context × Request) where
  init := World.Initial
  step := World.Step cfg

end Homex
