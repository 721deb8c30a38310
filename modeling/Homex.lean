import Homex.Wallet.Balance
import Homex.Orders.Completions
import Homex.Payme.DoubleCharge
import Homex.Payme.Charge
import Homex.Orders.Settled
import Homex.Orders.Payout
import Homex.Payme.StuckCheck
import Homex.Wallet.Withdrawals
import Homex.Concurrency.RowLocks
import Homex.System.Interleavings
import Homex.System.AcceptRace
import Homex.Payme.Refunds
import Homex.Orders.Checks
import Homex.Orders.PartsTotal
import Homex.Orders.CheckSubmission
import Homex.Warehouse.Goods
import Homex.Wallet.Reversals
import Homex.Warehouse.Corrections
import Homex.Payme.Prediction
import Homex.Wallet.Reservations
import Homex.Market.Stock
import Homex.Accounts.Blocking
import Homex.Accounts.Guesses
import Homex.Profiles.Isolation
import Homex.Dashboard.Income
import Homex.System.Deadlocks
import Homex.Payme.Statements
import Homex.Payme.Timeout
import Homex.Payme.FiscalItems
import Homex.Dashboard.Tabs
import Homex.Dashboard.Assignments
import Homex.Profiles.DefaultAddress
import Homex.Support.Swallowed
import Homex.InternalApi.Overview
import Homex.InternalApi.Patches
import Homex.Payme.Checkout
import Homex.Market.Categories
import Homex.Accounts.Passwords
import Homex.Dashboard.StockEdits
import Homex.Orders.Widths
import Homex.System.Events
import Homex.System.Windows
import Homex.System.Deletions
import Homex.Realtime.Gapless
import Homex.Realtime.Progress
import Homex.Accounts.Lineage
import Homex.Realtime.Pushes
import Homex.Payme.Webhook
