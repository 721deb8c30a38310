import Homex.Payme.Prediction
import Homex.Payme.Retries

/-!
# A transaction that has timed out

The time of a transaction in state 1 is up after twelve hours. That is found out
when the clock is read, by the request that names the transaction. A request with
another id looks for the transactions of the order by their stored state, and
finds this one still in state 1: it is refused, or leaves two of them.
-/

namespace Homex

namespace Payme

open Relational Action Code Orders PaymeWebHookAPIView

variable {cfg : Settings} {ctx : Context} {params : Params} {db : DB} {order : Order}
  {id : String} {tx : PaymeTransaction}

/-- The only active transaction of the order is in state 1, and its time is up. -/
structure SoleExpired (now : Int) (db : DB) (order : Uuid) (tx : PaymeTransaction) : Prop where
  mem : tx ∈ db.payme.rows
  belongs : tx.order = order
  state : tx.state = .initiating
  expired : tx.isExpired now = true
  sole : ∀ other ∈ db.payme.rows, other.order = order → other.isActive = true → other = tx

/-- The new transaction is there in state 1, and the old one is cancelled for the timeout. -/
structure Supersedes (id : String) (tx : PaymeTransaction)
    (result : Except Error Response × DB) : Prop where
  answered : ∃ createTime,
    result.1 = .ok (.payme (.create id State.initiating.code createTime))
  created : ∃ new, result.2.payme.find? id = some new ∧ new.state = .initiating
  cancelled : ∃ old, result.2.payme.find? tx.transactionId = some old ∧
    old.state = .canceledDuringInit ∧ old.cancelReason = some timeoutCancelReason

theorem SoleExpired.isActive {now : Int} (h : SoleExpired now db order.id tx) :
    tx.isActive = true := by
  rw [PaymeTransaction.isActive, h.state]
  rfl

/-- The transaction blocks the order whatever the clock says. -/
theorem SoleExpired.getActiveTransaction {now : Int} (h : SoleExpired now db order.id tx) :
    getActiveTransaction db order.id = some tx := by
  have hmem : tx ∈ db.payme.rows.filter fun other => other.order = order.id ∧ other.isActive := by
    rw [List.mem_filter]
    exact ⟨h.mem, decide_eq_true ⟨h.belongs, h.isActive⟩⟩
  cases hlast : Payme.getActiveTransaction db order.id with
  | none =>
      rw [Payme.getActiveTransaction, List.getLast?_eq_none_iff] at hlast
      rw [hlast] at hmem
      cases hmem
  | some other =>
      have hother := List.mem_of_getLast? hlast
      rw [List.mem_filter, decide_eq_true_eq] at hother
      rw [h.sole other hother.1 hother.2.1 hother.2.2]

theorem names_of_payable (h : params.payable cfg db = some order) (hid : params.id = some id) :
    Names cfg params db id order := by
  obtain ⟨account, haccount, hpk, hfind, hamount⟩ := payable_eq_some_iff.mp h
  refine ⟨hid, ?_, hamount, hfind⟩
  rw [Params.orderId, haccount]
  exact hpk

/-- With parameters that name an order, Create is its locked part. -/
theorem createTransaction_of_names (h : Names cfg params db id order) :
    PaymeWebHookAPIView.createTransaction cfg ctx params db =
      (atomic (createLocked cfg ctx order (orderAmountTiyin order) id) >>= createAnswer id) db := by
  rcases createTransaction_cases cfg params db with ⟨hnone, -⟩ | ⟨id', order', hnames, hrun⟩
  · exact (hnone id order h).elim
  · obtain ⟨rfl, rfl⟩ := h.unique hnames
    exact hrun ctx db rfl

/-- An order with an active transaction gets no second one when it is paid once. -/
theorem createTransaction_blocked (hone : cfg.paymeOneTimePayment = true)
    (h : Names cfg params db id order) (hfresh : db.payme.find? id = none)
    (hactive : getActiveTransaction db order.id = some tx) :
    PaymeWebHookAPIView.createTransaction cfg ctx params db =
      (.error (.payme .transactionAlreadyExists tx.transactionId), db) := by
  have hlocked : createLocked cfg ctx order (orderAmountTiyin order) id db =
      (.error (.payme .transactionAlreadyExists tx.transactionId), db) := by
    unfold createLocked
    rw [run_bind_ok run_get, hfresh]
    change createFresh cfg ctx order (orderAmountTiyin order) id db = _
    unfold createFresh
    rw [run_bind_ok run_get, hactive]
    refine run_bind_error (run_require_not ?_)
    rw [hone]
    decide
  rw [createTransaction_of_names h]
  exact run_bind_error (run_atomic_error hlocked)

/-- Create with a new id leaves every transaction that is there as it is. -/
theorem find?_createTransaction (h : Names cfg params db id order)
    (hfresh : db.payme.find? id = none) {name : String}
    (hfind : db.payme.find? name = some tx) :
    (PaymeWebHookAPIView.createTransaction cfg ctx params db).2.payme.find? name = some tx := by
  have hne : id ≠ name := by
    rintro rfl
    cases hfresh.symm.trans hfind
  rw [createTransaction_of_names h]
  rcases createLocked_new cfg order (orderAmountTiyin order) hfresh with ⟨e, herror⟩ | hcreate
  · rw [run_bind_error (run_atomic_error (herror ctx))]
    exact hfind
  · obtain ⟨t, hins, hrun⟩ := hcreate ctx
    rw [run_bind_ok (run_atomic_ok hrun)]
    change t.find? name = some tx
    rw [Table.find?_insert? hins,
      if_neg (show ¬key (newTransaction ctx order _ id) = name from hne), hfind]

/-- A transaction that has timed out is never superseded by Create: where an order
is paid once the request is refused, and otherwise the old transaction stays. -/
theorem expired_blocks_create (cfg : Settings) (ctx : Context) (db : DB)
    (hid : params.id = some id) (hpayable : params.payable cfg db = some order)
    (hfresh : db.payme.find? id = none) (hsole : SoleExpired ctx.now db order.id tx) :
    ¬Supersedes id tx (handle cfg ctx (.paymeCreate params) db) ∧
      (cfg.paymeOneTimePayment = true →
        handle cfg ctx (.paymeCreate params) db =
          (.error (.payme .transactionAlreadyExists tx.transactionId), db)) := by
  have hnames := names_of_payable hpayable hid
  constructor
  · intro h
    obtain ⟨old, hold, hstate, -⟩ := h.cancelled
    rw [handle_snd] at hold
    have hkept : (view cfg ctx (.paymeCreate params) db).2.payme.find? tx.transactionId =
        some tx := by
      change ((Response.payme <$> createTransaction cfg ctx params) db).2.payme.find? _ = _
      rw [map_snd]
      exact find?_createTransaction hnames hfresh (Table.find?_of_mem hsole.mem)
    obtain rfl := Option.some.inj (hkept.symm.trans hold)
    cases hsole.state.symm.trans hstate
  · intro hone
    have hrun : PaymeWebHookAPIView.createTransaction cfg ctx params db = _ :=
      createTransaction_blocked hone hnames hfresh hsole.getActiveTransaction
    exact handle_of_paymeError (run_map_error hrun)

namespace Sample

/-- The order of `awaiting` has a transaction. -/
def collecting : World :=
  Sample.world.run {} (Sample.awaiting ++ [(Sample.at_ 30, Sample.paymeCreate)])

def firstTransaction : PaymeTransaction where
  transactionId := "tx"
  order := 10
  amount := 100000
  state := .initiating
  createdAt := 30

/-- The payment of the order under another id. -/
def another : Params where
  id := some "other"
  amount := some (some 100000)
  account := some [("id", 10)]

/-- Thirteen hours later. -/
def later : Context := Sample.at_ 46800000000

theorem payable_another :
    ∃ order, another.payable {} collecting.db = some order ∧ order.id = 10 := by
  have hid : (another.payable {} collecting.db).map Order.id = some 10 := by decide
  exact Option.map_eq_some_iff.mp hid

theorem soleExpired_firstTransaction :
    SoleExpired later.now collecting.db 10 firstTransaction where
  mem := by decide
  belongs := rfl
  state := rfl
  expired := by decide
  sole := by decide

end Sample

/-- Another transaction for the order of `awaiting`. -/
theorem expired_blocks_create_sample :
    handle {} Sample.later (.paymeCreate Sample.another) Sample.collecting.db =
      (.error (.payme .transactionAlreadyExists "tx"), Sample.collecting.db) := by
  obtain ⟨order, hpayable, hid⟩ := Sample.payable_another
  have hsole := Sample.soleExpired_firstTransaction
  rw [← hid] at hsole
  have hfresh : Sample.collecting.db.payme.find? "other" = none := by decide
  exact (expired_blocks_create {} Sample.later Sample.collecting.db rfl hpayable hfresh hsole).2
    rfl

/-- The order cannot be paid through Payme any more under another id. -/
theorem expired_transaction_blocks :
    ¬∀ (cfg : Settings) (w : World) (ctx : Context) (params : Params) (id : String)
      (order : Order) (tx : PaymeTransaction), (backend cfg).Reachable w → w.clock ≤ ctx.now →
        params.id = some id → params.payable cfg w.db = some order →
        w.db.payme.find? id = none → SoleExpired ctx.now w.db order.id tx →
        Supersedes id tx (handle cfg ctx (.paymeCreate params) w.db) := by
  intro h
  obtain ⟨order, hpayable, hid⟩ := Sample.payable_another
  have hsole := Sample.soleExpired_firstTransaction
  rw [← hid] at hsole
  have hreach : (backend {}).Reachable Sample.collecting :=
    reachable_run Sample.reachable (by decide)
  have hnew := h {} Sample.collecting Sample.later Sample.another "other" order
    Sample.firstTransaction hreach (by decide) rfl hpayable (by decide) hsole
  obtain ⟨new, hfind, -⟩ := hnew.created
  have hnone : (handle {} Sample.later (.paymeCreate Sample.another)
      Sample.collecting.db).2.payme.find? "other" = none := by decide
  cases hnone.symm.trans hfind

end Payme

end Homex
