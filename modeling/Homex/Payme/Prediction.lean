import Homex.System.Runs

/-!
# CheckPerform and Create

Payme asks whether an order can be paid before it creates a transaction. Both
methods look the order up and compare the amount. Create also refuses an order
that has an active transaction; CheckPerform does not look for one.
-/

namespace Homex

namespace Payme

open Relational Action Code Orders PaymeWebHookAPIView

variable {cfg : Settings} {ctx : Context} {params : Params} {db : DB} {order : Order} {id : String}

/-- The order that the parameters name, with its amount. -/
def Params.payable (cfg : Settings) (params : Params) (db : DB) : Option Order :=
  ((params.orderId cfg).bind db.orders.find?).filter fun order =>
    params.amount = some (some (orderAmountTiyin order))

/-- CheckPerform allows the payment. -/
def Allows (answer : Except Error Response) : Prop :=
  ∃ items, answer = .ok (.payme (.checkPerform true items))

/-- The request is answered with a result. -/
def Succeeds (answer : Except Error Response) : Prop := ∃ response, answer = .ok response

theorem payable_eq_some_iff :
    params.payable cfg db = some order ↔
      ∃ account, params.account = some account ∧ accountOrder cfg account = some order.id ∧
        db.orders.find? order.id = some order ∧
        params.amount = some (some (orderAmountTiyin order)) := by
  unfold Params.payable Params.orderId
  simp only [Option.filter_eq_some_iff, Option.bind_eq_some_iff, decide_eq_true_eq]
  constructor
  · rintro ⟨⟨pk, ⟨account, haccount, hpk⟩, hfind⟩, hamount⟩
    obtain rfl : order.id = pk := Table.key_of_find? hfind
    exact ⟨account, haccount, hpk, hfind, hamount⟩
  · rintro ⟨account, haccount, hpk, hfind, hamount⟩
    exact ⟨⟨_, ⟨account, haccount, hpk⟩, hfind⟩, hamount⟩

theorem checkPerform_eq_ok {result : Result} {db' : DB} :
    checkPerformTransaction cfg params db = (.ok result, db') ↔
      ∃ order, params.payable cfg db = some order ∧
        result = .checkPerform true (buildFiscalItems db order) ∧ db = db' := by
  constructor
  · intro h
    simp only [checkPerformTransaction, bind_eq_ok, get_eq_ok, pure_eq_ok] at h
    obtain ⟨amount, _, hkey, account, _, hkey', order, _, horder, provided, _, hvalid,
      _, _, ⟨rfl, rfl⟩, rfl, rfl⟩ := h
    obtain ⟨hamount, rfl⟩ := requireKey_ok hkey
    obtain ⟨haccount, rfl⟩ := requireKey_ok hkey'
    obtain ⟨hpk, hfind, rfl⟩ := fetchAccount_ok horder
    obtain ⟨hprovided, rfl, rfl⟩ := validateAmount_ok hvalid
    rw [hprovided] at hamount
    exact ⟨order, payable_eq_some_iff.mpr ⟨account, haccount, hpk, hfind, hamount⟩, rfl, rfl⟩
  · rintro ⟨order, hpayable, rfl, rfl⟩
    obtain ⟨account, haccount, hpk, hfind, hamount⟩ := payable_eq_some_iff.mp hpayable
    simp [checkPerformTransaction, requireKey, fetchAccount, validateAmount, haccount, hpk,
      hfind, hamount]

/-- With a new id, Create also asks that the order has no active transaction. -/
theorem createTransaction_eq_ok (hone : cfg.paymeOneTimePayment = true)
    (hfresh : db.payme.find? id = none) :
    (∃ result db', PaymeWebHookAPIView.createTransaction cfg ctx { params with id := some id } db =
        (.ok result, db')) ↔
      ∃ order, params.payable cfg db = some order ∧ getActiveTransaction db order.id = none := by
  constructor
  · rintro ⟨result, db', h⟩
    simp only [PaymeWebHookAPIView.createTransaction, bind_eq_ok, atomic_eq_ok, get_eq_ok] at h
    obtain ⟨id', _, hid, amount, _, hkey, account, _, hkey', order, _, horder, provided, _, hvalid,
      tx?, _, ⟨_, _, ⟨rfl, rfl⟩, hlocked⟩, -⟩ := h
    obtain ⟨heq, rfl⟩ := requireKey_ok hid
    obtain rfl := Option.some.inj heq
    obtain ⟨hamount, rfl⟩ := requireKey_ok hkey
    obtain ⟨haccount, rfl⟩ := requireKey_ok hkey'
    obtain ⟨hpk, hfind, rfl⟩ := fetchAccount_ok horder
    obtain ⟨hprovided, rfl, rfl⟩ := validateAmount_ok hvalid
    rw [hprovided] at hamount
    refine ⟨order, payable_eq_some_iff.mpr ⟨account, haccount, hpk, hfind, hamount⟩, ?_⟩
    rw [hfresh] at hlocked
    simp only [createFresh, bind_eq_ok, get_eq_ok] at hlocked
    obtain ⟨_, _, ⟨rfl, rfl⟩, hactive⟩ := hlocked
    cases hget : getActiveTransaction db order.id with
    | none => rfl
    | some active => simp [hget, hone] at hactive
  · rintro ⟨order, hpayable, hactive⟩
    obtain ⟨account, haccount, hpk, hfind, hamount⟩ := payable_eq_some_iff.mp hpayable
    have hins : ∀ tx : PaymeTransaction, tx.transactionId = id →
        ∃ t, db.payme.insert? tx = some t := by
      rintro tx rfl
      exact Table.exists_insert? hfresh
    simp [PaymeWebHookAPIView.createTransaction, createFresh, createPayme, createAnswer, requireKey,
      fetchAccount, validateAmount, haccount, hpk, hfind, hamount, hfresh, hactive, hins]

theorem succeeds_handle_iff {r : Request} :
    Succeeds (handle cfg ctx r db).1 ↔
      ∃ response db', view cfg ctx r db = (.ok response, db') := by
  constructor
  · rintro ⟨response, h⟩
    exact ⟨response, _, view_of_handle_ok h⟩
  · rintro ⟨response, db', h⟩
    exact ⟨response, congrArg Prod.fst (handle_of_ok h)⟩

theorem allows_checkPerform_iff :
    Allows (handle cfg ctx (.paymeCheckPerform params) db).1 ↔ (params.payable cfg db).isSome := by
  constructor
  · rintro ⟨items, h⟩
    obtain ⟨result, hcheck, -⟩ := map_eq_ok.mp (view_of_handle_ok h)
    obtain ⟨order, hpayable, -⟩ := checkPerform_eq_ok.mp hcheck
    rw [hpayable, Option.isSome_some]
  · intro h
    obtain ⟨order, hpayable⟩ := Option.isSome_iff_exists.mp h
    have hcheck := checkPerform_eq_ok.mpr ⟨order, hpayable, rfl, rfl⟩
    have hhandle : handle cfg ctx (.paymeCheckPerform params) db =
        (.ok (.payme (.checkPerform true (buildFiscalItems db order))), db) :=
      handle_of_ok (map_eq_ok.mpr ⟨_, hcheck, rfl⟩)
    exact ⟨buildFiscalItems db order, congrArg Prod.fst hhandle⟩

theorem succeeds_create_iff (hone : cfg.paymeOneTimePayment = true)
    (hfresh : db.payme.find? id = none) :
    Succeeds (handle cfg ctx (.paymeCreate { params with id := some id }) db).1 ↔
      ∃ order, params.payable cfg db = some order ∧ getActiveTransaction db order.id = none := by
  rw [succeeds_handle_iff, ← createTransaction_eq_ok hone hfresh]
  simp only [view, map_eq_ok]
  constructor
  · rintro ⟨_, db', result, h, -⟩
    exact ⟨result, db', h⟩
  · rintro ⟨result, db', h⟩
    exact ⟨_, db', result, h, rfl⟩

/-- CheckPerform allows a payment exactly when Create would accept it, unless it
allows one of an order that has an active transaction. -/
theorem check_predicts_create (cfg : Settings) (hone : cfg.paymeOneTimePayment = true)
    (ctx ctx' : Context) (params : Params) (id : String) (db : DB)
    (hfresh : db.payme.find? id = none) :
    (Allows (handle cfg ctx (.paymeCheckPerform params) db).1 ↔
        Succeeds (handle cfg ctx' (.paymeCreate { params with id := some id }) db).1) ↔
      ∀ order, params.payable cfg db = some order → getActiveTransaction db order.id = none := by
  rw [allows_checkPerform_iff, succeeds_create_iff hone hfresh]
  cases hpayable : params.payable cfg db with
  | none => simp
  | some order => simp

/-- The order of `awaiting`, before and after Payme has created a transaction. -/
theorem check_predicts_create_sample :
    Allows (handle {} (Sample.at_ 40) (.paymeCheckPerform
        { amount := some (some 100000), account := some [("id", 10)] })
        (Sample.world.run {} Sample.awaiting).db).1 ∧
      Succeeds (handle {} (Sample.at_ 40) Sample.paymeCreate
        (Sample.world.run {} Sample.awaiting).db).1 := by
  have hallows : Allows (handle {} (Sample.at_ 40) (.paymeCheckPerform
      { amount := some (some 100000), account := some [("id", 10)] })
      (Sample.world.run {} Sample.awaiting).db).1 := allows_checkPerform_iff.mpr (by decide)
  refine ⟨hallows, ?_⟩
  have hiff := (check_predicts_create {} rfl (Sample.at_ 40) (Sample.at_ 40)
    { amount := some (some 100000), account := some [("id", 10)] } "tx"
    (Sample.world.run {} Sample.awaiting).db (by decide)).mpr ?_
  · exact hiff.mp hallows
  · intro order _
    have hnone : (Sample.world.run {} Sample.awaiting).db.payme.rows = [] := by decide
    unfold getActiveTransaction
    rw [hnone]
    rfl

/-- CheckPerform allows the payment of an order that Payme is already collecting,
and Create refuses it. -/
theorem check_allows_what_create_refuses :
    ¬∀ (cfg : Settings) (w : World), cfg.paymeOneTimePayment = true →
      (backend cfg).Reachable w → ∀ ctx params id, w.db.payme.find? id = none →
        (Allows (handle cfg ctx (.paymeCheckPerform params) w.db).1 ↔
          Succeeds (handle cfg ctx (.paymeCreate { params with id := some id }) w.db).1) := by
  intro h
  have hreach : (backend {}).Reachable (Sample.world.run {}
      (Sample.awaiting ++ [(Sample.at_ 30, Sample.paymeCreate)])) :=
    reachable_run Sample.reachable (by decide)
  have hiff := h {} _ rfl hreach (Sample.at_ 40)
    { amount := some (some 100000), account := some [("id", 10)] } "other" (by decide)
  have hallows := hiff.mp (allows_checkPerform_iff.mpr (by decide))
  obtain ⟨order, hpayable, hactive⟩ := (succeeds_create_iff rfl (by decide)).mp hallows
  have hpk : (Params.payable {} { amount := some (some 100000), account := some [("id", 10)] }
      (Sample.world.run {} (Sample.awaiting ++ [(Sample.at_ 30, Sample.paymeCreate)])).db).map
        Order.id = some 10 := by decide
  rw [hpayable, Option.map_some, Option.some.injEq] at hpk
  have hbusy : (getActiveTransaction (Sample.world.run {}
      (Sample.awaiting ++ [(Sample.at_ 30, Sample.paymeCreate)])).db 10).isSome := by decide
  rw [← hpk, hactive] at hbusy
  cases hbusy

end Payme

end Homex
