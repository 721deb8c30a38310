import Homex.System.Runs

/-!
# Wallets equal their ledgers

The balances and totals of a wallet are caches of sums over the transaction
rows. `Ledger` says so, together with the two facts that keep the balances
nonnegative: they are so now, and every stored amount is positive. Each way the
wallet tables change moves the caches as the rows demand, so the ledger holds in
every state a run reaches.
-/

namespace Homex

namespace Wallet

open Relational Action Orders Payme

/-- The wallets cache the rows, and no balance is negative. -/
structure Ledger (w : WalletTables) : Prop where
  balances : Caches (fun g : Uuid × PaymentMethod => (w.wallet g.1).balance g.2) w.transactions
    (fun t => (t.master, t.paymentMethod)) WalletTransaction.signed
  earned : Caches (fun m => (w.wallet m).totalEarned) w.transactions WalletTransaction.master
    WalletTransaction.earned
  withdrawn : Caches (fun m => (w.wallet m).totalWithdrawn) w.transactions
    WalletTransaction.master WalletTransaction.withdrawn
  balance_nonneg : ∀ m method, 0 ≤ (w.wallet m).balance method
  amount_pos : ∀ t ∈ w.transactions.rows, 0 < t.amount

namespace Ledger

variable {w w' : WalletTables} {row : WalletTransaction}

theorem empty : Ledger {} where
  balances := .empty fun g => by cases g.2 <;> rfl
  earned := .empty fun _ => rfl
  withdrawn := .empty fun _ => rfl
  balance_nonneg := fun _ method => by cases method <;> exact le_refl _
  amount_pos := fun t ht => by cases ht

/-- The ledger depends on what the wallets read and on the rows. -/
theorem congr (h : Ledger w) (hwallet : ∀ m, w'.wallet m = w.wallet m)
    (hrows : w'.transactions = w.transactions) : Ledger w' where
  balances := h.balances.congr (fun g => by rw [hwallet]) hrows
  earned := h.earned.congr (fun m => by rw [hwallet]) hrows
  withdrawn := h.withdrawn.congr (fun m => by rw [hwallet]) hrows
  balance_nonneg := by
    intro m method
    rw [hwallet]
    exact h.balance_nonneg m method
  amount_pos := by
    rw [hrows]
    exact h.amount_pos

theorem opened (h : Ledger w) (ho : Opened w w') : Ledger w' :=
  h.congr ho.wallets ho.transactions

/-- The sign of a row's contribution follows its type. -/
theorem signed_of_out (ht : row.transactionType = .out) : row.signed = -row.amount := by
  rw [WalletTransaction.signed, ht]

theorem signed_of_in (ht : row.transactionType = .in) : row.signed = row.amount := by
  rw [WalletTransaction.signed, ht]

theorem balance_of_posted (hp : Posted w w' row) (m : Uuid) (method : PaymentMethod) :
    (w'.wallet m).balance method =
      (w.wallet m).balance method +
        if (row.master, row.paymentMethod) = (m, method) then row.signed else 0 := by
  rw [hp.wallets m]
  by_cases hm : m = row.master
  · subst hm
    rw [if_pos rfl, MasterWallet.balance_move]
    simp
  · have hne : (row.master, row.paymentMethod) ≠ (m, method) := by
      intro heq
      exact hm (congrArg Prod.fst heq).symm
    rw [if_neg hm, if_neg hne, add_zero]

/-- A column of a wallet that is moved when it is the master's. -/
theorem column_of_move (column : MasterWallet → Int) {m master : Uuid}
    {moved wallet : MasterWallet} {x : Int} (h : column moved = column wallet + x) :
    column (if m = master then moved else wallet) =
      column wallet + if master = m then x else 0 := by
  by_cases hm : m = master
  · rw [if_pos hm, if_pos hm.symm, h]
  · rw [if_neg hm, if_neg (Ne.symm hm), add_zero]

theorem posted (h : Ledger w) (hp : Posted w w' row) : Ledger w' where
  balances := h.balances.insert hp.transactions fun g => balance_of_posted hp g.1 g.2
  earned := by
    refine h.earned.insert hp.transactions fun m => ?_
    rw [hp.wallets m]
    exact column_of_move MasterWallet.totalEarned rfl
  withdrawn := by
    refine h.withdrawn.insert hp.transactions fun m => ?_
    rw [hp.wallets m]
    exact column_of_move MasterWallet.totalWithdrawn rfl
  balance_nonneg := by
    intro m method
    rw [balance_of_posted hp]
    have hbefore := h.balance_nonneg m method
    by_cases heq : (row.master, row.paymentMethod) = (m, method)
    · obtain ⟨rfl, rfl⟩ := Prod.mk.inj heq
      rw [if_pos rfl]
      cases ht : row.transactionType with
      | «in» =>
          have hpos := hp.pos
          rw [signed_of_in ht]
          omega
      | out =>
          have hcov := hp.covered ht
          rw [signed_of_out ht]
          omega
    · rw [if_neg heq, add_zero]
      exact hbefore
  amount_pos := by
    intro t ht
    rcases (Table.mem_insert? hp.transactions).mp ht with ht | rfl
    · exact h.amount_pos t ht
    · exact hp.pos

theorem balance_of_reversed (hr : Reversed w w' row) (m : Uuid) (method : PaymentMethod) :
    (w'.wallet m).balance method =
      (w.wallet m).balance method -
        if (row.master, row.paymentMethod) = (m, method) then row.signed else 0 := by
  rw [hr.wallets m]
  by_cases hm : m = row.master
  · subst hm
    rw [if_pos rfl, MasterWallet.balance_move]
    by_cases hmethod : row.paymentMethod = method
    · simp [hmethod, sub_eq_add_neg]
    · simp [hmethod]
  · have hne : (row.master, row.paymentMethod) ≠ (m, method) := by
      intro heq
      exact hm (congrArg Prod.fst heq).symm
    rw [if_neg hm, if_neg hne, sub_zero]

/-- Deleting a row whose effect was reversed. -/
theorem deleted (h : Ledger w) (hfind : w.transactions.find? row.id = some row)
    (hr : Reversed w w' row) :
    Ledger { w' with transactions := w.transactions.delete row.id } where
  balances := h.balances.delete hfind fun g => balance_of_reversed hr g.1 g.2
  earned := by
    refine h.earned.delete hfind fun m => ?_
    change (w'.wallet m).totalEarned = _
    rw [hr.wallets m, sub_eq_add_neg, apply_ite Neg.neg, neg_zero]
    exact column_of_move MasterWallet.totalEarned rfl
  withdrawn := by
    refine h.withdrawn.delete hfind fun m => ?_
    change (w'.wallet m).totalWithdrawn = _
    rw [hr.wallets m, sub_eq_add_neg, apply_ite Neg.neg, neg_zero]
    exact column_of_move MasterWallet.totalWithdrawn rfl
  balance_nonneg := by
    intro m method
    change 0 ≤ (w'.wallet m).balance method
    rw [balance_of_reversed hr]
    have hbefore := h.balance_nonneg m method
    by_cases heq : (row.master, row.paymentMethod) = (m, method)
    · obtain ⟨rfl, rfl⟩ := Prod.mk.inj heq
      rw [if_pos rfl]
      cases ht : row.transactionType with
      | «in» =>
          have hcov := hr.covered ht
          rw [signed_of_in ht]
          omega
      | out =>
          have hpos := h.amount_pos row (Table.mem_of_find? hfind)
          rw [signed_of_out ht]
          omega
    · rw [if_neg heq, sub_zero]
      exact hbefore
  amount_pos := by
    intro t ht
    exact h.amount_pos t (Table.mem_delete.mp ht).1

/-- Correcting a description. -/
theorem described (h : Ledger w) (hfind : w.transactions.find? row.id = some row)
    (description : String) :
    Ledger { w with transactions := w.transactions.save { row with description } } where
  balances := h.balances.save { row with description } row hfind rfl rfl
  earned := h.earned.save { row with description } row hfind rfl rfl
  withdrawn := h.withdrawn.save { row with description } row hfind rfl rfl
  balance_nonneg := h.balance_nonneg
  amount_pos := by
    intro t ht
    rcases Table.mem_save.mp ht with ⟨ht, -⟩ | ⟨rfl, -⟩
    · exact h.amount_pos t ht
    · exact h.amount_pos row (Table.mem_of_find? hfind)

/-- A credit posts a row or nothing. -/
theorem credited {o : Order} {method : PaymentType} {credit : Option WalletTransaction}
    (h : Ledger w) (hc : Credits o method w w' credit) : Ledger w' := by
  cases hc with
  | skipped _ heq => exact heq ▸ h
  | credited _ _ _ _ _ _ hp => exact h.posted hp

end Ledger

variable {cfg : Settings} {ctx : Context} {db db' : DB} {r : Request}

theorem ledger_of_walletEffect (h : WalletEffect ctx db db' r) (hl : Ledger db.wallet) :
    Ledger db'.wallet := by
  cases h with
  | opened ho _ => exact hl.opened ho
  | withdrawCreated ho _ _ hdb =>
      subst hdb
      exact (hl.opened ho).congr (fun _ => rfl) rfl
  | dashboardWithdrawCreated ho _ _ hdb =>
      subst hdb
      exact (hl.opened ho).congr (fun _ => rfl) rfl
  | accepted _ _ hp hdb =>
      subst hdb
      exact (hl.posted hp).congr (fun _ => rfl) rfl
  | rejected _ _ hdb =>
      subst hdb
      exact hl.congr (fun _ => rfl) rfl
  | saved _ _ _ _ hdb =>
      subst hdb
      exact hl.congr (fun _ => rfl) rfl
  | destroyed _ _ hdb =>
      subst hdb
      exact hl.congr (fun _ => rfl) rfl
  | posted hp _ => exact hl.posted hp
  | described hfind hdb =>
      subst hdb
      exact hl.described hfind _
  | deleted hfind hr hdb =>
      subst hdb
      exact hl.deleted hfind hr

theorem ledger_of_marksPaid {o : Order} (h : MarksPaid ctx o db db') (hl : Ledger db.wallet) :
    Ledger db'.wallet := by
  cases h with
  | already _ hdb => exact hdb ▸ hl
  | completed credit _ hc => exact hl.credited hc.credits
  | flagged _ _ hdb =>
      subst hdb
      exact hl

theorem ledger_of_paymeEffect (h : PaymeEffect cfg ctx db db' r) (hl : Ledger db.wallet) :
    Ledger db'.wallet := by
  cases h with
  | create _ _ _ _ _ _ _ hdb =>
      subst hdb
      exact hl
  | expire _ _ _ _ hdb =>
      subst hdb
      exact hl
  | cancel _ _ _ _ hdb =>
      subst hdb
      exact hl
  | refund _ _ _ _ _ hdb =>
      rw [hdb]
      exact hl
  | perform _ _ _ _ _ _ hm => exact ledger_of_marksPaid hm hl

/-- Every request keeps the ledger. -/
theorem ledger_of_effect (h : Effect cfg ctx db db' r) (hl : Ledger db.wallet) :
    Ledger db'.wallet := by
  cases h with
  | frame hf => exact hf.wallet ▸ hl
  | create _ _ _ hw _ => exact hw ▸ hl
  | rewrite _ _ _ _ hw _ => exact hw ▸ hl
  | check _ _ _ _ _ hw _ => exact hw ▸ hl
  | pay _ hc => exact hl.credited hc.credits
  | payme hp => exact ledger_of_paymeEffect hp hl
  | wallet hw => exact ledger_of_walletEffect hw hl

theorem ledger_of_reachable {w : World} (h : (backend cfg).Reachable w) : Ledger w.db.wallet := by
  refine h.invariant (I := fun w => Ledger w.db.wallet) ?_ ?_
  · rintro w ⟨-, -, hw, -⟩
    rw [hw]
    exact .empty
  · intro w l w' _ hl hstep
    exact ledger_of_effect hstep.effect hl

section Refusals

/-- The wallet tables are the same. -/
def SameWallet (db db' : DB) : Prop := db'.wallet = db.wallet

instance : Std.Refl SameWallet := ⟨fun _ => rfl⟩

instance : IsTrans DB SameWallet := ⟨fun _ _ _ h h' => h'.trans h⟩

theorem within_createAgain {o : Order} {amount : Int} {tx : PaymeTransaction} :
    Within SameWallet (PaymeWebHookAPIView.createAgain ctx o amount tx) :=
  .bind within_require fun _ =>
    within_ite (.bind (within_modify fun _ => rfl) fun _ => within_pure) within_pure

theorem within_createFresh {o : Order} {amount : Int} {id : String} :
    Within SameWallet (PaymeWebHookAPIView.createFresh cfg ctx o amount id) := by
  refine .bind within_get fun db => ?_
  have hinsert : ∀ tx, Within SameWallet (Code.createPayme tx) := by
    intro tx
    refine within_write fun s s' h => ?_
    obtain ⟨t, -, rfl⟩ := Option.map_eq_some_iff.mp h
    rfl
  cases getActiveTransaction db o.id with
  | none => exact .bind (hinsert _) fun _ => within_pure
  | some active => exact .bind within_require fun _ => .bind (hinsert _) fun _ => within_pure

theorem within_paymeCreate {params : Params} :
    Within SameWallet (PaymeWebHookAPIView.createTransaction cfg ctx params) := by
  refine .bind within_fetch fun id => .bind within_fetch fun _ => .bind within_fetch fun _ =>
    .bind within_fetchAccount fun o => .bind within_validateAmount fun _ =>
    .bind (.atomic (.bind within_get fun db => ?_)) fun _ => within_createAnswer
  cases db.payme.find? id with
  | none => exact within_createFresh
  | some tx => exact within_createAgain

/-- Perform answers with an error after its commit only when it cancelled a
timed-out transaction. -/
theorem performLocked_none {id : String}
    (h : PaymeWebHookAPIView.performLocked ctx id db = (.ok none, db')) :
    db'.wallet = db.wallet := by
  simp only [PaymeWebHookAPIView.performLocked, Code.savePayme, bind_eq_ok, fetch_eq_ok,
    ite_eq_ok, modify_eq_ok, pure_eq_ok, raise_ne_ok, and_false, false_or, reduceCtorEq,
    false_and, exists_false, or_false] at h
  obtain ⟨tx, _, hlock, -, -, -, _, _, rfl, -, rfl⟩ := h
  obtain ⟨-, -, rfl⟩ := lockedTx_ok hlock
  rfl

theorem clean_paymePerform {params : Params} :
    Clean SameWallet (PaymeWebHookAPIView.performTransaction ctx params) := by
  refine .bind within_fetch fun id => ?_
  intro s e s' h
  rcases bind_error h with h | ⟨result?, s₁, hlock, hanswer⟩
  · exact congrArg DB.wallet (atomic_error h)
  · obtain rfl := within_performAnswer (R := Eq) _ _ _ hanswer
    cases result? with
    | none => exact performLocked_none (atomic_eq_ok.mp hlock)
    | some result => cases hanswer

/-- A refused request leaves the wallet tables as they were. -/
theorem wallet_of_refused {e : Error} (h : handle cfg ctx r db = (.error e, db')) :
    db'.wallet = db.wallet := by
  obtain ⟨e', hview⟩ := view_of_handle_error (congrArg Prod.fst h)
  rw [h] at hview
  by_cases hcreate : ∃ params, r = .paymeCreate params
  · obtain ⟨params, rfl⟩ := hcreate
    exact Within.map within_paymeCreate _ _ _ hview
  by_cases hperform : ∃ params, r = .paymePerform params
  · obtain ⟨params, rfl⟩ := hperform
    exact Clean.map clean_paymePerform _ _ _ hview
  exact (clean_view (not_exists.mp hcreate) (not_exists.mp hperform) _ _ _ hview).wallet

end Refusals

/-- The total of the amounts of a master's rows of one type and one side of the
wallet: the cash rows, or the others. -/
def ledgerSum (w : WalletTables) (m : Uuid) (type : TransactionType) (cash : Bool) : Int :=
  w.transactions.sum fun t =>
    if t.master = m ∧ t.transactionType = type ∧ decide (t.paymentMethod = .cash) = cash then
      t.amount
    else 0

/-- The side of the wallet a payment method stands for. -/
theorem decide_cash (method : PaymentMethod) (cash : Bool) :
    decide (method = .cash) = cash ↔ method = if cash then .cash else .online := by
  cases method <;> cases cash <;> decide

/-- The rows of one side of a wallet, from the rows in and the rows out. -/
theorem total_signed (w : WalletTables) (m : Uuid) (cash : Bool) :
    w.transactions.total (fun t => (t.master, t.paymentMethod)) WalletTransaction.signed
        (m, if cash then .cash else .online) =
      ledgerSum w m .in cash - ledgerSum w m .out cash := by
  refine eq_sub_of_add_eq ?_
  unfold Table.total ledgerSum
  rw [← Table.sum_add]
  refine Table.sum_congr _ fun t _ => ?_
  simp only [Prod.mk.injEq, decide_cash]
  by_cases hm : t.master = m
  · by_cases hc : t.paymentMethod = if cash then .cash else .online
    · cases ht : t.transactionType <;> simp [hm, hc, ht, WalletTransaction.signed]
    · simp [hc]
  · simp [hm]

/-- A total over both sides of the wallet. -/
theorem sum_eq_ledgerSum (w : WalletTables) (m : Uuid) (type : TransactionType)
    (f : WalletTransaction → Int)
    (hf : ∀ t, f t = if t.transactionType = type then t.amount else 0) :
    w.transactions.total WalletTransaction.master f m =
      ledgerSum w m type true + ledgerSum w m type false := by
  unfold Table.total ledgerSum
  rw [← Table.sum_add]
  refine Table.sum_congr _ fun t _ => ?_
  rw [hf]
  by_cases hm : t.master = m
  · by_cases ht : t.transactionType = type
    · cases hc : t.paymentMethod <;> simp [hm, ht]
    · simp [ht]
  · simp [hm]

theorem total_earned (w : WalletTables) (m : Uuid) :
    w.transactions.total WalletTransaction.master WalletTransaction.earned m =
      ledgerSum w m .in true + ledgerSum w m .in false := by
  refine sum_eq_ledgerSum _ _ _ _ fun t => ?_
  cases ht : t.transactionType <;> simp [WalletTransaction.earned, ht]

theorem total_withdrawn (w : WalletTables) (m : Uuid) :
    w.transactions.total WalletTransaction.master WalletTransaction.withdrawn m =
      ledgerSum w m .out true + ledgerSum w m .out false := by
  refine sum_eq_ledgerSum _ _ _ _ fun t => ?_
  cases ht : t.transactionType <;> simp [WalletTransaction.withdrawn, ht]

/-- The columns of every wallet are the sums over its rows. -/
def EqualsLedger (w : WalletTables) : Prop :=
  ∀ m : Uuid,
    (w.wallet m).balanceCash = ledgerSum w m .in true - ledgerSum w m .out true ∧
      (w.wallet m).balanceOnline = ledgerSum w m .in false - ledgerSum w m .out false ∧
      (w.wallet m).totalEarned = ledgerSum w m .in true + ledgerSum w m .in false ∧
      (w.wallet m).totalWithdrawn = ledgerSum w m .out true + ledgerSum w m .out false

theorem Ledger.equalsLedger {w : WalletTables} (h : Ledger w) : EqualsLedger w := by
  refine fun m => ⟨?_, ?_, ?_, ?_⟩
  · exact (h.balances (m, .cash)).trans (total_signed w m true)
  · exact (h.balances (m, .online)).trans (total_signed w m false)
  · exact (h.earned m).trans (total_earned w m)
  · exact (h.withdrawn m).trans (total_withdrawn w m)

/-- Wallet ledger equals wallet balances, for every master in every state a run
reaches; and a refused request leaves the wallet tables alone. -/
theorem wallet_eq_ledger (cfg : Settings) {w : World} (h : (backend cfg).Reachable w) :
    (∀ m : Uuid,
      (w.db.wallet.wallet m).balanceCash =
          ledgerSum w.db.wallet m .in true - ledgerSum w.db.wallet m .out true ∧
        (w.db.wallet.wallet m).balanceOnline =
          ledgerSum w.db.wallet m .in false - ledgerSum w.db.wallet m .out false ∧
        (w.db.wallet.wallet m).totalEarned =
          ledgerSum w.db.wallet m .in true + ledgerSum w.db.wallet m .in false ∧
        (w.db.wallet.wallet m).totalWithdrawn =
          ledgerSum w.db.wallet m .out true + ledgerSum w.db.wallet m .out false ∧
        0 ≤ (w.db.wallet.wallet m).balanceCash ∧ 0 ≤ (w.db.wallet.wallet m).balanceOnline) ∧
      ∀ ctx r e db', handle cfg ctx r w.db = (.error e, db') → db'.wallet = w.db.wallet := by
  have hl := ledger_of_reachable h
  refine ⟨fun m => ?_, fun ctx r e db' hr => wallet_of_refused hr⟩
  obtain ⟨hcash, honline, hearned, hwithdrawn⟩ := hl.equalsLedger m
  exact ⟨hcash, honline, hearned, hwithdrawn, hl.balance_nonneg m .cash,
    hl.balance_nonneg m .online⟩

theorem wallet_eq_ledger_sample :
    (((Sample.world.run {} Sample.paidInCash).db.wallet.wallet 2).balanceCash = 100000) ∧
      ledgerSum (Sample.world.run {} Sample.paidInCash).db.wallet 2 .in true = 100000 := by
  have hreach : (backend {}).Reachable (Sample.world.run {} Sample.paidInCash) :=
    reachable_run Sample.reachable (by decide)
  have hcash := ((wallet_eq_ledger {} hreach).1 2).1
  have hwallet : ((Sample.world.run {} Sample.paidInCash).db.wallet.wallet 2).balanceCash =
      100000 := by decide
  have hout : ledgerSum (Sample.world.run {} Sample.paidInCash).db.wallet 2 .out true = 0 := by
    decide
  refine ⟨hwallet, ?_⟩
  rw [hwallet, hout, Int.sub_zero] at hcash
  exact hcash.symm

end Wallet

end Homex
