import Homex.Relational.Aggregate
import Homex.Wallet.Services

/-!
# What the wallet services do to the tables

A wallet is read with zero balances when it has no row, so opening one changes
nothing. `Posted` says that a transaction row was inserted and its master's
wallet moved by it, `Reversed` that the wallet was moved back. The services
satisfy these, and change nothing else.
-/

namespace Homex

open Wallet

/-- The wallet of a master, as `get_or_create` returns it. -/
def WalletTables.wallet (w : WalletTables) (master : Uuid) : MasterWallet :=
  (w.wallets.find? master).getD { master }

namespace Wallet

open Relational Action Code

@[simp] theorem wallet_master (w : WalletTables) (m : Uuid) : (w.wallet m).master = m := by
  unfold WalletTables.wallet
  cases h : w.wallets.find? m with
  | none => rfl
  | some wallet => exact Table.key_of_find? h

/-- The wallets read the same in both states, and no other table differs. -/
structure Opened (w w' : WalletTables) : Prop where
  wallets : ∀ m, w'.wallet m = w.wallet m
  transactions : w'.transactions = w.transactions
  withdraws : w'.withdraws = w.withdraws

theorem Opened.refl (w : WalletTables) : Opened w w := ⟨fun _ => rfl, rfl, rfl⟩

/-- The row was written and its master's wallet moved by it. -/
structure Posted (w w' : WalletTables) (row : WalletTransaction) : Prop where
  pos : 0 < row.amount
  covered : row.transactionType = .out →
    row.amount ≤ (w.wallet row.master).balance row.paymentMethod
  wallets : ∀ m, w'.wallet m =
    if m = row.master then
      (w.wallet m).move row.paymentMethod row.signed row.earned row.withdrawn
    else w.wallet m
  transactions : w.transactions.insert? row = some w'.transactions
  withdraws : w'.withdraws = w.withdraws

/-- The wallet of the row's master was moved back by it. -/
structure Reversed (w w' : WalletTables) (row : WalletTransaction) : Prop where
  covered : row.transactionType = .in →
    row.amount ≤ (w.wallet row.master).balance row.paymentMethod
  wallets : ∀ m, w'.wallet m =
    if m = row.master then
      (w.wallet m).move row.paymentMethod (-row.signed) (-row.earned) (-row.withdrawn)
    else w.wallet m
  transactions : w'.transactions = w.transactions
  withdraws : w'.withdraws = w.withdraws

/-- A wallet that is opened reads as before. -/
theorem wallet_insert {w : WalletTables} {ws : Table MasterWallet} {m : Uuid}
    (h : w.wallets.insert? { master := m } = some ws) (m' : Uuid) :
    ({ w with wallets := ws } : WalletTables).wallet m' = w.wallet m' := by
  have hnone : w.wallets.find? m = none := (Table.insert?_eq_some_iff.mp h).1
  change (ws.find? m').getD { master := m' } = _
  rw [Table.find?_insert? h, key_masterWallet]
  by_cases hm : m = m'
  · subst hm
    rw [if_pos rfl, WalletTables.wallet, hnone, Option.getD_some, Option.getD_none]
  · rw [if_neg hm, WalletTables.wallet]

variable {ctx : Context} {db db' : DB}

/-- `get_or_create` returns the wallet and at most opens it. -/
theorem getOrCreateWallet_ok {m : Uuid} {wallet : MasterWallet}
    (h : getOrCreateWallet m db = (.ok wallet, db')) :
    wallet = db.wallet.wallet m ∧
      ∃ ws, db' = { db with wallet.wallets := ws } ∧ ws.find? m = some wallet ∧
        ∀ m', db'.wallet.wallet m' = db.wallet.wallet m' := by
  unfold getOrCreateWallet at h
  simp only [bind_eq_ok, get_eq_ok] at h
  obtain ⟨_, _, ⟨rfl, rfl⟩, h⟩ := h
  cases hf : db.wallet.wallets.find? m with
  | some w =>
      rw [hf, pure_eq_ok] at h
      obtain ⟨rfl, rfl⟩ := h
      refine ⟨?_, db.wallet.wallets, rfl, hf, fun _ => rfl⟩
      rw [WalletTables.wallet, hf, Option.getD_some]
  | none =>
      rw [hf] at h
      simp only [createWallet, bind_eq_ok, write_eq_ok, Option.map_eq_some_iff, pure_eq_ok] at h
      obtain ⟨_, _, ⟨ws, hins, rfl⟩, rfl, rfl⟩ := h
      refine ⟨?_, ws, rfl, ?_, wallet_insert hins⟩
      · rw [WalletTables.wallet, hf, Option.getD_none]
      · rw [Table.find?_insert? hins]
        exact if_pos rfl

theorem total_getOrCreateWallet (master : Uuid) : Total (getOrCreateWallet master) := by
  intro s e s' h
  unfold getOrCreateWallet at h
  rw [run_bind_ok run_get] at h
  cases hfind : s.wallet.wallets.find? master with
  | some wallet =>
      rw [hfind] at h
      cases h
  | none =>
      obtain ⟨t, hins⟩ := Table.exists_insert? (r := ({ master } : MasterWallet)) hfind
      rw [hfind] at h
      dsimp only at h
      have hcreate : createWallet { master } s = (.ok (), { s with wallet.wallets := t }) := by
        rw [createWallet, write_eq_ok, hins]
        rfl
      rw [run_bind_ok hcreate] at h
      cases h

/-- Saving a wallet that has a row rewrites that wallet only. -/
theorem wallet_save {w : WalletTables} {old new : MasterWallet}
    (h : w.wallets.find? new.master = some old) (m : Uuid) :
    ({ w with wallets := w.wallets.save new } : WalletTables).wallet m =
      if m = new.master then new else w.wallet m := by
  change ((w.wallets.save new).find? m).getD { master := m } = _
  rw [Table.find?_save (t := w.wallets) h, key_masterWallet]
  by_cases hm : m = new.master
  · rw [if_pos hm, if_pos hm.symm, Option.getD_some]
  · rw [if_neg hm, if_neg (Ne.symm hm), WalletTables.wallet]

/-- Moving a wallet that has a row. -/
theorem wallet_update {w : WalletTables} {wallet : MasterWallet} {m : Uuid}
    (hfind : w.wallets.find? m = some wallet) (method : PaymentMethod)
    (delta earned withdrawn : Int) (m' : Uuid) :
    ({ w with wallets := w.wallets.update m fun row => row.move method delta earned withdrawn } :
        WalletTables).wallet m' =
      if m' = m then (w.wallet m').move method delta earned withdrawn else w.wallet m' := by
  have hkey : ∀ row : MasterWallet, key (row.move method delta earned withdrawn) = key row :=
    fun _ => rfl
  change ((w.wallets.update m _).find? m').getD { master := m' } = _
  rw [Table.find?_update hkey]
  by_cases hm : m' = m
  · rw [if_pos hm, if_pos hm, hfind, WalletTables.wallet, hm, hfind]
    rfl
  · rw [if_neg hm, if_neg hm, WalletTables.wallet]

/-- Opening a wallet and saving it moved: the wallets read as if the one wallet
had been moved in place. -/
theorem wallet_move {w : WalletTables} {ws : Table MasterWallet} {m : Uuid}
    (hfind : ws.find? m = some (w.wallet m))
    (hopen : ∀ m', ({ w with wallets := ws } : WalletTables).wallet m' = w.wallet m')
    (method : PaymentMethod) (delta earned withdrawn : Int) (m' : Uuid) :
    ({ w with wallets := ws.save ((w.wallet m).move method delta earned withdrawn) } :
        WalletTables).wallet m' =
      if m' = m then (w.wallet m').move method delta earned withdrawn else w.wallet m' := by
  have hmaster : ((w.wallet m).move method delta earned withdrawn).master = m := by
    rw [MasterWallet.move_master, wallet_master]
  have hfind' : ws.find? ((w.wallet m).move method delta earned withdrawn).master =
      some (w.wallet m) := by
    rw [hmaster]
    exact hfind
  have hsave := wallet_save (w := { w with wallets := ws }) hfind' m'
  rw [hmaster, hopen] at hsave
  refine hsave.trans ?_
  by_cases hm : m' = m
  · subst hm
    rfl
  · rw [if_neg hm, if_neg hm]

theorem postWalletTransaction_ok {master : Uuid} {type : TransactionType} {amount : Int}
    {method : PaymentMethod} {description : String} {order : Option Uuid}
    {row : WalletTransaction}
    (h : postWalletTransaction ctx master type amount method description order db =
      (.ok row, db')) :
    row = { id := ctx.uuid .walletTransaction, master, transactionType := type, amount,
            description, paymentMethod := method, order } ∧
      ∃ w, db' = { db with wallet := w } ∧ Posted db.wallet w row := by
  cases type with
  | «in» =>
      simp only [postWalletTransaction, atomic_eq_ok, bind_eq_ok, require_eq_ok, saveWallet,
        modify_eq_ok, createTransaction, write_eq_ok, Option.map_eq_some_iff, pure_eq_ok] at h
      obtain ⟨_, _, ⟨hpos, rfl⟩, wallet, db₁, hw, _, _, rfl, _, _, ⟨ts, hins, rfl⟩, rfl, rfl⟩ := h
      obtain ⟨rfl, ws, rfl, hfind, hopen⟩ := getOrCreateWallet_ok hw
      refine ⟨rfl, _, rfl, hpos, ?_, wallet_move hfind hopen _ _ _ _, hins, rfl⟩
      intro hout
      cases hout
  | out =>
      simp only [postWalletTransaction, atomic_eq_ok, bind_eq_ok, require_eq_ok, saveWallet,
        modify_eq_ok, createTransaction, write_eq_ok, Option.map_eq_some_iff, pure_eq_ok] at h
      obtain ⟨_, _, ⟨hpos, rfl⟩, wallet, db₁, hw, _, _, ⟨hcov, rfl⟩, _, _, rfl, _, _,
        ⟨ts, hins, rfl⟩, rfl, rfl⟩ := h
      obtain ⟨rfl, ws, rfl, hfind, hopen⟩ := getOrCreateWallet_ok hw
      exact ⟨rfl, _, rfl, hpos, fun _ => hcov, wallet_move hfind hopen _ _ _ _, hins, rfl⟩

theorem reverseWalletTransaction_ok {txn : WalletTransaction} {u : Unit}
    (h : reverseWalletTransaction txn db = (.ok u, db')) :
    ∃ w, db' = { db with wallet := w } ∧ Reversed db.wallet w txn := by
  simp only [reverseWalletTransaction, atomic_eq_ok, bind_eq_ok] at h
  obtain ⟨wallet, db₁, hw, h⟩ := h
  obtain ⟨rfl, ws, rfl, hfind, hopen⟩ := getOrCreateWallet_ok hw
  cases htype : txn.transactionType with
  | «in» =>
      simp only [htype, saveWallet, modify_eq_ok, bind_eq_ok, require_eq_ok] at h
      obtain ⟨_, _, ⟨hcov, rfl⟩, rfl⟩ := h
      refine ⟨_, rfl, fun _ => hcov, fun m => ?_, rfl, rfl⟩
      rw [wallet_move hfind hopen]
      simp [WalletTransaction.signed, WalletTransaction.earned, WalletTransaction.withdrawn,
        htype]
  | out =>
      simp only [htype, saveWallet, modify_eq_ok] at h
      subst h
      refine ⟨_, rfl, fun hin => ?_, fun m => ?_, rfl, rfl⟩
      · rw [htype] at hin
        cases hin
      rw [wallet_move hfind hopen]
      simp [WalletTransaction.signed, WalletTransaction.earned, WalletTransaction.withdrawn,
        htype]

/-- The request a handover leaves behind when it is approved. -/
def approvedHandover (w : WithdrawRequest) (note : String) : WithdrawRequest :=
  { w with status := .approved, adminNote := if note = "" then "Naqd qabul qilindi" else note }

/-- The request a handover leaves behind when it is rejected. -/
def rejectedHandover (w : WithdrawRequest) (note : String) : WithdrawRequest :=
  { w with status := .rejected, adminNote := if note = "" then "Rad etildi" else note }

/-- The debit of a handover. -/
def handoverDebit (ctx : Context) (w : WithdrawRequest) : WalletTransaction where
  id := ctx.uuid .walletTransaction
  master := w.master
  transactionType := .out
  amount := w.amount
  description := "Naqd pul admin tomonidan qabul qilindi"
  paymentMethod := .cash

/-- Accepting either finds the request processed and does nothing, or debits it
and marks it approved. -/
theorem acceptCashHandover_ok {pk : Uuid} {note : String} {b : Bool}
    (h : acceptCashHandover ctx pk note db = (.ok b, db')) :
    db' = db ∨
      ∃ w w₁, db.wallet.withdraws.find? pk = some w ∧ w.status = .pending ∧
        Posted db.wallet w₁ (handoverDebit ctx w) ∧
        db' = { db with
          wallet := { w₁ with withdraws := db.wallet.withdraws.save (approvedHandover w note) }
          journal := db.journal ++
            [.handoverAccepted (approvedHandover w note) (handoverDebit ctx w)] } := by
  simp only [acceptCashHandover, atomic_eq_ok, bind_eq_ok, fetch_eq_ok, ite_eq_ok,
    require_eq_ok, pure_eq_ok] at h
  obtain ⟨w, _, ⟨hfind, rfl⟩, ⟨-, -, rfl⟩ | ⟨hst, h⟩⟩ := h
  · exact Or.inl rfl
  obtain ⟨_, _, ⟨hpos, rfl⟩, wallet, db₁, hw, h⟩ := h
  obtain ⟨rfl, ws, rfl, hfindw, hopen⟩ := getOrCreateWallet_ok hw
  simp only [saveWallet, createTransaction, saveWithdraw, record, modify_eq_ok, write_eq_ok,
    Option.map_eq_some_iff] at h
  obtain ⟨_, _, ⟨hcov, rfl⟩, _, _, rfl, _, _, ⟨ts, hins, rfl⟩, _, _, rfl, _, _, rfl, -, rfl⟩ := h
  refine Or.inr ⟨w, _, hfind, not_not.mp hst, ?_, rfl⟩
  exact ⟨hpos, fun _ => hcov, wallet_move hfindw hopen _ _ _ _, hins, rfl⟩

theorem rejectCashHandover_ok {pk : Uuid} {note : String} {b : Bool}
    (h : rejectCashHandover pk note db = (.ok b, db')) :
    db' = db ∨
      ∃ w, db.wallet.withdraws.find? pk = some w ∧ w.status = .pending ∧
        db' = { db with
          wallet.withdraws := db.wallet.withdraws.save (rejectedHandover w note) } := by
  simp only [rejectCashHandover, atomic_eq_ok, bind_eq_ok, fetch_eq_ok, ite_eq_ok,
    pure_eq_ok, saveWithdraw, modify_eq_ok] at h
  obtain ⟨w, _, ⟨hfind, rfl⟩, ⟨-, -, rfl⟩ | ⟨hst, _, _, rfl, -, rfl⟩⟩ := h
  · exact Or.inl rfl
  · exact Or.inr ⟨w, hfind, not_not.mp hst, rfl⟩

end Wallet

end Homex
