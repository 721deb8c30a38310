import Homex.Concurrency.Settlement
import Homex.System.WalletStatements
import Homex.Wallet.Balance

/-!
# Wallets and ledgers under interleaving

A column of a wallet and the rows it caches move together: a posting moves both
in one transaction, a deletion takes the row's effect back and then deletes the
row it has loaded. The account is by how much the column is ahead of the rows.

The deletion settles only if the row is still there when it comes to delete it.
Two requests that delete the same row both take its effect back.
-/

namespace Homex

open Relational Concurrency Orders Wallet

/-- The wallet requests, on any number of connections. -/
def WalletRequest.program (l : Context × WalletRequest) : Program DB RowKey Error Unit :=
  l.2.statements l.1 >>= fun _ => pure ()

/-- Every interleaving of the wallet requests. -/
def walletTraffic : Transition.System (State DB RowKey Error ℕ)
    (Concurrency.Event (Context × WalletRequest) ℕ) :=
  interleavings ℕ WalletRequest.program

namespace Wallet

/-- The columns of a wallet that cache its transactions. -/
inductive Column
  | balance (method : PaymentMethod)
  | earned
  | withdrawn

namespace Column

/-- The value of the column. -/
def of (wallet : MasterWallet) : Column → Int
  | balance method => wallet.balance method
  | earned => wallet.totalEarned
  | withdrawn => wallet.totalWithdrawn

/-- What a move of a wallet adds to the column. -/
def moved (method : PaymentMethod) (delta earned withdrawn : Int) : Column → Int
  | .balance m => if method = m then delta else 0
  | .earned => earned
  | .withdrawn => withdrawn

/-- What a transaction adds to the column of its master. -/
def part (c : Column) (t : WalletTransaction) : Int :=
  c.moved t.paymentMethod t.signed t.earned t.withdrawn

theorem of_move (c : Column) (wallet : MasterWallet) (method : PaymentMethod)
    (delta earned withdrawn : Int) :
    c.of (wallet.move method delta earned withdrawn) =
      c.of wallet + c.moved method delta earned withdrawn := by
  cases c with
  | balance m => exact MasterWallet.balance_move wallet method m delta earned withdrawn
  | earned => rfl
  | withdrawn => rfl

theorem moved_neg (c : Column) (method : PaymentMethod) (delta earned withdrawn : Int) :
    c.moved method (-delta) (-earned) (-withdrawn) = -c.moved method delta earned withdrawn := by
  cases c with
  | balance m => by_cases hm : method = m <;> simp [moved, hm]
  | earned => rfl
  | withdrawn => rfl

/-- By how much the column of a master is ahead of the transactions. -/
def drift (c : Column) (master : Uuid) (w : WalletTables) : Int :=
  c.of (w.wallet master) - w.transactions.total WalletTransaction.master c.part master

end Column

/-- What is observed of a row. -/
inductive WalletRow
  | wallet (found : Bool)
  | transaction (row : Option WalletTransaction)
  | other

/-- A transaction is as it was read. -/
def WalletRow.Like : WalletRow → WalletRow → Prop
  | transaction row, transaction row' => row = row'
  | _, _ => True

/-- The account of a column of a master. A deletion closes it. -/
def walletAccount (c : Column) (master : Uuid) : Account DB RowKey WalletRow Int where
  obs db
    | .wallet m => .wallet (db.wallet.wallets.find? m).isSome
    | .walletTransaction id => .transaction (db.wallet.transactions.find? id)
    | _ => .other
  valid _ := True
  like := WalletRow.Like
  closing k := ∃ id, k = .walletTransaction id
  total db := c.drift master db.wallet

/-- What a program settles of the account. -/
abbrev Settles {α : Type} (c : Column) (m : Uuid) (p : Statements α)
    (Q : α → Books RowKey WalletRow Int → Prop) (b : Books RowKey WalletRow Int) : Prop :=
  Program.Settles (walletAccount c m) Q p b

/-- The program has gone on in its transaction, and owes `d` more. -/
structure Goes (b b' : Books RowKey WalletRow Int) (d : Int) : Prop where
  inTx : b'.inTx = true
  debt : b'.debt = b.debt + d
  read : ∀ id, b'.read (.walletTransaction id) = b.read (.walletTransaction id)

end Wallet

namespace Statements

variable {c : Column} {m master : Uuid} {b b' : Books RowKey WalletRow Int} {d e : Int}

theorem goes_trans {b'' : Books RowKey WalletRow Int} (h : Goes b b' d) (h' : Goes b' b'' e) :
    Goes b b'' (d + e) where
  inTx := h'.inTx
  debt := by rw [h'.debt, h.debt, add_assoc]
  read id := (h'.read id).trans (h.read id)

/-- A row other than a transaction was read. -/
theorem goes_note {k : RowKey} {x : WalletRow} (hk : ∀ id, .walletTransaction id ≠ k)
    (h : b.inTx = true) : Goes b (b.note k x) 0 where
  inTx := h
  debt := (add_zero _).symm
  read id := Function.update_of_ne (hk id) _ _

theorem goes_lock {k : RowKey} {x y : WalletRow} (hk : ∀ id, .walletTransaction id ≠ k)
    (h : b.inTx = true) : Goes b ((b.hold k x).note k y) 0 where
  inTx := h
  debt := (add_zero _).symm
  read id := Function.update_of_ne (hk id) _ _

theorem goes_wrote {k : RowKey} {held : RowKey → Option WalletRow}
    (hk : ∀ id, .walletTransaction id ≠ k) (h : b.inTx = true) : Goes b (b.wrote k d held) d where
  inTx := h
  debt := rfl
  read id := Function.update_of_ne (hk id) _ _

/-- The row of a wallet that is held. -/
def HoldsWallet (b : Books RowKey WalletRow Int) (master : Uuid) : Prop :=
  b.held (.wallet master) = some (.wallet true)

theorem drift_insert {db : DB} {ws : Table MasterWallet} {c : Column}
    (h : db.wallet.wallets.insert? { master } = some ws) :
    c.drift m { db.wallet with wallets := ws } = c.drift m db.wallet := by
  unfold Column.drift
  rw [wallet_insert h]

theorem drift_update {w : WalletTables} {wallet : MasterWallet} {method : PaymentMethod}
    {delta earned withdrawn : Int} (hfind : w.wallets.find? master = some wallet) :
    c.drift m { w with
        wallets := w.wallets.update master fun row => row.move method delta earned withdrawn } =
      c.drift m w + if master = m then c.moved method delta earned withdrawn else 0 := by
  unfold Column.drift
  rw [wallet_update hfind]
  dsimp only
  by_cases hm : master = m
  · rw [if_pos hm, if_pos hm.symm, Column.of_move]
    omega
  · rw [if_neg hm, if_neg (Ne.symm hm), add_zero]

/-- Opening a wallet moves nothing. -/
theorem settles_insertWallet {Q : Unit → Books RowKey WalletRow Int → Prop}
    (hin : b.inTx = true) (hQ : ∀ b', Goes b b' 0 → HoldsWallet b' master → Q () b') :
    Settles c m (insertWallet master) Q b := by
  refine ⟨fun _ => Books.settled_of_inTx hin, fun s _ _ => ?_⟩
  refine ⟨0, Function.update b.held (.wallet master) (some (.wallet true)), .row ?_ ?_ ?_ ?_, ?_⟩
  · exact fun _ _ _ => trivial
  · intro s _ _
    rw [add_zero]
    cases hins : s.wallet.wallets.insert? { master } with
    | none => rfl
    | some ws => exact drift_insert hins
  · intro s _ _
    refine congrArg WalletRow.wallet ?_
    cases hins : s.wallet.wallets.insert? { master } with
    | none =>
        cases hfind : s.wallet.wallets.find? master with
        | none =>
            obtain ⟨ws, hws⟩ := Table.exists_insert? (r := ({ master } : MasterWallet)) hfind
            rw [hins] at hws
            cases hws
        | some wallet => rfl
    | some ws =>
        change (ws.find? master).isSome = true
        rw [Table.find?_insert? hins, key_masterWallet, if_pos rfl]
        rfl
  · intro s k' hk'
    cases hins : s.wallet.wallets.insert? { master } with
    | none => rfl
    | some ws =>
        cases k' with
        | wallet m' =>
            have hne : master ≠ m' := fun h => hk' (congrArg RowKey.wallet h.symm)
            change WalletRow.wallet (ws.find? m').isSome = _
            rw [Table.find?_insert? hins, key_masterWallet, if_neg hne]
            rfl
        | _ => rfl
  · refine hQ _ (goes_wrote (fun _ h => by cases h) hin) ?_
    simp [HoldsWallet, Books.wrote, hin]

theorem settles_getOrCreateWallet {Q : Unit → Books RowKey WalletRow Int → Prop}
    (hin : b.inTx = true) (hQ : ∀ b', Goes b b' 0 → Q () b') :
    Settles c m (getOrCreateWallet master) Q b := by
  refine ⟨Books.settled_of_inTx hin, fun s _ => ?_⟩
  have hnote := goes_note (x := (walletAccount c m).obs s (.wallet master))
    (k := .wallet master) (fun _ h => by cases h) hin
  dsimp only
  cases s.wallet.wallets.find? master with
  | some wallet => exact hQ _ hnote
  | none => exact settles_insertWallet hin fun b' hb' _ => hQ b' (goes_trans hnote hb')

/-- A wallet that is locked is held, and is there. -/
theorem settles_lockWallet {Q : MasterWallet → Books RowKey WalletRow Int → Prop}
    (hin : b.inTx = true)
    (hQ : ∀ wallet b', wallet.master = master → Goes b b' 0 → HoldsWallet b' master →
      Q wallet b') : Settles c m (lockWallet master) Q b := by
  refine Program.settles_fetchForUpdate.mpr ⟨Books.settled_of_inTx hin, fun s _ wallet hfind => ?_⟩
  refine hQ wallet _ (Table.key_of_find? hfind) (goes_lock (fun _ h => by cases h) hin) ?_
  change Function.update b.held _ _ _ = _
  rw [Function.update_self]
  change some (WalletRow.wallet (s.wallet.wallets.find? master).isSome) = _
  rw [hfind]
  rfl

/-- The wallet that is found is held, and so is the one that is created. -/
theorem settles_lockOrCreateWallet {Q : MasterWallet → Books RowKey WalletRow Int → Prop}
    (hin : b.inTx = true)
    (hQ : ∀ wallet b', wallet.master = master → Goes b b' 0 → HoldsWallet b' master →
      Q wallet b') : Settles c m (lockOrCreateWallet master) Q b := by
  refine Program.settles_lock.mpr ⟨Books.settled_of_inTx hin, fun s _ => ?_⟩
  refine ⟨fun hlocked => ?_, fun hlocked => ?_⟩
  · obtain ⟨wallet, hfind⟩ := Option.isSome_iff_exists.mp hlocked
    simp only [hfind]
    refine hQ wallet _ (Table.key_of_find? hfind) (goes_lock (fun _ h => by cases h) hin) ?_
    change (b.hold _ _).held _ = _
    rw [Books.held_hold_self]
    exact congrArg (fun found => some (WalletRow.wallet found)) hlocked
  · have hfind : s.wallet.wallets.find? master = none := by simpa using hlocked
    simp only [hfind]
    have hnote := goes_note (x := (walletAccount c m).obs s (.wallet master))
      (k := .wallet master) (fun _ h => by cases h) hin
    refine Program.settles_bind.mpr (settles_insertWallet hin fun b₁ h₁ _ => ?_)
    refine settles_lockWallet h₁.inTx fun wallet b₂ hmaster h₂ hheld => ?_
    exact hQ wallet b₂ hmaster (goes_trans (goes_trans hnote h₁) h₂) hheld

/-- A wallet that is held is moved. -/
theorem settles_moveWallet {Q : Unit → Books RowKey WalletRow Int → Prop}
    {method : PaymentMethod} {delta earned withdrawn : Int} (hin : b.inTx = true)
    (hheld : HoldsWallet b master)
    (hQ : ∀ b', Goes b b' (if master = m then c.moved method delta earned withdrawn else 0) →
      Q () b') : Settles c m (moveWallet master method delta earned withdrawn) Q b := by
  refine ⟨fun _ => Books.settled_of_inTx hin, fun s hs _ => ?_⟩
  have hx : (walletAccount c m).obs s (.wallet master) = .wallet true := hs.agrees _ _ hheld
  have hkey : ∀ row : MasterWallet, key (row.move method delta earned withdrawn) = key row :=
    fun _ => rfl
  have hfound : ∀ s, (walletAccount c m).obs s (.wallet master) = .wallet true →
      ∃ wallet, s.wallet.wallets.find? master = some wallet := by
    intro s hx
    exact Option.isSome_iff_exists.mp (WalletRow.wallet.inj hx)
  rw [hx]
  refine ⟨_, Function.update b.held (.wallet master) (some (.wallet true)), .row ?_ ?_ ?_ ?_,
    hQ _ (goes_wrote (fun _ h => by cases h) hin)⟩
  · exact fun _ _ _ => trivial
  · intro s _ hx
    obtain ⟨wallet, hfind⟩ := hfound s hx
    exact drift_update hfind
  · intro s _ hx
    obtain ⟨wallet, hfind⟩ := hfound s hx
    refine congrArg WalletRow.wallet ?_
    rw [Table.find?_update hkey, if_pos rfl, hfind]
    rfl
  · intro s k' hk'
    cases k' with
    | wallet m' =>
        have hne : m' ≠ master := fun h => hk' (congrArg RowKey.wallet h)
        refine congrArg WalletRow.wallet ?_
        rw [Table.find?_update hkey, if_neg hne]
    | _ => rfl

theorem drift_insertTransaction {w : WalletTables} {row : WalletTransaction}
    {transactions : Table WalletTransaction} (h : w.transactions.insert? row = some transactions) :
    c.drift m { w with transactions := transactions } =
      c.drift m w + -if row.master = m then c.part row else 0 := by
  have hsum : transactions.total WalletTransaction.master c.part m =
      w.transactions.total WalletTransaction.master c.part m +
        if row.master = m then c.part row else 0 := Table.sum_insert? h _
  change c.of (w.wallet m) - transactions.total WalletTransaction.master c.part m =
    c.of (w.wallet m) - w.transactions.total WalletTransaction.master c.part m + _
  omega

theorem drift_deleteTransaction {w : WalletTables} {row : WalletTransaction} {pk : Uuid}
    (h : w.transactions.find? pk = some row) :
    c.drift m { w with transactions := w.transactions.delete pk } =
      c.drift m w + if row.master = m then c.part row else 0 := by
  have hsum : (w.transactions.delete pk).total WalletTransaction.master c.part m +
      (if row.master = m then c.part row else 0) =
        w.transactions.total WalletTransaction.master c.part m := Table.sum_delete h _
  change c.of (w.wallet m) - (w.transactions.delete pk).total WalletTransaction.master c.part m =
    c.of (w.wallet m) - w.transactions.total WalletTransaction.master c.part m + _
  omega

/-- A transaction that is created is owed to the wallet. -/
theorem settles_createTransaction {row : WalletTransaction}
    {Q : Unit → Books RowKey WalletRow Int → Prop} (hin : b.inTx = true)
    (hQ : ∀ b', b'.inTx = true →
      b'.debt = b.debt + -(if row.master = m then c.part row else 0) → Q () b') :
    Settles c m (createTransaction row) Q b := by
  refine ⟨Books.settled_of_inTx hin, fun s s' _ _ hs' => ?_⟩
  have hinsert : ∀ s : DB,
      (walletAccount c m).obs s (.walletTransaction row.id) = .transaction none →
      ∃ transactions, s.wallet.transactions.insert? row = some transactions :=
    fun s hx => Table.exists_insert? (WalletRow.transaction.inj hx)
  obtain ⟨transactions, hins, rfl⟩ := Option.map_eq_some_iff.mp hs'
  have hx : (walletAccount c m).obs s (.walletTransaction row.id) = .transaction none :=
    congrArg WalletRow.transaction (Table.insert?_eq_some_iff.mp hins).1
  rw [hx]
  refine ⟨_, Function.update b.held (.walletTransaction row.id) (some (.transaction (some row))),
    .row_of_some ?_ ?_, hQ _ hin rfl⟩
  · intro s _ hx
    obtain ⟨transactions, hins⟩ := hinsert s hx
    refine ⟨_, congrArg (Option.map _) hins, trivial, drift_insertTransaction hins, ?_⟩
    exact congrArg WalletRow.transaction ((Table.find?_insert? hins row.id).trans (if_pos rfl))
  · intro s s' hs' k' hk'
    obtain ⟨transactions, hins, rfl⟩ := Option.map_eq_some_iff.mp hs'
    cases k' with
    | walletTransaction id =>
        have hne : key row ≠ id := fun h => hk' (congrArg RowKey.walletTransaction h.symm)
        exact congrArg WalletRow.transaction ((Table.find?_insert? hins id).trans (if_neg hne))
    | _ => rfl

/-- The row is deleted as it was read. -/
theorem settles_deleteTransaction {pk : Uuid} {row : WalletTransaction}
    {Q : Unit → Books RowKey WalletRow Int → Prop} (hheld : b.held (.walletTransaction pk) = none)
    (hread : b.read (.walletTransaction pk) = some (.transaction (some row)))
    (hQ : ∀ b', b'.inTx = b.inTx → b'.debt = b.debt + (if row.master = m then c.part row else 0) →
      Q () b') :
    Settles c m (Program.write (.walletTransaction pk) fun db =>
      { db with wallet.transactions := db.wallet.transactions.delete pk }) Q b := by
  refine ⟨fun hclosing => absurd ⟨pk, rfl⟩ hclosing, fun s _ hfinds => ?_⟩
  have hx : (walletAccount c m).obs s (.walletTransaction pk) = .transaction (some row) :=
    (congrArg WalletRow.transaction (hfinds hheld _ hread)).symm
  rw [hx]
  refine ⟨_, Function.update b.held (.walletTransaction pk) (some (.transaction none)),
    .row ?_ ?_ ?_ ?_, hQ _ rfl rfl⟩
  · exact fun _ _ _ => trivial
  · exact fun s _ hx => drift_deleteTransaction (WalletRow.transaction.inj hx)
  · intro s _ _
    refine congrArg WalletRow.transaction ?_
    exact (Table.find?_delete _ pk pk).trans (if_pos rfl)
  · intro s k' hk'
    cases k' with
    | walletTransaction id =>
        have hne : pk ≠ id := fun h => hk' (congrArg RowKey.walletTransaction h.symm)
        refine congrArg WalletRow.transaction ?_
        exact (Table.find?_delete _ pk id).trans (if_neg hne)
    | _ => rfl

/-- Handovers are not part of the account. -/
theorem settles_updateWithdraw {pk : Uuid} {set : WithdrawRequest → WithdrawRequest}
    {Q : Unit → Books RowKey WalletRow Int → Prop} (hin : b.inTx = true)
    (hQ : ∀ b', b'.inTx = true → b'.debt = b.debt → Q () b') :
    Settles c m (updateWithdraw pk set) Q b := by
  refine ⟨fun _ => Books.settled_of_inTx hin, fun s _ _ => ?_⟩
  refine ⟨0, _, .same (fun _ _ => trivial) (fun _ => rfl) (fun _ => ?_),
    hQ _ hin (add_zero _)⟩
  funext k
  cases k <;> rfl

/-! ### Requests -/

/-- The balance and the row of a posting make up for each other. -/
theorem settles_postWalletTransaction (ctx : Context) {type : TransactionType} {amount : Int}
    {method : PaymentMethod} {description : String} {order : Option Uuid} (hin : b.inTx = true) :
    Settles c m (postWalletTransaction ctx master type amount method description order)
      (fun _ b' => b'.inTx = true ∧ b'.debt = b.debt) b := by
  unfold postWalletTransaction
  simp only [Settles, Program.settles_bind, Program.settles_require, Program.settles_pure]
  refine ⟨fun _ => ?_, fun _ => Books.settled_of_inTx hin⟩
  refine settles_getOrCreateWallet hin fun b₁ h₁ => ?_
  refine settles_lockWallet h₁.inTx fun wallet b₂ hmaster h₂ hheld => ?_
  have hrow : ∀ b₃ row, row.master = master → Goes b₂ b₃ (if master = m then c.part row else 0) →
      Settles c m (createTransaction row) (fun _ b' => b'.inTx = true ∧ b'.debt = b.debt) b₃ := by
    intro b₃ row hrow h₃
    refine settles_createTransaction h₃.inTx fun b₄ hin₄ hdebt => ⟨hin₄, ?_⟩
    rw [hdebt, h₃.debt, h₂.debt, h₁.debt, hrow]
    omega
  unfold moveBalance
  rw [hmaster]
  cases type with
  | «in» => exact settles_moveWallet h₂.inTx hheld fun b₃ h₃ => hrow b₃ _ rfl h₃
  | out =>
      simp only [Program.settles_bind, Program.settles_require]
      refine ⟨fun _ => ?_, fun _ => Books.settled_of_inTx h₂.inTx⟩
      exact settles_moveWallet h₂.inTx hheld fun b₃ h₃ => hrow b₃ _ rfl h₃

/-- The effect of a row is owed once it is taken back. -/
theorem settles_reverseWalletTransaction {txn : WalletTransaction}
    {Q : Unit → Books RowKey WalletRow Int → Prop} (hdebt : b.debt = 0)
    (hQ : ∀ b', b'.inTx = false → b'.held = (fun _ => none) →
      b'.debt = -(if txn.master = m then c.part txn else 0) →
      (∀ id, b'.read (.walletTransaction id) = b.read (.walletTransaction id)) → Q () b') :
    Settles c m (reverseWalletTransaction txn) Q b := by
  unfold reverseWalletTransaction
  simp only [Settles, Program.settles_atomic, Program.settles_bind]
  refine ⟨hdebt, ?_⟩
  refine settles_getOrCreateWallet rfl fun b₁ h₁ => ?_
  refine settles_lockWallet h₁.inTx fun wallet b₂ hmaster h₂ hheld => ?_
  have hdone : ∀ b₃ d, d = -c.part txn → Goes b₂ b₃ (if txn.master = m then d else 0) →
      b₃.Settled ∧ Q () b₃.commit := by
    rintro b₃ _ rfl h₃
    have hall := goes_trans (goes_trans h₁ h₂) h₃
    refine ⟨Books.settled_of_inTx h₃.inTx, hQ _ rfl rfl ?_ hall.read⟩
    change b₃.debt = _
    rw [hall.debt, show b.start.debt = 0 from hdebt]
    by_cases hm : txn.master = m
    · rw [if_pos hm, if_pos hm]
      omega
    · rw [if_neg hm, if_neg hm]
      omega
  rw [hmaster]
  cases ht : txn.transactionType with
  | «in» =>
      simp only [Program.settles_bind, Program.settles_require]
      refine ⟨fun _ => ?_, fun _ => Books.settled_of_inTx h₂.inTx⟩
      refine settles_moveWallet h₂.inTx hheld fun b₃ h₃ => hdone b₃ _ ?_ h₃
      simp only [Column.part, ← Column.moved_neg, WalletTransaction.signed,
        WalletTransaction.earned, WalletTransaction.withdrawn, ht, neg_zero]
  | out =>
      refine settles_moveWallet h₂.inTx hheld fun b₃ h₃ => hdone b₃ _ ?_ h₃
      simp only [Column.part, ← Column.moved_neg, WalletTransaction.signed,
        WalletTransaction.earned, WalletTransaction.withdrawn, ht, neg_zero, neg_neg]

/-- The row that was read is deleted after its effect was taken back. -/
theorem settles_transactionDestroy (pk : Uuid) :
    Settles c m (DashboardWalletTransactionDetailAPIView.performDestroy pk)
      (fun _ b => b.Settled) Books.blank := by
  unfold DashboardWalletTransactionDetailAPIView.performDestroy
  simp only [Settles, Program.settles_bind, Program.settles_fetch]
  refine ⟨Books.settled_blank, fun s _ txn hfind => ?_⟩
  refine settles_reverseWalletTransaction rfl fun b₁ hin hheld hdebt hread => ?_
  have hread₁ : b₁.read (.walletTransaction pk) = some (.transaction (some txn)) := by
    rw [hread, Books.read_note_self]
    exact congrArg (fun row => some (WalletRow.transaction row)) hfind
  refine settles_deleteTransaction (by rw [hheld]) hread₁ fun b₂ _ hdebt₂ _ => ?_
  rw [hdebt₂, hdebt]
  omega

theorem settles_transactionCreate (ctx : Context) (data : TransactionPayload) :
    Settles c m (DashboardWalletTransactionListCreateAPIView.performCreate ctx data)
      (fun _ b => b.Settled) Books.blank := by
  unfold DashboardWalletTransactionListCreateAPIView.performCreate
  simp only [Settles, Program.settles_bind, settles_select, Program.settles_atomic]
  refine ⟨Books.settled_blank, fun _ _ _ _ => ⟨Books.settled_blank, fun _ _ _ _ => ⟨rfl, ?_⟩⟩⟩
  refine (settles_postWalletTransaction ctx rfl).mono fun _ b' hb' => ?_
  exact ⟨Books.settled_of_inTx hb'.1, fun _ => hb'.2⟩

/-- A handover that is accepted moves the wallet and posts the row. -/
theorem settles_acceptCashHandover (ctx : Context) (pk : Uuid) (note : String)
    (hdebt : b.debt = 0) :
    Settles c m (acceptCashHandover ctx pk note) (fun _ b' => b'.debt = 0) b := by
  unfold acceptCashHandover
  simp only [Settles, Program.settles_atomic, Program.settles_bind, Program.settles_fetchForUpdate,
    Program.settles_ite, Program.settles_require, Program.settles_pure]
  refine ⟨hdebt, Books.settled_start b, fun _ _ handover _ => ?_⟩
  have hin : ∀ {b₁ : Books RowKey WalletRow Int}, b₁.inTx = true → b₁.debt = 0 →
      b₁.Settled ∧ b₁.commit.debt = 0 := fun hin hdebt => ⟨Books.settled_of_inTx hin, hdebt⟩
  refine ⟨Books.settled_of_inTx rfl, fun _ _ master hmaster => ?_⟩
  refine ⟨fun _ => hin rfl hdebt, fun _ => ⟨fun _ => ?_, fun _ => Books.settled_of_inTx rfl⟩⟩
  refine settles_lockOrCreateWallet rfl fun wallet b₁ hwallet h₁ hheld => ?_
  refine ⟨fun _ => ?_, fun _ => Books.settled_of_inTx h₁.inTx⟩
  have hid : wallet.master = handover.master := hwallet.trans (Table.key_of_find? hmaster)
  rw [← hwallet] at hheld
  refine settles_moveWallet h₁.inTx hheld fun b₂ h₂ => ?_
  refine settles_createTransaction h₂.inTx fun b₃ hin₃ hdebt₃ => ?_
  refine settles_updateWithdraw hin₃ fun b₄ hin₄ hdebt₄ => hin hin₄ ?_
  rw [hdebt₄, hdebt₃, h₂.debt, h₁.debt, hid]
  change b.debt + 0 + _ + -_ = 0
  rw [hdebt, add_zero, zero_add]
  exact add_neg_cancel _

theorem settles_rejectCashHandover (pk : Uuid) (note : String) (hdebt : b.debt = 0) :
    Settles c m (rejectCashHandover pk note) (fun _ b' => b'.debt = 0) b := by
  unfold rejectCashHandover
  simp only [Settles, Program.settles_atomic, Program.settles_bind, Program.settles_fetchForUpdate,
    Program.settles_ite, Program.settles_pure]
  refine ⟨hdebt, Books.settled_start b, fun _ _ handover _ => ?_⟩
  refine ⟨fun _ => ⟨Books.settled_of_inTx rfl, hdebt⟩, fun _ => ?_⟩
  refine settles_updateWithdraw rfl fun b₁ hin₁ hdebt₁ => ?_
  exact ⟨Books.settled_of_inTx hin₁, hdebt₁.trans hdebt⟩

theorem settles_getWithdraw {Q : WithdrawRequest → Books RowKey WalletRow Int → Prop} {pk : Uuid}
    (hdebt : b.debt = 0) (hQ : ∀ handover b', b'.debt = 0 → Q handover b') :
    Settles c m (getWithdraw pk) Q b :=
  Program.settles_fetch.mpr ⟨fun _ => hdebt, fun _ _ handover _ => hQ handover _ hdebt⟩

theorem settles_handoverAccept (ctx : Context) (pk : Uuid) (note : String) :
    Settles c m (DashboardCashHandoverAcceptAPIView.post ctx pk note)
      (fun _ b => b.Settled) Books.blank := by
  unfold DashboardCashHandoverAcceptAPIView.post
  simp only [Settles, Program.settles_bind]
  refine settles_getWithdraw rfl fun _ b hdebt => ?_
  refine (settles_acceptCashHandover ctx pk note hdebt).mono fun _ b hdebt => ?_
  exact settles_getWithdraw hdebt fun _ _ hdebt _ => hdebt

theorem settles_handoverReject (pk : Uuid) (note : String) :
    Settles c m (DashboardCashHandoverRejectAPIView.post pk note)
      (fun _ b => b.Settled) Books.blank := by
  unfold DashboardCashHandoverRejectAPIView.post
  simp only [Settles, Program.settles_bind]
  refine settles_getWithdraw rfl fun _ b hdebt => ?_
  refine (settles_rejectCashHandover pk note hdebt).mono fun _ b hdebt => ?_
  exact settles_getWithdraw hdebt fun _ _ hdebt _ => hdebt

/-- Every request settles every column. -/
theorem settles_walletRequest (l : Context × WalletRequest) :
    Settles c m (WalletRequest.program l) (fun _ b => b.Settled) Books.blank := by
  obtain ⟨ctx, r⟩ := l
  refine Program.settles_bind.mpr ?_
  cases r with
  | transactionCreate data => exact Program.settles_map.mpr (settles_transactionCreate ctx data)
  | transactionDestroy pk => exact Program.settles_map.mpr (settles_transactionDestroy pk)
  | handoverAccept pk note => exact Program.settles_map.mpr (settles_handoverAccept ctx pk note)
  | handoverReject pk note => exact Program.settles_map.mpr (settles_handoverReject pk note)

end Statements

namespace Wallet

namespace Column

theorem drift_balance (method : PaymentMethod) (m : Uuid) (w : WalletTables) :
    (balance method).drift m w =
      (w.wallet m).balance method - w.transactions.total (fun t => (t.master, t.paymentMethod))
        WalletTransaction.signed (m, method) := by
  refine congrArg ((w.wallet m).balance method - ·) (Table.sum_congr _ fun t _ => ?_)
  by_cases hm : t.master = m
  · simp [part, moved, hm]
  · simp [hm]

/-- No column is ahead of the rows. -/
theorem equalsLedger_iff {w : WalletTables} : EqualsLedger w ↔ ∀ m c, drift c m w = 0 := by
  have hcash := fun m => total_signed w m true
  have honline := fun m => total_signed w m false
  constructor
  · intro h m c
    obtain ⟨hbalanceCash, hbalanceOnline, hearned, hwithdrawn⟩ := h m
    cases c with
    | balance method =>
        rw [drift_balance]
        cases method with
        | cash => exact sub_eq_zero.mpr (hbalanceCash.trans (hcash m).symm)
        | online => exact sub_eq_zero.mpr (hbalanceOnline.trans (honline m).symm)
    | earned => exact sub_eq_zero.mpr (hearned.trans (total_earned w m).symm)
    | withdrawn => exact sub_eq_zero.mpr (hwithdrawn.trans (total_withdrawn w m).symm)
  · intro h m
    have hbalance := fun method => drift_balance method m w ▸ h m (.balance method)
    refine ⟨?_, ?_, ?_, ?_⟩
    · exact (sub_eq_zero.mp (hbalance .cash)).trans (hcash m)
    · exact (sub_eq_zero.mp (hbalance .online)).trans (honline m)
    · exact (sub_eq_zero.mp (h m .earned)).trans (total_earned w m)
    · exact (sub_eq_zero.mp (h m .withdrawn)).trans (total_withdrawn w m)

end Column

/-- The transaction that the next statement writes. -/
def writtenTransaction (code : Option (Program DB RowKey Error Unit)) : Option Uuid :=
  match code.bind Program.target with
  | some (.walletTransaction id) => some id
  | _ => none

/-- A deletion finds the row that it has loaded, and no request stops between
taking the effect of a row back and deleting it. -/
def FindsLoaded (σ : State DB RowKey Error ℕ) :
    Concurrency.Event (Context × WalletRequest) ℕ → Prop
  | .statement p =>
      ∀ id ∈ writtenTransaction (σ.proc p).code, σ.owner (.walletTransaction id) ≠ some p →
        ∀ db ∈ (σ.proc p).seen (.walletTransaction id),
          db.wallet.transactions.find? id = σ.store.wallet.transactions.find? id
  | .request _ _ => True
  | .stop p => (σ.proc p).tx.isNone → (writtenTransaction (σ.proc p).code).isNone

instance decidableFindsLoaded (σ : State DB RowKey Error ℕ) :
    (e : Concurrency.Event (Context × WalletRequest) ℕ) → Decidable (FindsLoaded σ e)
  | .statement p =>
      inferInstanceAs (Decidable (∀ id ∈ writtenTransaction (σ.proc p).code,
        σ.owner (.walletTransaction id) ≠ some p →
          ∀ db ∈ (σ.proc p).seen (.walletTransaction id),
            db.wallet.transactions.find? id = σ.store.wallet.transactions.find? id))
  | .request _ _ => isTrue trivial
  | .stop p =>
      inferInstanceAs (Decidable ((σ.proc p).tx.isNone →
        (writtenTransaction (σ.proc p).code).isNone))

theorem asRead_of_findsLoaded {c : Column} {m : Uuid} {σ : State DB RowKey Error ℕ}
    {e : Concurrency.Event (Context × WalletRequest) ℕ} (h : FindsLoaded σ e) :
    (walletAccount c m).AsRead (fun _ => True) σ e := by
  have hwritten : ∀ {p q id}, q ∈ (σ.proc p).code → .walletTransaction id ∈ q.target →
      writtenTransaction (σ.proc p).code = some id := by
    intro p q id hcode htarget
    rw [show (σ.proc p).code = some q from hcode, writtenTransaction, Option.bind_some,
      show q.target = some (.walletTransaction id) from htarget]
  cases e with
  | request p r => trivial
  | statement p =>
      intro q hcode k htarget howner db hseen
      cases k with
      | walletTransaction id => exact h id (hwritten hcode htarget) howner db hseen
      | _ => trivial
  | stop p =>
      rintro htx q hcode _ htarget ⟨id, rfl⟩
      have hnone := h (Option.isNone_iff_eq_none.mpr htx)
      rw [hwritten hcode htarget] at hnone
      cases hnone

/-- The wallets equal their ledger again once every request has finished. -/
theorem reversed_at_most_once {db : DB} {σ : State DB RowKey Error ℕ}
    (h : EqualsLedger db.wallet) (hl : (walletTraffic.restrict FindsLoaded).Leads (.idle db) σ)
    (hdone : ∀ p, (σ.proc p).code = none) : EqualsLedger σ.store.wallet := by
  refine Column.equalsLedger_iff.mpr fun m c => ?_
  have hread := hl.restrict_mono fun _ _ => asRead_of_findsLoaded (c := c) (m := m)
  have htotal := Account.total_of_finished (A := walletAccount c m)
    (fun l _ => Statements.settles_walletRequest l) trivial hread hdone
  exact htotal.2.trans (Column.equalsLedger_iff.mp h m c)

end Wallet

namespace Sample

/-- Master 2 is given 1000 so'm in cash, twice. -/
def givenTwice : List (Context × Request) :=
  [40, 41].map fun now => (at_ now, .transactionCreate
    { master := 2, transactionType := .in, amount := 100000
      description := ⟨"Avans", Sample.advance_described⟩, paymentMethod := .cash })

/-- The two rows, and no request under way. -/
def walletIdle : State DB RowKey Error ℕ := .idle (world.run {} givenTwice).db

/-- `p` sends its next `n` statements. -/
def sends {R : Type} (p n : ℕ) : List (Concurrency.Event R ℕ) :=
  List.replicate n (.statement p)

/-- The rows are deleted by two requests, each of which has loaded its row before
the other one takes the effect of its own back. -/
def deletesBoth (pk pk' : Uuid) : List (Concurrency.Event (Context × WalletRequest) ℕ) :=
  .request 0 (at_ 50, .transactionDestroy pk) :: .request 1 (at_ 51, .transactionDestroy pk') ::
    sends 0 1 ++ sends 1 8 ++ sends 0 7

/-- Two connections took part, and both have finished. -/
theorem finished_of_pair {R : Type} {db : DB} {program : R → Program DB RowKey Error Unit}
    {guard : State DB RowKey Error ℕ → Concurrency.Event R ℕ → Prop} [∀ σ e, Decidable (guard σ e)]
    {es : List (Concurrency.Event R ℕ)} {σ : State DB RowKey Error ℕ}
    (hrun : (State.idle db).run program guard es = some σ)
    (hps : ∀ e ∈ es, e.process ∈ [0, 1])
    (hdone : ([0, 1].all fun p => (σ.proc p).code.isNone) = true) (p : ℕ) :
    (σ.proc p).code = none :=
  State.finished_of_run hrun hps (by simpa using hdone) p

theorem equalsLedger_walletIdle : Wallet.EqualsLedger walletIdle.store.wallet :=
  (Wallet.ledger_of_reachable (reachable_run reachable (by decide))).equalsLedger

end Sample

open Sample in
/-- Two rows are deleted at once. -/
theorem Wallet.reversed_at_most_once_sample :
    ∃ σ, (walletTraffic.restrict Wallet.FindsLoaded).Leads walletIdle σ ∧
      σ.store.wallet.transactions.rows = [] ∧ Wallet.EqualsLedger σ.store.wallet := by
  have hrun : ((walletIdle.run WalletRequest.program Wallet.FindsLoaded (deletesBoth 40 41)).map
      fun σ => ([0, 1].all fun p => (σ.proc p).code.isNone, σ.store.wallet.transactions.rows)) =
      some (true, []) := by decide
  obtain ⟨σ, hσ, heq⟩ := Option.map_eq_some_iff.mp hrun
  obtain ⟨hdone, hrows⟩ := Prod.mk.inj heq
  have hfinished : ∀ p, (σ.proc p).code = none :=
    finished_of_pair hσ (by decide) hdone
  have hleads := leads_of_run .refl hσ
  exact ⟨σ, hleads, hrows,
    Wallet.reversed_at_most_once equalsLedger_walletIdle hleads hfinished⟩

open Sample in
/-- The row is deleted by two requests, and its effect is taken back twice. -/
theorem Wallet.reversed_twice :
    ¬∀ (db : DB) (σ : State DB RowKey Error ℕ), Wallet.EqualsLedger db.wallet →
      walletTraffic.Leads (.idle db) σ → (∀ p, (σ.proc p).code = none) →
        Wallet.EqualsLedger σ.store.wallet := by
  intro h
  have hrun : ((walletIdle.run WalletRequest.program (fun _ _ => True) (deletesBoth 40 40)).map
      fun σ => ([0, 1].all fun p => (σ.proc p).code.isNone,
        (σ.store.wallet.wallet 2).balanceCash, Wallet.ledgerSum σ.store.wallet 2 .in true,
        Wallet.ledgerSum σ.store.wallet 2 .out true)) = some (true, 0, 100000, 0) := by decide
  obtain ⟨σ, hσ, heq⟩ := Option.map_eq_some_iff.mp hrun
  simp only [Prod.mk.injEq] at heq
  obtain ⟨hdone, hbalance, hin, hout⟩ := heq
  have hfinished : ∀ p, (σ.proc p).code = none :=
    finished_of_pair hσ (by decide) hdone
  have hleads := (leads_of_run .refl hσ).of_restrict
  have hcash := (h _ σ equalsLedger_walletIdle hleads hfinished 2).1
  rw [hbalance, hin, hout] at hcash
  cases hcash

end Homex
