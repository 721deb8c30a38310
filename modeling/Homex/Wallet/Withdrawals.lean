import Homex.Orders.Lifecycle
import Homex.Wallet.Balance

/-!
# A withdrawal is debited when it is approved

The dashboard PATCH routes the two transitions out of `pending` through the
wallet services. Every other payload is saved as it is: a rejected request can be
set to approved, an approved one back to pending, and a request can be created
approved. Runs without such writes debit every approved request once, and no
other. The cash balance of a master is then what the other rows of the ledger
give less the amounts of the approved requests.
-/

namespace Homex

namespace Wallet

open Relational Action Orders Payme

variable {cfg : Settings} {ctx : Context} {db db' : DB} {r : Request}

/-- The debit an entry records for the request. -/
def debit? (id : Uuid) : Event → Option WalletTransaction
  | .completed _ _ => none
  | .checkSubmitted _ => none
  | .handoverAccepted handover row => if handover.id = id then some row else none

/-- The debits `accept_cash_handover` made for a request. -/
def debits (db : DB) (id : Uuid) : List WalletTransaction := db.journal.filterMap (debit? id)

/-- The row is the debit of the request, and is in the ledger. -/
structure DebitOf (db : DB) (w : WithdrawRequest) (row : WalletTransaction) : Prop where
  master : row.master = w.master
  transactionType : row.transactionType = .out
  amount : row.amount = w.amount
  paymentMethod : row.paymentMethod = .cash
  posted : row ∈ db.wallet.transactions.rows

/-- The request is debited once when it is approved, and otherwise not. -/
def DebitedRight (db : DB) (id : Uuid) : Prop :=
  (debits db id = [] ∧ ∀ w, db.wallet.withdraws.find? id = some w → w.status ≠ .approved) ∨
    ∃ w row, db.wallet.withdraws.find? id = some w ∧ w.status = .approved ∧
      debits db id = [row] ∧ DebitOf db w row

/-- The dashboard creates no approved request, keeps the status and the master of
an approved one, and does not approve a rejected one. -/
def KeepsDebits (db : DB) : Request → Prop
  | .dashboardWithdrawCreate _ _ status _ => status ≠ some .approved
  | .dashboardWithdrawUpdate pk data =>
      ∀ w, db.wallet.withdraws.find? pk = some w →
        (w.status = .approved →
          data.status.getD .approved = .approved ∧ data.master.getD w.master = w.master) ∧
        (w.status = .rejected → data.status ≠ some .approved)
  | _ => True

/-- The requests but the two that edit the ledger by hand. -/
def keepsLedger : Request → Bool
  | .transactionUpdate _ _ => false
  | .transactionDestroy _ => false
  | _ => true

section Journal

theorem debits_append {events : List Event} (h : db'.journal = db.journal ++ events) (id : Uuid) :
    debits db' id = debits db id ++ events.filterMap (debit? id) := by
  unfold debits
  rw [h, List.filterMap_append]

theorem debits_congr (h : db'.journal = db.journal) (id : Uuid) : debits db' id = debits db id := by
  unfold debits
  rw [h]

theorem withdraws_of_credits {o : Order} {method : PaymentType} {w w' : WalletTables}
    {credit : Option WalletTransaction} (h : Credits o method w w' credit) :
    w'.withdraws = w.withdraws ∧ ∀ row ∈ w.transactions.rows, row ∈ w'.transactions.rows := by
  cases h with
  | skipped _ hw =>
      rw [hw]
      exact ⟨rfl, fun _ hrow => hrow⟩
  | credited _ _ _ _ _ _ hp =>
      exact ⟨hp.withdraws, fun _ hrow => (Table.mem_insert? hp.transactions).mpr (Or.inl hrow)⟩

/-- What a request that is no wallet write does to the withdraw requests, their
debits and the ledger: nothing, but for rows added to the ledger. -/
structure Quiet (db db' : DB) : Prop where
  withdraws : db'.wallet.withdraws = db.wallet.withdraws
  debits : ∀ id, debits db' id = debits db id
  ledger : ∀ row ∈ db.wallet.transactions.rows, row ∈ db'.wallet.transactions.rows

theorem Quiet.of_eq (hw : db'.wallet = db.wallet)
    (hj : ∀ id, Wallet.debits db' id = Wallet.debits db id) : Quiet db db' := by
  refine ⟨?_, hj, ?_⟩
  · rw [hw]
  · rw [hw]
    exact fun _ hrow => hrow

theorem Quiet.of_completes {db₁ : DB} {method : PaymentType} {o : Order}
    {credit : Option WalletTransaction} (h : Completes ctx method o credit db₁ db')
    (hw : db₁.wallet = db.wallet) (hj : db₁.journal = db.journal) : Quiet db db' := by
  obtain ⟨hwithdraws, hledger⟩ := withdraws_of_credits h.credits
  rw [hw] at hwithdraws hledger
  refine ⟨hwithdraws, fun id => ?_, hledger⟩
  have hjournal : db'.journal =
      db.journal ++ [.completed (completedOrder ctx method o) credit] := by rw [h.eq, hj]
  rw [debits_append hjournal]
  exact List.append_nil _

theorem quiet_or_wallet (h : Effect cfg ctx db db' r) :
    Quiet db db' ∨ WalletEffect ctx db db' r := by
  cases h with
  | frame hf => exact Or.inl (.of_eq hf.wallet (debits_congr hf.journal))
  | create _ _ _ hw hj => exact Or.inl (.of_eq hw (debits_congr hj))
  | rewrite _ _ _ _ hw hj => exact Or.inl (.of_eq hw (debits_congr hj))
  | check _ _ _ _ _ hw hj =>
      refine Or.inl (.of_eq hw fun id => ?_)
      rw [debits_append hj]
      exact List.append_nil _
  | pay _ hc => exact Or.inl (.of_completes hc rfl rfl)
  | wallet hw => exact Or.inr hw
  | payme hp =>
      left
      cases hp with
      | create _ _ _ _ _ _ _ hdb => exact .of_eq (by rw [hdb]) (debits_congr (by rw [hdb]))
      | expire _ _ _ _ hdb => exact .of_eq (by rw [hdb]) (debits_congr (by rw [hdb]))
      | cancel _ _ _ _ hdb => exact .of_eq (by rw [hdb]) (debits_congr (by rw [hdb]))
      | refund _ _ _ _ _ hdb => exact .of_eq (by rw [hdb]) (debits_congr (by rw [hdb]))
      | perform _ _ _ _ _ _ hmarks =>
          cases hmarks with
          | already _ hdb => exact .of_eq (by rw [hdb]) (debits_congr (by rw [hdb]))
          | flagged _ _ hdb => exact .of_eq (by rw [hdb]) (debits_congr (by rw [hdb]))
          | completed _ _ hc => exact .of_completes hc rfl rfl

end Journal

section Steps

theorem DebitedRight.quiet (h : Quiet db db') {id : Uuid} (hi : DebitedRight db id) :
    DebitedRight db' id := by
  rcases hi with ⟨hnil, hst⟩ | ⟨w, row, hfind, hst, hdebits, hof⟩
  · refine Or.inl ⟨by rw [h.debits, hnil], ?_⟩
    rw [h.withdraws]
    exact hst
  · refine Or.inr ⟨w, row, ?_, hst, by rw [h.debits, hdebits], ?_⟩
    · rw [h.withdraws]
      exact hfind
    · exact ⟨hof.master, hof.transactionType, hof.amount, hof.paymentMethod,
        h.ledger row hof.posted⟩

/-- A request that is not approved has no debits. -/
theorem DebitedRight.debits_eq_nil {w : WithdrawRequest} (hi : DebitedRight db w.id)
    (hfind : db.wallet.withdraws.find? w.id = some w) (hst : w.status ≠ .approved) :
    debits db w.id = [] := by
  rcases hi with ⟨hnil, -⟩ | ⟨w', row, hfind', hst', -, -⟩
  · exact hnil
  · obtain rfl := Option.some.inj (hfind.symm.trans hfind')
    exact absurd hst' hst

/-- One request is created or rewritten, without a debit: every request is still
debited right if this one is. -/
theorem DebitedRight.of_find {id₀ id : Uuid} {w : WithdrawRequest}
    (hdebits : debits db' id = debits db id)
    (hledger : db'.wallet.transactions = db.wallet.transactions)
    (hfind : db'.wallet.withdraws.find? id =
      if id₀ = id then some w else db.wallet.withdraws.find? id)
    (hw : id₀ = id → (debits db id = [] ∧ w.status ≠ .approved) ∨
      ∃ row, w.status = .approved ∧ debits db id = [row] ∧ DebitOf db w row)
    (hi : DebitedRight db id) : DebitedRight db' id := by
  have hof : ∀ {w row}, DebitOf db w row → DebitOf db' w row := by
    rintro w row ⟨hm, ht, ha, hp, hrow⟩
    exact ⟨hm, ht, ha, hp, hledger ▸ hrow⟩
  by_cases hid : id₀ = id
  · rw [if_pos hid] at hfind
    rcases hw hid with ⟨hnil, hst⟩ | ⟨row, hst, hone, hrow⟩
    · refine Or.inl ⟨hdebits.trans hnil, fun w' hfind' => ?_⟩
      rw [hfind] at hfind'
      exact Option.some.inj hfind' ▸ hst
    · exact Or.inr ⟨w, row, hfind, hst, hdebits.trans hone, hof hrow⟩
  · rw [if_neg hid] at hfind
    rcases hi with ⟨hnil, hst⟩ | ⟨w', row, hfind', hst, hone, hrow⟩
    · refine Or.inl ⟨hdebits.trans hnil, ?_⟩
      rw [hfind]
      exact hst
    · exact Or.inr ⟨w', row, hfind.trans hfind', hst, hdebits.trans hone, hof hrow⟩

/-- A new request has no debits. -/
theorem DebitedRight.debits_of_absent {id : Uuid} (hi : DebitedRight db id)
    (hnone : db.wallet.withdraws.find? id = none) : debits db id = [] := by
  rcases hi with ⟨hnil, -⟩ | ⟨w, row, hfind, -, -, -⟩
  · exact hnil
  · rw [hnone] at hfind
    cases hfind

theorem DebitedRight.created {w : WithdrawRequest}
    (hins : db.wallet.withdraws.insert? w = some db'.wallet.withdraws)
    (hledger : db'.wallet.transactions = db.wallet.transactions)
    (hjournal : db'.journal = db.journal) (hst : w.status ≠ .approved)
    (hi : ∀ id, DebitedRight db id) (id : Uuid) : DebitedRight db' id := by
  refine (hi id).of_find (debits_congr hjournal id) hledger (Table.find?_insert? hins id) ?_
  rintro rfl
  exact Or.inl ⟨(hi _).debits_of_absent (Table.insert?_eq_some_iff.mp hins).1, hst⟩

theorem DebitedRight.saved {w new : WithdrawRequest}
    (hfind : db.wallet.withdraws.find? w.id = some w)
    (hwithdraws : db'.wallet.withdraws = db.wallet.withdraws.save new) (hid : new.id = w.id)
    (hledger : db'.wallet.transactions = db.wallet.transactions)
    (hjournal : db'.journal = db.journal)
    (hst : new.status = .approved →
      w.status = .approved ∧ new.master = w.master ∧ new.amount = w.amount)
    (hst' : new.status ≠ .approved → w.status ≠ .approved)
    (hi : ∀ id, DebitedRight db id) (id : Uuid) : DebitedRight db' id := by
  have hfind' : db.wallet.withdraws.find? (key new) = some w := by
    rw [key_withdrawRequest, hid]
    exact hfind
  refine (hi id).of_find (debits_congr hjournal id) hledger
    (hwithdraws ▸ Table.find?_save hfind' id) ?_
  rintro rfl
  rw [key_withdrawRequest, hid]
  by_cases happroved : new.status = .approved
  · obtain ⟨hold, hmaster, hamount⟩ := hst happroved
    rcases hi w.id with ⟨-, hne⟩ | ⟨w', row, hfind'', -, hone, hrow⟩
    · exact absurd hold (hne w hfind)
    · obtain rfl := Option.some.inj (hfind.symm.trans hfind'')
      exact Or.inr ⟨row, happroved, hone, hrow.master.trans hmaster.symm, hrow.transactionType,
        hrow.amount.trans hamount.symm, hrow.paymentMethod, hrow.posted⟩
  · exact Or.inl ⟨(hi w.id).debits_eq_nil hfind (hst' happroved), happroved⟩

theorem DebitedRight.accepted {w : WithdrawRequest} {note : String} {w₁ : WalletTables}
    (hfind : db.wallet.withdraws.find? w.id = some w) (hst : w.status = .pending)
    (hp : Posted db.wallet w₁ (handoverDebit ctx w))
    (hdb : db' = { db with
      wallet := { w₁ with withdraws := db.wallet.withdraws.save (approvedHandover w note) }
      journal := db.journal ++
        [.handoverAccepted (approvedHandover w note) (handoverDebit ctx w)] })
    (hi : ∀ id, DebitedRight db id) (id : Uuid) : DebitedRight db' id := by
  have hjournal : db'.journal = db.journal ++
      [.handoverAccepted (approvedHandover w note) (handoverDebit ctx w)] := by rw [hdb]
  have hsave : db'.wallet.withdraws.find? id =
      if w.id = id then some (approvedHandover w note)
      else db.wallet.withdraws.find? id := by
    rw [hdb]
    exact Table.find?_save (r := approvedHandover w note) hfind id
  have hledger : ∀ row, row ∈ db'.wallet.transactions.rows ↔
      row ∈ db.wallet.transactions.rows ∨ row = handoverDebit ctx w := by
    intro row
    rw [hdb]
    exact Table.mem_insert? hp.transactions
  have hdebits : debits db' id = debits db id ++
      if w.id = id then [handoverDebit ctx w] else [] := by
    rw [debits_append hjournal]
    by_cases hid : w.id = id
    · simp [debit?, approvedHandover, hid]
    · simp [debit?, approvedHandover, hid]
  by_cases hid : w.id = id
  · subst hid
    rw [if_pos rfl] at hsave hdebits
    rw [(hi w.id).debits_eq_nil hfind (by rw [hst]; decide), List.nil_append] at hdebits
    exact Or.inr ⟨_, _, hsave, rfl, hdebits, rfl, rfl, rfl, rfl, (hledger _).mpr (Or.inr rfl)⟩
  · rw [if_neg hid] at hsave hdebits
    rw [List.append_nil] at hdebits
    rcases hi id with ⟨hnil, hne⟩ | ⟨w', row, hfind', hst', hone, hrow⟩
    · refine Or.inl ⟨hdebits.trans hnil, ?_⟩
      rw [hsave]
      exact hne
    · exact Or.inr ⟨w', row, hsave.trans hfind', hst', hdebits.trans hone, hrow.master,
        hrow.transactionType, hrow.amount, hrow.paymentMethod,
        (hledger row).mpr (Or.inl hrow.posted)⟩

/-- A payload that is saved as it is leaves a request approved, or not approved. -/
theorem KeepsDebits.approved_iff {w : WithdrawRequest} {data : WithdrawPayload}
    (h : KeepsDebits db (.dashboardWithdrawUpdate w.id data))
    (hfind : db.wallet.withdraws.find? w.id = some w)
    (hnotApprove : ¬(w.status = .pending ∧ data.status.getD w.status = .approved)) :
    (data.apply w).status = .approved ↔ w.status = .approved := by
  obtain ⟨happroved, hrejected⟩ := h w hfind
  change data.status.getD w.status = .approved ↔ w.status = .approved
  cases hs : w.status with
  | approved => exact iff_of_true (happroved hs).1 rfl
  | pending =>
      refine iff_of_false (fun hst => hnotApprove ⟨hs, ?_⟩) (by decide)
      rw [hs]
      exact hst
  | rejected =>
      refine iff_of_false (fun hst => ?_) (by decide)
      cases hd : data.status with
      | none =>
          rw [hd] at hst
          cases hst
      | some status =>
          rw [hd, Option.getD_some] at hst
          exact hrejected hs (by rw [hd, hst])

theorem DebitedRight.walletEffect (h : WalletEffect ctx db db' r) (hr : keepsLedger r = true)
    (hk : KeepsDebits db r) (hi : ∀ id, DebitedRight db id) (id : Uuid) : DebitedRight db' id := by
  cases h with
  | opened ho hdb =>
      refine (hi id).quiet ⟨ho.withdraws, debits_congr (by rw [hdb]), ?_⟩
      rw [ho.transactions]
      exact fun _ hrow => hrow
  | withdrawCreated ho _ hins hdb =>
      refine DebitedRight.created (hins.trans (by rw [hdb])) (by rw [hdb]; exact ho.transactions)
        (by rw [hdb]) ?_ hi id
      rintro ⟨⟩
  | @dashboardWithdrawCreated _ _ status _ _ _ ho _ hins hdb =>
      refine DebitedRight.created (hins.trans (by rw [hdb])) (by rw [hdb]; exact ho.transactions)
        (by rw [hdb]) ?_ hi id
      intro hst
      cases status with
      | none => cases hst
      | some s => exact hk (congrArg some hst)
  | accepted hfind hst hp hdb => exact DebitedRight.accepted hfind hst hp hdb hi id
  | @rejected _ w note hfind hst hdb =>
      have hsave : db'.wallet.withdraws =
          db.wallet.withdraws.save (rejectedHandover w note) := by rw [hdb]
      refine DebitedRight.saved hfind hsave rfl (by rw [hdb]) (by rw [hdb]) ?_ ?_ hi id
      · rintro ⟨⟩
      · intro _
        rw [hst]
        decide
  | @saved w data hfind hnotApprove _ hamount hdb =>
      have hkept := hk.approved_iff hfind hnotApprove
      have hsave : db'.wallet.withdraws = db.wallet.withdraws.save (data.apply w) := by rw [hdb]
      refine DebitedRight.saved hfind hsave rfl (by rw [hdb]) (by rw [hdb]) (fun hst => ?_)
        (mt hkept.mpr) hi id
      have hw := hkept.mp hst
      exact ⟨hw, ((hk w hfind).1 hw).2, hamount.resolve_left (by rw [hw]; decide)⟩
  | @destroyed w hfind hst hdb =>
      subst hdb
      rcases hi id with ⟨hnil, hne⟩ | ⟨w', row, hfind', hst', hone, hrow⟩
      · refine Or.inl ⟨hnil, fun w' hfind' => ?_⟩
        change (db.wallet.withdraws.delete w.id).find? id = some w' at hfind'
        rw [Table.find?_delete] at hfind'
        split at hfind'
        · cases hfind'
        · exact hne w' hfind'
      · refine Or.inr ⟨w', row, ?_, hst', hone, hrow.master, hrow.transactionType, hrow.amount,
          hrow.paymentMethod, hrow.posted⟩
        change (db.wallet.withdraws.delete w.id).find? id = some w'
        rw [Table.find?_delete, if_neg]
        · exact hfind'
        · rintro rfl
          obtain rfl := Option.some.inj (hfind.symm.trans hfind')
          rw [hst] at hst'
          cases hst'
  | posted hp hdb =>
      exact (hi id).quiet ⟨hp.withdraws, debits_congr (by rw [hdb]),
        fun _ hrow => (Table.mem_insert? hp.transactions).mpr (Or.inl hrow)⟩
  | described _ _ => cases hr
  | deleted _ _ _ => cases hr

end Steps

/-- The requests but edits of the ledger by hand, and of the dashboard writes those
that keep the debits. -/
def DebitsKept (w : World) (l : Context × Request) : Prop :=
  keepsLedger l.2 = true ∧ KeepsDebits w.db l.2

section Cash

/-- The row an accepted handover is recorded with. -/
def handoverRow? : Event → Option WalletTransaction
  | .completed _ _ => none
  | .checkSubmitted _ => none
  | .handoverAccepted _ row => some row

/-- The rows `accept_cash_handover` wrote. -/
def handoverRows (db : DB) : List WalletTransaction := db.journal.filterMap handoverRow?

/-- The cash of a master by the rows that no handover wrote. -/
def otherCash (db : DB) (m : Uuid) : Int :=
  db.wallet.transactions.sum fun t =>
    if t ∉ handoverRows db ∧ t.master = m ∧ t.paymentMethod = .cash then t.signed else 0

/-- What an approved request takes from the cash of a master. -/
def taken (m : Uuid) (request : WithdrawRequest) : Int :=
  if request.master = m ∧ request.status = .approved then request.amount else 0

/-- The amounts of a master's approved requests. -/
def approvedCash (w : WalletTables) (m : Uuid) : Int := w.withdraws.sum (taken m)

/-- The endpoints of the withdraw requests. -/
def handlesWithdraw : Request → Bool
  | .withdrawCreate _ _ => true
  | .dashboardWithdrawCreate _ _ _ _ => true
  | .dashboardWithdrawUpdate _ _ => true
  | .dashboardWithdrawDestroy _ => true
  | .handoverAccept _ _ => true
  | .handoverReject _ _ => true
  | _ => false

/-- What a request does to the cash: it leaves the wallets and what is approved
alone, posts a row of its own, or accepts a handover. -/
inductive CashStep (ctx : Context) (db db' : DB) (r : Request) : Prop
  | idle (wallets : ∀ m, db'.wallet.wallet m = db.wallet.wallet m)
      (transactions : db'.wallet.transactions = db.wallet.transactions)
      (rows : handoverRows db' = handoverRows db)
      (taken : ∀ m, approvedCash db'.wallet m = approvedCash db.wallet m)
      (approved : ∀ id new, db'.wallet.withdraws.find? id = some new → new.status = .approved →
        ∃ old, db.wallet.withdraws.find? id = some old ∧ old.status = .approved)
  | posted {row : WalletTransaction} (other : handlesWithdraw r = false)
      (posted : Posted db.wallet db'.wallet row) (rows : handoverRows db' = handoverRows db)
  | accepted {request : WithdrawRequest} {note : String} {w : WalletTables}
      (found : db.wallet.withdraws.find? request.id = some request)
      (pending : request.status = .pending)
      (posted : Posted db.wallet w (handoverDebit ctx request))
      (wallet : db'.wallet =
        { w with withdraws := db.wallet.withdraws.save (approvedHandover request note) })
      (rows : handoverRows db' = handoverRows db ++ [handoverDebit ctx request])

theorem taken_of_not_approved {request : WithdrawRequest} (h : request.status ≠ .approved)
    (m : Uuid) : taken m request = 0 :=
  if_neg fun hm => h hm.2

theorem taken_of_approved {request : WithdrawRequest} (h : request.status = .approved)
    (m : Uuid) : taken m request = if request.master = m then request.amount else 0 := by
  unfold taken
  simp [h]

theorem handoverRows_append {events : List Event} (h : db'.journal = db.journal ++ events) :
    handoverRows db' = handoverRows db ++ events.filterMap handoverRow? := by
  rw [handoverRows, h, List.filterMap_append]
  rfl

theorem handoverRows_congr (h : db'.journal = db.journal) : handoverRows db' = handoverRows db := by
  rw [handoverRows, h]
  rfl

namespace CashStep

/-- A request that leaves the wallet tables alone. -/
theorem of_wallet (hwallet : db'.wallet = db.wallet) (hrows : handoverRows db' = handoverRows db) :
    CashStep ctx db db' r := by
  refine .idle ?_ ?_ hrows ?_ ?_
  · rw [hwallet]
    exact fun _ => rfl
  · rw [hwallet]
  · rw [hwallet]
    exact fun _ => rfl
  · rw [hwallet]
    exact fun _ new hfind hst => ⟨new, hfind, hst⟩

theorem of_completes {db₁ : DB} {method : PaymentType} {o : Order}
    {credit : Option WalletTransaction} (h : Completes ctx method o credit db₁ db')
    (hwallet : db₁.wallet = db.wallet) (hjournal : db₁.journal = db.journal)
    (hr : handlesWithdraw r = false) : CashStep ctx db db' r := by
  have hrows : handoverRows db' = handoverRows db := by
    have happend : db'.journal =
        db.journal ++ [.completed (completedOrder ctx method o) credit] := by rw [h.eq, hjournal]
    rw [handoverRows_append happend]
    exact List.append_nil _
  have hcredits := h.credits
  rw [hwallet] at hcredits
  cases hcredits with
  | skipped _ hw => exact .of_wallet hw hrows
  | credited _ _ _ _ _ _ hp => exact .posted hr hp hrows

/-- One request is created or rewritten, and takes as much as before. -/
theorem of_saved {w : WalletTables} {new : WithdrawRequest} (ho : Opened db.wallet w)
    (hwithdraws : db'.wallet = { w with withdraws := db'.wallet.withdraws })
    (hjournal : db'.journal = db.journal)
    (hfind : ∀ id, db'.wallet.withdraws.find? id =
      if new.id = id then some new else db.wallet.withdraws.find? id)
    (htaken : ∀ m, approvedCash db'.wallet m = approvedCash db.wallet m)
    (hst : new.status = .approved →
      ∃ old, db.wallet.withdraws.find? new.id = some old ∧ old.status = .approved) :
    CashStep ctx db db' r := by
  refine .idle ?_ ?_ (handoverRows_congr hjournal) htaken ?_
  · rw [hwithdraws]
    exact ho.wallets
  · rw [hwithdraws]
    exact ho.transactions
  · intro id new' hfind' hst'
    rw [hfind] at hfind'
    split at hfind'
    · next hid =>
      subst hid
      obtain rfl := Option.some.inj hfind'
      exact hst hst'
    · exact ⟨new', hfind', hst'⟩

theorem of_created {w : WalletTables} {new : WithdrawRequest} {t : Table WithdrawRequest}
    (ho : Opened db.wallet w) (hins : db.wallet.withdraws.insert? new = some t)
    (hdb : db' = { db with wallet := { w with withdraws := t } })
    (hst : new.status ≠ .approved) : CashStep ctx db db' r := by
  subst hdb
  refine .of_saved ho rfl rfl (fun id => Table.find?_insert? hins id) (fun m => ?_)
    fun happroved => absurd happroved hst
  change t.sum (taken m) = _
  rw [Table.sum_insert? hins, taken_of_not_approved hst, add_zero]
  rfl

theorem of_rewritten {old new : WithdrawRequest}
    (hdb : db' = { db with wallet.withdraws := db.wallet.withdraws.save new })
    (hfind : db.wallet.withdraws.find? new.id = some old)
    (htaken : ∀ m, taken m new = taken m old)
    (hst : new.status = .approved → old.status = .approved) : CashStep ctx db db' r := by
  subst hdb
  refine .of_saved (.refl db.wallet) rfl rfl (fun id => Table.find?_save hfind id) (fun m => ?_)
    fun happroved => ⟨old, hfind, hst happroved⟩
  have hsum := Table.sum_save hfind (taken m)
  rw [htaken] at hsum
  exact add_right_cancel hsum

theorem of_walletEffect (h : WalletEffect ctx db db' r) (hr : keepsLedger r = true)
    (hk : KeepsDebits db r) : CashStep ctx db db' r := by
  cases h with
  | opened ho hdb =>
      refine .idle ho.wallets ho.transactions (handoverRows_congr (by rw [hdb])) (fun m => ?_) ?_
      · rw [approvedCash, ho.withdraws]
        rfl
      · rw [ho.withdraws]
        exact fun _ new hfind hst => ⟨new, hfind, hst⟩
  | withdrawCreated ho _ hins hdb => exact of_created ho hins hdb (by rintro ⟨⟩)
  | @dashboardWithdrawCreated _ _ status _ _ _ ho _ hins hdb =>
      refine of_created ho hins hdb fun hst => ?_
      cases status with
      | none => cases hst
      | some s => exact hk (congrArg some hst)
  | @accepted _ w note _ hfind hst hp hdb =>
      refine .accepted hfind hst hp (by rw [hdb]) ?_
      have hjournal : db'.journal = db.journal ++
          [.handoverAccepted (approvedHandover w note) (handoverDebit ctx w)] := by rw [hdb]
      exact handoverRows_append hjournal
  | @rejected _ w note hfind hst hdb =>
      refine of_rewritten hdb hfind (fun m => ?_) (by rintro ⟨⟩)
      rw [taken_of_not_approved (by simp [rejectedHandover]),
        taken_of_not_approved (by rw [hst]; decide)]
  | @saved w data hfind hnotApprove _ hamount hdb =>
      have hkept := hk.approved_iff hfind hnotApprove
      refine of_rewritten hdb hfind (fun m => ?_) hkept.mp
      by_cases hw : w.status = .approved
      · have hamount' := hamount.resolve_left (by rw [hw]; decide)
        have hmaster := ((hk w hfind).1 hw).2
        rw [taken_of_approved (hkept.mpr hw), taken_of_approved hw]
        exact congrArg₂ (fun master amount => if master = m then amount else (0 : Int))
          hmaster hamount'
      · rw [taken_of_not_approved (mt hkept.mp hw), taken_of_not_approved hw]
  | @destroyed w hfind hst hdb =>
      subst hdb
      refine .idle (fun _ => rfl) rfl rfl (fun m => ?_) fun id new hfind' hst' => ?_
      · have hsum := Table.sum_delete hfind (taken m)
        rw [taken_of_not_approved (by rw [hst]; decide), add_zero] at hsum
        exact hsum
      · change (db.wallet.withdraws.delete w.id).find? id = some new at hfind'
        rw [Table.find?_delete] at hfind'
        split at hfind'
        · cases hfind'
        · exact ⟨new, hfind', hst'⟩
  | posted hp hdb => exact .posted rfl hp (handoverRows_congr (by rw [hdb]))
  | described _ _ => cases hr
  | deleted _ _ _ => cases hr

end CashStep

theorem cashStep_of_effect (h : Effect cfg ctx db db' r) (hr : keepsLedger r = true)
    (hk : KeepsDebits db r) : CashStep ctx db db' r := by
  cases h with
  | frame hf => exact .of_wallet hf.wallet (handoverRows_congr hf.journal)
  | create _ _ _ hw hj => exact .of_wallet hw (handoverRows_congr hj)
  | rewrite _ _ _ _ hw hj => exact .of_wallet hw (handoverRows_congr hj)
  | check _ _ _ _ _ hw hj =>
      refine .of_wallet hw ?_
      rw [handoverRows_append hj]
      exact List.append_nil _
  | pay _ hc => exact .of_completes hc rfl rfl rfl
  | wallet hw => exact .of_walletEffect hw hr hk
  | payme hp =>
      cases hp with
      | create _ _ _ _ _ _ _ hdb =>
          exact .of_wallet (by rw [hdb]) (handoverRows_congr (by rw [hdb]))
      | expire _ _ _ _ hdb => exact .of_wallet (by rw [hdb]) (handoverRows_congr (by rw [hdb]))
      | cancel _ _ _ _ hdb => exact .of_wallet (by rw [hdb]) (handoverRows_congr (by rw [hdb]))
      | refund _ _ _ _ _ hdb => exact .of_wallet (by rw [hdb]) (handoverRows_congr (by rw [hdb]))
      | perform _ _ _ _ _ _ hmarks =>
          cases hmarks with
          | already _ hdb => exact .of_wallet (by rw [hdb]) (handoverRows_congr (by rw [hdb]))
          | flagged _ _ hdb => exact .of_wallet (by rw [hdb]) (handoverRows_congr (by rw [hdb]))
          | completed _ _ hc => exact .of_completes hc rfl rfl rfl

/-- The rows of the handovers are in the ledger, and every cash balance is what the
other rows give, less what is approved. -/
structure Accounted (db : DB) : Prop where
  posted : ∀ row ∈ handoverRows db, row ∈ db.wallet.transactions.rows
  balance : ∀ m, (db.wallet.wallet m).balanceCash = otherCash db m - approvedCash db.wallet m

/-- What a row gives to the cash of a master. -/
theorem cash_of_posted {w w' : WalletTables} {row : WalletTransaction} (hp : Posted w w' row)
    (m : Uuid) : (w'.wallet m).balanceCash =
      (w.wallet m).balanceCash +
        if row.master = m ∧ row.paymentMethod = .cash then row.signed else 0 := by
  have hbalance := Ledger.balance_of_posted hp m .cash
  simp only [Prod.mk.injEq] at hbalance
  exact hbalance

/-- A row that is inserted is none of those there. -/
theorem ne_of_insert {t t' : Table WalletTransaction} {row x : WalletTransaction}
    (hins : t.insert? row = some t') (hx : x ∈ t.rows) : x ≠ row := by
  rintro rfl
  have hnone := (Table.insert?_eq_some_iff.mp hins).1
  rw [Table.find?_of_mem hx] at hnone
  cases hnone

/-- What an accepted handover does to the approved amounts and the balances. -/
theorem cash_of_accepted {request : WithdrawRequest} {note : String} {w w' : WalletTables}
    (hfind : db.wallet.withdraws.find? request.id = some request)
    (hst : request.status = .pending) (hp : Posted db.wallet w (handoverDebit ctx request))
    (hw' : w' = { w with
      withdraws := db.wallet.withdraws.save (approvedHandover request note) }) (m : Uuid) :
    (w'.wallet m).balanceCash = (db.wallet.wallet m).balanceCash -
        (if request.master = m then request.amount else 0) ∧
      approvedCash w' m =
        approvedCash db.wallet m + if request.master = m then request.amount else 0 := by
  subst hw'
  constructor
  · change (w.wallet m).balanceCash = _
    rw [cash_of_posted hp, sub_eq_add_neg, Ledger.signed_of_out rfl]
    by_cases hm : request.master = m
    · rw [if_pos ⟨hm, rfl⟩, if_pos hm]
      rfl
    · rw [if_neg fun h => hm h.1, if_neg hm, neg_zero]
  · have hsum := Table.sum_save (r := approvedHandover request note) hfind (taken m)
    rw [taken_of_not_approved (by rw [hst]; decide), add_zero, taken_of_approved rfl] at hsum
    exact hsum

theorem Accounted.step (h : CashStep ctx db db' r) (hi : Accounted db) : Accounted db' := by
  cases h with
  | idle hwallets htransactions hrows htaken _ =>
      constructor
      · rw [hrows, htransactions]
        exact hi.posted
      · intro m
        have hother : otherCash db' m = otherCash db m := by
          unfold otherCash
          rw [hrows, htransactions]
        rw [hwallets, htaken, hother]
        exact hi.balance m
  | @posted row _ hp hrows =>
      constructor
      · intro t ht
        rw [hrows] at ht
        exact (Table.mem_insert? hp.transactions).mpr (Or.inl (hi.posted t ht))
      · intro m
        have hfresh : row ∉ handoverRows db :=
          fun hmem => ne_of_insert hp.transactions (hi.posted row hmem) rfl
        have hother : otherCash db' m = otherCash db m +
            if row.master = m ∧ row.paymentMethod = .cash then row.signed else 0 := by
          unfold otherCash
          rw [hrows, Table.sum_insert? hp.transactions]
          simp only [hfresh, not_false_eq_true, true_and]
        have happroved : approvedCash db'.wallet m = approvedCash db.wallet m := by
          unfold approvedCash
          rw [hp.withdraws]
        rw [cash_of_posted hp, hother, happroved, hi.balance m]
        omega
  | @accepted request note w hfind hst hp hwallet hrows =>
      have hins : db.wallet.transactions.insert? (handoverDebit ctx request) =
          some db'.wallet.transactions := by
        rw [hwallet]
        exact hp.transactions
      constructor
      · intro t ht
        rw [hrows, List.mem_append, List.mem_singleton] at ht
        exact (Table.mem_insert? hins).mpr (ht.imp_left (hi.posted t))
      · intro m
        have hother : otherCash db' m = otherCash db m := by
          unfold otherCash
          rw [Table.sum_insert? hins, hrows, if_neg (fun h => h.1 (by simp)), add_zero]
          refine Table.sum_congr _ fun t ht => ?_
          simp only [List.mem_append, List.mem_singleton, ne_of_insert hins ht, or_false]
        obtain ⟨hbalance, htaken⟩ := cash_of_accepted hfind hst hp hwallet m
        rw [hbalance, htaken, hother, hi.balance m]
        omega

/-- A withdraw endpoint takes from the cash of a master what it approves. -/
theorem CashStep.conserved (h : CashStep ctx db db' r) (hr : handlesWithdraw r = true) (m : Uuid) :
    (db'.wallet.wallet m).balanceCash + approvedCash db'.wallet m =
      (db.wallet.wallet m).balanceCash + approvedCash db.wallet m := by
  cases h with
  | idle hwallets _ _ htaken _ => rw [hwallets, htaken]
  | posted hother _ _ => exact absurd hr (by rw [hother]; decide)
  | accepted hfind hst hp hwallet _ =>
      obtain ⟨hbalance, htaken⟩ := cash_of_accepted hfind hst hp hwallet m
      rw [hbalance, htaken]
      omega

/-- The request that is approved is debited. -/
theorem CashStep.debited (h : CashStep ctx db db' r) {id : Uuid} {request new : WithdrawRequest}
    (hfind : db.wallet.withdraws.find? id = some request) (hst : request.status ≠ .approved)
    (hfind' : db'.wallet.withdraws.find? id = some new) (hst' : new.status = .approved)
    (m : Uuid) : (db'.wallet.wallet m).balanceCash =
      (db.wallet.wallet m).balanceCash - if request.master = m then request.amount else 0 := by
  cases h with
  | idle _ _ _ _ happroved =>
      obtain ⟨old, hfind₀, hold⟩ := happroved id new hfind' hst'
      obtain rfl := Option.some.inj (hfind.symm.trans hfind₀)
      exact absurd hold hst
  | posted _ hp _ =>
      rw [hp.withdraws, hfind] at hfind'
      exact absurd (Option.some.inj hfind' ▸ hst') hst
  | @accepted accepted note w hfind₀ hpending hp hwallet _ =>
      have hsave : db'.wallet.withdraws.find? id =
          if accepted.id = id then some (approvedHandover accepted note)
          else db.wallet.withdraws.find? id := by
        rw [hwallet]
        exact Table.find?_save (r := approvedHandover accepted note) hfind₀ id
      by_cases hid : accepted.id = id
      · rw [hid, hfind] at hfind₀
        obtain rfl := Option.some.inj hfind₀
        exact (cash_of_accepted (hid.symm ▸ hfind) hpending hp hwallet m).1
      · rw [if_neg hid, hfind] at hsave
        rw [hsave] at hfind'
        exact absurd (Option.some.inj hfind' ▸ hst') hst

end Cash

theorem accounted_of_reachable {w : World} (h : ((backend cfg).restrict DebitsKept).Reachable w) :
    Accounted w.db := by
  refine h.invariant_of_guard (I := fun w => Accounted w.db) ?_ ?_
  · rintro w ⟨-, -, hwallet, hjournal⟩
    have hrows : handoverRows w.db = [] := by
      rw [handoverRows, hjournal]
      rfl
    constructor
    · rw [hrows]
      exact fun _ hrow => absurd hrow List.not_mem_nil
    · intro m
      rw [otherCash, hwallet]
      rfl
  · intro w l w' _ hi hk hstep
    exact hi.step (cashStep_of_effect hstep.effect hk.1 hk.2)

theorem debitedRight_of_reachable {w : World}
    (h : ((backend cfg).restrict DebitsKept).Reachable w) (id : Uuid) : DebitedRight w.db id := by
  refine h.invariant_of_guard (I := fun w => ∀ id, DebitedRight w.db id) ?_ ?_ id
  · rintro w ⟨-, -, hwallet, hjournal⟩ id
    refine Or.inl ⟨?_, ?_⟩
    · rw [debits, hjournal]
      rfl
    · rw [hwallet]
      rintro w' ⟨⟩
  · intro w l w' _ hi hk hstep id
    rcases quiet_or_wallet hstep.effect with hquiet | hwallet
    · exact (hi id).quiet hquiet
    · exact DebitedRight.walletEffect hwallet hk.1 hk.2 hi id

/-- A withdrawal is debited exactly when it is approved, in every run whose
dashboard writes keep the debits: an approved request has exactly one debit, of
its amount, from the cash balance of its master, with its row in the ledger; a
pending or rejected one has none. The cash balance of a master is what the rows
that no handover wrote give, less the approved amounts: the step that approves a
request takes its amount from its master's cash, and from nobody else's, and a
withdraw endpoint takes nothing but what it approves. -/
theorem debited_when_approved (cfg : Settings) {w : World}
    (h : ((backend cfg).restrict DebitsKept).Reachable w) {id : Uuid} {req : WithdrawRequest}
    (hfind : w.db.wallet.withdraws.find? id = some req) :
    (req.status = .approved → ∃ row, debits w.db id = [row] ∧ DebitOf w.db req row) ∧
      (req.status ≠ .approved → debits w.db id = []) ∧
      (∀ m, (w.db.wallet.wallet m).balanceCash = otherCash w.db m - approvedCash w.db.wallet m) ∧
      ∀ l w', ((backend cfg).restrict DebitsKept).step w l w' →
        (∀ new, req.status ≠ .approved → w'.db.wallet.withdraws.find? id = some new →
          new.status = .approved → ∀ m, (w'.db.wallet.wallet m).balanceCash =
            (w.db.wallet.wallet m).balanceCash - if req.master = m then req.amount else 0) ∧
        (handlesWithdraw l.2 = true → ∀ m,
          (w'.db.wallet.wallet m).balanceCash + approvedCash w'.db.wallet m =
            (w.db.wallet.wallet m).balanceCash + approvedCash w.db.wallet m) := by
  have hdebited : (req.status = .approved → ∃ row, debits w.db id = [row] ∧
      DebitOf w.db req row) ∧ (req.status ≠ .approved → debits w.db id = []) := by
    rcases debitedRight_of_reachable h id with ⟨hnil, hne⟩ | ⟨w', row, hfind', hst, hone, hrow⟩
    · exact ⟨fun hst => absurd hst (hne req hfind), fun _ => hnil⟩
    · obtain rfl := Option.some.inj (hfind.symm.trans hfind')
      exact ⟨fun _ => ⟨row, hone, hrow⟩, fun hne => absurd hst hne⟩
  refine ⟨hdebited.1, hdebited.2, (accounted_of_reachable h).balance, fun l w' hstep => ?_⟩
  have hcash := cashStep_of_effect hstep.2.effect hstep.1.1 hstep.1.2
  exact ⟨fun new hst hfind' hst' => hcash.debited hfind hst hfind' hst', hcash.conserved⟩

/-- Master 2 is given 1000 so'm in cash. -/
def Sample.funded : List (Context × Request) :=
  [(Sample.at_ 40, .transactionCreate
    { master := 2, transactionType := .in, amount := 100000
      description := ⟨"Avans", Sample.advance_described⟩, paymentMethod := .cash })]

/-- The master asks for 400 of it. -/
def Sample.asked : List (Context × Request) :=
  Sample.funded ++ [(Sample.at_ 41, .withdrawCreate 2 ⟨40000, Sample.withdrawal_pos⟩)]

/-- The dashboard approves. -/
def Sample.approve : Context × Request :=
  (Sample.at_ 42, .dashboardWithdrawUpdate 41 { status := some .approved })

/-- The master asks for 400 of it, and the dashboard approves. -/
def Sample.withdrawn : List (Context × Request) := Sample.asked ++ [Sample.approve]

/-- The request as it is approved. -/
def Sample.approvedRequest : WithdrawRequest where
  id := 41
  master := 2
  amount := 40000
  status := .approved
  adminNote := "Naqd qabul qilindi"

/-- The request is debited once, and the balance falls from 1000 to 600. -/
theorem debited_when_approved_sample :
    (∃ row, debits (Sample.world.run {} Sample.withdrawn).db 41 = [row] ∧ row.amount = 40000) ∧
      ((Sample.world.run {} Sample.asked).db.wallet.wallet 2).balanceCash = 100000 ∧
      ((Sample.world.run {} Sample.withdrawn).db.wallet.wallet 2).balanceCash = 60000 := by
  have hasked : ((backend {}).restrict DebitsKept).Reachable
      (Sample.world.run {} Sample.asked) :=
    reachable_run_restrict (.init ⟨rfl, rfl, rfl, rfl⟩) (by decide)
      ⟨⟨rfl, trivial⟩, ⟨rfl, trivial⟩, trivial⟩
  have hpending : (Sample.world.run {} Sample.asked).db.wallet.withdraws.find? 41 =
      some { Sample.approvedRequest with status := .pending, adminNote := "" } := by decide
  have hstep : ((backend {}).restrict DebitsKept).step (Sample.world.run {} Sample.asked)
      Sample.approve (Sample.world.run {} Sample.withdrawn) := by
    refine ⟨⟨rfl, fun w hfind => ?_⟩, by decide, rfl, rfl⟩
    obtain rfl := Option.some.inj (hpending.symm.trans hfind)
    exact ⟨by rintro ⟨⟩, by rintro ⟨⟩⟩
  have hfind : (Sample.world.run {} Sample.withdrawn).db.wallet.withdraws.find? 41 =
      some Sample.approvedRequest := by decide
  obtain ⟨row, hone, hrow⟩ := (debited_when_approved {} (hasked.step hstep) hfind).1 rfl
  have hbefore : ((Sample.world.run {} Sample.asked).db.wallet.wallet 2).balanceCash = 100000 := by
    decide
  obtain ⟨-, -, -, hmoved⟩ := debited_when_approved {} hasked hpending
  have hafter := (hmoved _ _ hstep).1 _ (by decide) hfind rfl 2
  rw [hbefore] at hafter
  exact ⟨⟨row, hone, hrow.amount⟩, hbefore, hafter⟩

/-- The dashboard creates a request approved. -/
def Sample.createdApproved : List (Context × Request) :=
  Sample.funded ++
    [(Sample.at_ 41,
      .dashboardWithdrawCreate 2 ⟨40000, Sample.withdrawal_pos⟩ (some .approved) none)]

/-- The dashboard puts an approved request back to pending and approves it again. -/
def Sample.approvedTwice : List (Context × Request) :=
  Sample.withdrawn ++ [(Sample.at_ 43, .dashboardWithdrawUpdate 41 { status := some .pending }),
    (Sample.at_ 44, .dashboardWithdrawUpdate 41 { status := some .approved })]

/-- The first is approved without a debit, the second debited twice. -/
theorem approved_without_or_with_two_debits :
    (backend {}).Reachable (Sample.world.run {} Sample.createdApproved) ∧
      ((Sample.world.run {} Sample.createdApproved).db.wallet.withdraws.find? 41).map
        WithdrawRequest.status = some .approved ∧
      debits (Sample.world.run {} Sample.createdApproved).db 41 = [] ∧
      ((Sample.world.run {} Sample.createdApproved).db.wallet.wallet 2).balanceCash = 100000 ∧
      (backend {}).Reachable (Sample.world.run {} Sample.approvedTwice) ∧
      ((Sample.world.run {} Sample.approvedTwice).db.wallet.withdraws.find? 41).map
        WithdrawRequest.status = some .approved ∧
      (debits (Sample.world.run {} Sample.approvedTwice).db 41).length = 2 ∧
      ((Sample.world.run {} Sample.approvedTwice).db.wallet.wallet 2).balanceCash = 20000 :=
  ⟨reachable_run Sample.reachable (by decide), by decide, by decide, by decide,
    reachable_run Sample.reachable (by decide), by decide, by decide, by decide⟩

end Wallet

end Homex
