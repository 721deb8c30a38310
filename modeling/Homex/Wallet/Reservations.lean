import Homex.Wallet.Balance
import Mathlib.Algebra.Order.BigOperators.Group.List

/-!
# Pending withdrawals are covered

A pending withdraw request reserves cash of its master, but the reservation is
not stored: it is the sum of the amounts of the pending requests. A request is
created only when the balance covers it on top of the others, and accepting one
takes the same amount from both sides, so the balance covers the pending
requests of every master in every state, and each of them can be accepted.
-/

namespace Homex

namespace Wallet

open Relational Action Orders Payme

/-- What a request reserves of the cash of a master. -/
def reserved (master : Uuid) (request : WithdrawRequest) : Int :=
  if request.master = master ∧ request.status = .pending then request.amount else 0

/-- The balance covers what is pending, and every amount is positive. -/
structure Covered (w : WalletTables) : Prop where
  reserved_le : ∀ m, w.withdraws.sum (reserved m) ≤ (w.wallet m).balanceCash
  amount_pos : ∀ request ∈ w.withdraws.rows, 0 < request.amount

theorem reserved_of_processed {request : WithdrawRequest} (h : request.status ≠ .pending)
    (m : Uuid) : reserved m request = 0 :=
  if_neg fun hm => h hm.2

theorem reserved_of_pending {request : WithdrawRequest} (h : request.status = .pending)
    (m : Uuid) : reserved m request = if request.master = m then request.amount else 0 := by
  unfold reserved
  simp [h]

namespace Covered

variable {ctx : Context} {w w' : WalletTables} {request : WithdrawRequest}

theorem reserved_nonneg (h : Covered w) (hr : request ∈ w.withdraws.rows) (m : Uuid) :
    0 ≤ reserved m request := by
  unfold reserved
  split
  · exact (h.amount_pos request hr).le
  · exact le_refl 0

/-- One pending request is covered. -/
theorem amount_le (h : Covered w) (hr : request ∈ w.withdraws.rows)
    (hpending : request.status = .pending) :
    request.amount ≤ (w.wallet request.master).balanceCash := by
  have hsingle : reserved request.master request ≤ w.withdraws.sum (reserved request.master) :=
    List.single_le_sum (fun x hx => by
      obtain ⟨other, hother, rfl⟩ := List.mem_map.mp hx
      exact h.reserved_nonneg hother _) _ (List.mem_map_of_mem hr)
  rw [reserved_of_pending hpending, if_pos rfl] at hsingle
  exact hsingle.trans (h.reserved_le _)

/-- The balances do not fall, and the requests are the same. -/
theorem mono (h : Covered w) (hwallet : ∀ m, (w.wallet m).balanceCash ≤ (w'.wallet m).balanceCash)
    (hwithdraws : w'.withdraws = w.withdraws) : Covered w' where
  reserved_le m := by
    rw [hwithdraws]
    exact (h.reserved_le m).trans (hwallet m)
  amount_pos := by
    rw [hwithdraws]
    exact h.amount_pos

theorem opened (h : Covered w) (ho : Opened w w') : Covered w' :=
  h.mono (fun m => by rw [ho.wallets]) ho.withdraws

/-- An incoming transaction. -/
theorem posted {row : WalletTransaction} (h : Covered w) (hp : Posted w w' row)
    (ht : row.transactionType = .in) : Covered w' := by
  refine h.mono (fun m => ?_) hp.withdraws
  have hbalance := Ledger.balance_of_posted hp m .cash
  rw [Ledger.signed_of_in ht] at hbalance
  change (w.wallet m).balance .cash ≤ (w'.wallet m).balance .cash
  rw [hbalance]
  have hpos := hp.pos
  split <;> omega

theorem credited {o : Order} {method : PaymentType} {credit : Option WalletTransaction}
    (h : Covered w) (hc : Credits o method w w' credit) : Covered w' := by
  cases hc with
  | skipped _ heq => exact heq ▸ h
  | credited _ _ ht _ _ _ hp => exact h.posted hp ht

/-- A request is created when the balance covers it too. -/
theorem created {t : Table WithdrawRequest} (h : Covered w)
    (hins : w.withdraws.insert? request = some t) (hpos : 0 < request.amount)
    (hcov : request.amount ≤
      (w.wallet request.master).balanceCash - w.withdraws.sum (reserved request.master)) :
    Covered { w with withdraws := t } where
  reserved_le m := by
    change t.sum (reserved m) ≤ (w.wallet m).balanceCash
    rw [Table.sum_insert? hins]
    have hm := h.reserved_le m
    unfold reserved at hm hcov ⊢
    split
    · next hreq =>
      obtain ⟨rfl, -⟩ := hreq
      omega
    · omega
  amount_pos r hr := by
    rcases (Table.mem_insert? hins).mp hr with hr | rfl
    · exact h.amount_pos r hr
    · exact hpos

/-- A request that is processed reserves nothing any more. -/
theorem processed {new : WithdrawRequest} (h : Covered w)
    (hfind : w.withdraws.find? new.id = some request) (hnew : new.status ≠ .pending)
    (hamount : 0 < new.amount) (hwallet : ∀ m,
      (w.wallet m).balanceCash - reserved m request ≤ (w'.wallet m).balanceCash) :
    Covered { w' with withdraws := w.withdraws.save new } where
  reserved_le m := by
    change (w.withdraws.save new).sum (reserved m) ≤ (w'.wallet m).balanceCash
    have hsum := Table.sum_save (r := new) hfind (reserved m)
    rw [reserved_of_processed hnew] at hsum
    have hm := h.reserved_le m
    have hw := hwallet m
    omega
  amount_pos r hr := by
    rcases Table.mem_save.mp hr with ⟨hr, -⟩ | ⟨rfl, -⟩
    · exact h.amount_pos r hr
    · exact hamount

/-- A request is saved as processed, and no money moves. -/
theorem saved {new : WithdrawRequest} (h : Covered w)
    (hfind : w.withdraws.find? new.id = some request) (hnew : new.status ≠ .pending)
    (hamount : new.amount = request.amount) :
    Covered { w with withdraws := w.withdraws.save new } := by
  have hmem := Table.mem_of_find? hfind
  refine h.processed hfind hnew (hamount ▸ h.amount_pos request hmem) fun m => ?_
  exact sub_le_self _ (h.reserved_nonneg hmem m)

/-- A pending request is deleted. -/
theorem deleted (h : Covered w) (hfind : w.withdraws.find? request.id = some request) :
    Covered { w with withdraws := w.withdraws.delete request.id } where
  reserved_le m := by
    change (w.withdraws.delete request.id).sum (reserved m) ≤ (w.wallet m).balanceCash
    have hsum := Table.sum_delete hfind (reserved m)
    have hm := h.reserved_le m
    have hreserved := h.reserved_nonneg (Table.mem_of_find? hfind) m
    omega
  amount_pos r hr := h.amount_pos r (Table.mem_delete.mp hr).1

theorem accepted {note : String} (h : Covered w)
    (hfind : w.withdraws.find? request.id = some request) (hpending : request.status = .pending)
    (hp : Posted w w' (handoverDebit ctx request)) :
    Covered { w' with withdraws := w.withdraws.save (approvedHandover request note) } := by
  refine h.processed hfind (by simp [approvedHandover])
    (h.amount_pos request (Table.mem_of_find? hfind)) fun m => ?_
  have hbalance := Ledger.balance_of_posted hp m .cash
  rw [Ledger.signed_of_out rfl] at hbalance
  refine (Eq.trans ?_ hbalance.symm).le
  rw [reserved_of_pending hpending, sub_eq_add_neg]
  by_cases hm : request.master = m
  · simp only [handoverDebit, hm, if_true]
    rfl
  · simp only [handoverDebit, hm, Prod.mk.injEq, false_and, if_false, neg_zero]
    rfl

end Covered

/-- The requests that the reservations allow for: withdrawals are created pending,
accepted, rejected and deleted; money only comes in otherwise. -/
def keepsReservations : Request → Bool
  | .dashboardWithdrawCreate _ _ status _ => status.getD .pending = .pending
  | .dashboardWithdrawUpdate _ data => data.status = some .approved ∨ data.status = some .rejected
  | .transactionCreate data => data.transactionType = .in
  | .transactionDestroy _ => false
  | _ => true

variable {cfg : Settings} {ctx : Context} {db db' : DB} {r : Request}

/-- A manual transaction posts a row of its type. -/
theorem posted_of_transactionCreate {data : TransactionPayload} {response : Response}
    (h : view cfg ctx (.transactionCreate data) db = (.ok response, db')) :
    ∃ row, row.transactionType = data.transactionType ∧ Posted db.wallet db'.wallet row := by
  obtain ⟨row, hcreate, -⟩ := map_eq_ok.mp h
  simp only [DashboardWalletTransactionListCreateAPIView.performCreate, bind_eq_ok] at hcreate
  obtain ⟨_, _, hpk, _, _, hpk', hpost⟩ := hcreate
  obtain rfl := eq_of_reads within_requirePk hpk
  obtain rfl := eq_of_reads within_requirePk hpk'
  obtain ⟨rfl, w, rfl, hposted⟩ := postWalletTransaction_ok hpost
  exact ⟨_, rfl, hposted⟩

theorem covered_of_walletEffect (h : WalletEffect ctx db db' r) (hr : keepsReservations r = true)
    (hcreate : ∀ data, r ≠ .transactionCreate data) (hc : Covered db.wallet) :
    Covered db'.wallet := by
  cases h with
  | opened ho _ => exact hc.opened ho
  | @withdrawCreated user amount w t ho hcov hins hdb =>
      subst hdb
      rw [← ho.withdraws] at hins
      refine (hc.opened ho).created hins amount.2 ?_
      rw [ho.withdraws, ho.wallets]
      exact hcov
  | @dashboardWithdrawCreated master amount status adminNote w t ho hcov hins hdb =>
      subst hdb
      rw [← ho.withdraws] at hins
      refine (hc.opened ho).created hins amount.2 ?_
      rw [ho.withdraws, ho.wallets]
      exact hcov
  | accepted hfind hpending hp hdb =>
      subst hdb
      exact hc.accepted hfind hpending hp
  | @rejected _ request note hfind hpending hdb =>
      subst hdb
      exact hc.saved hfind (by simp [rejectedHandover]) rfl
  | @saved request data hfind happroved hrejected hamount hdb =>
      subst hdb
      have hprocessed : request.status ≠ .pending ∧ (data.apply request).status ≠ .pending := by
        rcases of_decide_eq_true hr with hstatus | hstatus
        · simp only [hstatus, Option.getD_some, and_true] at happroved
          exact ⟨happroved, by simp [WithdrawPayload.apply, hstatus]⟩
        · simp only [hstatus, Option.getD_some, and_true] at hrejected
          exact ⟨hrejected, by simp [WithdrawPayload.apply, hstatus]⟩
      exact hc.saved hfind hprocessed.2
        (hamount.resolve_left hprocessed.1)
  | destroyed hfind _ hdb =>
      subst hdb
      exact hc.deleted hfind
  | posted _ _ => exact absurd rfl (hcreate _)
  | described _ hdb =>
      subst hdb
      exact hc.mono (fun _ => le_refl _) rfl
  | deleted _ _ _ => cases hr

theorem covered_of_marksPaid {o : Order} (h : MarksPaid ctx o db db') (hc : Covered db.wallet) :
    Covered db'.wallet := by
  cases h with
  | already _ hdb => exact hdb ▸ hc
  | completed credit _ hcompletes => exact hc.credited hcompletes.credits
  | flagged _ _ hdb =>
      subst hdb
      exact hc

theorem covered_of_paymeEffect (h : PaymeEffect cfg ctx db db' r) (hc : Covered db.wallet) :
    Covered db'.wallet := by
  cases h with
  | create _ _ _ _ _ _ _ hdb =>
      subst hdb
      exact hc
  | expire _ _ _ _ hdb =>
      subst hdb
      exact hc
  | cancel _ _ _ _ hdb =>
      subst hdb
      exact hc
  | refund _ _ _ _ _ hdb =>
      rw [hdb]
      exact hc
  | perform _ _ _ _ _ _ hm => exact covered_of_marksPaid hm hc

/-- The step lemma. -/
theorem covered_step {w w' : World} {l : Context × Request} (hl : keepsReservations l.2 = true)
    (hstep : World.Step cfg w l w') (hc : Covered w.db.wallet) : Covered w'.db.wallet := by
  obtain ⟨ctx, r⟩ := l
  rw [hstep.db]
  by_cases hcreate : ∃ data, r = .transactionCreate data
  · obtain ⟨data, rfl⟩ := hcreate
    rcases hview : view cfg ctx (.transactionCreate data) w.db with ⟨e | response, db'⟩
    · have herror := handle_of_error hview
      rw [herror, wallet_of_refused herror]
      exact hc
    · obtain ⟨row, htype, hposted⟩ := posted_of_transactionCreate hview
      rw [handle_of_ok hview]
      exact hc.posted hposted (htype.trans (of_decide_eq_true hl))
  · have heffect := effect_handle cfg ctx r w.db
    cases heffect with
    | frame hf => exact hf.wallet ▸ hc
    | create _ _ _ hw _ => exact hw ▸ hc
    | rewrite _ _ _ _ hw _ => exact hw ▸ hc
    | check _ _ _ _ _ hw _ => exact hw ▸ hc
    | pay _ hcompletes => exact hc.credited hcompletes.credits
    | payme hp => exact covered_of_paymeEffect hp hc
    | wallet hw => exact covered_of_walletEffect hw hl (not_exists.mp hcreate) hc

end Wallet

/-- No withdrawal yet, and no cash balance below zero. -/
def World.NoWithdrawals (w : World) : Prop :=
  w.db.wallet.withdraws = .empty ∧ ∀ m, 0 ≤ (w.db.wallet.wallet m).balanceCash

/-- Every sequence of requests that the reservations allow for. -/
def withdrawals (cfg : Settings) : Transition.System World (Context × Request) :=
  (Transition.System.mk World.NoWithdrawals (World.Step cfg)).restrict fun _ l =>
    Wallet.keepsReservations l.2 = true

namespace Wallet

open Relational Action

variable {cfg : Settings}

theorem covered_of_reachable {w : World} (h : (withdrawals cfg).Reachable w) :
    Covered w.db.wallet := by
  refine Transition.System.Reachable.invariant_of_guard (I := fun w => Covered w.db.wallet) ?_ ?_ h
  · rintro w ⟨hnone, hbalance⟩
    constructor
    case reserved_le =>
      intro m
      rw [hnone]
      exact hbalance m
    case amount_pos =>
      intro request hr
      rw [hnone] at hr
      cases hr
  · exact fun _ _ _ _ hc hl hstep => covered_step hl hstep hc

/-- Accepting a covered request fails only when the id of its debit is taken. -/
theorem accept_error_of_covered {ctx : Context} {pk : Uuid} {note : String} {db db' : DB}
    {request : WithdrawRequest} {e : Error} (hc : Covered db.wallet)
    (hfind : db.wallet.withdraws.find? pk = some request) (hpending : request.status = .pending)
    (h : acceptCashHandover ctx pk note db = (.error e, db')) : e = Code.integrityError := by
  have hmem := Table.mem_of_find? hfind
  have hfetch : (fetch (fun db => db.wallet.withdraws.find? pk) (.serverError "DoesNotExist") :
      Code WithdrawRequest) db = (.ok request, db) := run_fetch_some hfind
  obtain ⟨-, db₁, h⟩ := atomic_eq_error.mp h
  rw [run_bind_ok hfetch, if_neg (not_not.mpr hpending),
    run_bind_ok (run_require (hc.amount_pos request hmem))] at h
  rcases bind_error h with hwallet | ⟨wallet, db₂, hwallet, h⟩
  · exact absurd hwallet (total_getOrCreateWallet _ _ _ _)
  · obtain ⟨rfl, -⟩ := getOrCreateWallet_ok hwallet
    rw [run_bind_ok (run_require (hc.amount_le hmem hpending))] at h
    rcases bind_error h with hsave | ⟨_, db₃, -, h⟩
    · exact absurd hsave (total_modify _ _ _)
    rcases bind_error h with hcreate | ⟨_, db₄, -, h⟩
    · unfold Code.createTransaction write at hcreate
      split at hcreate
      · cases hcreate
      · exact (Except.error.inj (congrArg Prod.fst hcreate)).symm
    · exact absurd h (Total.bind total_modify (fun _ =>
        Total.bind total_modify fun _ => total_pure) _ _ _)

/-- The pending withdrawals of every master are covered, and none of them is
refused for lack of balance. -/
theorem pending_covered (cfg : Settings) {w : World} (h : (withdrawals cfg).Reachable w) :
    (∀ m, pendingWithdraw w.db m ≤ (w.db.wallet.wallet m).balanceCash) ∧
      ∀ ctx pk note request, w.db.wallet.withdraws.find? pk = some request →
        request.status = .pending →
          (acceptCashHandover ctx pk note w.db).1 ≠
            .error (.validation none "Naqd balans yetarli emas") := by
  have hc := covered_of_reachable h
  refine ⟨hc.reserved_le, fun ctx pk note request hfind hpending herror => ?_⟩
  have hintegrity := accept_error_of_covered hc hfind hpending (Prod.ext herror rfl)
  cases hintegrity

end Wallet

/-- Master 2 is given 1000 so'm in cash and asks for 600 and 400 of it. -/
def Sample.reserving : List (Context × Request) :=
  [(Sample.at_ 40, .transactionCreate
      { master := 2, transactionType := .in, amount := 100000
        description := ⟨"Avans", Sample.advance_described⟩, paymentMethod := .cash }),
    (Sample.at_ 41, .withdrawCreate 2 ⟨60000, by decide⟩),
    (Sample.at_ 42, .withdrawCreate 2 ⟨40000, Sample.withdrawal_pos⟩)]

theorem Wallet.pending_covered_sample :
    100000 ≤ ((Sample.world.run {} Sample.reserving).db.wallet.wallet 2).balanceCash ∧
      (acceptCashHandover (Sample.at_ 43) 42 "" (Sample.world.run {} Sample.reserving).db).1 ≠
        .error (.validation none "Naqd balans yetarli emas") := by
  have hinit : (withdrawals {}).Reachable Sample.world := .init ⟨rfl, fun _ => le_refl _⟩
  have hreach : (withdrawals {}).Reachable (Sample.world.run {} Sample.reserving) :=
    reachable_run_from hinit (by decide) (by decide)
  obtain ⟨hcovered, haccept⟩ := pending_covered {} hreach
  have hpending : pendingWithdraw (Sample.world.run {} Sample.reserving).db 2 = 100000 := by decide
  have hfind : (Sample.world.run {} Sample.reserving).db.wallet.withdraws.find? 42 =
      some { id := 42, master := 2, amount := 40000 } := by decide
  exact ⟨hpending ▸ hcovered 2, haccept _ 42 "" _ hfind rfl⟩

end Homex
