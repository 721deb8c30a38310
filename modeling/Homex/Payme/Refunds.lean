import Homex.Payme.Retries

/-!
# A payment that completed its order is not refunded

`CancelTransaction` refuses a performed transaction whose order is completed. The
order stays completed under every request, so the refusal lasts: once performing
a transaction has completed the order, and credited its master, the transaction
stays in state 2.
-/

namespace Homex

namespace Payme

open Relational Action Code Orders

variable {cfg : Settings} {ctx : Context} {db db' : DB} {r : Request} {id : String}
  {tx : PaymeTransaction}

/-- A performed transaction whose order is completed is left alone. -/
theorem find?_of_performed (hs : Sound db) (h : Effect cfg ctx db db' r)
    (hfind : db.payme.find? id = some tx) (hperf : tx.isPerformed = true)
    (hst : db.statusOf tx.order = some .completed) : db'.payme.find? id = some tx := by
  have htx : tx.transactionId = id := Table.key_of_find? hfind
  have hother : ∀ old new : PaymeTransaction, db.payme.find? new.transactionId = some old →
      old ≠ tx → db'.payme = db.payme.save new → db'.payme.find? id = some tx := by
    intro old new hfind₁ hne hsave
    have hid : key new ≠ id := by
      rintro rfl
      exact hne (Option.some.inj (hfind₁.symm.trans hfind))
    rw [hsave, Table.find?_save_of_ne hid]
    exact hfind
  cases txStep_of_effect hs h with
  | same hpayme _ =>
      rw [hpayme]
      exact hfind
  | @created tx₁ _ hc hins _ =>
      have hid : key tx₁ ≠ id := by
        rintro rfl
        have habsent := hc.absent
        rw [← key_paymeTransaction, hfind] at habsent
        cases habsent
      rw [Table.find?_insert? hins, if_neg hid]
      exact hfind
  | cancelled hfind₁ _ hunperf _ hsave _ =>
      refine hother _ _ hfind₁ ?_ hsave
      rintro rfl
      rw [hperf] at hunperf
      cases hunperf
  | @refunded tx₁ _ o hfind₁ _ _ _ hsave horder hne _ =>
      refine hother _ _ hfind₁ ?_ hsave
      rintro rfl
      rw [DB.statusOf_of_find horder] at hst
      exact hne (Option.some.inj hst)
  | @performed tx₁ _ _ hp hsave _ _ _ _ =>
      have hopen := hp.isOpen
      refine hother tx₁ { tx₁ with state := .successfully, performedAt := some ctx.now }
        hp.found ?_ hsave
      rintro rfl
      rw [PaymeTransaction.isOpen_iff] at hopen
      simp [PaymeTransaction.isPerformed, hopen.1] at hperf

/-- Cancelling such a transaction is refused and changes nothing. -/
theorem handle_paymeCancel_of_completed {params : Params} (hid : params.id = some id)
    (hfind : db.payme.find? id = some tx) (hperf : tx.isPerformed = true)
    (hst : db.statusOf tx.order = some .completed) :
    handle cfg ctx (.paymeCancel params) db =
      (.error (.payme .unableToCancelTransaction id), db) := by
  obtain ⟨o, horder, hcompleted⟩ := Option.map_eq_some_iff.mp hst
  have hcanc : ¬tx.isCancelled = true := by
    simp only [PaymeTransaction.isPerformed, decide_eq_true_eq] at hperf
    simp [PaymeTransaction.isCancelled, hperf]
  exact handle_of_paymeError (run_map_error (cancel_of_error hid
    (cancelLocked_completed hfind hcanc hperf horder hcompleted)))

/-- A refunded payment never paid a master: once performing a transaction has
completed its order, in every later state the transaction is in state 2, never in
−2, the order is completed, and `CancelTransaction` on it fails and changes
nothing. -/
theorem never_refunded_after_completion (cfg : Settings) {w w' w'' : World}
    (h : (backend cfg).Reachable w) {ctx : Context} {params : Params}
    (hstep : World.Step cfg w (ctx, .paymePerform params) w') {id : String}
    {tx : PaymeTransaction} (hid : params.id = some id)
    (hfind : w.db.payme.find? id = some tx)
    (hbefore : w.db.statusOf tx.order ≠ some .completed)
    (hafter : w'.db.statusOf tx.order = some .completed) (hl : (backend cfg).Leads w' w'') :
    (∃ tx'', w''.db.payme.find? id = some tx'' ∧ tx''.state = .successfully) ∧
      w''.db.statusOf tx.order = some .completed ∧
      ∀ ctx' params', params'.id = some id →
        handle cfg ctx' (.paymeCancel params') w''.db =
          (.error (.payme .unableToCancelTransaction id), w''.db) := by
  obtain rfl : tx.transactionId = id := Table.key_of_find? hfind
  obtain ⟨method, o, credit, -, hc⟩ := completes_of_statusOf hstep.effect hbefore hafter
  have hs := sound_of_reachable h
  have hp := performs_of_completes hs hstep.effect rfl hid hfind hc
  obtain ⟨hst, hexp⟩ := PaymeTransaction.isOpen_iff.mp hp.isOpen
  have hmoved : w'.db.payme.find? tx.transactionId =
      some { tx with state := .successfully, performedAt := some ctx.now } := by
    rcases hstep.db ▸ perform_moves hid hfind hst hexp with hmoves | hundone
    · exact hmoves
    · rw [hundone] at hafter
      exact absurd hafter hbefore
  have hlasting := hl.stable
    (P := fun s => s.db.payme.find? tx.transactionId =
        some { tx with state := .successfully, performedAt := some ctx.now } ∧
      s.db.statusOf tx.order = some .completed)
    (fun s l s' hreach hi hs' =>
      ⟨find?_of_performed (sound_of_reachable hreach) hs'.effect hi.1 rfl hi.2,
        statusOf_terminal_of_effect hs'.effect (by decide) hi.2⟩)
    (h.step hstep) ⟨hmoved, hafter⟩
  refine ⟨⟨_, hlasting.1, rfl⟩, hlasting.2, fun ctx' params' hid' => ?_⟩
  exact handle_paymeCancel_of_completed hid' hlasting.1 rfl hlasting.2

theorem never_refunded_after_completion_sample :
    handle {} (Sample.at_ 25) (.paymeCancel { id := some "tx", reason := some 5 })
        ((Sample.world.run {} Sample.charged).next {} (Sample.at_ 24, Sample.paymePerform)).db =
      (.error (.payme .unableToCancelTransaction "tx"),
        ((Sample.world.run {} Sample.charged).next {}
          (Sample.at_ 24, Sample.paymePerform)).db) := by
  have hreach : (backend {}).Reachable (Sample.world.run {} Sample.charged) :=
    reachable_run Sample.reachable (by decide)
  have hstep : World.Step {} (Sample.world.run {} Sample.charged)
      (Sample.at_ 24, Sample.paymePerform)
      ((Sample.world.run {} Sample.charged).next {} (Sample.at_ 24, Sample.paymePerform)) :=
    ⟨by decide, rfl, rfl⟩
  have hfind : (Sample.world.run {} Sample.charged).db.payme.find? "tx" =
      some Sample.openTx := by decide
  exact (never_refunded_after_completion {} hreach hstep rfl hfind (by decide) (by decide)
    .refl).2.2 _ _ rfl

end Payme

end Homex
