import Homex.Orders.Lifecycle
import Homex.Realtime.Tracking

/-!
# The steps a client is shown

Between the writes of the staff, the tracking of an order goes forward: a step that is shown
as done stays so, until the order is cancelled or rejected and shows no step any more.
-/

namespace Homex

namespace Realtime

open Relational Orders Transition

/-- The second status shows every step of the first as done, or no step at all. -/
def Ahead (status status' : OrderStatus) : Prop :=
  (trackingState status').step = none ∨
    (trackingState status).step ≠ none ∧
      ∀ step ∈ (trackingState status).steps, step.isCompleted = true →
        ∃ step' ∈ (trackingState status').steps, step'.key = step.key ∧ step'.isCompleted = true

instance (status status' : OrderStatus) : Decidable (Ahead status status') :=
  inferInstanceAs (Decidable (_ ∨ _ ∧ _))

namespace Ahead

theorem refl (status : OrderStatus) : Ahead status status := by
  cases hstep : (trackingState status).step with
  | none => exact Or.inl hstep
  | some k =>
      refine Or.inr ⟨?_, fun step hmem hdone => ⟨step, hmem, rfl, hdone⟩⟩
      rw [hstep]
      exact fun h => nomatch h

theorem trans {status status' status'' : OrderStatus} (h : Ahead status status')
    (h' : Ahead status' status'') : Ahead status status'' := by
  rcases h' with hnone | ⟨hsome', hdone'⟩
  · exact Or.inl hnone
  · rcases h with hnone | ⟨hsome, hdone⟩
    · exact absurd hnone hsome'
    · refine Or.inr ⟨hsome, fun step hmem hcompleted => ?_⟩
      obtain ⟨step', hmem', hkey', hcompleted'⟩ := hdone step hmem hcompleted
      obtain ⟨step'', hmem'', hkey'', hcompleted''⟩ := hdone' step' hmem' hcompleted'
      exact ⟨step'', hmem'', hkey''.trans hkey', hcompleted''⟩

/-- Who cancels or rejects ends the tracking. -/
theorem terminal (status : OrderStatus) :
    Ahead status .cancelled ∧ Ahead status .rejected := ⟨Or.inl rfl, Or.inl rfl⟩

end Ahead

/-- A write of the staff that names a status, whatever the order's was. A PATCH may
leave the status out. -/
def writesStatus : Request → Bool
  | .dashboardUpdate _ data => data.status.isSome
  | .dashboardStatus _ _ => true
  | .internalUpdate _ data => data.status.isSome
  | _ => false

variable {cfg : Settings} {ctx : Context} {db db' : DB} {r : Request}

/-- The moves of a master, and the payment. -/
theorem ahead_next : Ahead .new .accepted ∧ Ahead .accepted .onWay ∧ Ahead .onWay .arrived ∧
    Ahead .awaitingPayment .completed := by
  decide +kernel

theorem ahead_of_rewrites {o o' : Order} (hr : writesStatus r = false)
    (h : Rewrites ctx r o o') : Ahead o.status o'.status := by
  cases h with
  | cancel _ => exact (Ahead.terminal _).1
  | payOnline _ _ => exact .refl _
  | accept hst =>
      rw [hst]
      exact ahead_next.1
  | onWay hst =>
      rw [hst]
      exact ahead_next.2.1
  | start hst =>
      rw [hst]
      exact ahead_next.2.2.1
  | reject _ => exact (Ahead.terminal _).2
  | confirm _ => exact .refl _
  | useInventory _ _ => exact .refl _
  | @dashboardUpdate data _ _ hdata _ =>
      obtain ⟨hstatus, -, -, -⟩ := dashboardUpdated_columns o hdata
      have hnone : data.status = none := by simpa [writesStatus] using hr
      rw [hstatus, hnone, Option.getD_none]
      exact .refl _
  | dashboardStatus _ => cases hr
  | @internalUpdate data _ _ _ _ =>
      have hnone : data.status = none := by simpa [writesStatus] using hr
      change Ahead o.status ((data.status.map InternalApi.orderStatusFromDashboard).getD o.status)
      rw [hnone, Option.map_none, Option.getD_none]
      exact .refl _
  | @internalAssign master _ =>
      unfold InternalApi.assigned
      split
      · next hnew =>
        rw [hnew.2]
        exact ahead_next.1
      · exact .refl _

theorem ahead_of_checked : ∀ status ∈ activeOrderStatuses, Ahead status .awaitingPayment := by
  decide +kernel

theorem ahead_of_step {o? o'? : Option Order} {o : Order} (hr : writesStatus r = false)
    (h : OrderStep ctx db db' r o? o'?) (ho : o? = some o) :
    ∃ o', o'? = some o' ∧ Ahead o.status o'.status := by
  subst ho
  cases h with
  | same => exact ⟨o, rfl, .refl _⟩
  | rewritten hw => exact ⟨_, rfl, ahead_of_rewrites hr hw⟩
  | checked _ hst _ => exact ⟨_, rfl, ahead_of_checked _ hst⟩
  | completed hc =>
      refine ⟨_, rfl, ?_⟩
      rw [hc.found.2]
      exact ahead_next.2.2.2
  | flagged _ _ _ => exact ⟨_, rfl, .refl _⟩
  | unflagged _ _ => exact ⟨_, rfl, .refl _⟩

/-- As long as the staff writes no status, the tracking of an order goes forward. -/
theorem tracking_goes_forward {w w' : World}
    (hl : ((backend cfg).restrict fun _ l => writesStatus l.2 = false).Leads w w') {id : Uuid}
    {o : Order} (hfind : w.db.orders.find? id = some o) :
    ∃ o', w'.db.orders.find? id = some o' ∧ Ahead o.status o'.status := by
  induction hl with
  | refl => exact ⟨o, hfind, .refl _⟩
  | step _ hstep ih =>
      obtain ⟨o', hfind', hahead⟩ := ih
      obtain ⟨hr, hstep⟩ := hstep
      obtain ⟨o'', hfind'', hahead'⟩ :=
        ahead_of_step hr (orderStep_of_effect hstep.effect id) hfind'
      exact ⟨o'', hfind'', hahead.trans hahead'⟩

/-- The dashboard corrects the note of an order. -/
def patchNote : Context × Request := (Sample.at_ 21, .dashboardUpdate 10 { note := some "2-qavat" })

/-- The master submits the check. -/
def submitCheck : Context × Request :=
  (Sample.at_ 22, .masterComplete 2 10 { serviceFee := 100000 })

theorem tracking_goes_forward_sample :
    ∃ o o', (Sample.world.run {} Sample.accepted).db.orders.find? 10 = some o ∧
      ((Sample.world.run {} Sample.accepted).run {} [patchNote, submitCheck]).db.orders.find? 10 =
        some o' ∧ o.status = .accepted ∧ Ahead .accepted o'.status := by
  have hsome : ((Sample.world.run {} Sample.accepted).db.orders.find? 10).any (fun o =>
      o.status = .accepted) = true := by decide
  obtain ⟨o, hfind, hstatus⟩ := Option.any_eq_true _ _ |>.mp hsome
  have hl : ((backend {}).restrict fun _ l => writesStatus l.2 = false).Leads
      (Sample.world.run {} Sample.accepted)
      ((Sample.world.run {} Sample.accepted).run {} [patchNote, submitCheck]) :=
    .step (.step .refl (l := patchNote) ⟨rfl, by decide, rfl, rfl⟩) (l := submitCheck)
      ⟨rfl, by decide, rfl, rfl⟩
  obtain ⟨o', hfind', hahead⟩ := tracking_goes_forward hl hfind
  exact ⟨o, o', hfind, hfind', of_decide_eq_true hstatus, of_decide_eq_true hstatus ▸ hahead⟩

end Realtime

end Homex
