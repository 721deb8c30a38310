import Homex.System.Archive

/-!
# Past income

The reports count a completed order on the day of its last save. While nobody
saves an order that was completed on an earlier day, or deletes it or its client,
that is the day it was paid, and the income of a day that is over stays what it
is. A master who uses an item for an old order moves its income to the present.
-/

namespace Homex

open Relational Orders Dashboard

/-- The order was paid on the day of the request. -/
def PaidToday (ctx : Context) (order : Order) : Prop :=
  ∃ t ∈ order.paidAt, localDate t = localDate ctx.now

/-- A request that saves a completed order, and a deletion that takes one, comes on
the day it was paid. A completed order without a total may go at any time, and a
deletion that Payme protects against is refused. -/
def keepsPast (cfg : Settings) (w : Archive) : Context × ArchiveRequest → Prop
  | (ctx, .request r) =>
      ∀ pk ∈ savedOrder cfg ctx r w.db, ∀ order ∈ w.db.orders.find? pk,
        order.status = .completed → PaidToday ctx order
  | (ctx, .destroy d) =>
      (∀ tx ∈ w.db.payme.rows, ∀ order ∈ w.db.orders.find? tx.order, ¬d.Takes order) →
        ∀ order ∈ w.db.orders.rows, d.Takes order → order.status = .completed →
          order.totalAmount = 0 ∨ PaidToday ctx order

instance (ctx : Context) (order : Order) : Decidable (PaidToday ctx order) :=
  inferInstanceAs (Decidable (∃ t ∈ order.paidAt, localDate t = localDate ctx.now))

instance (cfg : Settings) (w : Archive) : ∀ l, Decidable (keepsPast cfg w l)
  | (ctx, .request r) =>
      inferInstanceAs (Decidable (∀ pk ∈ savedOrder cfg ctx r w.db,
        ∀ order ∈ w.db.orders.find? pk, order.status = .completed → PaidToday ctx order))
  | (ctx, .destroy d) =>
      inferInstanceAs (Decidable
        ((∀ tx ∈ w.db.payme.rows, ∀ order ∈ w.db.orders.find? tx.order, ¬d.Takes order) →
          ∀ order ∈ w.db.orders.rows, d.Takes order → order.status = .completed →
            order.totalAmount = 0 ∨ PaidToday ctx order))

namespace Archive

/-- The present day. -/
def today (w : Archive) : Int := localDate w.clock

/-- Every completed order counts on the day it was paid, and on no other. -/
def CountedWhenPaid (w : Archive) : Prop :=
  ∀ order ∈ w.db.orders.rows, order.status = .completed →
    ∃ t ∈ order.paidAt, incomeDate w.updatedAt order = some (localDate t)

/-- What was reported for the days that are over is reported later. -/
structure PastKept (w w' : Archive) : Prop where
  stats : ∀ day < w.today, getStatsDailyIncome w'.db.orders w'.updatedAt day =
    getStatsDailyIncome w.db.orders w.updatedAt day
  dynamics : ∀ {α : Type} (millions : Int → α) (targetDate : Int),
    (getIncomeDynamics millions w'.db.orders w'.updatedAt targetDate).filter
        (fun item => item.date < w.today) =
      (getIncomeDynamics millions w.db.orders w.updatedAt targetDate).filter
        fun item => item.date < w.today
  income : ∀ filters, (∀ day, period filters day = true → day < w.today) →
    completedIncome w'.db.orders w'.updatedAt filters =
      completedIncome w.db.orders w.updatedAt filters

variable {cfg : Settings} {w w' : Archive} {ctx : Context} {r : Request} {pk : Uuid}

/-- What an order adds to the income of some days. -/
abbrev incomeShare (w : Archive) (p : Int → Bool) (pk : Uuid) : Int :=
  w.db.orders.share (incomeDate w.updatedAt) Order.totalAmount p pk

theorem CountedWhenPaid.incomeDate (h : CountedWhenPaid w) {o : Order}
    (hfind : w.db.orders.find? pk = some o) (hst : o.status = .completed) :
    ∃ t ∈ o.paidAt, localDate (w.updatedAt pk) = localDate t := by
  obtain ⟨t, ht, hdate⟩ := h o (Table.mem_of_find? hfind) hst
  rw [incomeDate_completed hst, Option.some_inj] at hdate
  obtain rfl : o.id = pk := Table.key_of_find? hfind
  exact ⟨t, ht, hdate⟩

/-- An order that is not completed adds nothing. -/
theorem incomeShare_other {o : Order} {p : Int → Bool} (hfind : w.db.orders.find? pk = some o)
    (hst : o.status ≠ .completed) : w.incomeShare p pk = 0 := by
  refine Table.share_eq_zero hfind fun d hd => ?_
  rw [incomeDate_other hst] at hd
  cases hd

/-- An order that was saved on another day adds nothing. -/
theorem incomeShare_off {o : Order} {p : Int → Bool} (hfind : w.db.orders.find? pk = some o)
    (hoff : p (localDate (w.updatedAt pk)) = false) : w.incomeShare p pk = 0 := by
  refine Table.share_eq_zero hfind fun d hd => ?_
  obtain rfl : o.id = pk := Table.key_of_find? hfind
  by_cases hst : o.status = .completed
  · rw [incomeDate_completed hst] at hd
    cases hd
    exact hoff
  · rw [incomeDate_other hst] at hd
    cases hd

/-- An order without a row adds nothing. -/
theorem incomeShare_none {p : Int → Bool} (h : w.db.orders.find? pk = none) :
    w.incomeShare p pk = 0 :=
  Table.share_of_none h

/-- What a step keeps of one order: its part of the income of days that are over, and
that it counts when it was paid. -/
structure OrderKept (w w' : Archive) (pk : Uuid) : Prop where
  share : ∀ p : Int → Bool, (∀ day, p day = true → day < w.today) →
    w'.incomeShare p pk = w.incomeShare p pk
  paid : ∀ o, w'.db.orders.find? pk = some o → o.status = .completed →
    ∃ t ∈ o.paidAt, localDate (w'.updatedAt pk) = localDate t

theorem orderKept_of_same (h : CountedWhenPaid w)
    (hfind : w'.db.orders.find? pk = w.db.orders.find? pk)
    (hdate : w'.updatedAt pk = w.updatedAt pk) : OrderKept w w' pk := by
  constructor
  case share =>
    intro p _
    refine Table.share_congr hfind fun o ho => ?_
    obtain rfl : o.id = pk := Table.key_of_find? ho
    unfold Dashboard.incomeDate
    rw [hdate]
  case paid =>
    intro o ho hst
    rw [hfind] at ho
    rw [hdate]
    exact h.incomeDate ho hst

/-- A day that is over is not the day of a later request. -/
theorem not_over {p : Int → Bool} (hclock : w.clock ≤ ctx.now)
    (hover : ∀ day, p day = true → day < w.today) : p (localDate ctx.now) = false := by
  refine Bool.not_eq_true _ ▸ fun hp => ?_
  have hlt := hover _ hp
  have hle := localDate_mono hclock
  unfold today at hlt
  omega

/-- An order that was paid today adds nothing to the days that are over. -/
theorem incomeShare_paidToday {o : Order} {p : Int → Bool} (h : CountedWhenPaid w)
    (hfind : w.db.orders.find? pk = some o) (hst : o.status = .completed)
    (hpaid : PaidToday ctx o) (hday : p (localDate ctx.now) = false) :
    w.incomeShare p pk = 0 := by
  obtain ⟨t, ht, htoday⟩ := hpaid
  obtain ⟨t', ht', hdate⟩ := h.incomeDate hfind hst
  obtain rfl : t' = t := Option.mem_unique ht' ht
  refine incomeShare_off hfind ?_
  rw [hdate, htoday]
  exact hday

/-- The step lemma for the order that is saved. -/
theorem orderKept_of_saved (h : CountedWhenPaid w) (hclock : w.clock ≤ ctx.now)
    (hguard : keepsPast cfg w (ctx, .request r)) (hsaved : savedOrder cfg ctx r w.db = some pk) :
    OrderKept w (w.next cfg (ctx, .request r)) pk := by
  have hnow : (w.next cfg (ctx, .request r)).updatedAt pk = ctx.now := if_pos hsaved
  have hpaid : ∀ o, w.db.orders.find? pk = some o → o.status = .completed → PaidToday ctx o :=
    hguard pk hsaved
  constructor
  case share =>
    intro p hover
    have hday := not_over hclock hover
    have hafter : (w.next cfg (ctx, .request r)).incomeShare p pk = 0 := by
      cases hfind : (w.next cfg (ctx, .request r)).db.orders.find? pk with
      | none => exact incomeShare_none hfind
      | some o => exact incomeShare_off hfind (hnow ▸ hday)
    have hbefore : w.incomeShare p pk = 0 := by
      cases hfind : w.db.orders.find? pk with
      | none => exact incomeShare_none hfind
      | some o =>
          by_cases hst : o.status = .completed
          · exact incomeShare_paidToday h hfind hst (hpaid o hfind hst) hday
          · exact incomeShare_other hfind hst
    rw [hafter, hbefore]
  case paid =>
    intro o' hfind' hst
    rw [hnow]
    have hstep := orderStep_of_effect (effect_handle cfg ctx r w.db) pk
    rw [show (handle cfg ctx r w.db).2.orders.find? pk = some o' from hfind'] at hstep
    rcases paidAt_step hstep hst with hpaidAt | ⟨o, hfind, hst', hpaidAt⟩
    · exact ⟨ctx.now, hpaidAt, rfl⟩
    · obtain ⟨t, ht, htoday⟩ := hpaid o hfind hst'
      exact ⟨t, hpaidAt ▸ ht, htoday.symm⟩

/-- The step lemma for an order that is not saved. -/
theorem orderKept_of_not_saved (h : CountedWhenPaid w)
    (hsaved : savedOrder cfg ctx r w.db ≠ some pk) :
    OrderKept w (w.next cfg (ctx, .request r)) pk := by
  have hsame : (w.next cfg (ctx, .request r)).updatedAt pk = w.updatedAt pk := if_neg hsaved
  rcases order_of_not_saved hsaved with hfind | ⟨hnone, o, hfind, hc⟩
  · exact orderKept_of_same h hfind hsame
  · constructor
    case share =>
      intro p _
      have hafter : (w.next cfg (ctx, .request r)).incomeShare p pk = 0 :=
        incomeShare_other hfind hc.status_ne
      rw [hafter, incomeShare_none hnone]
    case paid =>
      intro o' hfind' hst
      obtain rfl : o = o' := Option.some.inj (hfind.symm.trans hfind')
      exact absurd hst hc.status_ne

/-- An order that loses references to what goes. -/
theorem orderKept_of_cleared {o : Order} {p : DBKey → Bool} (h : CountedWhenPaid w)
    (hfind : w.db.orders.find? pk = some o)
    (hfind' : w'.db.orders.find? pk = some (DBRow.clearOrder p o))
    (hdate : w'.updatedAt pk = w.updatedAt pk) : OrderKept w w' pk := by
  constructor
  case share =>
    intro days _
    obtain rfl : o.id = pk := Table.key_of_find? hfind
    have hsame : incomeDate w'.updatedAt (DBRow.clearOrder p o) = incomeDate w.updatedAt o := by
      unfold Dashboard.incomeDate
      rw [← hdate]
      rfl
    unfold incomeShare
    rw [Table.share_of_find? hfind, Table.share_of_find? hfind', hsame]
    rfl
  case paid =>
    intro o' ho' hst
    rw [hfind'] at ho'
    obtain rfl := Option.some.inj ho'
    have hcompleted : o.status = .completed := hst
    have hpaid := h.incomeDate hfind hcompleted
    rw [hdate]
    exact hpaid

/-- The step lemma for a deletion. -/
theorem orderKept_of_destroy (h : CountedWhenPaid w) (hclock : w.clock ≤ ctx.now) {d : Deletion}
    (hguard : keepsPast cfg w (ctx, .destroy d)) :
    OrderKept w (w.next cfg (ctx, .destroy d)) pk := by
  rcases destroy_cases d w.db with hdb | hdb
  · exact orderKept_of_same h (congrArg (fun db : DB => db.orders.find? pk) hdb) rfl
  have hafter := find?_of_destroy hdb pk
  cases hfind : w.db.orders.find? pk with
  | none =>
      rw [hfind] at hafter
      exact orderKept_of_same h (hafter.trans hfind.symm) rfl
  | some o =>
      rw [hfind] at hafter
      by_cases htakes : d.Takes o
      · rw [Option.filter_some_neg (by simpa using htakes)] at hafter
        have hfree : ∀ tx ∈ w.db.payme.rows, ∀ order ∈ w.db.orders.find? tx.order,
            ¬d.Takes order := fun tx htx order horder => not_takes_of_destroy hdb htx horder
        constructor
        case share =>
          intro p hover
          have hday := not_over hclock hover
          rw [show (w.next cfg (ctx, .destroy d)).incomeShare p pk = 0 from
            incomeShare_none hafter]
          by_cases hst : o.status = .completed
          · rcases hguard hfree o (Table.mem_of_find? hfind) htakes hst with hzero | hpaid
            · unfold incomeShare
              rw [Table.share_of_find? hfind, hzero, ite_self]
            · exact (incomeShare_paidToday h hfind hst hpaid hday).symm
          · exact (incomeShare_other hfind hst).symm
        case paid =>
          intro o' hfind' _
          cases hafter.symm.trans hfind'
      · rw [Option.filter_some_pos (by simpa using htakes)] at hafter
        exact orderKept_of_cleared h hfind hafter rfl

theorem orderKept_next {l : Context × ArchiveRequest} (h : CountedWhenPaid w)
    (hclock : w.clock ≤ l.1.now) (hguard : keepsPast cfg w l) (pk : Uuid) :
    OrderKept w (w.next cfg l) pk := by
  obtain ⟨ctx, r | d⟩ := l
  · by_cases hsaved : savedOrder cfg ctx r w.db = some pk
    · exact orderKept_of_saved h hclock hguard hsaved
    · exact orderKept_of_not_saved h hsaved
  · exact orderKept_of_destroy h hclock hguard

theorem countedWhenPaid_of_kept (h : ∀ pk, OrderKept w w' pk) : CountedWhenPaid w' := by
  intro o ho hst
  obtain ⟨t, ht, hdate⟩ := (h o.id).paid o (Table.find?_of_mem ho) hst
  exact ⟨t, ht, (incomeDate_completed hst).trans (congrArg some hdate)⟩

theorem countedWhenPaid_of_reachable (h : ((archive cfg).restrict (keepsPast cfg)).Reachable w) :
    CountedWhenPaid w := by
  refine h.invariant_of_guard (fun s hs => ?_) fun s l s' _ hi hguard hstep => ?_
  · intro o ho
    rw [show s.db.orders = .empty from hs.1] at ho
    cases ho
  · obtain ⟨hclock, rfl⟩ := hstep
    exact countedWhenPaid_of_kept (orderKept_next hi hclock hguard)

theorem clock_next (l : Context × ArchiveRequest) : (w.next cfg l).clock = l.1.now := by
  obtain ⟨ctx, r | d⟩ := l <;> rfl

/-- The income of days that are over. -/
structure IncomeKept (w w' : Archive) : Prop where
  clock : w.clock ≤ w'.clock
  reported : ∀ p : Int → Bool, (∀ day, p day = true → day < w.today) →
    w'.db.orders.reported (incomeDate w'.updatedAt) Order.totalAmount p =
      w.db.orders.reported (incomeDate w.updatedAt) Order.totalAmount p

/-- The run lemma. -/
theorem incomeKept_of_leads (h : ((archive cfg).restrict (keepsPast cfg)).Reachable w)
    (hl : ((archive cfg).restrict (keepsPast cfg)).Leads w w') : IncomeKept w w' := by
  refine hl.stable (fun s l s' hs hi hstep => ?_) h ⟨le_refl _, fun _ _ => rfl⟩
  obtain ⟨hguard, hclock, rfl⟩ := hstep
  constructor
  case clock =>
    rw [clock_next]
    exact hi.clock.trans hclock
  case reported =>
    intro p hover
    have hlater : ∀ day, p day = true → day < s.today := fun day hp =>
      (hover day hp).trans_le (localDate_mono hi.clock)
    have hkept := orderKept_next (countedWhenPaid_of_reachable hs) hclock hguard
    rw [← hi.reported p hover]
    exact Table.reported_congr fun pk => (hkept pk).share p hlater

/-- The reports read the income of their days only. -/
theorem IncomeKept.pastKept (h : IncomeKept w w') : PastKept w w' := by
  have hincome : ∀ filters, (∀ day, period filters day = true → day < w.today) →
      completedIncome w'.db.orders w'.updatedAt filters =
        completedIncome w.db.orders w.updatedAt filters := fun filters hover =>
    h.reported (period filters) hover
  have hdate : ∀ d < w.today, ∀ day, period [.date d] day = true → day < w.today := by
    intro d hd day hday
    simp only [period, DateLookup.admits, List.all_cons, List.all_nil, Bool.and_true,
      decide_eq_true_eq] at hday
    omega
  constructor
  case stats =>
    intro day hday
    unfold getStatsDailyIncome
    rw [hincome _ (hdate day hday), hincome _ (hdate (day - 1) (by omega))]
  case dynamics =>
    intro α millions targetDate
    unfold getIncomeDynamics
    simp only [List.filter_map]
    refine List.map_congr_left fun offset hoffset => ?_
    have hpast : targetDate - 6 + offset < w.today := by
      simpa using (List.mem_filter.mp hoffset).2
    unfold incomeByDay
    rw [hincome _ fun day hday => ?_]
    simp only [period, DateLookup.admits, List.all_cons, List.all_nil, Bool.and_true,
      Bool.and_eq_true, decide_eq_true_eq] at hday
    omega
  case income => exact hincome

/-- While nobody touches an order completed on an earlier day, every completed order
counts on the day it was paid, and the income of a day that is over does not change. -/
theorem past_income_kept (h : ((archive cfg).restrict (keepsPast cfg)).Reachable w)
    (hl : ((archive cfg).restrict (keepsPast cfg)).Leads w w') :
    CountedWhenPaid w ∧ PastKept w w' :=
  ⟨countedWhenPaid_of_reachable h, (incomeKept_of_leads h hl).pastKept⟩

/-- The requests come in the order of time and keep the past. -/
def Keeps (cfg : Settings) : Archive → List (Context × ArchiveRequest) → Prop
  | _, [] => True
  | w, l :: ls => (keepsPast cfg w l ∧ w.clock ≤ l.1.now) ∧ Keeps cfg (w.next cfg l) ls

instance decidableKeeps : ∀ (w : Archive) (ls : List (Context × ArchiveRequest)),
    Decidable (Keeps cfg w ls)
  | _, [] => isTrue trivial
  | w, l :: ls =>
      haveI := decidableKeeps (w.next cfg l) ls
      inferInstanceAs (Decidable ((keepsPast cfg w l ∧ w.clock ≤ l.1.now) ∧ _))

theorem leads_run {w₀ : Archive} {ls : List (Context × ArchiveRequest)}
    (h : ((archive cfg).restrict (keepsPast cfg)).Leads w₀ w) (hls : Keeps cfg w ls) :
    ((archive cfg).restrict (keepsPast cfg)).Leads w₀ (w.run cfg ls) := by
  induction ls generalizing w with
  | nil => exact h
  | cons l ls ih => exact ih (h.step ⟨hls.1.1, hls.1.2, rfl⟩) hls.2

end Archive

namespace Sample

open Archive

/-- Before the first order, with a client more. -/
def opened : Archive where
  db := { db with
    clients := ⟨[{ id := 1, phone := "+998901112233" }, { id := 7, phone := "+998907654321" }],
      by decide⟩ }
  updatedAt _ := 0
  clock := 0

/-- The order is completed on the first day and its receipt confirmed; on the next day
the master looks at the wallet. -/
def firstDay : List (Context × ArchiveRequest) :=
  paidInCash.map (fun l => (l.1, .request l.2)) ++
    [(at_ 40, .request (.masterReceiptConfirm 2 10)), (at_ 86400000000, .request (.walletView 2))]

/-- The state of the next day. -/
def nextDay : Archive := opened.run {} firstDay

/-- The master uses an item for the order of the day before. -/
def usesLater : Context × ArchiveRequest :=
  (at_ 86400000001, .request (.useInventory 2 6 { orderId := 10, quantity := ⟨100, piece_pos⟩ }))

/-- The surroundings of a request of the next day; the order it may create has the id 20. -/
def tomorrow (now : Nat) : Context where
  now := 86400000000 + now
  uuid draw := if draw = .order then 20 else now

/-- An order of the other client is completed on the next day, and the client deletes
the account. -/
def secondDay : List (Context × ArchiveRequest) :=
  [(tomorrow 50, .request (.dashboardCreate
      { client := some 7, master := some (some 3), service := some 4
        addressText := some "Chilonzor", lat := some 0, lng := some 0, scheduledDate := some 1
        scheduledTime := some 0, status := some .accepted, serviceFee := some 50000 })),
    (tomorrow 51, .request (.masterComplete 3 20 { serviceFee := 50000 })),
    (tomorrow 52, .request (.clientPay 7 20 (.choice .cash))),
    (tomorrow 53, .destroy (.client 7))]

theorem leads_nextDay : ((archive {}).restrict (keepsPast {})).Leads opened nextDay :=
  leads_run .refl (by decide)

theorem leads_secondDay :
    ((archive {}).restrict (keepsPast {})).Leads nextDay (nextDay.run {} secondDay) :=
  leads_run .refl (by decide)

theorem reachable_nextDay : ((archive {}).restrict (keepsPast {})).Reachable nextDay :=
  Transition.System.Reachable.leads (.init ⟨rfl, rfl, rfl, rfl⟩) leads_nextDay

end Sample

namespace Archive

/-- The first day is over. -/
theorem over_zero (day : Int) (h : period [.date 0] day = true) : day < Sample.nextDay.today := by
  obtain rfl : day = 0 := by simpa [period, DateLookup.admits] using h
  decide

/-- The order of the second client is there before the deletion and gone after it; the
income of the first day stays 1000. -/
theorem past_income_kept_sample :
    (Sample.nextDay.run {} (Sample.secondDay.take 3)).db.statusOf 20 = some .completed ∧
      (Sample.nextDay.run {} Sample.secondDay).db.statusOf 20 = none ∧
      completedIncome Sample.nextDay.db.orders Sample.nextDay.updatedAt [.date 0] = 100000 ∧
      completedIncome (Sample.nextDay.run {} Sample.secondDay).db.orders
        (Sample.nextDay.run {} Sample.secondDay).updatedAt [.date 0] = 100000 := by
  have hkept := (past_income_kept Sample.reachable_nextDay Sample.leads_secondDay).2
  have hbefore : completedIncome Sample.nextDay.db.orders Sample.nextDay.updatedAt [.date 0] =
      100000 := by decide
  exact ⟨by decide, by decide, hbefore, (hkept.income [.date 0] over_zero).trans hbefore⟩

/-- The income of the first day is gone, and the order counts on a day it was not paid. -/
theorem past_income_rewritten :
    (archive {}).Reachable Sample.nextDay ∧
      (archive {}).step Sample.nextDay Sample.usesLater (Sample.nextDay.next {} Sample.usesLater) ∧
      Sample.nextDay.db.statusOf 10 = some .completed ∧
      ¬PastKept Sample.nextDay (Sample.nextDay.next {} Sample.usesLater) ∧
      ¬CountedWhenPaid (Sample.nextDay.next {} Sample.usesLater) := by
  refine ⟨Sample.reachable_nextDay.of_restrict, ⟨by decide, rfl⟩, by decide, fun h => ?_,
    fun h => ?_⟩
  · exact absurd (h.income [.date 0] over_zero) (by decide)
  · have hwrong : ∃ o ∈ (Sample.nextDay.next {} Sample.usesLater).db.orders.rows,
        o.status = .completed ∧ ∀ t ∈ o.paidAt,
          incomeDate (Sample.nextDay.next {} Sample.usesLater).updatedAt o ≠
            some (localDate t) := by decide
    obtain ⟨o, ho, hst, hne⟩ := hwrong
    obtain ⟨t, ht, hdate⟩ := h o ho hst
    exact hne t ht hdate

end Archive

end Homex
