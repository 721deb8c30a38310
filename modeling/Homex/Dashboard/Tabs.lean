import Homex.Relational.Join
import Homex.System.Runs

/-!
# The tabs of the order list

The dashboard lists orders under five tabs. A new order is under the first tab
until a master is assigned to it, and then under the third, with the orders that a
master has accepted. `STATUS_TAB` has the tab that the badge of an order shows:
the badge of an order that awaits payment names the third tab, and that tab does
not select the order.
-/

namespace Homex

namespace Dashboard

open Relational Orders

variable {db : DB} {queryset : List Order} {order : Order} {tab : String}

/-- The tabs that the aliases name. -/
inductive OrderTab
  | all
  | yangi
  | yolda
  | bajarilmoqda
  | yakunlangan
  | bekor
  deriving DecidableEq, Repr

/-- `ORDER_TAB_ALIASES`. -/
def orderTabAliases : List (String × OrderTab) :=
  [("all", .all), ("barchasi", .all),
    ("yangi", .yangi), ("new", .yangi),
    ("yo'lda", .yolda), ("yolda", .yolda), ("on_way", .yolda),
    ("bajarilmoqda", .bajarilmoqda), ("in_progress", .bajarilmoqda),
    ("yakunlangan", .yakunlangan), ("completed", .yakunlangan),
    ("bekor", .bekor), ("bekor qilingan", .bekor), ("cancelled", .bekor)]

/-- The order has a master who is assigned to it now. -/
def HasActiveMaster (db : DB) (order : Order) : Prop :=
  ∃ a ∈ db.assignedMasters.rows, a.order = order.id ∧ a.isActive = true

instance : DecidablePred (HasActiveMaster db) :=
  fun _ => inferInstanceAs (Decidable (∃ a ∈ db.assignedMasters.rows, _))

/-- The join of the third tab. -/
def AssignedTo (o : Order) (a : Assignment) : Prop := a.order = o.id

/-- The condition of the third tab, on an order and a row it is joined with. -/
def InProgress (o : Order) (a? : Option Assignment) : Prop :=
  (o.status = .accepted ∨ o.status = .arrived) ∨
    o.status = .new ∧ ∃ a ∈ a?, a.isActive = true

instance (o : Order) (a : Assignment) : Decidable (AssignedTo o a) :=
  inferInstanceAs (Decidable (_ = _))

instance (o : Order) (a? : Option Assignment) : Decidable (InProgress o a?) :=
  inferInstanceAs (Decidable (_ ∨ _))

/-- `apply_order_tab`; the text of the tab is in lower case, without blanks around
it. The third tab joins the orders with the masters assigned to them. -/
def applyOrderTab (db : DB) (queryset : List Order) (tab : String) : List Order :=
  match orderTabAliases.lookup tab with
  | none => queryset
  | some .all => queryset
  | some .yangi => queryset.filter fun o => o.status = .new ∧ ¬HasActiveMaster db o
  | some .yolda => queryset.filter fun o => o.status = .onWay
  | some .bajarilmoqda =>
      selectDistinct AssignedTo InProgress queryset db.assignedMasters.rows
  | some .yakunlangan => queryset.filter fun o => o.status = .completed
  | some .bekor => queryset.filter fun o => o.status = .cancelled ∨ o.status = .rejected

/-- `STATUS_TAB`. -/
def statusTab : OrderStatus → String
  | .new => "yangi"
  | .accepted => "bajarilmoqda"
  | .onWay => "yo'lda"
  | .arrived => "bajarilmoqda"
  | .awaitingPayment => "bajarilmoqda"
  | .completed => "yakunlangan"
  | .cancelled => "bekor"
  | .rejected => "bekor"

/-- The five tabs. -/
def orderTabs : List String := ["yangi", "yo'lda", "bajarilmoqda", "yakunlangan", "bekor"]

/-- The tab that selects the order. -/
def tabOf (db : DB) (order : Order) : Option String :=
  if order.status = .awaitingPayment then none
  else if order.status = .new ∧ HasActiveMaster db order then some "bajarilmoqda"
  else some (statusTab order.status)

/-- One tab selects the order, and lists it once. -/
def InOneTab (db : DB) (queryset : List Order) (order : Order) : Prop :=
  ∃ tab ∈ orderTabs, (applyOrderTab db queryset tab).count order = 1 ∧
    ∀ other ∈ orderTabs, order ∈ applyOrderTab db queryset other → other = tab

theorem nodup_applyOrderTab (h : queryset.Nodup) : (applyOrderTab db queryset tab).Nodup := by
  unfold applyOrderTab
  split
  · exact h
  · exact h
  · exact h.filter _
  · exact h.filter _
  · exact nodup_selectDistinct
  · exact h.filter _
  · exact h.filter _

/-- An accepted order is selected with or without masters, and a new one for one of
its masters. -/
theorem mem_bajarilmoqda :
    order ∈ applyOrderTab db queryset "bajarilmoqda" ↔
      order ∈ queryset ∧ ((order.status = .accepted ∨ order.status = .arrived) ∨
        order.status = .new ∧ HasActiveMaster db order) := by
  change order ∈ selectDistinct AssignedTo InProgress queryset db.assignedMasters.rows ↔ _
  rw [mem_selectDistinct]
  refine and_congr_right fun _ => ?_
  constructor
  · rintro (⟨a, ha, horder, hstatus | ⟨hnew, b, hb, hactive⟩⟩ | ⟨-, hstatus | ⟨-, b, hb, -⟩⟩)
    · exact Or.inl hstatus
    · obtain rfl := Option.some.inj hb
      exact Or.inr ⟨hnew, a, ha, horder, hactive⟩
    · exact Or.inl hstatus
    · cases hb
  · rintro (hstatus | ⟨hnew, a, ha, horder, hactive⟩)
    · by_cases hsome : ∃ a ∈ db.assignedMasters.rows, a.order = order.id
      · obtain ⟨a, ha, horder⟩ := hsome
        exact Or.inl ⟨a, ha, horder, Or.inl hstatus⟩
      · exact Or.inr ⟨fun a ha horder => hsome ⟨a, ha, horder⟩, Or.inl hstatus⟩
    · exact Or.inl ⟨a, ha, horder, Or.inr ⟨hnew, a, rfl, hactive⟩⟩

/-- Each of the tabs selects the orders it is the tab of. -/
theorem mem_applyOrderTab (htab : tab ∈ orderTabs) :
    order ∈ applyOrderTab db queryset tab ↔ order ∈ queryset ∧ tabOf db order = some tab := by
  have hfilter : ∀ (p : Order → Prop) [DecidablePred p],
      order ∈ queryset.filter (fun o => p o) ↔ order ∈ queryset ∧ p order := by
    intro p _
    rw [List.mem_filter, decide_eq_true_eq]
  simp only [orderTabs, List.mem_cons, List.not_mem_nil, or_false] at htab
  rcases htab with rfl | rfl | rfl | rfl | rfl
  on_goal 1 =>
    refine (hfilter fun o => o.status = .new ∧ ¬HasActiveMaster db o).trans
      (and_congr_right fun _ => ?_)
  on_goal 2 => refine (hfilter fun o => o.status = .onWay).trans (and_congr_right fun _ => ?_)
  on_goal 3 => refine mem_bajarilmoqda.trans (and_congr_right fun _ => ?_)
  on_goal 4 => refine (hfilter fun o => o.status = .completed).trans (and_congr_right fun _ => ?_)
  on_goal 5 =>
    refine (hfilter fun o => o.status = .cancelled ∨ o.status = .rejected).trans
      (and_congr_right fun _ => ?_)
  -- what is left compares the status of the order with its tab
  all_goals
    unfold tabOf
    cases order.status <;> by_cases hactive : HasActiveMaster db order <;>
      simp [statusTab, hactive]

theorem mem_orderTabs_of_tabOf (h : tabOf db order = some tab) : tab ∈ orderTabs := by
  unfold tabOf at h
  split at h
  · cases h
  · split at h
    · obtain rfl := Option.some.inj h
      decide
    · obtain rfl := Option.some.inj h
      cases order.status <;> decide

theorem exists_tabOf_iff (db : DB) :
    (∃ tab, tabOf db order = some tab) ↔ order.status ≠ .awaitingPayment := by
  unfold tabOf
  by_cases hawaiting : order.status = .awaitingPayment
  · simp [hawaiting]
  · rw [if_neg hawaiting]
    refine iff_of_true ?_ hawaiting
    split
    · exact ⟨_, rfl⟩
    · exact ⟨_, rfl⟩

/-- An order that is under a tab does not await payment. -/
theorem InOneTab.not_awaiting (h : InOneTab db queryset order) :
    order.status ≠ .awaitingPayment := by
  obtain ⟨tab, htab, hcount, -⟩ := h
  have hmem : order ∈ applyOrderTab db queryset tab :=
    List.count_pos_iff.mp (by rw [hcount]; decide)
  exact (exists_tabOf_iff db).mp ⟨tab, ((mem_applyOrderTab htab).mp hmem).2⟩

/-- An order is under one tab, once, when it does not await payment. -/
theorem tabs_partition_orders (db : DB) (hqueryset : queryset.Nodup) (horder : order ∈ queryset) :
    InOneTab db queryset order ↔ order.status ≠ .awaitingPayment := by
  constructor
  · exact InOneTab.not_awaiting
  · intro hawaiting
    obtain ⟨tab, htabOf⟩ := (exists_tabOf_iff db).mpr hawaiting
    have htab := mem_orderTabs_of_tabOf htabOf
    have hmem : order ∈ applyOrderTab db queryset tab :=
      (mem_applyOrderTab htab).mpr ⟨horder, htabOf⟩
    refine ⟨tab, htab, List.count_eq_one_of_mem (nodup_applyOrderTab hqueryset) hmem, ?_⟩
    intro other hother hin
    have hsame := ((mem_applyOrderTab hother).mp hin).2
    exact Option.some.inj (hsame.symm.trans htabOf)

/-- The badge of an order names the tab that selects it, unless the order awaits
payment or is new and has a master. -/
theorem tabOf_eq_statusTab (hawaiting : order.status ≠ .awaitingPayment)
    (hnew : ¬(order.status = .new ∧ HasActiveMaster db order)) :
    tabOf db order = some (statusTab order.status) := by
  unfold tabOf
  rw [if_neg hawaiting, if_neg hnew]

theorem tabs_partition_orders_sample :
    ∃ order ∈ (Sample.world.run {} Sample.accepted).db.orders.rows,
      InOneTab (Sample.world.run {} Sample.accepted).db
        (Sample.world.run {} Sample.accepted).db.orders.rows order := by
  have hstatus : ∃ o ∈ (Sample.world.run {} Sample.accepted).db.orders.rows,
      o.status ≠ .awaitingPayment := by decide
  obtain ⟨order, horder, hawaiting⟩ := hstatus
  exact ⟨order, horder,
    (tabs_partition_orders _ (Table.nodup_keys _).of_map horder).mpr hawaiting⟩

/-- The master submits the check, and the order is under no tab until it is paid. -/
theorem no_tab_for_the_check :
    ¬∀ (cfg : Settings) (w : World), (backend cfg).Reachable w →
      ∀ order ∈ w.db.orders.rows, InOneTab w.db w.db.orders.rows order := by
  intro h
  have hreach : (backend {}).Reachable (Sample.world.run {} Sample.awaiting) :=
    reachable_run Sample.reachable (by decide)
  have hawaiting : ∃ o ∈ (Sample.world.run {} Sample.awaiting).db.orders.rows,
      o.status = .awaitingPayment := by decide
  obtain ⟨order, horder, hstatus⟩ := hawaiting
  exact (h {} _ hreach order horder).not_awaiting hstatus

end Dashboard

end Homex
