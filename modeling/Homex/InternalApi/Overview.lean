import Homex.System.Runs

/-!
# The overview of orders

The internal API counts the orders by status for the tabs of a table, and lays
them out on a board, one column a status. Three tables say which statuses there
are: the status an order is shown under, the colours, and the labels. The first
has a status that the others lack, and lacks one that orders have.
-/

namespace Homex

namespace InternalApi

open Relational Orders

/-- `ORDER_STATUS_TO_DASHBOARD`. -/
def orderStatusToDashboard : List (OrderStatus × String) :=
  [(.new, "new"), (.accepted, "accepted"), (.onWay, "on_way"), (.arrived, "in_progress"),
    (.completed, "completed"), (.cancelled, "cancelled"), (.rejected, "cancelled")]

/-- `dashboard_order_status`. -/
def dashboardOrderStatus (order : Order) : String :=
  (orderStatusToDashboard.lookup order.status).getD order.status.value

/-- `ORDER_STATUS_COLORS`. -/
def orderStatusColors : List (String × String) :=
  [("new", "#2563EB"), ("on_way", "#0891B2"), ("in_progress", "#F59E0B"),
    ("completed", "#16A34A"), ("cancelled", "#DC2626"), ("delayed", "#7C3AED")]

/-- The labels, which both views write out. -/
def orderStatusLabels : List (String × String) :=
  [("new", "Yangi"), ("on_way", "Yo'lda"), ("in_progress", "Bajarilmoqda"),
    ("completed", "Bajarildi"), ("cancelled", "Bekor"), ("delayed", "Kechiktirildi")]

/-- The statuses with a tab and a column. -/
def overviewKeys : List String := orderStatusLabels.map Prod.fst

/-- `counts[key] += 1`; the dictionary keeps its keys in order. -/
def increment (counts : List (String × Nat)) (key : String) :
    Except Error (List (String × Nat)) :=
  if key ∈ counts.map Prod.fst then
    .ok (counts.map fun (k, n) => (k, if k = key then n + 1 else n))
  else
    .error (.serverError "KeyError")

/-- The loop over the orders. -/
def countByStatus (counts : List (String × Nat)) :
    List Order → Except Error (List (String × Nat))
  | [] => .ok counts
  | order :: orders => do
      let counts ← increment counts (dashboardOrderStatus order)
      countByStatus counts orders

/-- A tab of the order table. -/
structure Tab where
  key : String
  label : String
  count : Nat
  color : Option String := none
  deriving DecidableEq, Repr

/-- The `tabs` of `OrderMetaAPIView.get`: all orders, then one tab for each status. -/
def OrderMetaAPIView.get (orders : List Order) : Except Error (List Tab) := do
  let keys := orderStatusColors.map Prod.fst
  let counts ← countByStatus (keys.map fun key => (key, 0)) orders
  pure ({ key := "all", label := "Barchasi", count := orders.length } ::
    orderStatusLabels.map fun (key, label) =>
      { key, label, count := (counts.lookup key).getD 0, color := orderStatusColors.lookup key })

/-- A column of the board. -/
structure Column where
  status : String
  label : String
  color : Option String
  count : Nat
  items : List Order
  deriving DecidableEq, Repr

/-- `items[:limit]`. -/
def sliceTo (limit : Int) (items : List Order) : List Order :=
  if 0 ≤ limit then items.take limit.toNat else items.take (items.length - limit.natAbs)

/-- `OrderBoardAPIView.get`, of the orders the category filter leaves. -/
def OrderBoardAPIView.get (limit : Int) (queryset : List Order) : List Column :=
  orderStatusLabels.map fun (key, label) =>
    let items := queryset.filter fun order => dashboardOrderStatus order = key
    { status := key, label, color := orderStatusColors.lookup key, count := items.length
      items := sliceTo limit items }

/-- The tabs are there, and count each order once. -/
def TabsComplete (orders : List Order) : Prop :=
  ∃ tabs, OrderMetaAPIView.get orders = .ok tabs ∧
    (tabs.tail.map Tab.count).sum = orders.length

/-- The order is counted in the column. -/
def Column.Has (column : Column) (order : Order) : Prop :=
  dashboardOrderStatus order = column.status

instance (column : Column) : DecidablePred column.Has :=
  fun _ => inferInstanceAs (Decidable (_ = _))

/-- Every order is in one column, and each column counts those it has. -/
structure BoardComplete (limit : Int) (orders : List Order) : Prop where
  exactly_one : ∀ order ∈ orders,
    ∃! column, column ∈ OrderBoardAPIView.get limit orders ∧ column.Has order
  counted : ∀ column ∈ OrderBoardAPIView.get limit orders,
    column.count = (orders.filter fun order => column.Has order).length
  sum : ((OrderBoardAPIView.get limit orders).map Column.count).sum = orders.length

section Counting

variable {α κ : Type*} [DecidableEq κ] {f : α → κ} {keys : List κ} {rows : List α}

theorem length_filter_cons {k : κ} (hk : k ∉ keys) (rows : List α) :
    (rows.filter fun r => f r = k).length + (rows.filter fun r => f r ∈ keys).length =
      (rows.filter fun r => f r ∈ k :: keys).length := by
  induction rows with
  | nil => rfl
  | cons r rows ih =>
      by_cases hr : f r = k
      · simp [hr, hk] at ih ⊢
        omega
      · by_cases hmem : f r ∈ keys
        · simp [hr, hmem] at ih ⊢
          omega
        · simp [hr, hmem] at ih ⊢
          omega

/-- Counting key by key counts the rows that have one of the keys. -/
theorem sum_length_filter (hkeys : keys.Nodup) :
    (keys.map fun k => (rows.filter fun r => f r = k).length).sum =
      (rows.filter fun r => f r ∈ keys).length := by
  induction keys with
  | nil => simp
  | cons k keys ih =>
      obtain ⟨hk, hkeys⟩ := List.nodup_cons.mp hkeys
      rw [List.map_cons, List.sum_cons, ih hkeys, length_filter_cons hk]

theorem length_filter_mem_iff :
    (rows.filter fun r => f r ∈ keys).length = rows.length ↔ ∀ r ∈ rows, f r ∈ keys := by
  simp [List.length_filter_eq_length_iff]

theorem lookup_map_of_mem {β : Type*} {g : κ → β} {k : κ} (h : k ∈ keys) :
    (keys.map fun k => (k, g k)).lookup k = some (g k) := by
  induction keys with
  | nil => cases h
  | cons k' keys ih =>
      rw [List.map_cons, List.lookup_cons]
      by_cases hk : k = k'
      · subst hk
        simp
      · rw [ih ((List.mem_cons.mp h).resolve_left hk), beq_false_of_ne hk]

end Counting

theorem nodup_overviewKeys : overviewKeys.Nodup := by decide

theorem orderStatusColors_keys : orderStatusColors.map Prod.fst = overviewKeys := by decide

/-- The statuses without a tab and a column. -/
theorem dashboardOrderStatus_mem (order : Order) :
    dashboardOrderStatus order ∈ overviewKeys ↔
      order.status ≠ .accepted ∧ order.status ≠ .awaitingPayment := by
  unfold dashboardOrderStatus
  cases order.status <;> decide

variable {orders : List Order} {limit : Int}

/-- What one order does to the counts of the keys. -/
theorem increment_map (g : String → Nat) (key : String) (keys : List String) :
    increment (keys.map fun k => (k, g k)) key =
      if key ∈ keys then .ok (keys.map fun k => (k, if k = key then g k + 1 else g k))
      else .error (.serverError "KeyError") := by
  simp [increment, Function.comp_def]

/-- The loop counts the orders of each key, or fails at the first that has none. -/
theorem countByStatus_map (g : String → Nat) (keys : List String) (orders : List Order) :
    countByStatus (keys.map fun k => (k, g k)) orders =
      if ∀ order ∈ orders, dashboardOrderStatus order ∈ keys then
        .ok (keys.map fun k =>
          (k, g k + (orders.filter fun order => dashboardOrderStatus order = k).length))
      else .error (.serverError "KeyError") := by
  induction orders generalizing g with
  | nil => simp [countByStatus]
  | cons order orders ih =>
      rw [countByStatus, increment_map]
      by_cases hkey : dashboardOrderStatus order ∈ keys
      · rw [if_pos hkey]
        change countByStatus (keys.map fun k =>
          (k, if k = dashboardOrderStatus order then g k + 1 else g k)) orders = _
        rw [ih fun k => if k = dashboardOrderStatus order then g k + 1 else g k]
        have hcount : ∀ k, (if k = dashboardOrderStatus order then g k + 1 else g k) +
              (orders.filter fun order => dashboardOrderStatus order = k).length =
            g k +
              ((order :: orders).filter fun order => dashboardOrderStatus order = k).length := by
          intro k
          by_cases hk : dashboardOrderStatus order = k
          · simp [hk, Nat.add_assoc, Nat.add_comm 1]
          · simp [hk, Ne.symm hk]
        simp only [hcount, List.forall_mem_cons, hkey, true_and]
      · rw [if_neg hkey, if_neg fun h => hkey (h order List.mem_cons_self)]
        rfl

/-- The tabs are those of the counts of the loop. -/
theorem get_eq (orders : List Order) :
    OrderMetaAPIView.get orders =
      if ∀ order ∈ orders, dashboardOrderStatus order ∈ overviewKeys then
        .ok ({ key := "all", label := "Barchasi", count := orders.length } ::
          orderStatusLabels.map fun (key, label) =>
            { key, label, color := orderStatusColors.lookup key
              count := (orders.filter fun order => dashboardOrderStatus order = key).length })
      else .error (.serverError "KeyError") := by
  rw [OrderMetaAPIView.get]
  simp only [countByStatus_map, orderStatusColors_keys]
  by_cases h : ∀ order ∈ orders, dashboardOrderStatus order ∈ overviewKeys
  · rw [if_pos h, if_pos h]
    refine congrArg (fun tabs => Except.ok (_ :: tabs)) (List.map_congr_left ?_)
    rintro ⟨key, label⟩ hentry
    have hmem : key ∈ overviewKeys := List.mem_map_of_mem hentry
    simp [lookup_map_of_mem hmem]
  · rw [if_neg h, if_neg h]
    rfl

theorem tabsComplete_iff :
    TabsComplete orders ↔ ∀ order ∈ orders, dashboardOrderStatus order ∈ overviewKeys := by
  unfold TabsComplete
  rw [get_eq]
  by_cases h : ∀ order ∈ orders, dashboardOrderStatus order ∈ overviewKeys
  · refine iff_of_true ⟨_, if_pos h, ?_⟩ h
    have hcounts : (overviewKeys.map fun k =>
        (orders.filter fun order => dashboardOrderStatus order = k).length).sum =
          (orders.filter fun order => dashboardOrderStatus order ∈ overviewKeys).length :=
      sum_length_filter nodup_overviewKeys
    rw [length_filter_mem_iff.mpr h] at hcounts
    simpa [overviewKeys, Function.comp_def] using hcounts
  · rw [if_neg h]
    refine iff_of_false ?_ h
    rintro ⟨tabs, htabs, -⟩
    cases htabs

theorem boardComplete_iff :
    BoardComplete limit orders ↔ ∀ order ∈ orders, dashboardOrderStatus order ∈ overviewKeys := by
  constructor
  · intro h order horder
    obtain ⟨column, ⟨hcolumn, hhas⟩, -⟩ := h.exactly_one order horder
    obtain ⟨entry, hentry, rfl⟩ := List.mem_map.mp hcolumn
    rw [show dashboardOrderStatus order = entry.1 from hhas]
    exact List.mem_map_of_mem hentry
  · intro h
    refine ⟨fun order horder => ?_, fun column hcolumn => ?_, ?_⟩
    · obtain ⟨entry, hentry, hkey⟩ := List.mem_map.mp (h order horder)
      refine ⟨_, ⟨List.mem_map_of_mem hentry, hkey.symm⟩, ?_⟩
      rintro column ⟨hcolumn, hhas⟩
      obtain ⟨other, hother, rfl⟩ := List.mem_map.mp hcolumn
      have hsame : other = entry :=
        List.inj_on_of_nodup_map nodup_overviewKeys hother hentry
          ((show dashboardOrderStatus order = other.1 from hhas).symm.trans hkey.symm)
      rw [hsame]
    · obtain ⟨entry, -, rfl⟩ := List.mem_map.mp hcolumn
      rfl
    · have hcounts : (OrderBoardAPIView.get limit orders).map Column.count =
          overviewKeys.map fun k =>
            (orders.filter fun order => dashboardOrderStatus order = k).length := by
        simp [OrderBoardAPIView.get, overviewKeys, Function.comp_def]
      rw [hcounts, sum_length_filter nodup_overviewKeys, length_filter_mem_iff]
      exact h

/-- The overview is complete when no order is accepted or awaits payment, and only then. -/
theorem overview_complete (limit : Int) (orders : List Order) :
    (TabsComplete orders ∧ BoardComplete limit orders) ↔
      ∀ order ∈ orders, order.status ≠ .accepted ∧ order.status ≠ .awaitingPayment := by
  rw [tabsComplete_iff, boardComplete_iff, and_self]
  simp only [dashboardOrderStatus_mem]

/-- With an accepted order, the tabs are an error. -/
theorem accepted_order_breaks_overview :
    ¬∀ (cfg : Settings) (w : World), (backend cfg).Reachable w → ∀ limit,
      TabsComplete w.db.orders.rows ∧ BoardComplete limit w.db.orders.rows := by
  intro h
  have hreach : (backend {}).Reachable (Sample.world.run {} Sample.accepted) :=
    reachable_run Sample.reachable (by decide)
  obtain ⟨tabs, htabs, -⟩ := (h {} _ hreach 20).1
  have herror :
      (OrderMetaAPIView.get (Sample.world.run {} Sample.accepted).db.orders.rows).toOption =
        none := by decide
  rw [htabs] at herror
  cases herror

end InternalApi

end Homex
