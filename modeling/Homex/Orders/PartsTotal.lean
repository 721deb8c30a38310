import Homex.Orders.Totals
import Homex.Orders.UsedItems

/-!
# The total is the sum of its parts

Every writer that computes the total of an order computes it from the parts it
saves. Two do not keep the two together. The dashboard takes a total as input, and
recalculates it only when a part or the service is in the payload too. And a check
whose stored line totals sum to zero adds the unrounded ones instead, and rounds
the parts and the total apart when those are negative and end in half a
hundredth.
-/

namespace Homex

open Relational Action Orders Wallet Warehouse Payme

variable {cfg : Settings} {ctx : Context} {db db' : DB} {r : Request} {o o' : Order}

namespace Orders.OrderCompleteSerializer

/-- The inventory total of a check and its order total round alike. -/
def RoundsAlike (db : DB) (o : Order) (data : OrderCompletePayload) : Prop :=
  usageTotal db o.id + ((lines db data.usedItems).map Money.store).sum ≠ 0 ∨
    0 ≤ (lines db data.usedItems).sum ∨ (lines db data.usedItems).sum % 100 ≠ 50

/-- Rounding the total of the parts is rounding the inventory total, when that is
not half way below zero. -/
theorem storedTotal_eq {serviceFee bonusUsed total : Int}
    (h : 0 ≤ total ∨ total % 100 ≠ 50) :
    storedTotal serviceFee bonusUsed total =
      max (serviceFee + Money.store total - bonusUsed) 0 := by
  unfold storedTotal Money.store Money.toProduct
  rcases max_cases (serviceFee * 100 + total - bonusUsed * 100) 0 with ⟨hmax, hle⟩ | ⟨hmax, hlt⟩
  · rw [hmax, if_pos hle]
    split <;> omega
  · rw [hmax, if_pos (le_refl 0)]
    split <;> omega

/-- The row of a check whose rounding agrees has the total of its parts. -/
theorem checked_totalAmount {data : OrderCompletePayload} {inMemory : Int}
    (hrounds : RoundsAlike db o data)
    (hitems : useItems ctx o 0 data.usedItems db = (.ok inMemory, db')) :
    (checked ctx data o (checkTotal db' o.id inMemory)).totalAmount =
      (checked ctx data o (checkTotal db' o.id inMemory)).partsTotal := by
  obtain ⟨rfl, htotal⟩ := useItems_ok hitems
  apply storedTotal_eq
  unfold checkTotal
  rw [htotal]
  rcases hrounds with hne | hrounds
  · rw [if_neg hne]
    right
    unfold Money.toProduct
    omega
  · split
    · exact hrounds
    · right
      unfold Money.toProduct
      omega

end Orders.OrderCompleteSerializer

/-- The order has the total of its parts. -/
def Orders.Order.Balanced (o : Order) : Prop := o.totalAmount = o.partsTotal

theorem Orders.Order.balanced_recalculateTotal (o : Order) : o.recalculateTotal.Balanced := rfl

/-- The request writes no total to the order but the sum of its parts. -/
def Request.Balances (db : DB) (o : Order) : Request → Prop
  | .masterComplete user pk data =>
      pk = o.id → o.master = some user → o.status ∈ activeOrderStatuses →
        OrderCompleteSerializer.RoundsAlike db o data
  | .dashboardUpdate pk data =>
      pk = o.id → Dashboard.DashboardOrderSerializer.recalculates data = false →
        ∀ total, data.totalAmount = some total → total = o.partsTotal
  | _ => True

theorem Creates.balanced (h : Creates ctx r o) : o.Balanced := by
  cases h <;> rfl

open Dashboard DashboardOrderSerializer in
/-- A patch that does not recalculate has none of the parts. -/
theorem partsTotal_setFields {data : Dashboard.OrderPayload} (o : Order)
    (hrec : recalculates data = false) : (setFields data o).partsTotal = o.partsTotal := by
  simp only [recalculates, Bool.or_eq_false_iff, Option.isSome_eq_false_iff,
    Option.isNone_iff_eq_none] at hrec
  obtain ⟨⟨⟨hfee, hinventory⟩, hbonus⟩, -⟩ := hrec
  unfold Order.partsTotal setFields
  rw [hfee, hinventory, hbonus]
  rfl

open Dashboard DashboardOrderSerializer in
theorem balanced_updated {data data' : Dashboard.OrderPayload}
    (hdata : data' = data ∨ ∃ a, data' = withAddress data a)
    (hk : recalculates data = false → ∀ total, data.totalAmount = some total →
      total = o.partsTotal) (hi : o.Balanced) : (updated data' o).Balanced := by
  have hrec' : recalculates data' = recalculates data := by
    rcases hdata with rfl | ⟨a, rfl⟩ <;> rfl
  have htotal' : data'.totalAmount = data.totalAmount := by
    rcases hdata with rfl | ⟨a, rfl⟩ <;> rfl
  unfold updated
  split
  · exact Order.balanced_recalculateTotal _
  · next hrec =>
      have hrec : recalculates data' = false := by simpa using hrec
      unfold Order.Balanced
      rw [partsTotal_setFields o hrec]
      change data'.totalAmount.getD o.totalAmount = o.partsTotal
      rw [htotal']
      cases htotal : data.totalAmount with
      | none => exact hi
      | some total => exact hk (hrec' ▸ hrec) total htotal

theorem Rewrites.balanced (h : Rewrites ctx r o o') (hk : r.Balances db o) (hi : o.Balanced) :
    o'.Balanced := by
  cases h with
  | payOnline _ _ => exact Order.balanced_recalculateTotal _
  | useInventory _ _ => exact Order.balanced_recalculateTotal _
  | dashboardUpdate hdata _ => exact balanced_updated hdata (hk rfl) hi
  | internalUpdate _ => exact Order.balanced_recalculateTotal _
  | _ => exact hi

/-- A request other than a check. -/
theorem balanced_of_orderStep {o? : Option Order} (h : OrderStep ctx db db' r o? (some o'))
    (hcheck : ∀ user pk data, r ≠ .masterComplete user pk data)
    (hk : ∀ o, o? = some o → r.Balances db o) (hi : ∀ o, o? = some o → o.Balanced) :
    o'.Balanced := by
  cases h with
  | same => exact hi o' rfl
  | created hc => exact hc.balanced
  | @rewritten o _ hr => exact hr.balanced (hk o rfl) (hi o rfl)
  | checked hr _ _ => exact absurd hr (hcheck _ _ _)
  | @completed _ _ o _ => exact hi o rfl
  | @flagged _ o _ _ _ => exact hi o rfl
  | @unflagged _ o _ _ => exact hi o rfl

/-- Every order has the total of its parts. -/
def AllBalanced (db : DB) : Prop := ∀ id o, db.orders.find? id = some o → o.Balanced

theorem allBalanced_of_masterComplete {user pk : Uuid} {data : OrderCompletePayload}
    (hk : ∀ o, db.orders.find? o.id = some o → (Request.masterComplete user pk data).Balances db o)
    (hi : AllBalanced db) :
    AllBalanced (handle cfg ctx (.masterComplete user pk data) db).2 := by
  rw [handle_snd]
  rcases hview : view cfg ctx (.masterComplete user pk data) db with ⟨e | response, db'⟩
  · -- refused: the orders are as they were
    have hclean : Clean Frame (view cfg ctx (.masterComplete user pk data)) :=
      clean_view (fun _ => by simp) (fun _ => by simp)
    have hframe : Frame db db' := hclean db e db' hview
    intro id o hfind
    rw [hframe.orders] at hfind
    exact hi id o hfind
  · obtain ⟨o', hrun, -⟩ := map_eq_ok.mp hview
    obtain ⟨o, inMemory, db₁, hfind, rfl, hmaster, hst, hitems, rfl, rfl⟩ := masterComplete_ok hrun
    have hframe := within_useItems _ _ _ hitems
    intro id o₁ hfind₁
    change (db₁.orders.save _).find? id = some o₁ at hfind₁
    rw [hframe.orders, find?_of_save (OrderCompleteSerializer.checked ctx data o
      (checkTotal db₁ o.id inMemory)) hfind rfl] at hfind₁
    split at hfind₁
    · rw [← Option.some.inj hfind₁]
      exact OrderCompleteSerializer.checked_totalAmount (hk o hfind rfl hmaster hst) hitems
    · exact hi id o₁ hfind₁

/-- The request writes no total but the sum of the parts. -/
def KeepsBalance (w : World) (l : Context × Request) : Prop :=
  ∀ o, w.db.orders.find? o.id = some o → l.2.Balances w.db o

/-- The total is the sum of its parts, in every run in which no dashboard patch
writes another total without recalculating it, and no check rounds its total apart
from its parts. -/
theorem total_is_sum_of_parts (cfg : Settings) {w : World}
    (h : ((backend cfg).restrict KeepsBalance).Reachable w) {id : Uuid} {o : Order}
    (hfind : w.db.orders.find? id = some o) :
    o.totalAmount = max (o.serviceFee + o.inventoryTotal - o.bonusUsed) 0 := by
  refine h.invariant_of_guard (I := fun w => AllBalanced w.db) ?_ ?_ id o hfind
  · rintro w ⟨horders, -, -, -⟩ id o hfind
    rw [horders] at hfind
    cases hfind
  · rintro w ⟨ctx, r⟩ w' - hi hk hstep
    by_cases hcheck : ∃ user pk data, r = .masterComplete user pk data
    · obtain ⟨user, pk, data, rfl⟩ := hcheck
      rw [hstep.db]
      exact allBalanced_of_masterComplete hk hi
    · intro id o' hfind'
      have horder := orderStep_of_effect hstep.effect id
      rw [hfind'] at horder
      refine balanced_of_orderStep horder (fun user pk data hr => hcheck ⟨user, pk, data, hr⟩)
        (fun o hfind => ?_) (hi id)
      obtain rfl : o.id = id := Table.key_of_find? hfind
      exact hk o hfind

/-- The dashboard writes the total it reads, then a bonus, and the master submits a check
with a piece from the stock. -/
def Sample.patchedAndChecked : List (Context × Request) :=
  Sample.accepted ++
    [(Sample.at_ 21, .dashboardUpdate 10 { totalAmount := some 100000 }),
      (Sample.at_ 22, .dashboardUpdate 10 { bonusUsed := some 5000 }),
      (Sample.at_ 23, .masterComplete 2 10
        { serviceFee := 110000, usedItems := [⟨6, 100, Sample.piece_pos⟩] })]

theorem total_is_sum_of_parts_sample :
    ((Sample.world.run {} Sample.patchedAndChecked).db.orders.find? 10).map (fun o =>
        (o.serviceFee, o.inventoryTotal, o.bonusUsed)) = some (110000, 2000, 5000) ∧
      ((Sample.world.run {} Sample.patchedAndChecked).db.orders.find? 10).map Order.totalAmount =
        ((Sample.world.run {} Sample.patchedAndChecked).db.orders.find? 10).map
          Order.partsTotal := by
  have hparts : ∀ o ∈ (Sample.world.run {} Sample.accepted).db.orders.rows,
      o.partsTotal = 100000 := by decide
  have hreach : ((backend {}).restrict KeepsBalance).Reachable
      (Sample.world.run {} Sample.patchedAndChecked) := by
    refine reachable_run_restrict (.init ⟨rfl, rfl, rfl, rfl⟩) (by decide)
      ⟨fun _ _ => trivial, fun o hfind _ _ total htotal => ?_, fun _ _ _ hrec => ?_,
        fun _ _ _ _ _ => Or.inr (Or.inl ?_), trivial⟩
    · exact (Option.some.inj htotal).symm.trans (hparts o (Table.mem_of_find? hfind)).symm
    · cases hrec
    · decide
  refine ⟨by decide, ?_⟩
  cases hfind : (Sample.world.run {} Sample.patchedAndChecked).db.orders.find? 10 with
  | none => rfl
  | some o => exact congrArg some (total_is_sum_of_parts {} hreach hfind)

/-- The dashboard patches the total alone, and the order keeps it. -/
theorem total_apart_from_parts :
    (backend {}).Reachable (Sample.world.run {} (Sample.accepted ++
        [(Sample.at_ 21, .dashboardUpdate 10 { totalAmount := some 1 })])) ∧
      ((Sample.world.run {} (Sample.accepted ++
        [(Sample.at_ 21, .dashboardUpdate 10 { totalAmount := some 1 })])).db.orders.find? 10).map
          (fun o => (o.serviceFee, o.inventoryTotal, o.bonusUsed, o.totalAmount)) =
            some (100000, 0, 0, 1) :=
  ⟨reachable_run Sample.reachable (by decide), by decide⟩

end Homex
