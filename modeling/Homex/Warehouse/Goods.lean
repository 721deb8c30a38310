import Homex.Warehouse.StockLedger

/-!
# Conservation of goods

What is on hand, held by the masters or used by orders came from outside: the
opening stock, the movements entered by hand and the corrections of a quantity.
Handing stock out, adjusting it, taking it back and using it keep the balance.

Deleting the movement of a transfer does not: `reverse_stock_movement` moves the
stock on hand and leaves the row of the master alone.
-/

namespace Homex

open Relational Orders Warehouse

/-- No product, no movement, no stock with a master and none used. -/
structure World.NoGoods (w : World) : Prop where
  products : w.db.products = .empty
  movements : w.db.movements = .empty
  inventory : w.db.inventory = .empty
  usages : w.db.usages = .empty

/-- The request does not take back the warehouse side of a transfer. -/
def World.KeepsGoods (w : World) (l : Context × Request) : Prop := DeletesReversible w.db l.2

instance (w : World) (l : Context × Request) : Decidable (w.KeepsGoods l) :=
  inferInstanceAs (Decidable (DeletesReversible _ _))

namespace Warehouse

variable {cfg : Settings} {db db' : DB}

/-- What is on hand, held or used came from outside; usages refer to the rows of
the masters. -/
structure Conserved (db : DB) : Prop where
  goods : ∀ pk, db.onHand pk + db.held pk + db.used pk = db.external pk
  refer : db.UsagesRefer

theorem Posting.conserved {P : Entry → Prop} (hP : ∀ e, P e → e.Conserves)
    (h : Posting P db db') (hi : Conserved db) : Conserved db' :=
  h.induction (fun _ _ _ _ hp he hi =>
    ⟨hp.conserves (hP _ he) hi.refer hi.goods, (hp.used hi.refer).2⟩) hi

/-- A stock request that leaves the transfers in the ledger keeps the goods. -/
theorem conserved_step {w w' : World} {l : Context × Request} (hl : w.StockRequest l)
    (hgoods : w.KeepsGoods l) (hstep : World.Step cfg w l w') (hi : Conserved w.db) :
    Conserved w'.db := by
  rw [hstep.db]
  cases hcreate : l.2.createsProduct with
  | true => exact (posting_create hcreate (hl.2 hcreate)).conserved (fun _ he => he.2) hi
  | false => exact (moved_handle hl.1 hcreate).1.conserved (fun _ he => he.2 hgoods) hi

theorem conserved_of_noGoods {w : World} (h : w.NoGoods) : Conserved w.db where
  goods pk := by
    rw [DB.onHand, DB.held, DB.used, DB.external, h.products, h.movements, h.inventory, h.usages]
    rfl
  refer u hu := by
    rw [h.usages] at hu
    cases hu

/-- For every product, the stock on hand, what the masters hold and what orders
have used make up what came from outside, in every state that stock requests
reach from nothing without taking back one side of a transfer. -/
theorem goods_conserved (cfg : Settings) {w : World}
    (h : ((stockRequests cfg World.NoGoods).restrict World.KeepsGoods).Reachable w) :
    ∀ pk product, w.db.products.find? pk = some product →
      product.quantity + w.db.held pk + w.db.used pk = w.db.external pk := by
  have hconserved : Conserved w.db := by
    refine Transition.System.Reachable.invariant (I := fun w => Conserved w.db) ?_ ?_ h
    · exact fun _ hs => conserved_of_noGoods hs
    · exact fun _ _ _ _ hi hst => conserved_step hst.2.1 hst.1 hst.2.2 hi
  intro pk product hfind
  have honHand : w.db.onHand pk = product.quantity := Table.total_of_find? hfind _
  rw [← honHand, hconserved.goods pk]

end Warehouse

namespace Sample

/-- Nothing in stock, nothing with a master. -/
theorem noGoods : emptyWarehouse.NoGoods := ⟨rfl, rfl, rfl, rfl⟩

/-- The movement that handed stock to master 2 is deleted. -/
def reclaimed : List (Context × Request) :=
  stocked ++ [(at_ 14, .stock (.movementDestroy 12))]

end Sample

theorem Warehouse.goods_conserved_sample :
    ((Sample.emptyWarehouse.run {} Sample.undone).db.products.find? 10).map
        (fun p => p.quantity) = some 800 ∧
      (Sample.emptyWarehouse.run {} Sample.undone).db.held 10 = 200 ∧
      (Sample.emptyWarehouse.run {} Sample.undone).db.external 10 = 1000 := by
  have hreach : ((stockRequests {} World.NoGoods).restrict World.KeepsGoods).Reachable
      (Sample.emptyWarehouse.run {} Sample.undone) :=
    .restrict_restrict (reachable_run_from (.init Sample.noGoods) (by decide) (by decide))
  have hheld : (Sample.emptyWarehouse.run {} Sample.undone).db.held 10 = 200 := by decide
  have hused : (Sample.emptyWarehouse.run {} Sample.undone).db.used 10 = 0 := by decide
  have hquantity : ((Sample.emptyWarehouse.run {} Sample.undone).db.products.find? 10).map
      (fun p => p.quantity) = some 800 := by decide
  refine ⟨hquantity, hheld, ?_⟩
  obtain ⟨product, hfind, hquantity⟩ := Option.map_eq_some_iff.mp hquantity
  have hgoods := goods_conserved {} hreach 10 product hfind
  rw [hquantity, hheld, hused] at hgoods
  exact hgoods.symm

/-- The stock that was handed out is on hand again, and the master still has it. -/
theorem Warehouse.goods_created :
    (stockRequests {} World.NoGoods).Reachable
        (Sample.emptyWarehouse.run {} Sample.reclaimed) ∧
      ((Sample.emptyWarehouse.run {} Sample.reclaimed).db.products.find? 10).map
        (fun p => p.quantity + (Sample.emptyWarehouse.run {} Sample.reclaimed).db.held 10 +
          (Sample.emptyWarehouse.run {} Sample.reclaimed).db.used 10) = some 1300 ∧
      (Sample.emptyWarehouse.run {} Sample.reclaimed).db.external 10 = 900 :=
  ⟨reachable_run_from (.init Sample.noGoods) (by decide) (by decide), by decide, by decide⟩

end Homex
