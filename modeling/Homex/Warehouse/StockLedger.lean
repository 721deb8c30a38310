import Homex.System.Runs
import Homex.Warehouse.Requests

/-!
# The stock ledger

The requests that move stock, one atomic step each. Every entry they post is
journaled, so the quantity of a product is the net of its movements in every
state that is reached from an empty warehouse. A request that is refused moves
no stock, and no request but the creation of a product makes a quantity
negative.
-/

namespace Homex

open Relational Action Code Orders Profiles Wallet Warehouse Dashboard

/-- No product and no movement yet. -/
def World.EmptyWarehouse (w : World) : Prop :=
  w.db.products = .empty ∧ w.db.movements = .empty

/-- The request creates a product. -/
def Request.createsProduct : Request → Bool
  | .stock (.productCreate _) => true
  | _ => false

/-- A request that moves stock. The id that `uuid4` draws for the movement of an
opening stock is not one that a movement has. -/
def World.StockRequest (w : World) (l : Context × Request) : Prop :=
  l.2.movesStock = true ∧
    (l.2.createsProduct = true → w.db.movements.find? (l.1.uuid .movement) = none)

instance (w : World) (l : Context × Request) : Decidable (w.StockRequest l) :=
  inferInstanceAs (Decidable (_ ∧ (_ → _ = none)))

/-- Every sequence of requests that move stock. -/
def stockRequests (cfg : Settings) (init : World → Prop) :
    Transition.System World (Context × Request) :=
  (Transition.System.mk init (World.Step cfg)).restrict World.StockRequest

/-- The sum of the quantities of the product's movements of a type. -/
def DB.movedQuantity (db : DB) (product : Uuid) (type : MovementType) : Int :=
  db.movements.sum fun m =>
    if m.product = product ∧ m.movementType = type then m.quantity else 0

namespace Warehouse

variable {cfg : Settings} {ctx : Context} {db db' : DB}

/-- The quantities and the movements are the same. -/
structure Unmoved (db db' : DB) : Prop where
  products : ∀ pk, (db'.products.find? pk).map (fun p => p.quantity) =
    (db.products.find? pk).map fun p => p.quantity
  inventory : ∀ pk, (db'.inventory.find? pk).map (fun i => i.quantity) =
    (db.inventory.find? pk).map fun i => i.quantity
  movements : db'.movements = db.movements

instance : Std.Refl Unmoved := ⟨fun _ => ⟨fun _ => rfl, fun _ => rfl, rfl⟩⟩

instance : IsTrans DB Unmoved :=
  ⟨fun _ _ _ h h' => ⟨fun pk => (h'.products pk).trans (h.products pk),
    fun pk => (h'.inventory pk).trans (h.inventory pk), h'.movements.trans h.movements⟩⟩

section Refusals

variable {pk : Uuid}

theorem unmoved_saveProduct {product new : WarehouseProduct}
    (hfind : db.products.find? (key new) = some product)
    (hquantity : new.quantity = product.quantity) :
    Unmoved db { db with products := db.products.save new } where
  products := Table.rel_of_save (R := fun p? p'? => p'?.map (fun p => p.quantity) =
    p?.map fun p => p.quantity) (fun _ => rfl) hfind (congrArg some hquantity)
  inventory _ := rfl
  movements := rfl

theorem unmoved_saveInventory {item new : MasterInventory}
    (hfind : db.inventory.find? (key new) = some item) (hquantity : new.quantity = item.quantity) :
    Unmoved db { db with inventory := db.inventory.save new } where
  products _ := rfl
  inventory := Table.rel_of_save (R := fun i? i'? => i'?.map (fun i => i.quantity) =
    i?.map fun i => i.quantity) (fun _ => rfl) hfind (congrArg some hquantity)
  movements := rfl

theorem clean_correctQuantity {R : DB → DB → Prop} [Std.Refl R] {product : WarehouseProduct}
    {q : Option Int} : Clean R (correctQuantity ctx product q) := by
  cases q with
  | none => exact within_pure.clean
  | some q => exact clean_ite within_pure.clean (.bind_total clean_atomic fun _ => total_pure)

theorem clean_adjustItem {R : DB → DB → Prop} [Std.Refl R] {item : MasterInventory}
    {q : Option Int} : Clean R (adjustItem ctx item q) := by
  cases q with
  | none => exact within_pure.clean
  | some q => exact clean_ite within_pure.clean (.bind_total clean_atomic fun _ => total_pure)

/-- The rows of products and of the masters' stock stay. -/
structure KeepsRows (db db' : DB) : Prop where
  products : ∀ pk, (db.products.find? pk).isSome → (db'.products.find? pk).isSome
  inventory : ∀ pk, (db.inventory.find? pk).isSome → (db'.inventory.find? pk).isSome

instance : Std.Refl KeepsRows := ⟨fun _ => ⟨fun _ => id, fun _ => id⟩⟩

instance : IsTrans DB KeepsRows :=
  ⟨fun _ _ _ h h' => ⟨fun pk => h'.products pk ∘ h.products pk,
    fun pk => h'.inventory pk ∘ h.inventory pk⟩⟩

theorem keepsRows_saveProduct {p : WarehouseProduct} : Within KeepsRows (saveProduct p) :=
  within_modify fun _ => ⟨fun _ h => by rwa [Table.isSome_find?_save], fun _ => id⟩

theorem keepsRows_saveInventory {i : MasterInventory} : Within KeepsRows (saveInventory i) :=
  within_modify fun _ => ⟨fun _ => id, fun _ h => by rwa [Table.isSome_find?_save]⟩

theorem keepsRows_createMovement {m : StockMovement} : Within KeepsRows (createMovement m) :=
  within_write fun db db' h => by
    obtain ⟨movements, -, rfl⟩ := Option.map_eq_some_iff.mp h
    exact ⟨fun _ => id, fun _ => id⟩

theorem keepsRows_correctQuantity {product : WarehouseProduct} {q : Option Int} :
    Within KeepsRows (correctQuantity ctx product q) := by
  cases q with
  | none => exact within_pure
  | some q =>
      exact within_ite within_pure (.bind (.atomic (.bind (.bind within_fetch fun _ =>
        .bind within_require fun _ => .bind keepsRows_saveProduct fun _ => within_pure) fun _ =>
        .bind keepsRows_createMovement fun _ => within_pure)) fun _ => within_pure)

theorem keepsRows_adjustItem {item : MasterInventory} {q : Option Int} :
    Within KeepsRows (adjustItem ctx item q) := by
  cases q with
  | none => exact within_pure
  | some q =>
      exact within_ite within_pure (.bind (.atomic (.bind within_require fun _ =>
        .bind within_fetch fun _ => .bind within_fetch fun _ => within_ite within_pure
          (.bind within_require fun _ => .bind keepsRows_saveProduct fun _ =>
            .bind keepsRows_saveInventory fun _ => .bind within_fetch fun _ =>
            .bind keepsRows_createMovement fun _ => within_pure))) fun _ => within_pure)

/-- After the columns are saved nothing is written that stays. -/
theorem clean_productUpdate {data : ProductPayload} :
    Clean Unmoved (DashboardWarehouseProductDetailAPIView.performUpdate ctx pk data) := by
  intro db e db' h
  rcases productUpdate_cases h with rfl | ⟨product, db₁, hfind, hsaved, h⟩
  · exact Std.Refl.refl _
  have hcolumns : Unmoved db db₁ ∧ (db₁.products.find? pk).isSome := by
    rcases hsaved with rfl | ⟨new, hnew, hquantity, rfl⟩
    · exact ⟨Std.Refl.refl _, by rw [hfind]; rfl⟩
    · exact ⟨unmoved_saveProduct hnew hquantity, by rw [Table.isSome_find?_save, hfind]; rfl⟩
  rcases bind_error h with hcorrect | ⟨_, db₂, hcorrect, hfetch⟩
  · exact trans_of Unmoved hcolumns.1 (clean_correctQuantity db₁ e db' hcorrect)
  · obtain ⟨p, hp⟩ := Option.isSome_iff_exists.mp
      ((keepsRows_correctQuantity db₁ _ db₂ hcorrect).products pk hcolumns.2)
    cases (run_fetch_some (f := fun db : DB => db.products.find? pk) hp).symm.trans hfetch

theorem clean_inventoryUpdate {data : InventoryPayload} :
    Clean Unmoved (DashboardMasterInventoryDetailAPIView.performUpdate ctx pk data) := by
  intro db e db' h
  rcases inventoryUpdate_cases h with rfl | ⟨item, db₁, hfind, hsaved, h⟩
  · exact Std.Refl.refl _
  have hcolumns : Unmoved db db₁ ∧ (db₁.inventory.find? pk).isSome := by
    rcases hsaved with rfl | ⟨new, hnew, -, hquantity, rfl⟩
    · exact ⟨Std.Refl.refl _, by rw [hfind]; rfl⟩
    · exact ⟨unmoved_saveInventory hnew hquantity, by rw [Table.isSome_find?_save, hfind]; rfl⟩
  rcases bind_error h with hadjust | ⟨_, db₂, hadjust, hfetch⟩
  · exact trans_of Unmoved hcolumns.1 (clean_adjustItem db₁ e db' hadjust)
  · obtain ⟨i, hi⟩ := Option.isSome_iff_exists.mp
      ((keepsRows_adjustItem db₁ _ db₂ hadjust).inventory pk hcolumns.2)
    cases (run_fetch_some (f := fun db : DB => db.inventory.find? pk) hi).symm.trans hfetch

/-- A stock request that is refused moves no stock. -/
theorem clean_stock {request : StockRequest} (hcreate : ∀ data, request ≠ .productCreate data) :
    Clean Unmoved (request.view ctx) := by
  cases request with
  | productCreate data => exact absurd rfl (hcreate data)
  | productUpdate pk data => exact .map clean_productUpdate
  | movementCreate data =>
      exact .map (.bind within_requirePk fun _ => .bind within_requirePk fun _ => clean_atomic)
  | movementUpdate pk data =>
      exact .map (.bind within_fetch fun _ => .bind within_requirePk fun _ =>
        .bind within_requirePk fun _ => .bind within_require fun _ =>
        .bind within_require fun _ => .bind within_require fun _ => .bind within_require fun _ =>
        (total_modify.bind fun _ => total_pure).clean)
  | movementDestroy pk =>
      exact .map (.bind within_fetch fun _ => .bind_total clean_atomic fun _ => total_modify)
  | inventoryCreate master product quantity =>
      exact .map (.bind within_fetch fun _ => .bind within_fetch fun _ => clean_atomic)
  | inventoryUpdate pk data => exact .map clean_inventoryUpdate
  | inventoryDestroy pk =>
      exact .map (.bind within_fetch fun _ => .bind_total clean_atomic fun _ => total_pure)
  | adminAssign master data =>
      exact .map (.bind within_fetch fun _ => .bind within_fetch fun _ => clean_atomic)
  | adminUpdate master item quantity => exact .map (.bind within_fetch fun _ => clean_atomic)
  | adminDelete master item =>
      exact .map (.bind within_fetch fun _ => .bind_total clean_atomic fun _ => total_pure)

end Refusals

section Requests

variable {r : Request}

/-- The movement that the request deletes. -/
def deletedMovement : Request → Option Uuid
  | .stock (.movementDestroy pk) => some pk
  | _ => none

/-- A movement that the request deletes is reversible. -/
def DeletesReversible (db : DB) (r : Request) : Prop :=
  ∀ m ∈ (deletedMovement r).bind db.movements.find?, Reversible db m

instance : Decidable (DeletesReversible db r) := inferInstanceAs (Decidable (∀ m ∈ _, _))

/-- The entries a request posts; they keep the goods too unless the request takes
back one side of a transfer. -/
def Allowed (db : DB) (r : Request) (e : Entry) : Prop :=
  e.Journaled ∧ (DeletesReversible db r → e.Conserves)

theorem Moved.allowed (h : Moved Entry.Balanced db db') : Moved (Allowed db r) db db' :=
  h.mono fun _ he => ⟨he.1, fun _ => he.2⟩

/-- What a request other than the creation of a product posts. -/
theorem moved_handle (hr : r.movesStock = true)
    (hcreate : r.createsProduct = false) :
    Moved (Allowed db r) db (handle cfg ctx r db).2 := by
  rw [handle_snd]
  cases r with
  | stock request =>
      by_cases hdestroy : ∃ pk, request = .movementDestroy pk
      · obtain ⟨pk, rfl⟩ := hdestroy
        rw [view, StockRequest.view, map_snd]
        refine (moved_movementDestroy rfl).mono fun e he => ⟨he.1, fun horigin => he.2 ?_⟩
        exact fun m hm => horigin m hm
      · refine Moved.allowed (moved_stock ?_ (not_exists.mp hdestroy) db _ _ rfl)
        rintro data rfl
        cases hcreate
  | useInventory user pk data => exact (Within.map moved_useInventory db _ _ rfl).allowed
  | masterComplete user pk data => exact (Within.map moved_masterComplete db _ _ rfl).allowed
  | _ => cases hr

theorem unmoved_of_error (hr : r.movesStock = true) (hcreate : r.createsProduct = false)
    {e : Error} (h : (handle cfg ctx r db).1 = .error e) :
    Unmoved db (handle cfg ctx r db).2 := by
  obtain ⟨e', hview⟩ := view_of_handle_error h
  cases r with
  | stock request =>
      refine clean_stock ?_ db e' _ hview
      rintro data rfl
      cases hcreate
  | useInventory user pk data => exact Clean.map clean_atomic db e' _ hview
  | masterComplete user pk data =>
      have hclean : Clean Unmoved (MasterOrderCompleteView.post ctx user pk data) :=
        .bind within_getMasterOrder fun _ => .bind within_completeValidate fun _ => clean_atomic
      exact hclean.map db e' _ hview
  | _ => cases hr

/-- What the creation of a product posts. -/
theorem posting_create (hcreate : r.createsProduct = true)
    (hfresh : db.movements.find? (ctx.uuid .movement) = none) :
    Posting Entry.Balanced db (handle cfg ctx r db).2 := by
  rw [handle_snd]
  cases r with
  | stock request =>
      cases request with
      | productCreate data =>
          rw [view, StockRequest.view, map_snd]
          exact posting_productCreate hfresh rfl
      | _ => cases hcreate
  | _ => cases hcreate

end Requests

/-- Entries that a law allows carry it from one database to the next. -/
theorem Posting.induction {P : Entry → Prop} {I : DB → Prop}
    (hposts : ∀ db db' product e, Posts db db' product e → P e → I db → I db')
    (h : Posting P db db') (hi : I db) : I db' := by
  induction h with
  | refl => exact hi
  | tail _ hstep ih =>
      obtain ⟨product, e, hp, he⟩ := hstep
      exact hposts _ _ product e hp he ih

/-- The stock on hand is the net of the movements. -/
def Journals (db : DB) : Prop := ∀ pk, db.onHand pk = db.net pk

theorem Posting.journals {P : Entry → Prop} (hP : ∀ e, P e → e.Journaled)
    (h : Posting P db db') (hi : Journals db) : Journals db' :=
  h.induction (fun _ _ _ _ hp he hi => hp.journaled (hP _ he) hi) hi

/-- A stock request keeps the ledger. -/
theorem journals_step {w w' : World} {l : Context × Request} (hl : w.StockRequest l)
    (hstep : World.Step cfg w l w') (hi : Journals w.db) : Journals w'.db := by
  rw [hstep.db]
  cases hcreate : l.2.createsProduct with
  | true => exact (posting_create hcreate (hl.2 hcreate)).journals (fun _ he => he.1) hi
  | false => exact (moved_handle hl.1 hcreate).1.journals (fun _ he => he.1) hi

theorem journals_of_reachable {w : World}
    (h : (stockRequests cfg World.EmptyWarehouse).Reachable w) : Journals w.db := by
  refine Transition.System.Reachable.invariant_of_guard (I := fun w => Journals w.db) ?_ ?_ h
  · intro s hs pk
    rw [DB.onHand, DB.net, hs.1, hs.2]
    rfl
  · intro s l s' _ hi hl hstep
    exact journals_step hl hstep hi

theorem net_eq (db : DB) (pk : Uuid) :
    db.net pk = db.movedQuantity pk .in - db.movedQuantity pk .out := by
  refine eq_sub_of_add_eq ?_
  unfold DB.net Table.total DB.movedQuantity
  rw [← Table.sum_add]
  refine Table.sum_congr _ fun m _ => ?_
  cases hm : m.movementType with
  | «in» => simp [StockMovement.signed, hm, MovementType.delta]
  | out => by_cases hpk : m.product = pk <;>
      simp [StockMovement.signed, hm, MovementType.delta, hpk]

/-- The quantity of every product is the sum of its IN movements minus the sum of
its OUT movements, in every state that stock requests reach from an empty
warehouse. A stock request other than the creation of a product that is refused
moves no stock, and none makes a quantity negative. -/
theorem stock_ledger (cfg : Settings) :
    (∀ w, (stockRequests cfg World.EmptyWarehouse).Reachable w →
      ∀ pk product, w.db.products.find? pk = some product →
        product.quantity = w.db.movedQuantity pk .in - w.db.movedQuantity pk .out) ∧
    ∀ ctx r db, r.movesStock = true → r.createsProduct = false → db.Nonnegative →
      (∀ e, (handle cfg ctx r db).1 = .error e → Unmoved db (handle cfg ctx r db).2) ∧
        (handle cfg ctx r db).2.Nonnegative := by
  constructor
  · intro w hw pk product hfind
    have honHand : w.db.onHand pk = product.quantity := Table.total_of_find? hfind _
    rw [← honHand, journals_of_reachable hw pk, net_eq]
  · intro ctx r db hr hcreate hn
    exact ⟨fun e he => unmoved_of_error hr hcreate he, (moved_handle hr hcreate).2 hn⟩

end Warehouse

namespace Sample

/-- No stock yet. -/
def emptyWarehouse : World :=
  ⟨{ db with products := .empty, inventory := .empty }, 0⟩

/-- A product is created, some of it leaves by hand, a part goes to master 2 and half
of that comes back. -/
def stocked : List (Context × Request) :=
  [(at_ 10, .stock (.productCreate { name := some "Filtr", quantity := some 1000 })),
    (at_ 11, .stock (.movementCreate { product := 10, movementType := .out, quantity := 100 })),
    (at_ 12, .stock (.adminAssign 2 ⟨10, ⟨400, by decide⟩⟩)),
    (at_ 13, .stock (.adminUpdate 2 12 ⟨200, by decide⟩))]

/-- The movement entered by hand is deleted again. -/
def undone : List (Context × Request) :=
  stocked ++ [(at_ 14, .stock (.movementDestroy 11))]

end Sample

theorem Warehouse.stock_ledger_sample :
    ((Sample.emptyWarehouse.run {} Sample.undone).db.products.find? 10).map
        (fun p => p.quantity) = some 800 ∧
      (Sample.emptyWarehouse.run {} Sample.undone).db.movedQuantity 10 .in = 1200 ∧
      (Sample.emptyWarehouse.run {} Sample.undone).db.movedQuantity 10 .out = 400 ∧
      (handle {} (Sample.at_ 15) (.useInventory 2 6 ⟨⟨100, by decide⟩, 10⟩) Sample.db).2.Nonnegative
    := by
  have hinit : (stockRequests {} World.EmptyWarehouse).Reachable Sample.emptyWarehouse :=
    .init ⟨rfl, rfl⟩
  have hreach : (stockRequests {} World.EmptyWarehouse).Reachable
      (Sample.emptyWarehouse.run {} Sample.undone) :=
    reachable_run_from hinit (by decide) (by decide)
  have hin : (Sample.emptyWarehouse.run {} Sample.undone).db.movedQuantity 10 .in = 1200 := by
    decide
  have hout : (Sample.emptyWarehouse.run {} Sample.undone).db.movedQuantity 10 .out = 400 := by
    decide
  have hnonneg : Sample.db.Nonnegative := ⟨by decide, by decide⟩
  refine ⟨?_, hin, hout, ((stock_ledger {}).2 _ _ _ rfl rfl hnonneg).2⟩
  have hsome : ((Sample.emptyWarehouse.run {} Sample.undone).db.products.find? 10).isSome := by
    decide
  obtain ⟨product, hfind⟩ := Option.isSome_iff_exists.mp hsome
  have hquantity := (stock_ledger {}).1 _ hreach 10 product hfind
  rw [hin, hout] at hquantity
  rw [hfind]
  exact congrArg some hquantity

end Homex
