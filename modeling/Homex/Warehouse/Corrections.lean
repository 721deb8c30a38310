import Homex.Warehouse.StockLedger
import Homex.Warehouse.Transfers

/-!
# Corrections of stock under interleaving

What is on hand of a product is the net of its movements. Whatever requests edit
the product, create and delete movements, or assign and adjust stock at the same
time, it is so again once they have finished, when a product that is saved whole
and a movement that is deleted are found as they were loaded.

The dashboard saves a product from the instance that it has loaded, with its
quantity, and deletes a movement after its reversal is committed.
-/

namespace Homex

open Relational Concurrency Orders Profiles Wallet Warehouse

/-- The requests that move the stock on hand, on any number of connections. -/
def LedgerRequest.program (l : Context × LedgerRequest) : Program DB RowKey Error Unit :=
  l.2.statements l.1

/-- Every interleaving of these requests. -/
def ledgerTraffic : Transition.System (State DB RowKey Error ℕ)
    (Concurrency.Event (Context × LedgerRequest) ℕ) :=
  interleavings ℕ LedgerRequest.program

/-- A unit on hand makes up for one in a movement. -/
def Warehouse.Law.Journals (L : Law) : Prop := ∀ p, L.stock p + L.journal p = 0

namespace Statements

variable {L : Law} {ctx : Context} {b : Books RowKey StockRow Int} {pk : Uuid} {q : Int}

/-- What the product is moved by is owed. -/
theorem weighs_moveProductQuantity {delta : Int}
    {Q : WarehouseProduct → Books RowKey StockRow Int → Prop} (hin : b.inTx = true)
    (hQ : ∀ product b', product.id = pk → Moves b b' (.product pk) (L.stock pk * delta) →
      Q product b') :
    Weighs L (moveProductQuantity pk delta) Q b := by
  unfold moveProductQuantity
  simp only [Weighs, Program.settles_bind, Program.settles_require, Program.settles_pure]
  refine weighs_lockProduct hin fun product b₁ hid h₁ hheld₁ => ?_
  subst hid
  have hin₁ : b₁.inTx = true := h₁.inTx.trans hin
  refine ⟨fun _ => ?_, fun _ => Books.settled_of_inTx hin₁⟩
  refine weighs_saveProductQuantity hin₁ hheld₁ fun b₂ h₂ _ => ?_
  have hmoves := moves_trans h₁ h₂
  rw [zero_add, add_sub_cancel_left] at hmoves
  exact hQ _ b₂ rfl hmoves

/-- A correction is journaled. -/
theorem weighs_adjustWarehouseStock (hlaw : L.Journals) {delta : Int} {note : String}
    (hdebt : b.debt = 0) :
    Weighs L (adjustWarehouseStock ctx pk delta note) (fun _ b' => b'.debt = 0) b := by
  unfold adjustWarehouseStock
  simp only [Weighs, Program.settles_atomic, Program.settles_bind, Program.settles_pure]
  refine ⟨hdebt, weighs_moveProductQuantity rfl fun product b₁ hid h₁ => ?_⟩
  have hin₁ : b₁.inTx = true := h₁.inTx.trans rfl
  refine weighs_createMovement hin₁ fun b₂ h₂ => ?_
  refine ⟨Books.settled_of_inTx (h₂.inTx.trans hin₁), ?_⟩
  change b₂.debt = 0
  rw [h₂.debt, h₁.debt, show b.start.debt = 0 from hdebt]
  change 0 + _ + L.journal product.id * MovementType.delta _ _ = 0
  rw [delta_abs, hid, zero_add, ← add_mul, hlaw, zero_mul]

/-- The columns of the product that was loaded are saved, with its quantity. -/
theorem weighs_saveColumns {product : WarehouseProduct} {data : Dashboard.ProductPayload}
    {Q : Unit → Books RowKey StockRow Int → Prop} (hloads : L.loads) (hdebt : b.debt = 0)
    (hheld : b.held (.product product.id) = none)
    (hread : b.read (.product product.id) =
      some (.product (L.stock product.id) (some product.quantity)))
    (hquantity : data.quantity = none) (hQ : ∀ b', b'.debt = 0 → Q () b') :
    Weighs L (saveColumns product data) Q b := by
  unfold saveColumns
  refine Program.settles_ite.mpr ⟨fun _ => hQ b hdebt, fun _ => ?_⟩
  have hsame : (data.apply product).quantity = product.quantity := by
    unfold Dashboard.ProductPayload.apply
    rw [hquantity, Option.getD_none]
  refine weighs_saveProduct hloads (fun _ => hdebt) hheld hread rfl hsame fun b' h => hQ b' ?_
  rw [h.debt, add_zero, hdebt]

theorem weighs_correctQuantity (hlaw : L.Journals) {product : WarehouseProduct}
    {quantity : Option Int} (hdebt : b.debt = 0) :
    Weighs L (correctQuantity ctx product quantity) (fun _ b' => b'.debt = 0) b := by
  cases quantity with
  | none => exact hdebt
  | some q =>
      refine Program.settles_ite.mpr ⟨fun _ => hdebt, fun _ => ?_⟩
      exact Program.settles_map.mpr (weighs_adjustWarehouseStock hlaw hdebt)

theorem weighs_productUpdate (hlaw : L.Journals) (hloads : L.loads)
    {data : Dashboard.ProductPayload} :
    Weighs L (DashboardWarehouseProductDetailAPIView.performUpdate ctx pk data)
      (fun _ b' => b'.debt = 0) Books.blank := by
  unfold DashboardWarehouseProductDetailAPIView.performUpdate
  simp only [Weighs, Program.settles_bind, Program.settles_fetch, settles_select]
  refine ⟨Books.settled_blank, fun s _ product hfind => ⟨fun _ => rfl, fun _ _ _ _ => ?_⟩⟩
  obtain rfl : product.id = pk := Table.key_of_find? hfind
  refine weighs_saveColumns hloads rfl rfl ?_ rfl fun b₁ hdebt₁ => ?_
  · refine (Books.read_note_self _ _ _).trans (congrArg some ?_)
    change L.productRow s product.id = _
    rw [Law.productRow, hfind, Option.map_some]
  · refine (weighs_correctQuantity hlaw hdebt₁).mono fun _ b₂ hdebt₂ => ?_
    exact ⟨fun _ => hdebt₂, fun _ _ _ _ => hdebt₂⟩

theorem weighs_movementCreate (hlaw : L.Journals) {data : Dashboard.MovementPayload} :
    Weighs L (DashboardStockMovementListCreateAPIView.performCreate ctx data)
      (fun _ b' => b'.debt = 0) Books.blank := by
  unfold DashboardStockMovementListCreateAPIView.performCreate applyStockMovementEffect
  simp only [Weighs, Program.settles_bind, settles_select, Program.settles_atomic,
    Program.settles_pure]
  refine ⟨Books.settled_blank, fun _ _ _ _ => ⟨Books.settled_blank, fun _ _ _ _ => ⟨rfl, ?_⟩⟩⟩
  refine weighs_moveProductQuantity rfl fun product b₁ _ h₁ => ?_
  have hin₁ : b₁.inTx = true := h₁.inTx.trans rfl
  refine weighs_createMovement hin₁ fun b₂ h₂ => ?_
  refine ⟨Books.settled_of_inTx (h₂.inTx.trans hin₁), ?_⟩
  change b₂.debt = 0
  rw [h₂.debt, h₁.debt]
  change 0 + _ + L.journal data.product * MovementType.delta _ _ = 0
  rw [zero_add, ← add_mul, hlaw, zero_mul]

/-- The reversal of a movement is owed until the movement is deleted. -/
theorem weighs_movementDestroy (hlaw : L.Journals) (hloads : L.loads) :
    Weighs L (DashboardStockMovementDetailAPIView.performDestroy pk) (fun _ b' => b'.debt = 0)
      Books.blank := by
  unfold DashboardStockMovementDetailAPIView.performDestroy reverseStockMovement
  simp only [Weighs, Program.settles_bind, Program.settles_fetch, Program.settles_atomic]
  refine ⟨Books.settled_blank, fun s _ movement hfind => ⟨rfl, ?_⟩⟩
  refine weighs_moveProductQuantity rfl fun product b₁ _ h₁ => ?_
  refine ⟨Books.settled_of_inTx (h₁.inTx.trans rfl), ?_⟩
  have hread : b₁.commit.read (.movement pk) = some (.movement (some (L.weight movement))) := by
    refine (h₁.read _ fun h => by cases h).trans ?_
    refine (Books.read_note_self _ _ _).trans (congrArg some ?_)
    change L.movementRow s pk = _
    rw [Law.movementRow, hfind, Option.map_some]
  refine weighs_deleteMovement hloads rfl hread fun b₂ h₂ => ?_
  rw [h₂.debt, show b₁.commit.debt = b₁.debt from rfl, h₁.debt]
  change 0 + L.stock movement.product * -movement.signed +
    -(L.journal movement.product * movement.signed) = 0
  linear_combination -movement.signed * hlaw movement.product

/-- A request that moves the stock on hand settles. -/
theorem weighs_ledgerRequest (l : Context × LedgerRequest) (hlaw : L.Journals) (hloads : L.loads)
    (htransfers : L.Exchanges fun _ => True) (howns : ∀ item m p, L.owns item m p) :
    Weighs L (LedgerRequest.program l) (fun _ b' => b'.Settled) Books.blank := by
  obtain ⟨ctx, r⟩ := l
  have hsettles : Weighs L (r.statements ctx) (fun _ b' => b'.debt = 0) Books.blank := by
    cases r with
    | transfer r =>
        refine weighs_transferRequest htransfers ?_
        cases r with
        | adminAssign master data => exact ⟨trivial, howns _ _ _⟩
        | inventoryCreate master product quantity => exact ⟨trivial, howns _ _ _⟩
        | inventoryUpdate pk data => exact fun _ _ _ => trivial
        | inventoryDestroy pk => exact fun _ _ _ => trivial
        | _ => trivial
    | productUpdate pk data => exact Program.settles_map.mpr (weighs_productUpdate hlaw hloads)
    | movementCreate data => exact Program.settles_map.mpr (weighs_movementCreate hlaw)
    | movementDestroy pk => exact weighs_movementDestroy hlaw hloads
  refine Program.Settles.mono ?_ hsettles
  exact fun _ b' hdebt _ => hdebt

end Statements

/-- The effect of the movement of this id on the stock of the product. -/
def DB.movedBy (db : DB) (product pk : Uuid) : Int :=
  (db.movements.find? pk).elim 0 fun m => if m.product = product then m.signed else 0

/-- What is on hand of the product is the sum of its IN movements minus the sum of
its OUT movements. -/
def DB.MatchesLedger (db : DB) (product : Uuid) : Prop :=
  db.onHand product = db.movedQuantity product .in - db.movedQuantity product .out

namespace Warehouse

section Ledger

variable (product : Uuid)

/-- A unit of the product on hand weighs as much as one in a movement takes away. -/
def ledgerLaw : Law where
  product := product
  onHand := 1
  net := -1
  held _ := 0
  owns _ _ _ := True
  loads := True

/-- The product that the next statement writes. -/
def writtenProduct (code : Option (Program DB RowKey Error Unit)) : Option Uuid :=
  match code.bind Program.target with
  | some (.product id) => some id
  | _ => none

/-- The movement that the next statement writes. -/
def writtenMovement (code : Option (Program DB RowKey Error Unit)) : Option Uuid :=
  match code.bind Program.target with
  | some (.movement id) => some id
  | _ => none

/-- A product that is saved and not locked has the quantity it was loaded with, a
movement that is deleted has the effect it was loaded with, and no request stops
between the reversal of a movement and its deletion. -/
def FindsStock (σ : State DB RowKey Error ℕ) :
    Concurrency.Event (Context × LedgerRequest) ℕ → Prop
  | .statement p =>
      (writtenProduct (σ.proc p).code = some product → σ.owner (.product product) ≠ some p →
        ∀ db ∈ (σ.proc p).seen (.product product), db.onHand product = σ.store.onHand product) ∧
      ∀ id ∈ writtenMovement (σ.proc p).code, σ.owner (.movement id) ≠ some p →
        ∀ db ∈ (σ.proc p).seen (.movement id), db.movedBy product id = σ.store.movedBy product id
  | .request _ _ => True
  | .stop p => (σ.proc p).tx.isNone → (writtenMovement (σ.proc p).code).isNone

instance decidableFindsStock (σ : State DB RowKey Error ℕ) :
    (e : Concurrency.Event (Context × LedgerRequest) ℕ) → Decidable (FindsStock product σ e)
  | .statement p =>
      inferInstanceAs (Decidable ((writtenProduct (σ.proc p).code = some product →
        σ.owner (.product product) ≠ some p → ∀ db ∈ (σ.proc p).seen (.product product),
          db.onHand product = σ.store.onHand product) ∧
        ∀ id ∈ writtenMovement (σ.proc p).code, σ.owner (.movement id) ≠ some p →
          ∀ db ∈ (σ.proc p).seen (.movement id),
            db.movedBy product id = σ.store.movedBy product id))
  | .request _ _ => isTrue trivial
  | .stop p =>
      inferInstanceAs (Decidable ((σ.proc p).tx.isNone →
        (writtenMovement (σ.proc p).code).isNone))

variable {product}

theorem journals_ledgerLaw : (ledgerLaw product).Journals := by
  intro p
  unfold Law.stock Law.journal
  by_cases hp : p = product
  · simp [ledgerLaw, hp]
  · simp [ledgerLaw, hp]

theorem unit_ledgerLaw (m p : Uuid) : (ledgerLaw product).unit m p = 0 := by
  change (if p = product then (0 : Int) else 0) = 0
  exact ite_self 0

theorem weight_ledgerLaw (m : StockMovement) :
    (ledgerLaw product).weight m = -if m.product = product then m.signed else 0 := by
  change (if m.product = product then (-1 : Int) else 0) * m.signed = _
  rw [ite_mul, neg_one_mul, zero_mul, ← neg_zero, ← apply_ite, neg_zero]

/-- The weighted total is what is on hand without what is in the ledger. -/
theorem total_ledgerLaw (db : DB) :
    (ledgerLaw product).total db = db.onHand product - db.net product := by
  have honHand : (db.products.sum fun p => (ledgerLaw product).stock p.id * p.quantity) =
      db.onHand product :=
    Law.sum_stock rfl db
  have hnet : db.movements.sum (ledgerLaw product).weight + db.net product = 0 := by
    refine (Table.sum_add db.movements _ _).symm.trans (Table.sum_eq_zero _ fun m _ => ?_)
    rw [weight_ledgerLaw, neg_add_cancel]
  have hheld : (db.inventory.sum fun i => ((ledgerLaw product).weights i).2) = 0 := by
    refine Table.sum_eq_zero _ fun i _ => ?_
    rw [Law.weights, unit_ledgerLaw, zero_mul]
  have hused : (db.usages.sum fun u =>
      (ledgerLaw product).unitOf db.inventory u.inventory * u.quantity) = 0 := by
    refine Table.sum_eq_zero _ fun u _ => ?_
    unfold Law.unitOf
    cases db.inventory.find? u.inventory with
    | none => exact zero_mul _
    | some i => rw [Option.elim_some, unit_ledgerLaw, zero_mul]
  unfold Law.total
  rw [honHand, hheld, hused]
  linear_combination hnet

theorem getD_quantity (db : DB) (pk : Uuid) :
    ((db.products.find? pk).map fun p => p.quantity).getD 0 = db.onHand pk := by
  cases hfind : db.products.find? pk with
  | none =>
      have honHand : db.onHand pk = 0 := Table.total_of_find?_none hfind _
      exact honHand.symm
  | some p =>
      have honHand : db.onHand pk = p.quantity := Table.total_of_find? hfind _
      exact honHand.symm

theorem getD_weight (db : DB) (pk : Uuid) :
    ((db.movements.find? pk).map (ledgerLaw product).weight).getD 0 = -db.movedBy product pk := by
  unfold DB.movedBy
  cases db.movements.find? pk with
  | none => rfl
  | some m => exact weight_ledgerLaw m

theorem asRead_of_findsStock {σ : State DB RowKey Error ℕ}
    {e : Concurrency.Event (Context × LedgerRequest) ℕ} (h : FindsStock product σ e) :
    (ledgerLaw product).account.AsRead (fun _ => True) σ e := by
  have hwritten : ∀ {p q id}, q ∈ (σ.proc p).code → .movement id ∈ q.target →
      writtenMovement (σ.proc p).code = some id := by
    intro p q id hcode htarget
    rw [show (σ.proc p).code = some q from hcode, writtenMovement, Option.bind_some,
      show q.target = some (.movement id) from htarget]
  cases e with
  | request p l => trivial
  | statement p =>
      intro q hcode k htarget howner db hseen
      cases k with
      | product id =>
          intro _
          rw [getD_quantity, getD_quantity]
          by_cases hid : id = product
          · subst hid
            have hproduct : writtenProduct (σ.proc p).code = some id := by
              rw [show (σ.proc p).code = some q from hcode, writtenProduct, Option.bind_some,
                show q.target = some (.product id) from htarget]
            rw [h.1 hproduct howner db hseen]
          · rw [Law.stock, if_neg (show ¬id = (ledgerLaw product).product from hid), zero_mul,
              zero_mul]
      | movement id =>
          intro _
          rw [getD_weight, getD_weight, h.2 id (hwritten hcode htarget) howner db hseen]
      | inventory id =>
          have hzero : ∀ db : DB, ((db.inventory.find? id).map
              (ledgerLaw product).weights).elim 0 Prod.snd = 0 := by
            intro db
            cases db.inventory.find? id with
            | none => rfl
            | some i =>
                rw [Option.map_some, Option.elim_some, Law.weights, unit_ledgerLaw, zero_mul]
          exact (hzero db).trans (hzero σ.store).symm
      | _ => trivial
  | stop p =>
      rintro htx q hcode _ htarget ⟨-, id, rfl⟩
      have hnone := h (Option.isNone_iff_eq_none.mpr htx)
      rw [hwritten hcode htarget] at hnone
      cases hnone

theorem exchanges_ledgerLaw : (ledgerLaw product).Exchanges fun _ => True := by
  intro _ _ p _ _ _ _ _
  rw [unit_ledgerLaw, journals_ledgerLaw p]

/-- The quantity of the product is the net of its movements again. -/
theorem ledger_matches_again (product : Uuid) {db : DB} {σ : State DB RowKey Error ℕ}
    (hrefer : db.UsagesRefer) (h : db.MatchesLedger product)
    (hl : (ledgerTraffic.restrict (FindsStock product)).Leads (.idle db) σ)
    (hdone : ∀ p, (σ.proc p).code = none) : σ.store.MatchesLedger product := by
  have hread := hl.restrict_mono fun _ _ h => asRead_of_findsStock h
  have htotal := Account.total_of_finished (A := (ledgerLaw product).account)
    (fun l _ => Statements.weighs_ledgerRequest l journals_ledgerLaw trivial exchanges_ledgerLaw
      fun _ _ _ => trivial) ⟨hrefer, fun _ _ => trivial⟩ hread hdone
  have hnet : σ.store.onHand product - σ.store.net product =
      db.onHand product - db.net product := by
    rw [← total_ledgerLaw, ← total_ledgerLaw]
    exact htotal.2
  unfold DB.MatchesLedger at h ⊢
  rw [net_eq, net_eq, h, sub_self] at hnet
  exact sub_eq_zero.mp hnet

end Ledger

end Warehouse

namespace Sample

/-- Product 5 is in stock, with two movements, and no request is under way. -/
def stockIdle : State DB RowKey Error ℕ := .idle { db with
  products := ⟨[{ id := 5, name := "Filtr", quantity := 500 }], by decide⟩
  movements := ⟨[{ id := 7, product := 5, movementType := .in, quantity := 800, origin := .manual },
    { id := 8, product := 5, movementType := .out, quantity := 300, origin := .manual }],
    by decide⟩ }

/-- Two units come in while the quantity is corrected. -/
def correctsAndReceives : List (Concurrency.Event (Context × LedgerRequest) ℕ) :=
  .request 0 (at_ 50, .productUpdate 5 { quantity := some 900 }) ::
    .request 1 (at_ 51, .movementCreate { product := 5, movementType := .in, quantity := 200 }) ::
      sends 0 2 ++ sends 1 8 ++ sends 0 7

/-- Two units come in after the product is loaded to be renamed. -/
def renamesAndReceives : List (Concurrency.Event (Context × LedgerRequest) ℕ) :=
  .request 0 (at_ 50, .productUpdate 5 { name := some "Filtr A" }) ::
    .request 1 (at_ 51, .movementCreate { product := 5, movementType := .in, quantity := 200 }) ::
      sends 0 2 ++ sends 1 8 ++ sends 0 3

theorem usagesRefer_stockIdle : stockIdle.store.UsagesRefer := fun u hu => by cases hu

theorem matchesLedger_stockIdle : stockIdle.store.MatchesLedger 5 := by
  unfold DB.MatchesLedger
  decide

end Sample

open Sample in
/-- A quantity is corrected while stock comes in. -/
theorem Warehouse.ledger_matches_again_sample :
    ∃ σ : State DB RowKey Error ℕ, σ.store.onHand 5 = 1100 ∧ σ.store.MatchesLedger 5 := by
  have hrun : ((stockIdle.run LedgerRequest.program (Warehouse.FindsStock 5)
      correctsAndReceives).map fun σ =>
        ([0, 1].all fun p => (σ.proc p).code.isNone, σ.store.onHand 5)) = some (true, 1100) := by
    decide
  obtain ⟨σ, hσ, heq⟩ := Option.map_eq_some_iff.mp hrun
  obtain ⟨hdone, honHand⟩ := Prod.mk.inj heq
  have hfinished : ∀ p, (σ.proc p).code = none := finished_of_pair hσ (by decide) hdone
  exact ⟨σ, honHand, Warehouse.ledger_matches_again 5 usagesRefer_stockIdle
    matchesLedger_stockIdle (leads_of_run .refl hσ) hfinished⟩

open Sample in
/-- The product is renamed with the quantity it had before the stock came in. -/
theorem Warehouse.received_stock_lost :
    ¬∀ (product : Uuid) (db : DB) (σ : State DB RowKey Error ℕ), db.UsagesRefer →
      db.MatchesLedger product → ledgerTraffic.Leads (.idle db) σ →
        (∀ p, (σ.proc p).code = none) → σ.store.MatchesLedger product := by
  intro h
  have hrun : ((stockIdle.run LedgerRequest.program (fun _ _ => True) renamesAndReceives).map
      fun σ => ([0, 1].all fun p => (σ.proc p).code.isNone, σ.store.onHand 5,
        σ.store.movedQuantity 5 .in, σ.store.movedQuantity 5 .out)) =
          some (true, 500, 1000, 300) := by decide
  obtain ⟨σ, hσ, heq⟩ := Option.map_eq_some_iff.mp hrun
  simp only [Prod.mk.injEq] at heq
  obtain ⟨hdone, honHand, hin, hout⟩ := heq
  have hfinished : ∀ p, (σ.proc p).code = none := finished_of_pair hσ (by decide) hdone
  have hmatches := h 5 _ σ usagesRefer_stockIdle matchesLedger_stockIdle
    (leads_of_run .refl hσ).of_restrict hfinished
  rw [DB.MatchesLedger, honHand, hin, hout] at hmatches
  revert hmatches
  decide

end Homex
