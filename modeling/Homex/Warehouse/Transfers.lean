import Homex.Wallet.Reversals
import Homex.Warehouse.Exchanges

/-!
# Transfers under interleaving

Stock goes from the warehouse to a master, back, and from a master to an order.
Whatever requests do so at the same time, what is on hand, with the masters and
used on orders is the same once they have finished, when a request that writes a
master's row it has not locked finds the row with the quantity that it loaded.

A return writes such a row. Two returns of the same row both credit the product.
-/

namespace Homex

open Relational Concurrency Orders Profiles Wallet Warehouse

/-- The requests that move stock from or to a master, on any number of connections. -/
def GoodsRequest.program (l : Context × GoodsRequest) : Program DB RowKey Error Unit :=
  l.2.statements l.1

/-- Every interleaving of these requests. -/
def goodsTraffic : Transition.System (State DB RowKey Error ℕ)
    (Concurrency.Event (Context × GoodsRequest) ℕ) :=
  interleavings ℕ GoodsRequest.program

namespace Statements

variable {L : Law} {ctx : Context} {b : Books RowKey StockRow Int} {user pk : Uuid}

/-- Orders are not part of a law of stock. -/
theorem weighs_lockOrder {row : DB → Option Order} {e : Error}
    {Q : Order → Books RowKey StockRow Int → Prop} (hin : b.inTx = true)
    (hQ : ∀ order b', Moves b b' (.order pk) 0 → Q order b') :
    Weighs L (Program.fetchForUpdate (.order pk) row e) Q b :=
  Program.settles_fetchForUpdate.mpr
    ⟨Books.settled_of_inTx hin, fun _ _ order _ => hQ order _ moves_lock⟩

/-- What a line of a check uses is no longer with the master. -/
theorem weighs_useItem {order : Order} {i : Nat} {item : UsedItem}
    {Q : Int → Books RowKey StockRow Int → Prop} (hin : b.inTx = true)
    (hQ : ∀ line b', b'.inTx = true → b'.debt = b.debt → Q line b') :
    Weighs L (OrderCompleteSerializer.useItem ctx order i item) Q b := by
  unfold OrderCompleteSerializer.useItem
  simp only [Weighs, Program.settles_bind, Program.settles_require, Program.settles_pure]
  refine weighs_lockItem hin (fun _ _ h => (Option.filter_eq_some_iff.mp h).1) ?_
  intro row b₁ hid _ h₁ hitem₁
  rw [← hid] at h₁ hitem₁
  have hin₁ : b₁.inTx = true := h₁.inTx.trans hin
  refine weighs_lockProduct hin₁ fun product b₂ _ h₂ _ => ?_
  have hin₂ : b₂.inTx = true := h₂.inTx.trans hin₁
  have hitem₂ := hitem₁.of_moves hin₁ h₂ fun h => by cases h
  refine ⟨fun _ => ?_, fun _ => Books.settled_of_inTx hin₂⟩
  refine weighs_saveInventoryQuantity hin₂ hitem₂ fun b₃ h₃ hitem₃ => ?_
  refine weighs_createUsage (h₃.inTx.trans hin₂) hitem₃ fun b₄ hin₄ hdebt₄ => ?_
  refine hQ _ b₄ hin₄ ?_
  rw [hdebt₄, h₃.debt, h₂.debt, h₁.debt]
  simp only [OrderInventoryUsage.of]
  ring

/-- The rounds of the `used_items` loop. -/
theorem weighs_useItems {order : Order} (items : List UsedItem) (i : Nat) (hin : b.inTx = true) :
    Weighs L (OrderCompleteSerializer.useItems ctx order i items)
      (fun _ b' => b'.inTx = true ∧ b'.debt = b.debt) b := by
  induction items generalizing i b with
  | nil => exact ⟨hin, rfl⟩
  | cons item items ih =>
      refine Program.settles_bind.mpr (weighs_useItem hin fun line b₁ hin₁ hdebt₁ => ?_)
      refine Program.settles_bind.mpr ((ih (i + 1) hin₁).mono fun rest b₂ hb₂ => ?_)
      exact ⟨hb₂.1, hb₂.2.trans hdebt₁⟩

theorem weighs_complete {data : OrderCompletePayload} :
    Weighs L (MasterOrderCompleteView.post ctx user pk data) (fun _ b' => b'.debt = 0)
      Books.blank := by
  unfold MasterOrderCompleteView.post OrderCompleteSerializer.save
  simp only [Weighs, Program.settles_bind, Program.settles_fetch, settles_select,
    Program.settles_atomic, Program.settles_require, Program.settles_pure]
  refine ⟨fun _ => rfl, fun _ _ _ _ => ⟨fun _ => rfl, fun _ _ _ _ => ⟨rfl, ?_⟩⟩⟩
  refine weighs_lockOrder rfl fun order b h => ?_
  have hin : b.inTx = true := h.inTx
  refine ⟨fun _ => ?_, fun _ => Books.settled_of_inTx hin⟩
  refine (weighs_useItems _ 0 hin).mono fun total b₁ hb₁ => ?_
  refine ⟨Books.settled_of_inTx hb₁.1, fun s _ _ _ => ?_⟩
  refine weighs_unseen hb₁.1 (fun _ => rfl) (fun _ => rfl) (fun _ => rfl) (fun _ => rfl) ?_
  intro b₂ hin₂ hdebt₂
  exact ⟨Books.settled_of_inTx hin₂, hdebt₂.trans (hb₁.2.trans h.debt)⟩

theorem weighs_use {data : UseInventoryPayload} :
    Weighs L (UseInventoryView.post ctx user pk data) (fun _ b' => b'.debt = 0) Books.blank := by
  unfold UseInventoryView.post
  simp only [Weighs, Program.settles_bind, Program.settles_atomic, Program.settles_require,
    Program.settles_pure]
  refine ⟨rfl, weighs_lockItem rfl (fun _ _ h => (Option.filter_eq_some_iff.mp h).1) ?_⟩
  intro row b₁ hid _ h₁ hitem₁
  subst hid
  have hin₁ : b₁.inTx = true := h₁.inTx
  refine weighs_lockProduct hin₁ fun product b₂ _ h₂ _ => ?_
  have hin₂ : b₂.inTx = true := h₂.inTx.trans hin₁
  have hitem₂ := hitem₁.of_moves hin₁ h₂ fun h => by cases h
  refine weighs_lockOrder hin₂ fun order b₃ h₃ => ?_
  have hin₃ : b₃.inTx = true := h₃.inTx.trans hin₂
  have hitem₃ := hitem₂.of_moves hin₂ h₃ fun h => by cases h
  refine ⟨fun _ => ?_, fun _ => Books.settled_of_inTx hin₃⟩
  refine weighs_saveInventoryQuantity hin₃ hitem₃ fun b₄ h₄ hitem₄ => ?_
  refine weighs_createUsage (h₄.inTx.trans hin₃) hitem₄ fun b₅ hin₅ hdebt₅ => ?_
  refine settles_select.mpr ⟨Books.settled_of_inTx hin₅, fun _ _ _ _ => ?_⟩
  refine weighs_unseen hin₅ (fun _ => rfl) (fun _ => rfl) (fun _ => rfl) (fun _ => rfl) ?_
  intro b₆ hin₆ hdebt₆
  refine ⟨Books.settled_of_inTx hin₆, ?_⟩
  change b₆.debt = 0
  rw [hdebt₆, hdebt₅, h₄.debt, h₃.debt, h₂.debt, h₁.debt]
  simp only [OrderInventoryUsage.of, Books.start, Books.blank]
  ring

/-- A request that moves stock from or to a master settles. -/
theorem weighs_goodsRequest {masters : Uuid → Prop} (l : Context × GoodsRequest)
    (hlaw : L.Exchanges masters)
    (hon : ∀ r, l.2 = .transfer r → r.On masters L.owns l.1) :
    Weighs L (GoodsRequest.program l) (fun _ b' => b'.Settled) Books.blank := by
  obtain ⟨ctx, r⟩ := l
  have hsettles : Weighs L (r.statements ctx) (fun _ b' => b'.debt = 0) Books.blank := by
    cases r with
    | transfer r => exact weighs_transferRequest hlaw (hon r rfl)
    | use user pk data => exact Program.settles_map.mpr weighs_use
    | complete user pk data => exact Program.settles_map.mpr weighs_complete
  refine Program.Settles.mono ?_ hsettles
  exact fun _ b' hdebt _ => hdebt

end Statements

namespace DB

variable (db : DB) (masters : Uuid → Prop) [DecidablePred masters] (product : Uuid)

/-- What the row of this id holds of the product for one of these masters. -/
def heldIn (pk : Uuid) : Int :=
  (db.inventory.find? pk).elim 0 fun i =>
    if masters i.master ∧ i.warehouseProduct = product then i.quantity else 0

/-- What these masters hold of the product. -/
def heldBy : Int :=
  db.inventory.sum fun i =>
    if masters i.master ∧ i.warehouseProduct = product then i.quantity else 0

/-- What orders have used of the rows of these masters. -/
def usedBy : Int :=
  db.usages.sum fun u => (db.inventory.find? u.inventory).elim 0 fun i =>
    if masters i.master ∧ i.warehouseProduct = product then u.quantity else 0

end DB

namespace Warehouse

section Transfers

variable (masters : Uuid → Prop) [DecidablePred masters] (names : Uuid → Uuid × Uuid)
  (product : Uuid)

/-- A unit of the product on hand weighs as much as one with these masters. -/
def transferLaw : Law where
  product := product
  onHand := 1
  net := 0
  held m := if masters m then 1 else 0
  owns item m p := names item = (m, p)
  loads := False

/-- The row that the next statement writes. -/
def writtenItem (code : Option (Program DB RowKey Error Unit)) : Option Uuid :=
  match code.bind Program.target with
  | some (.inventory id) => some id
  | _ => none

/-- The request is on rows of these masters, each of which has its name. -/
def OnRows (l : Context × GoodsRequest) : Prop :=
  match l.2 with
  | .transfer r => r.On masters (fun item m p => names item = (m, p)) l.1
  | _ => True

/-- Only such requests are sent. -/
def SendsOn : Concurrency.Event (Context × GoodsRequest) ℕ → Prop
  | .request _ l => OnRows masters names l
  | _ => True

omit [DecidablePred masters] in
theorem forall_named_iff (pk : Uuid) :
    masters (names pk).1 ↔ ∀ m p, names pk = (m, p) → masters m := by
  constructor
  · intro h m p hname
    rwa [hname] at h
  · exact fun h => h _ _ rfl

/-- A row that the next statement writes and has not locked holds what it did when it
was loaded. -/
def FindsItem (σ : State DB RowKey Error ℕ) :
    Concurrency.Event (Context × GoodsRequest) ℕ → Prop
  | .statement p =>
      ∀ id ∈ writtenItem (σ.proc p).code, σ.owner (.inventory id) ≠ some p →
        ∀ db ∈ (σ.proc p).seen (.inventory id),
          db.heldIn masters product id = σ.store.heldIn masters product id
  | _ => True

instance decidableOnRows (l : Context × GoodsRequest) : Decidable (OnRows masters names l) :=
  match l with
  | (ctx, .transfer (.adminAssign master data)) =>
      inferInstanceAs (Decidable (masters master ∧
        names (ctx.uuid .inventory) = (master, data.warehouseProductId)))
  | (_, .transfer (.adminUpdate master _ _)) => inferInstanceAs (Decidable (masters master))
  | (_, .transfer (.adminDelete master _)) => inferInstanceAs (Decidable (masters master))
  | (ctx, .transfer (.inventoryCreate master product _)) =>
      inferInstanceAs (Decidable (masters master ∧ names (ctx.uuid .inventory) = (master, product)))
  | (_, .transfer (.inventoryUpdate pk _)) =>
      decidable_of_iff (masters (names pk).1) (forall_named_iff masters names pk)
  | (_, .transfer (.inventoryDestroy pk)) =>
      decidable_of_iff (masters (names pk).1) (forall_named_iff masters names pk)
  | (_, .use ..) => isTrue trivial
  | (_, .complete ..) => isTrue trivial

instance decidableSendsOn :
    (e : Concurrency.Event (Context × GoodsRequest) ℕ) → Decidable (SendsOn masters names e)
  | .request _ l => inferInstanceAs (Decidable (OnRows masters names l))
  | .statement _ => isTrue trivial
  | .stop _ => isTrue trivial

instance decidableFindsItem (σ : State DB RowKey Error ℕ) :
    (e : Concurrency.Event (Context × GoodsRequest) ℕ) → Decidable (FindsItem masters product σ e)
  | .statement p =>
      inferInstanceAs (Decidable (∀ id ∈ writtenItem (σ.proc p).code,
        σ.owner (.inventory id) ≠ some p → ∀ db ∈ (σ.proc p).seen (.inventory id),
          db.heldIn masters product id = σ.store.heldIn masters product id))
  | .request _ _ => isTrue trivial
  | .stop _ => isTrue trivial

variable {masters names product}

theorem unit_transferLaw (m p : Uuid) :
    (transferLaw masters names product).unit m p =
      if masters m ∧ p = product then 1 else 0 := by
  unfold Law.unit
  by_cases hp : p = product
  · rw [if_pos (show p = (transferLaw masters names product).product from hp)]
    simp [transferLaw, hp]
  · rw [if_neg (show p ≠ (transferLaw masters names product).product from hp)]
    simp [hp]

theorem exchanges_transferLaw : (transferLaw masters names product).Exchanges masters := by
  intro item m p m' p' hm hitem hitem'
  obtain ⟨rfl, rfl⟩ := Prod.mk.inj (hitem.symm.trans hitem')
  rw [unit_transferLaw, Law.stock, Law.journal]
  by_cases hp : p = product
  · simp [transferLaw, hp, hm]
  · simp [transferLaw, hp]

/-- A number of units with these masters weighs as much as there are of the product. -/
theorem unit_mul_transferLaw (m p : Uuid) (q : Int) :
    (transferLaw masters names product).unit m p * q =
      if masters m ∧ p = product then q else 0 := by
  rw [unit_transferLaw, ite_mul, one_mul, zero_mul]

/-- The weighted total is what is on hand, held and used. -/
theorem total_transferLaw (db : DB) :
    (transferLaw masters names product).total db =
      db.onHand product + db.heldBy masters product + db.usedBy masters product := by
  have honHand : (db.products.sum fun p =>
      (transferLaw masters names product).stock p.id * p.quantity) = db.onHand product :=
    Law.sum_stock rfl db
  have hnet : db.movements.sum (transferLaw masters names product).weight = 0 := by
    refine Table.sum_eq_zero _ fun m _ => ?_
    change (if m.product = product then (0 : Int) else 0) * m.signed = 0
    rw [ite_self, zero_mul]
  have hheld : (db.inventory.sum fun i => ((transferLaw masters names product).weights i).2) =
      db.heldBy masters product :=
    Table.sum_congr _ fun i _ => unit_mul_transferLaw i.master i.warehouseProduct i.quantity
  have hused : (db.usages.sum fun u =>
      (transferLaw masters names product).unitOf db.inventory u.inventory * u.quantity) =
        db.usedBy masters product := by
    refine Table.sum_congr _ fun u _ => ?_
    unfold Law.unitOf
    cases db.inventory.find? u.inventory with
    | none => exact zero_mul _
    | some i => exact unit_mul_transferLaw i.master i.warehouseProduct u.quantity
  unfold Law.total
  rw [honHand, hnet, hheld, hused, add_zero]

/-- The rows of the masters have their names, and usages refer to them. -/
structure Named (names : Uuid → Uuid × Uuid) (db : DB) : Prop where
  refer : db.UsagesRefer
  names : ∀ i ∈ db.inventory.rows, names i.id = (i.master, i.warehouseProduct)

theorem asRead_of_findsItem {σ : State DB RowKey Error ℕ}
    {e : Concurrency.Event (Context × GoodsRequest) ℕ}
    (hon : SendsOn masters names e) (h : FindsItem masters product σ e) :
    (transferLaw masters names product).account.AsRead (OnRows masters names) σ e := by
  cases e with
  | request p l => exact hon
  | statement p =>
      intro q hcode k htarget howner db hseen
      cases k with
      | inventory id =>
          have hwritten : writtenItem (σ.proc p).code = some id := by
            rw [show (σ.proc p).code = some q from hcode, writtenItem, Option.bind_some,
              show q.target = some (.inventory id) from htarget]
          have hheld := h id hwritten howner db hseen
          have hweight : ∀ db : DB, ((db.inventory.find? id).map
              (transferLaw masters names product).weights).elim 0 Prod.snd =
                db.heldIn masters product id := by
            intro db
            unfold DB.heldIn
            cases db.inventory.find? id with
            | none => rfl
            | some i => exact unit_mul_transferLaw i.master i.warehouseProduct i.quantity
          exact (hweight db).trans (hheld.trans (hweight σ.store).symm)
      | product id => exact fun hloads => False.elim hloads
      | movement id => exact fun hloads => False.elim hloads
      | _ => trivial
  | stop p => rintro _ _ _ _ _ ⟨hloads, -⟩; exact hloads

/-- What is on hand, with these masters and used on orders is what it was. -/
theorem goods_kept (masters : Uuid → Prop) [DecidablePred masters] (names : Uuid → Uuid × Uuid)
    (product : Uuid) {db : DB} {σ : State DB RowKey Error ℕ} (hdb : Named names db)
    (hl : (goodsTraffic.restrict fun σ e =>
      SendsOn masters names e ∧ FindsItem masters product σ e).Leads (.idle db) σ)
    (hdone : ∀ p, (σ.proc p).code = none) :
    σ.store.onHand product + σ.store.heldBy masters product + σ.store.usedBy masters product =
      db.onHand product + db.heldBy masters product + db.usedBy masters product := by
  have hread := hl.restrict_mono fun _ _ h => asRead_of_findsItem h.1 h.2
  have htotal := Account.total_of_finished (A := (transferLaw masters names product).account)
    (fun l hon => Statements.weighs_goodsRequest l exchanges_transferLaw fun r hr => by
      rwa [OnRows, hr] at hon)
    ⟨hdb.refer, hdb.names⟩ hread hdone
  exact (total_transferLaw _).symm.trans (htotal.2.trans (total_transferLaw _))

end Transfers

end Warehouse

namespace Sample

/-- Master 2 holds row 6 of product 5. -/
def itemNames (_ : Uuid) : Uuid × Uuid := (2, 5)

/-- Order 10 is accepted, and no request is under way. -/
def goodsIdle : State DB RowKey Error ℕ := .idle (world.run {} accepted).db

/-- While row 6 is set to one unit, half a unit of it is used. -/
def adjustsAndUses : List (Concurrency.Event (Context × GoodsRequest) ℕ) :=
  .request 0 (at_ 50, .transfer (.adminUpdate 2 6 ⟨100, by decide⟩)) ::
    .request 1 (at_ 51, .use 2 6 { quantity := ⟨50, by decide⟩, orderId := 10 }) ::
      sends 0 1 ++ sends 1 10 ++ sends 0 9

/-- Row 6 is returned by two requests, which load it before the other one returns it. -/
def returnsTwice : List (Concurrency.Event (Context × GoodsRequest) ℕ) :=
  .request 0 (at_ 50, .transfer (.adminDelete 2 6)) ::
    .request 1 (at_ 51, .transfer (.inventoryDestroy 6)) :: sends 0 1 ++ sends 1 10 ++ sends 0 9

theorem named_goodsIdle : Warehouse.Named itemNames goodsIdle.store where
  refer u hu := by cases hu
  names := by decide

end Sample

open Sample in
/-- A row is adjusted and used at once. -/
theorem Warehouse.goods_kept_sample :
    ∃ σ : State DB RowKey Error ℕ, σ.store.onHand 5 = 150 ∧ σ.store.usedBy (· = 2) 5 = 50 ∧
      150 + σ.store.heldBy (· = 2) 5 + 50 = 300 := by
  have hrun : ((goodsIdle.run GoodsRequest.program (fun σ e =>
      Warehouse.SendsOn (· = 2) itemNames e ∧ Warehouse.FindsItem (· = 2) 5 σ e)
        adjustsAndUses).map fun σ => ([0, 1].all fun p => (σ.proc p).code.isNone,
          σ.store.onHand 5, σ.store.usedBy (· = 2) 5)) = some (true, 150, 50) := by decide
  obtain ⟨σ, hσ, heq⟩ := Option.map_eq_some_iff.mp hrun
  simp only [Prod.mk.injEq] at heq
  obtain ⟨hdone, honHand, hused⟩ := heq
  have hfinished : ∀ p, (σ.proc p).code = none := finished_of_pair hσ (by decide) hdone
  have hgoods := Warehouse.goods_kept (· = 2) itemNames 5 named_goodsIdle
    (leads_of_run .refl hσ) hfinished
  have hstart : goodsIdle.store.onHand 5 + goodsIdle.store.heldBy (· = 2) 5 +
      goodsIdle.store.usedBy (· = 2) 5 = 300 := by decide
  refine ⟨σ, honHand, hused, ?_⟩
  rw [← honHand, ← hused]
  exact hgoods.trans hstart

open Sample in
/-- A row is returned twice, and the product is credited twice. -/
theorem Warehouse.goods_returned_twice :
    ¬∀ (masters : Uuid → Prop) [DecidablePred masters] (names : Uuid → Uuid × Uuid) (product : Uuid)
      (db : DB) (σ : State DB RowKey Error ℕ), Warehouse.Named names db →
        (goodsTraffic.restrict fun _ e => Warehouse.SendsOn masters names e).Leads (.idle db) σ →
          (∀ p, (σ.proc p).code = none) →
            σ.store.onHand product + σ.store.heldBy masters product +
              σ.store.usedBy masters product =
                db.onHand product + db.heldBy masters product + db.usedBy masters product := by
  intro h
  have hrun : ((goodsIdle.run GoodsRequest.program (fun _ e =>
      Warehouse.SendsOn (· = 2) itemNames e) returnsTwice).map fun σ =>
        ([0, 1].all fun p => (σ.proc p).code.isNone, σ.store.onHand 5 +
          σ.store.heldBy (· = 2) 5 + σ.store.usedBy (· = 2) 5)) = some (true, 600) := by decide
  obtain ⟨σ, hσ, heq⟩ := Option.map_eq_some_iff.mp hrun
  obtain ⟨hdone, hgoods⟩ := Prod.mk.inj heq
  have hfinished : ∀ p, (σ.proc p).code = none := finished_of_pair hσ (by decide) hdone
  have hkept := h (· = 2) itemNames 5 _ σ named_goodsIdle (leads_of_run .refl hσ) hfinished
  rw [hgoods] at hkept
  revert hkept
  decide

end Homex
