import Homex.Orders.CheckSubmission

/-!
# The widths of the amount columns

The amounts of an order and of its usages are `DECIMAL(12, 2)` columns. The
serializers bound the payload, field by field; what is stored are products and sums
of these fields with the sale price of a product and with earlier usages. The sale
price, and the price of the internal API, may have two digits more.
-/

namespace Homex

/-- A stored amount fits a `DECIMAL(12, 2)` column. -/
def Money.Fits (amount : Int) : Prop := |amount| < 10 ^ 12

instance : DecidablePred Money.Fits :=
  fun amount => inferInstanceAs (Decidable (|amount| < 10 ^ 12))

/-- An amount in ten-thousandths that rounds to one that fits. -/
theorem Money.fits_store {p : Int} : Money.Fits (Money.store p) ↔ |p| < 10 ^ 14 - 50 := by
  unfold Money.Fits Money.store
  rw [abs_lt, abs_lt]
  split <;> omega

namespace Orders

open Relational Action Code Warehouse InternalApi

/-- The amounts of a usage fit their columns. -/
structure OrderInventoryUsage.Fits (u : OrderInventoryUsage) : Prop where
  unitPrice : Money.Fits u.unitPrice
  totalPrice : Money.Fits u.totalPrice

/-- The amounts of an order fit their columns. -/
structure Order.Fits (o : Order) : Prop where
  serviceFee : Money.Fits o.serviceFee
  inventoryTotal : Money.Fits o.inventoryTotal
  totalAmount : Money.Fits o.totalAmount

end Orders

open Relational Action Code Orders Warehouse InternalApi

/-- The amounts of the orders and of the usages fit their columns. -/
structure DB.AmountsFit (db : DB) : Prop where
  orders : ∀ o ∈ db.orders.rows, o.Fits
  usages : ∀ u ∈ db.usages.rows, u.Fits

/-- A request that computes amounts of an order or of its usages. -/
inductive AmountRequest
  | check (user pk : Uuid) (data : OrderCompletePayload)
  | useInventory (user pk : Uuid) (data : UseInventoryPayload)
  | internalCreate (data : InternalApi.OrderPayload)
  | internalExpress (data : ExpressPayload)
  | internalUpdate (pk : Uuid) (data : InternalApi.OrderPayload)

namespace AmountRequest

def request : AmountRequest → Request
  | .check user pk data => .masterComplete user pk data
  | .useInventory user pk data => .useInventory user pk data
  | .internalCreate data => .internalCreate data
  | .internalExpress data => .internalExpress data
  | .internalUpdate pk data => .internalUpdate pk data

/-- The digits that the serializers accept: twelve in a fee or a quantity, fourteen in a
price. -/
def Accepted : AmountRequest → Prop
  | .check _ _ data => Money.Fits data.serviceFee ∧
      ∀ item ∈ data.usedItems, Money.Fits item.quantity
  | .useInventory _ _ data => Money.Fits data.quantity
  | .internalCreate data => ∀ price, data.price = some price → |price| < 10 ^ 14
  | .internalExpress data => ∀ price, data.price = some price → |price| < 10 ^ 14
  | .internalUpdate _ data => ∀ price, data.price = some price → |price| < 10 ^ 14

end AmountRequest

/-- A price, and some quantity of it, fit. -/
def LineFits (price quantity : Int) : Prop :=
  |price| < 10 ^ 12 ∧ |quantity * price| < 10 ^ 14 - 50

instance (price quantity : Int) : Decidable (LineFits price quantity) :=
  inferInstanceAs (Decidable (_ ∧ _))

/-- The inventory total, in ten-thousandths, that a check with these items leads to. -/
def inventoryAfter (db : DB) (o : Order) (items : List UsedItem) : Int :=
  if OrderCompleteSerializer.totalAfter db o items = 0 then
    (OrderCompleteSerializer.lines db items).sum
  else
    OrderCompleteSerializer.totalAfter db o items * 100

/-- The inventory total with one more usage. -/
def totalWith (db : DB) (o : Order) (inventory : Uuid) (quantity : Int) : Int :=
  OrderCompleteSerializer.usageTotal db o.id +
    Money.store (quantity * OrderCompleteSerializer.salePriceOf db inventory)

/-- The bounds under which what the request computes fits. -/
def AmountRequest.Bounded (db : DB) : AmountRequest → Prop
  | .check _ pk data => ∀ o, db.orders.find? pk = some o →
      (∀ item ∈ data.usedItems,
        LineFits (OrderCompleteSerializer.salePriceOf db item.inventoryId) item.quantity) ∧
      |inventoryAfter db o data.usedItems| < 10 ^ 14 - 50 ∧
      data.serviceFee * 100 + inventoryAfter db o data.usedItems - o.bonusUsed * 100 <
        10 ^ 14 - 50
  | .useInventory _ pk data => ∀ o, db.orders.find? data.orderId = some o →
      LineFits (OrderCompleteSerializer.salePriceOf db pk) data.quantity ∧
      |totalWith db o pk data.quantity| < 10 ^ 12 ∧
      o.serviceFee + totalWith db o pk data.quantity - o.bonusUsed < 10 ^ 12
  | .internalCreate data => |data.price.getD 0| < 10 ^ 12
  | .internalExpress data => |data.price.getD 0| < 10 ^ 12
  | .internalUpdate pk data => ∀ o, db.orders.find? pk = some o →
      |data.price.getD o.serviceFee| < 10 ^ 12 ∧
      data.price.getD o.serviceFee + o.inventoryTotal - o.bonusUsed < 10 ^ 12

section Parts

variable {ctx : Context} {db db' : DB} {o : Order}

theorem of_fits {id order inventory : Uuid} {quantity price : Int} :
    (OrderInventoryUsage.of id order inventory quantity price).Fits ↔ LineFits price quantity := by
  constructor
  · intro h
    exact ⟨h.unitPrice, Money.fits_store.mp h.totalPrice⟩
  · intro h
    exact ⟨h.1, Money.fits_store.mpr h.2⟩

theorem usagesOf_fit {i : Nat} {items : List UsedItem} :
    (∀ u ∈ OrderCompleteSerializer.usagesOf ctx db o i items, u.Fits) ↔
      ∀ item ∈ items,
        LineFits (OrderCompleteSerializer.salePriceOf db item.inventoryId) item.quantity := by
  induction items generalizing i with
  | nil => simp [OrderCompleteSerializer.usagesOf]
  | cons item items ih =>
      rw [OrderCompleteSerializer.usagesOf, List.forall_mem_cons, List.forall_mem_cons, ih, of_fits]

/-- A total that is not let below zero. -/
theorem abs_max_zero_lt {x limit : Int} (hlimit : 0 < limit) : |max x 0| < limit ↔ x < limit := by
  rw [abs_of_nonneg (le_max_right x 0), max_lt_iff]
  exact and_iff_left hlimit

theorem recalculateTotal_fits :
    o.recalculateTotal.Fits ↔ Money.Fits o.serviceFee ∧ Money.Fits o.inventoryTotal ∧
      o.serviceFee + o.inventoryTotal - o.bonusUsed < 10 ^ 12 := by
  have htotal : Money.Fits o.recalculateTotal.totalAmount ↔
      o.serviceFee + o.inventoryTotal - o.bonusUsed < 10 ^ 12 := abs_max_zero_lt (by decide)
  constructor
  · intro h
    exact ⟨h.serviceFee, h.inventoryTotal, htotal.mp h.totalAmount⟩
  · rintro ⟨hfee, hinventory, hsum⟩
    exact ⟨hfee, hinventory, htotal.mpr hsum⟩

theorem checked_fits {data : OrderCompletePayload} {total : Int}
    (hfee : Money.Fits data.serviceFee) :
    (OrderCompleteSerializer.checked ctx data o total).Fits ↔
      |total| < 10 ^ 14 - 50 ∧
        data.serviceFee * 100 + total - o.bonusUsed * 100 < 10 ^ 14 - 50 := by
  have htotal : Money.Fits
        (OrderCompleteSerializer.storedTotal data.serviceFee o.bonusUsed total) ↔
      data.serviceFee * 100 + total - o.bonusUsed * 100 < 10 ^ 14 - 50 :=
    Money.fits_store.trans (abs_max_zero_lt (by decide))
  constructor
  · intro h
    exact ⟨Money.fits_store.mp h.inventoryTotal, htotal.mp h.totalAmount⟩
  · rintro ⟨hinventory, hsum⟩
    exact ⟨hfee, Money.fits_store.mpr hinventory, htotal.mpr hsum⟩

/-- The total that a check computes once its items are used. -/
theorem checkTotal_eq {items : List UsedItem} {total : Int}
    (h : OrderCompleteSerializer.useItems ctx o 0 items db = (.ok total, db')) :
    checkTotal db' o.id total = inventoryAfter db o items := by
  obtain ⟨rfl, htotal⟩ := OrderCompleteSerializer.useItems_ok h
  unfold checkTotal inventoryAfter Money.toProduct
  rw [htotal]
  rfl

end Parts

/-- A row of master stock that is used on an order: one usage, and the totals of the order. -/
theorem useInventory_ok {ctx : Context} {db db' : DB} {user pk : Uuid}
    {data : UseInventoryPayload} {used : MasterInventory}
    (h : UseInventoryView.post ctx user pk data db = (.ok used, db')) :
    ∃ o item usages inventory total, db.orders.find? data.orderId = some o ∧ o.id = data.orderId ∧
      db.usages.insert? (.of (ctx.uuid (.usage 0)) o.id item data.quantity
        (OrderCompleteSerializer.salePriceOf db pk)) = some usages ∧
      total = totalWith db o pk data.quantity ∧
      db' = { db with
        inventory, usages, orders := db.orders.save (withInventoryTotal o total) } := by
  simp only [UseInventoryView.post, UseInventorySerializer.save, saveInventory, createUsage,
    saveOrder, atomic_eq_ok, bind_eq_ok, fetch_eq_ok, require_eq_ok, get_eq_ok, modify_eq_ok,
    write_eq_ok, Option.map_eq_some_iff, pure_eq_ok] at h
  obtain ⟨item, _, ⟨hitem, rfl⟩, _, _, ⟨-, rfl⟩, o, _, hget, _, _, ⟨-, rfl⟩, _, _, ⟨_, _,
    ⟨-, rfl⟩, _, _, rfl, -, rfl⟩, product, _, ⟨hproduct, rfl⟩, _, _, ⟨usages, hins, rfl⟩, _, _,
    ⟨rfl, rfl⟩, _, _, rfl, -, rfl⟩ := h
  obtain ⟨hfind, hid, rfl⟩ := getOrder_ok hget
  have hprice : OrderCompleteSerializer.salePriceOf db pk = product.salePrice := by
    unfold OrderCompleteSerializer.salePriceOf
    rw [hitem, Option.bind_some, hproduct]
    rfl
  refine ⟨o, item.id, usages, _, _, hfind, hid, ?_, ?_, rfl⟩
  · rw [hprice]
    exact hins
  · unfold totalWith OrderCompleteSerializer.usageTotal
    rw [Table.sum_insert? hins, hprice]
    exact congrArg _ (if_pos rfl)

/-- The client of an express order brings no usages. -/
theorem within_getOrCreateClient_usages {ctx : Context} {phone : Option String}
    {firstName : String} : Within (fun db db' : DB => db'.usages = db.usages)
      (getOrCreateClient ctx phone firstName) := by
  have : Std.Refl fun db db' : DB => db'.usages = db.usages := ⟨fun _ => rfl⟩
  have : IsTrans DB fun db db' => db'.usages = db.usages := ⟨fun _ _ _ h h' => h'.trans h⟩
  unfold getOrCreateClient
  refine .bind within_fetch fun _ => .bind within_get fun _ => ?_
  split
  · exact within_pure
  · refine .bind (within_write fun db db' h => ?_) fun _ => within_pure
    obtain ⟨clients, -, rfl⟩ := Option.map_eq_some_iff.mp h
    rfl

section Requests

variable {cfg : Settings} {ctx : Context} {db db' : DB} (hfit : db.AmountsFit)
include hfit

/-- Where the usages stay, the rows fit when the saved order does. -/
theorem DB.AmountsFit.save_iff {o o' : Order} (hfind : db.orders.find? (key o') = some o)
    (horders : db'.orders = db.orders.save o') (husages : db'.usages = db.usages) :
    db'.AmountsFit ↔ o'.Fits := by
  rw [← Table.forall_mem_save hfind hfit.orders, ← horders]
  constructor
  · intro h
    exact h.orders
  · intro h
    exact ⟨h, husages ▸ hfit.usages⟩

theorem DB.AmountsFit.create_iff {o' : Order} {orders : Table Order}
    (hins : db.orders.insert? o' = some orders) (horders : db'.orders = orders)
    (husages : db'.usages = db.usages) : db'.AmountsFit ↔ o'.Fits := by
  rw [← Table.forall_mem_insert? hins hfit.orders, ← horders]
  constructor
  · intro h
    exact h.orders
  · intro h
    exact ⟨h, husages ▸ hfit.usages⟩

theorem check_fits {user pk : Uuid} {data : OrderCompletePayload} {o' : Order}
    (hfee : Money.Fits data.serviceFee)
    (h : MasterOrderCompleteView.post ctx user pk data db = (.ok o', db')) :
    db'.AmountsFit ↔ (AmountRequest.check user pk data).Bounded db := by
  obtain ⟨o, total, db₁, hfind, rfl, -, -, hitems, rfl, rfl⟩ := masterComplete_ok h
  have horders := (within_useItems _ _ _ hitems).orders
  have husages := (OrderCompleteSerializer.deducts_of_ok hitems).usages
  have hsaved : db₁.orders.find? (key (OrderCompleteSerializer.checked ctx data o
      (checkTotal db₁ o.id total))) = some o := by
    rw [horders]
    exact hfind
  have hfits₁ : ∀ x ∈ db₁.orders.rows, x.Fits := by
    rw [horders]
    exact hfit.orders
  have hbounded : (AmountRequest.check user o.id data).Bounded db ↔
      (∀ u ∈ OrderCompleteSerializer.usagesOf ctx db o 0 data.usedItems, u.Fits) ∧
        (OrderCompleteSerializer.checked ctx data o (checkTotal db₁ o.id total)).Fits := by
    rw [usagesOf_fit, checked_fits hfee, checkTotal_eq hitems]
    simp [AmountRequest.Bounded, hfind]
  rw [hbounded, ← Table.forall_mem_save hsaved hfits₁]
  constructor
  · intro hafter
    refine ⟨fun u hu => hafter.usages u ?_, hafter.orders⟩
    change u ∈ db₁.usages.rows
    rw [husages]
    exact List.mem_append_right _ hu
  · rintro ⟨hnew, horder⟩
    refine ⟨horder, fun u hu => ?_⟩
    change u ∈ db₁.usages.rows at hu
    rw [husages] at hu
    rcases List.mem_append.mp hu with hold | hnew'
    · exact hfit.usages u hold
    · exact hnew u hnew'

theorem useInventory_fits {user pk : Uuid} {data : UseInventoryPayload} {used : MasterInventory}
    (h : UseInventoryView.post ctx user pk data db = (.ok used, db')) :
    db'.AmountsFit ↔ (AmountRequest.useInventory user pk data).Bounded db := by
  obtain ⟨o, item, usages, inventory, total, hfind, hid, hins, rfl, rfl⟩ := useInventory_ok h
  have hsaved : db.orders.find? (key (withInventoryTotal o (totalWith db o pk data.quantity))) =
      some o := by
    change db.orders.find? o.id = some o
    rw [hid]
    exact hfind
  have hbounded : (AmountRequest.useInventory user pk data).Bounded db ↔
      (OrderInventoryUsage.of (ctx.uuid (.usage 0)) o.id item data.quantity
          (OrderCompleteSerializer.salePriceOf db pk)).Fits ∧
        (withInventoryTotal o (totalWith db o pk data.quantity)).Fits := by
    have hmem := (Table.find?_eq_some_iff.mp hfind).1
    have htotals : (withInventoryTotal o (totalWith db o pk data.quantity)).Fits ↔
        |totalWith db o pk data.quantity| < 10 ^ 12 ∧
          o.serviceFee + totalWith db o pk data.quantity - o.bonusUsed < 10 ^ 12 :=
      recalculateTotal_fits.trans (and_iff_right (hfit.orders o hmem).serviceFee)
    rw [of_fits, htotals]
    simp [AmountRequest.Bounded, hfind]
  rw [hbounded, ← Table.forall_mem_save hsaved hfit.orders,
    ← Table.forall_mem_insert? hins hfit.usages]
  constructor
  · intro hafter
    exact ⟨hafter.usages, hafter.orders⟩
  · rintro ⟨husages, horders⟩
    exact ⟨horders, husages⟩

theorem internalCreate_fits {data : InternalApi.OrderPayload} {o' : Order}
    (h : InternalOrderWriteSerializer.create ctx data db = (.ok o', db')) :
    db'.AmountsFit ↔ (AmountRequest.internalCreate data).Bounded db := by
  obtain ⟨date, time, client, service, orders, hins, rfl, -⟩ := internalCreate_ok h
  have hiff : { db with orders := orders }.AmountsFit ↔
      (InternalOrderWriteSerializer.newOrder ctx
        (InternalOrderWriteSerializer.attrsOf data date time) client
          service).recalculateTotal.Fits :=
    hfit.create_iff hins rfl rfl
  rw [hiff, recalculateTotal_fits]
  change Money.Fits (data.price.getD 0) ∧ Money.Fits 0 ∧ data.price.getD 0 + 0 - 0 < 10 ^ 12 ↔
    |data.price.getD 0| < 10 ^ 12
  unfold Money.Fits
  constructor
  · intro hprice
    exact hprice.1
  · intro hprice
    have hlt := (abs_lt.mp hprice).2
    exact ⟨hprice, by decide, by omega⟩

theorem internalExpress_fits {data : ExpressPayload} {o' : Order}
    (h : OrderExpressCreateAPIView.post ctx data db = (.ok o', db')) :
    db'.AmountsFit ↔ (AmountRequest.internalExpress data).Bounded db := by
  simp only [OrderExpressCreateAPIView.post, bind_eq_ok, fetch_eq_ok] at h
  obtain ⟨client, db₁, hclient, _, _, ⟨-, rfl⟩, price, _, ⟨hprice, rfl⟩, h⟩ := h
  have hfit₁ : db₁.AmountsFit := by
    refine ⟨?_, ?_⟩
    · rw [(within_getOrCreateClient _ _ _ hclient).orders]
      exact hfit.orders
    · rw [within_getOrCreateClient_usages _ _ _ hclient]
      exact hfit.usages
  rw [internalCreate_fits hfit₁ h]
  change |price| < 10 ^ 12 ↔ |data.price.getD 0| < 10 ^ 12
  rw [hprice, Option.getD_some]

theorem internalUpdate_fits {pk : Uuid} {data : InternalApi.OrderPayload} {o' : Order}
    (h : InternalOrderWriteSerializer.update ctx pk data db = (.ok o', db')) :
    db'.AmountsFit ↔ (AmountRequest.internalUpdate pk data).Bounded db := by
  simp only [InternalOrderWriteSerializer.update, saveOrder, bind_eq_ok, require_eq_ok,
    modify_eq_ok, pure_eq_ok] at h
  obtain ⟨o, _, hget, attrs, _, hvalid, _, _, ⟨-, rfl⟩, _, _, rfl, -, rfl⟩ := h
  obtain ⟨hfind, rfl, rfl⟩ := getOrder_ok hget
  obtain ⟨⟨date, time, rfl⟩, -, rfl⟩ := internalValidate_ok hvalid
  have hmem := (Table.find?_eq_some_iff.mp hfind).1
  have hinventory := (hfit.orders o hmem).inventoryTotal
  have hiff : { db with orders := db.orders.save (InternalOrderWriteSerializer.updated
      (InternalOrderWriteSerializer.attrsOf data date time) o) }.AmountsFit ↔
      (InternalOrderWriteSerializer.updated
        (InternalOrderWriteSerializer.attrsOf data date time) o).Fits :=
    hfit.save_iff (o := o) hfind rfl rfl
  rw [hiff, InternalOrderWriteSerializer.updated, recalculateTotal_fits]
  change Money.Fits (data.price.getD o.serviceFee) ∧ Money.Fits o.inventoryTotal ∧
    data.price.getD o.serviceFee + o.inventoryTotal - o.bonusUsed < 10 ^ 12 ↔ _
  simp only [AmountRequest.Bounded, hfind, Option.some.injEq, forall_eq']
  exact and_congr_right fun _ => and_iff_right hinventory

/-- Where the amounts fit their columns, those that an accepted request computes fit
exactly when the sale prices, the lines of its items, the sums with what the order has,
and the price that sets the service fee are within the width of the columns. -/
theorem AmountRequest.amounts_fit (r : AmountRequest) (haccepted : r.Accepted) {a : Response}
    (h : view cfg ctx r.request db = (.ok a, db')) : db'.AmountsFit ↔ r.Bounded db := by
  cases r with
  | check user pk data =>
      obtain ⟨o', hrun, -⟩ := map_eq_ok.mp h
      exact check_fits hfit haccepted.1 hrun
  | useInventory user pk data =>
      obtain ⟨used, hrun, -⟩ := map_eq_ok.mp h
      exact useInventory_fits hfit hrun
  | internalCreate data =>
      obtain ⟨o', hrun, -⟩ := map_eq_ok.mp h
      exact internalCreate_fits hfit hrun
  | internalExpress data =>
      obtain ⟨o', hrun, -⟩ := map_eq_ok.mp h
      exact internalExpress_fits hfit hrun
  | internalUpdate pk data =>
      obtain ⟨o', hrun, -⟩ := map_eq_ok.mp h
      exact internalUpdate_fits hfit hrun

end Requests

theorem Sample.acceptedOrder_fits : Sample.acceptedOrder.Fits :=
  ⟨by decide, by decide, by decide⟩

theorem Sample.amountsFit_accepting : (Sample.accepting .empty).AmountsFit :=
  ⟨List.forall_mem_singleton.mpr Sample.acceptedOrder_fits, fun _ hu => by cases hu⟩

open Sample in
theorem AmountRequest.amounts_fit_sample :
    (AmountRequest.check 2 10 twoItems).Accepted ∧
      (∃ a, (view {} drawing (AmountRequest.check 2 10 twoItems).request
        (accepting .empty)).1 = .ok a) ∧
      (view {} drawing (AmountRequest.check 2 10 twoItems).request
        (accepting .empty)).2.AmountsFit := by
  have haccepted : (AmountRequest.check 2 10 twoItems).Accepted := by
    refine ⟨by decide, ?_⟩
    decide
  have hbounded : (AmountRequest.check 2 10 twoItems).Bounded (accepting .empty) := by
    intro o hfind
    obtain rfl : acceptedOrder = o := Option.some.inj hfind
    refine ⟨?_, by decide, by decide⟩
    decide
  have hrun : view {} drawing (AmountRequest.check 2 10 twoItems).request (accepting .empty) =
      (.ok _, (view {} drawing (AmountRequest.check 2 10 twoItems).request
        (accepting .empty)).2) := rfl
  refine ⟨haccepted, ⟨_, rfl⟩, ?_⟩
  exact (AmountRequest.amounts_fit amountsFit_accepting _ haccepted hrun).mpr hbounded

open Sample in
/-- An order of the internal API at a price of thirteen digits. -/
theorem AmountRequest.price_overflows :
    ¬∀ (cfg : Settings) (ctx : Context) (r : AmountRequest) (db db' : DB) (a : Response),
      db.AmountsFit → r.Accepted → view cfg ctx r.request db = (.ok a, db') → db'.AmountsFit := by
  intro h
  have hfit : Sample.db.AmountsFit := ⟨fun _ ho => (by cases ho), fun _ hu => (by cases hu)⟩
  have haccepted : (AmountRequest.internalCreate
      { client := some 1, service := some 4, price := some (10 ^ 12) }).Accepted := by
    rintro _ ⟨⟩
    decide
  have hafter := h {} (at_ 20) _ Sample.db _ _ hfit haccepted rfl
  have hfee := (hafter.orders _ (List.mem_singleton_self _)).serviceFee
  revert hfee
  decide

end Homex
