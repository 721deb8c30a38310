import Homex.Payme.Services
import Homex.System.Runs
import Mathlib.Algebra.Order.BigOperators.Group.List

/-!
# The lines of a fiscal receipt

Every usage of an order is a line of the receipt, and the line of the service
takes up what is left of the amount charged. A bonus lowers that line alone, so
there is no receipt when the bonus is more than the service fee and there is
equipment to pay for.
-/

namespace Homex

namespace Payme

open Relational Orders Warehouse Profiles

variable {db : DB} {order : Order} {usage : OrderInventoryUsage} {item : Item}
  {usages : List OrderInventoryUsage} {items : List Item}

/-- The usages of an order, as the receipt goes through them. -/
def usagesOf (db : DB) (order : Uuid) : List OrderInventoryUsage :=
  db.usages.rows.filter fun usage => usage.order = order

/-- The product that a usage is of. -/
def productOf (db : DB) (usage : OrderInventoryUsage) : Option WarehouseProduct :=
  (db.inventory.find? usage.inventory).bind fun row => db.products.find? row.warehouseProduct

/-- The line of the usage, whose product has an MXIK code. -/
def LineOf (db : DB) (usage : OrderInventoryUsage) (item : Item) : Prop :=
  ∃ product, productOf db usage = some product ∧ product.mxik ≠ "" ∧
    item = usageItem usage product

/-- The service and every product used have an MXIK code. -/
def Coded (db : DB) (order : Order) : Prop :=
  (∃ service, db.services.find? order.service = some service ∧ service.mxik ≠ "") ∧
    ∀ usage ∈ usagesOf db order.id, ∃ product,
      productOf db usage = some product ∧ product.mxik ≠ ""

/-- A usage as it is saved. -/
structure Priced (usage : OrderInventoryUsage) : Prop where
  quantity_pos : 0 < usage.quantity
  unitPrice_nonneg : 0 ≤ usage.unitPrice
  totalPrice : usage.totalPrice = Money.store (Money.times usage.quantity usage.unitPrice)

/-- The totals of the order are those of its usages and its parts. -/
structure Totalled (db : DB) (order : Order) : Prop where
  priced : ∀ usage ∈ usagesOf db order.id, Priced usage
  inventoryTotal : order.inventoryTotal =
    ((usagesOf db order.id).map fun usage => usage.totalPrice).sum
  totalAmount : order.totalAmount =
    max (order.serviceFee + order.inventoryTotal - order.bonusUsed) 0

/-- The receipt adds up to the order's amount, line by line. -/
structure Receipt (db : DB) (order : Order) (items : List Item) : Prop where
  total : itemsTotal items = orderAmountTiyin order
  lines : ∃ service first rest, items = first :: rest ∧
    db.services.find? order.service = some service ∧ first.title = service.name ∧
    first.code = service.mxik ∧ first.price = max (order.serviceFee - order.bonusUsed) 0 ∧
    first.count = 1 ∧ List.Forall₂ (LineOf db) (usagesOf db order.id) rest ∧
    itemsTotal rest = order.inventoryTotal
  price_nonneg : ∀ item ∈ items, 0 ≤ item.price

/-- The line of the service, which balances the receipt. -/
def serviceItem (order : Order) (service : Service) (items : List Item) : Item where
  title := service.name
  price := orderAmountTiyin order - itemsTotal items
  count := 1
  code := service.mxik
  vatPercent := service.vatPercent
  packageCode := service.packageCode

/-- `buildFiscalItems`, with the answer of its last branch as a parameter. -/
def buildFiscalItemsWith (mismatch : List Item) (db : DB) (order : Order) : List Item :=
  match db.services.find? order.service with
  | none => []
  | some service =>
      if service.mxik = "" then []
      else
        match usageItems db (usagesOf db order.id) with
        | none => []
        | some items =>
            if (serviceItem order service items).price < 0 then []
            else
              let all := serviceItem order service items :: items
              if itemsTotal all ≠ orderAmountTiyin order then mismatch else all

theorem buildFiscalItemsWith_nil (db : DB) (order : Order) :
    buildFiscalItemsWith [] db order = buildFiscalItems db order := rfl

@[simp] theorem itemsTotal_nil : itemsTotal [] = 0 := rfl

@[simp] theorem itemsTotal_cons (item : Item) (items : List Item) :
    itemsTotal (item :: items) = item.price * item.count + itemsTotal items := by
  simp [itemsTotal]

theorem usageItem_price_nonneg (product : WarehouseProduct) (h : Priced usage) :
    0 ≤ (usageItem usage product).price := by
  unfold usageItem
  split
  · exact h.unitPrice_nonneg
  · change 0 ≤ usage.totalPrice
    rw [h.totalPrice]
    exact Money.store_nonneg (Int.mul_nonneg h.quantity_pos.le h.unitPrice_nonneg)

/-- A whole number of pieces at their price is the stored total of the line. -/
theorem usageItem_charge (product : WarehouseProduct) (h : Priced usage) :
    (usageItem usage product).price * (usageItem usage product).count = usage.totalPrice := by
  unfold usageItem
  split
  · next hwhole =>
      obtain ⟨pieces, hpieces⟩ := Int.dvd_of_emod_eq_zero hwhole.2
      have hexact : Money.times usage.quantity usage.unitPrice =
          Money.toProduct (usage.unitPrice * pieces) := by
        rw [Money.times, Money.toProduct, hpieces, Int.mul_comm 100, Int.mul_comm _ usage.unitPrice,
          Int.mul_assoc]
      rw [h.totalPrice, hexact, Money.store_toProduct, hpieces]
      change usage.unitPrice * (100 * pieces / 100) = _
      rw [Int.mul_ediv_cancel_left pieces (by decide)]
  · exact mul_one _

/-- The lines of the usages, in their order. -/
theorem usageItems_eq_some_iff :
    usageItems db usages = some items ↔ List.Forall₂ (LineOf db) usages items := by
  induction usages generalizing items with
  | nil =>
      rw [usageItems, Option.some.injEq, List.forall₂_nil_left_iff]
      exact eq_comm
  | cons usage usages ih =>
      have hcons : usageItems db (usage :: usages) = some items ↔
          ∃ product rest, productOf db usage = some product ∧ product.mxik ≠ "" ∧
            usageItems db usages = some rest ∧ usageItem usage product :: rest = items := by
        cases hproduct : productOf db usage with
        | none =>
            simp only [productOf] at hproduct
            simp [usageItems, hproduct]
        | some product =>
            simp only [productOf] at hproduct
            by_cases hcode : product.mxik = ""
            · simp [usageItems, hproduct, hcode]
            · simp [usageItems, hproduct, hcode, Option.map_eq_some_iff]
      rw [hcons, List.forall₂_cons_left_iff]
      constructor
      · rintro ⟨product, rest, hproduct, hcode, hrest, rfl⟩
        exact ⟨_, rest, ⟨product, hproduct, hcode, rfl⟩, ih.mp hrest, rfl⟩
      · rintro ⟨_, rest, ⟨product, hproduct, hcode, rfl⟩, hrest, rfl⟩
        exact ⟨product, rest, hproduct, hcode, ih.mpr hrest, rfl⟩

theorem exists_lines_iff :
    (∃ items, List.Forall₂ (LineOf db) usages items) ↔
      ∀ usage ∈ usages, ∃ product, productOf db usage = some product ∧ product.mxik ≠ "" := by
  induction usages with
  | nil => simp
  | cons usage usages ih =>
      rw [List.forall_mem_cons, ← ih]
      constructor
      · rintro ⟨_, _ | ⟨⟨product, hproduct, hcode, -⟩, hrest⟩⟩
        exact ⟨⟨product, hproduct, hcode⟩, _, hrest⟩
      · rintro ⟨⟨product, hproduct, hcode⟩, rest, hrest⟩
        exact ⟨_, .cons ⟨product, hproduct, hcode, rfl⟩ hrest⟩

theorem itemsTotal_of_lines (h : List.Forall₂ (LineOf db) usages items)
    (hpriced : ∀ usage ∈ usages, Priced usage) :
    itemsTotal items = (usages.map fun usage => usage.totalPrice).sum := by
  induction h with
  | nil => rfl
  | cons hline _ ih =>
      obtain ⟨product, -, -, rfl⟩ := hline
      rw [List.forall_mem_cons] at hpriced
      rw [itemsTotal_cons, usageItem_charge product hpriced.1, ih hpriced.2, List.map_cons,
        List.sum_cons]

theorem price_nonneg_of_lines (h : List.Forall₂ (LineOf db) usages items)
    (hpriced : ∀ usage ∈ usages, Priced usage) : ∀ item ∈ items, 0 ≤ item.price := by
  induction h with
  | nil => simp
  | cons hline _ ih =>
      obtain ⟨product, -, -, rfl⟩ := hline
      rw [List.forall_mem_cons] at hpriced ⊢
      exact ⟨usageItem_price_nonneg product hpriced.1, ih hpriced.2⟩

section Totalled

variable (h : Totalled db order)
include h

theorem Totalled.itemsTotal (hlines : List.Forall₂ (LineOf db) (usagesOf db order.id) items) :
    itemsTotal items = order.inventoryTotal := by
  rw [h.inventoryTotal]
  exact itemsTotal_of_lines hlines h.priced

theorem Totalled.inventoryTotal_nonneg : 0 ≤ order.inventoryTotal := by
  rw [h.inventoryTotal]
  refine List.sum_nonneg fun price hprice => ?_
  obtain ⟨usage, hmem, rfl⟩ := List.mem_map.mp hprice
  have hpriced := h.priced usage hmem
  rw [hpriced.totalPrice]
  exact Money.store_nonneg (Int.mul_nonneg hpriced.quantity_pos.le hpriced.unitPrice_nonneg)

/-- The service line is not negative when the bonus is within the service fee, or
there is nothing else to pay for. -/
theorem Totalled.service_nonneg_iff :
    0 ≤ orderAmountTiyin order - order.inventoryTotal ↔
      order.bonusUsed ≤ order.serviceFee ∨ order.inventoryTotal = 0 := by
  have hnonneg := h.inventoryTotal_nonneg
  change 0 ≤ order.totalAmount - order.inventoryTotal ↔ _
  rw [h.totalAmount]
  omega

theorem Totalled.service_eq (hbonus : order.bonusUsed ≤ order.serviceFee ∨
    order.inventoryTotal = 0) :
    orderAmountTiyin order - order.inventoryTotal = max (order.serviceFee - order.bonusUsed) 0 := by
  have hnonneg := h.inventoryTotal_nonneg
  change order.totalAmount - order.inventoryTotal = _
  rw [h.totalAmount]
  omega

end Totalled

/-- The line of the service makes the receipt add up. -/
theorem itemsTotal_serviceItem (order : Order) (service : Service) (items : List Item) :
    itemsTotal (serviceItem order service items :: items) = orderAmountTiyin order := by
  rw [itemsTotal_cons]
  change (orderAmountTiyin order - itemsTotal items) * 1 + itemsTotal items = _
  omega

/-- The lines that were built never fail to add up. -/
theorem buildFiscalItemsWith_eq (mismatch : List Item) (db : DB) (order : Order) :
    buildFiscalItemsWith mismatch db order = buildFiscalItems db order := by
  rw [← buildFiscalItemsWith_nil]
  unfold buildFiscalItemsWith
  simp only [itemsTotal_serviceItem, ne_eq, not_true_eq_false, if_false]

/-- Without a code for every line there is no receipt. -/
theorem buildFiscalItems_of_not_coded (h : ¬Coded db order) : buildFiscalItems db order = [] := by
  rw [← buildFiscalItemsWith_nil]
  unfold buildFiscalItemsWith
  cases hservice : db.services.find? order.service with
  | none => rfl
  | some service =>
      by_cases hcode : service.mxik = ""
      · exact if_pos hcode
      · refine (if_neg hcode).trans ?_
        cases hitems : usageItems db (usagesOf db order.id) with
        | none => rfl
        | some items =>
            have hcoded := exists_lines_iff.mp ⟨items, usageItems_eq_some_iff.mp hitems⟩
            exact (h ⟨⟨service, hservice, hcode⟩, hcoded⟩).elim

/-- With them there is one, unless the line of the service is negative. -/
theorem buildFiscalItems_of_lines {service : Service}
    (hservice : db.services.find? order.service = some service) (hcode : service.mxik ≠ "")
    (hlines : List.Forall₂ (LineOf db) (usagesOf db order.id) items) :
    buildFiscalItems db order =
      if (serviceItem order service items).price < 0 then []
      else serviceItem order service items :: items := by
  rw [← buildFiscalItemsWith_nil]
  unfold buildFiscalItemsWith
  rw [hservice]
  refine (if_neg hcode).trans ?_
  rw [usageItems_eq_some_iff.mpr hlines]
  simp only [itemsTotal_serviceItem, ne_eq, not_true_eq_false, if_false]

theorem Totalled.receipt (h : Totalled db order) {service : Service}
    (hservice : db.services.find? order.service = some service)
    (hlines : List.Forall₂ (LineOf db) (usagesOf db order.id) items)
    (hbonus : order.bonusUsed ≤ order.serviceFee ∨ order.inventoryTotal = 0) :
    Receipt db order (serviceItem order service items :: items) := by
  have hitems := h.itemsTotal hlines
  have hprice : (serviceItem order service items).price =
      max (order.serviceFee - order.bonusUsed) 0 := by
    change orderAmountTiyin order - Payme.itemsTotal items = _
    rw [hitems]
    exact h.service_eq hbonus
  refine ⟨itemsTotal_serviceItem order service items,
    ⟨service, _, items, rfl, hservice, rfl, rfl, hprice, rfl, hlines, hitems⟩, ?_⟩
  rw [List.forall_mem_cons]
  refine ⟨?_, price_nonneg_of_lines hlines h.priced⟩
  rw [hprice]
  exact le_max_right _ _

theorem Totalled.service_neg_iff (h : Totalled db order) (service : Service)
    (hlines : List.Forall₂ (LineOf db) (usagesOf db order.id) items) :
    (serviceItem order service items).price < 0 ↔
      ¬(order.bonusUsed ≤ order.serviceFee ∨ order.inventoryTotal = 0) := by
  change orderAmountTiyin order - Payme.itemsTotal items < 0 ↔ _
  rw [h.itemsTotal hlines, ← h.service_nonneg_iff, not_le]

/-- The receipt of an order whose totals are those of its usages. -/
theorem fiscal_receipt_adds_up (db : DB) (order : Order) (h : Totalled db order) :
    (buildFiscalItems db order ≠ [] ↔
        Coded db order ∧ (order.bonusUsed ≤ order.serviceFee ∨ order.inventoryTotal = 0)) ∧
      (buildFiscalItems db order ≠ [] → Receipt db order (buildFiscalItems db order)) ∧
      ∀ mismatch, buildFiscalItemsWith mismatch db order = buildFiscalItems db order := by
  rw [← and_assoc]
  refine ⟨?_, fun mismatch => buildFiscalItemsWith_eq mismatch db order⟩
  by_cases hcoded : Coded db order
  · obtain ⟨⟨service, hservice, hcode⟩, husages⟩ := id hcoded
    obtain ⟨items, hlines⟩ := exists_lines_iff.mpr husages
    rw [buildFiscalItems_of_lines hservice hcode hlines]
    by_cases hbonus : order.bonusUsed ≤ order.serviceFee ∨ order.inventoryTotal = 0
    · rw [if_neg fun hneg => (h.service_neg_iff service hlines).mp hneg hbonus]
      exact ⟨iff_of_true (List.cons_ne_nil _ _) ⟨hcoded, hbonus⟩,
        fun _ => h.receipt hservice hlines hbonus⟩
    · rw [if_pos ((h.service_neg_iff service hlines).mpr hbonus)]
      exact ⟨iff_of_false (fun hne => hne rfl) fun hboth => hbonus hboth.2,
        fun hne => absurd rfl hne⟩
  · rw [buildFiscalItems_of_not_coded hcoded]
    exact ⟨iff_of_false (fun hne => hne rfl) fun hboth => hcoded hboth.1, fun hne => absurd rfl hne⟩

namespace Sample

/-- A cleaning with two filters and half a metre of pipe, and a bonus. -/
def fiscal : DB where
  services := ⟨[{ id := 4, name := "Konditsioner tozalash", mxik := "00702001001000001" }],
    by decide⟩
  products := ⟨[{ id := 5, name := "Filtr", salePrice := 1500000, mxik := "00509001001000001" },
    { id := 7, name := "Quvur", salePrice := 333333, mxik := "00509001001000002" }], by decide⟩
  inventory := ⟨[{ id := 6, master := 2, warehouseProduct := 5, quantity := 300 },
    { id := 8, master := 2, warehouseProduct := 7, quantity := 300 }], by decide⟩
  usages := ⟨[.of 11 10 6 200 1500000, .of 12 10 8 50 333333], by decide⟩

def fiscalOrder : Order where
  id := 10
  client := 1
  service := 4
  addressText := "Chilonzor"
  lat := 0
  lng := 0
  scheduledDate := 0
  scheduledTime := 0
  serviceFee := 10000000
  inventoryTotal := 3166667
  bonusUsed := 500000
  totalAmount := 12666667

end Sample

theorem fiscal_receipt_adds_up_sample :
    Receipt Sample.fiscal Sample.fiscalOrder
      (buildFiscalItems Sample.fiscal Sample.fiscalOrder) := by
  have htotalled : Totalled Sample.fiscal Sample.fiscalOrder := by
    refine ⟨?_, by decide, by decide⟩
    have husages : usagesOf Sample.fiscal Sample.fiscalOrder.id =
        [.of 11 10 6 200 1500000, .of 12 10 8 50 333333] := by decide
    rw [husages, List.forall_mem_cons, List.forall_mem_singleton]
    exact ⟨⟨by decide, by decide, rfl⟩, ⟨by decide, by decide, rfl⟩⟩
  exact (fiscal_receipt_adds_up _ _ htotalled).2.1 (by decide)

end Payme

end Homex
