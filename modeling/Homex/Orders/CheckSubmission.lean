import Homex.Orders.PartsTotal

/-!
# The submission of a check

A check is accepted when the rows of its items are the master's and each covers
all that the check takes from it. The rows are deducted one item after the other,
so that an item finds its row as the earlier ones left it, and the first that finds
too little undoes them. An accepted check adds a usage for each item, and sums up the
usages of the order in its totals, unless their stored totals sum to zero: then it
takes the unrounded totals of its own items instead.
-/

namespace Homex

namespace Orders.OrderCompleteSerializer

open Relational Action Code Warehouse

/-- What the items take from a row in total. -/
def requested (items : List UsedItem) (inventory : Uuid) : Int :=
  (items.map fun item => if item.inventoryId = inventory then item.quantity.1 else 0).sum

/-- Every item names a row of the master of the order, with all that is taken from it. -/
def Covers (db : DB) (o : Order) (items : List UsedItem) : Prop :=
  ∀ item ∈ items, ∃ row, db.inventory.find? item.inventoryId = some row ∧
    some row.master = o.master ∧ requested items item.inventoryId ≤ row.quantity

/-- The usages of the items, the first of which is used in round `i`. -/
def usagesOf (ctx : Context) (db : DB) (o : Order) (i : Nat) :
    List UsedItem → List OrderInventoryUsage
  | [] => []
  | item :: items =>
      .of (ctx.uuid (.usage i)) o.id item.inventoryId item.quantity
          (salePriceOf db item.inventoryId) ::
        usagesOf ctx db o (i + 1) items

/-- The foreign key of master stock. -/
def StockHasProducts (db : DB) : Prop :=
  ∀ pk row, db.inventory.find? pk = some row → (db.products.find? row.warehouseProduct).isSome

/-- `uuid4` draws ids for the usages that no other usage has. -/
structure FreshUsages (ctx : Context) (db : DB) (i : Nat) : Prop where
  distinct : ∀ j k, ctx.uuid (.usage j) = ctx.uuid (.usage k) → j = k
  unused : ∀ j, i ≤ j → db.usages.find? (ctx.uuid (.usage j)) = none

/-- What the loop does from round `i` on. -/
structure Deducts (ctx : Context) (o : Order) (i : Nat) (items : List UsedItem) (db db' : DB) :
    Prop where
  inventory : ∀ pk, db'.inventory.find? pk =
    (db.inventory.find? pk).map fun row =>
      { row with quantity := row.quantity - requested items pk }
  usages : db'.usages.rows = db.usages.rows ++ usagesOf ctx db o i items

variable {ctx : Context} {db db' : DB} {o : Order} {i : Nat} {item : UsedItem}
  {items : List UsedItem}

/-! ### What the items take -/

theorem requested_cons (inventory : Uuid) :
    requested (item :: items) inventory =
      (if item.inventoryId = inventory then item.quantity.1 else 0) +
        requested items inventory := by
  unfold requested
  rw [List.map_cons, List.sum_cons]

theorem requested_nonneg (items : List UsedItem) (inventory : Uuid) :
    0 ≤ requested items inventory := by
  induction items with
  | nil => exact le_refl 0
  | cons item items ih =>
      rw [requested_cons]
      have hpos : 0 < item.quantity.1 := item.quantity.2
      split
      · omega
      · omega

theorem requested_of_not_mem {inventory : Uuid}
    (h : ∀ item ∈ items, item.inventoryId ≠ inventory) : requested items inventory = 0 := by
  induction items with
  | nil => rfl
  | cons item items ih =>
      rw [requested_cons, if_neg (h item List.mem_cons_self),
        ih fun item hitem => h item (List.mem_cons_of_mem _ hitem), Int.zero_add]

/-! ### One round -/

section Round

variable {row : MasterInventory} {product : WarehouseProduct}

theorem UsesItem.inventory (h : UsesItem ctx o i item db db' row product) (pk : Uuid) :
    db'.inventory.find? pk = (db.inventory.find? pk).map fun row =>
      { row with quantity :=
          row.quantity - if item.inventoryId = pk then item.quantity.1 else 0 } := by
  obtain ⟨usages, -, rfl⟩ := h.inserted
  have hid : row.id = item.inventoryId := Table.key_of_find? h.found
  refine (Table.find?_save h.find?_key pk).trans ?_
  have hkey : key { row with quantity := row.quantity - item.quantity.1 } = item.inventoryId := hid
  rw [hkey]
  by_cases hpk : item.inventoryId = pk
  · rw [if_pos hpk, ← hpk, h.found, Option.map_some, if_pos rfl]
  · rw [if_neg hpk]
    simp [hpk]

theorem UsesItem.usages (h : UsesItem ctx o i item db db' row product) :
    db'.usages.rows = db.usages.rows ++ [.of (ctx.uuid (.usage i)) o.id item.inventoryId
      item.quantity (OrderCompleteSerializer.salePriceOf db item.inventoryId)] := by
  rw [h.salePrice]
  obtain ⟨usages, hins, rfl⟩ := h.inserted
  rw [show row.id = item.inventoryId from Table.key_of_find? h.found] at hins
  exact (Table.insert?_eq_some_iff.mp hins).2

theorem UsesItem.stockHasProducts (h : UsesItem ctx o i item db db' row product)
    (hproducts : StockHasProducts db) : StockHasProducts db' := by
  intro pk row' hrow'
  have hsame := h.warehouseProduct pk
  rw [hrow'] at hsame
  obtain ⟨old, hold, hproduct⟩ := Option.map_eq_some_iff.mp hsame.symm
  rw [h.products, show row'.warehouseProduct = old.warehouseProduct from hproduct.symm]
  exact hproducts pk old hold

theorem UsesItem.freshUsages (h : UsesItem ctx o i item db db' row product)
    (hfresh : FreshUsages ctx db i) : FreshUsages ctx db' (i + 1) := by
  obtain ⟨usages, hins, rfl⟩ := h.inserted
  refine ⟨hfresh.distinct, fun j hj => ?_⟩
  refine (Table.find?_insert? hins _).trans ?_
  rw [if_neg]
  · exact hfresh.unused j (by omega)
  · intro hij
    have hij' : i = j := hfresh.distinct i j hij
    omega

/-- What is left to take fits after the round exactly when all of it fits before. -/
theorem UsesItem.covers (h : UsesItem ctx o i item db db' row product) :
    Covers db o (item :: items) ↔ Covers db' o items := by
  constructor
  · intro hcovers other hother
    obtain ⟨old, hold, hmaster, hle⟩ := hcovers other (List.mem_cons_of_mem _ hother)
    have hfind := h.inventory other.inventoryId
    rw [hold, Option.map_some] at hfind
    rw [requested_cons] at hle
    refine ⟨_, hfind, hmaster, ?_⟩
    change _ ≤ old.quantity - _
    omega
  · intro hcovers other hother
    have hfind := h.inventory other.inventoryId
    by_cases hitem : ∃ it ∈ items, it.inventoryId = other.inventoryId
    · obtain ⟨it, hit, hsame⟩ := hitem
      obtain ⟨new, hnew, hmaster, hle⟩ := hcovers it hit
      rw [hsame] at hnew hle
      rw [hnew] at hfind
      obtain ⟨old, hold, rfl⟩ := Option.map_eq_some_iff.mp hfind.symm
      refine ⟨old, hold, hmaster, ?_⟩
      rw [requested_cons]
      change _ ≤ old.quantity - _ at hle
      omega
    · have hhead : other = item := by
        rcases List.mem_cons.mp hother with rfl | htail
        · rfl
        · exact absurd ⟨other, htail, rfl⟩ hitem
      subst hhead
      have hzero : requested items other.inventoryId = 0 :=
        requested_of_not_mem fun it hit hsame => hitem ⟨it, hit, hsame⟩
      refine ⟨row, h.found, h.master, ?_⟩
      rw [requested_cons, if_pos rfl, hzero, Int.add_zero]
      exact h.covered

end Round

theorem useItem_of_covers (hcovers : Covers db o (item :: items))
    (hproducts : StockHasProducts db) (hfresh : FreshUsages ctx db i) :
    ∃ line db', useItem ctx o i item db = (.ok line, db') := by
  obtain ⟨row, hfind, hmaster, hle⟩ := hcovers item List.mem_cons_self
  obtain ⟨product, hproduct⟩ := Option.isSome_iff_exists.mp (hproducts _ row hfind)
  have hcovered : item.quantity ≤ row.quantity := by
    rw [requested_cons, if_pos rfl] at hle
    have hrest := requested_nonneg items item.inventoryId
    omega
  have hunused : db.usages.find? (key (OrderInventoryUsage.of (ctx.uuid (.usage i)) o.id row.id
      item.quantity product.salePrice)) = none := hfresh.unused i (le_refl i)
  obtain ⟨usages, hins⟩ := Table.exists_insert? hunused
  refine ⟨Money.times item.quantity product.salePrice,
    { db with
      inventory := db.inventory.save { row with quantity := row.quantity - item.quantity.1 }
      usages := usages }, ?_⟩
  simp only [useItem, saveInventory, createUsage, bind_eq_ok, fetch_eq_ok, require_eq_ok,
    modify_eq_ok, write_eq_ok, Option.map_eq_some_iff, pure_eq_ok]
  exact ⟨row, db, ⟨hfind, rfl⟩, (), db, ⟨hmaster, rfl⟩, product, db, ⟨hproduct, rfl⟩, (), db,
    ⟨hcovered, rfl⟩, (), _, rfl, (), _, ⟨usages, hins, rfl⟩, rfl, rfl⟩

/-- The loop goes through exactly when the stock covers the items. -/
theorem useItems_ok_iff (hproducts : StockHasProducts db) (hfresh : FreshUsages ctx db i) :
    (∃ total db', useItems ctx o i items db = (.ok total, db')) ↔ Covers db o items := by
  induction items generalizing i db with
  | nil => exact iff_of_true ⟨0, db, rfl⟩ fun _ h => nomatch h
  | cons item items ih =>
      constructor
      · rintro ⟨total, db', h⟩
        simp only [useItems, bind_eq_ok, pure_eq_ok] at h
        obtain ⟨line, db₁, hitem, rest, _, hrest, -, -⟩ := h
        obtain ⟨row, product, huses, -⟩ := useItem_ok hitem
        exact huses.covers.mpr ((ih (huses.stockHasProducts hproducts)
          (huses.freshUsages hfresh)).mp ⟨rest, _, hrest⟩)
      · intro hcovers
        obtain ⟨line, db₁, hitem⟩ := useItem_of_covers hcovers hproducts hfresh
        obtain ⟨row, product, huses, -⟩ := useItem_ok hitem
        obtain ⟨rest, db', hrest⟩ := (ih (huses.stockHasProducts hproducts)
          (huses.freshUsages hfresh)).mpr (huses.covers.mp hcovers)
        refine ⟨line + rest, db', ?_⟩
        simp only [useItems, bind_eq_ok, pure_eq_ok]
        exact ⟨line, db₁, hitem, rest, db', hrest, rfl, rfl⟩

theorem usagesOf_congr (h : ∀ pk, salePriceOf db' pk = salePriceOf db pk) :
    usagesOf ctx db' o i items = usagesOf ctx db o i items := by
  induction items generalizing i with
  | nil => rfl
  | cons item items ih => rw [usagesOf, usagesOf, h, ih]

/-- What the loop leaves: every row less all that was taken from it, and one usage for
each item, at the sale price of its product. -/
theorem deducts_of_ok {total : Int} (h : useItems ctx o i items db = (.ok total, db')) :
    Deducts ctx o i items db db' := by
  induction items generalizing i db total with
  | nil =>
      simp only [useItems, pure_eq_ok] at h
      obtain ⟨-, rfl⟩ := h
      refine ⟨fun pk => ?_, (List.append_nil _).symm⟩
      simp [requested]
  | cons item items ih =>
      simp only [useItems, bind_eq_ok, pure_eq_ok] at h
      obtain ⟨line, db₁, hitem, rest, _, hrest, -, rfl⟩ := h
      obtain ⟨row, product, huses, -⟩ := useItem_ok hitem
      have hloop := ih hrest
      refine ⟨fun pk => ?_, ?_⟩
      · rw [hloop.inventory pk, huses.inventory pk, Option.map_map]
        congr 1
        funext row
        simp only [Function.comp_apply, requested_cons, Int.sub_sub]
      · rw [hloop.usages, huses.usages, List.append_assoc, usagesOf_congr huses.salePriceOf]
        rfl

/-! ### The check -/

/-- What a submitted check is to leave. -/
structure Submits (ctx : Context) (data : OrderCompletePayload) (o : Order) (db : DB)
    (saved : Order) (db' : DB) : Prop where
  deducts : Deducts ctx o 0 data.usedItems db db'
  stored : db'.orders.find? o.id = some saved
  inventoryTotal : saved.inventoryTotal = usageTotal db' o.id
  totalAmount : saved.totalAmount =
    max (data.serviceFee + saved.inventoryTotal - o.bonusUsed) 0
  status : saved.status = .awaitingPayment
  wallet : db'.wallet = db.wallet

/-- A check succeeds when the stock covers it, and otherwise leaves things as they were. -/
def AsSpecified (ctx : Context) (data : OrderCompletePayload) (o : Order) (db : DB) :
    Except Error Order × DB → Prop
  | (.ok saved, db') => Covers db o data.usedItems ∧ Submits ctx data o db saved db'
  | (.error _, db') => ¬Covers db o data.usedItems ∧ db'.orders = db.orders ∧
      db'.inventory = db.inventory ∧ db'.usages = db.usages

/-- The stored totals of all usages of the order after the check. -/
def totalAfter (db : DB) (o : Order) (items : List UsedItem) : Int :=
  usageTotal db o.id + ((lines db items).map Money.store).sum

/-- A total that is stored as zero rounds with the other parts. -/
theorem storedTotal_of_store_eq_zero {serviceFee bonusUsed total : Int}
    (h : Money.store total = 0) :
    storedTotal serviceFee bonusUsed total =
      max (serviceFee + Money.store total - bonusUsed) 0 := by
  apply storedTotal_eq
  unfold Money.store at h
  split at h
  · next hle => exact Or.inl hle
  · right
    omega

/-- After the loop, the row that `save` writes is as specified unless the stored totals
sum to zero and the unrounded ones do not round to zero. -/
theorem submits_iff {data : OrderCompletePayload} {total : Int} {db₁ : DB}
    (hfind : db.orders.find? o.id = some o)
    (h : useItems ctx o 0 data.usedItems db = (.ok total, db₁)) :
    Submits ctx data o db (checked ctx data o (checkTotal db₁ o.id total))
        { db₁ with
          orders := db₁.orders.save (checked ctx data o (checkTotal db₁ o.id total))
          journal := db₁.journal ++
            [.checkSubmitted (checked ctx data o (checkTotal db₁ o.id total))] } ↔
      (totalAfter db o data.usedItems ≠ 0 ∨ Money.store (lines db data.usedItems).sum = 0) := by
  have hdeducts := deducts_of_ok h
  have hframe := within_useItems _ _ _ h
  obtain ⟨rfl, husages⟩ := useItems_ok h
  have hafter : usageTotal db₁ o.id = totalAfter db o data.usedItems := husages
  constructor
  · intro hsubmits
    by_cases hzero : totalAfter db o data.usedItems = 0
    · right
      have htotal : Money.store (checkTotal db₁ o.id (lines db data.usedItems).sum) =
          usageTotal db₁ o.id := hsubmits.inventoryTotal
      rw [checkTotal, hafter, if_pos hzero, hzero] at htotal
      exact htotal
    · exact Or.inl hzero
  · intro hexact
    have htotals : Money.store (checkTotal db₁ o.id (lines db data.usedItems).sum) =
          usageTotal db₁ o.id ∧
        storedTotal data.serviceFee o.bonusUsed
            (checkTotal db₁ o.id (lines db data.usedItems).sum) =
          max (data.serviceFee +
            Money.store (checkTotal db₁ o.id (lines db data.usedItems).sum) - o.bonusUsed) 0 := by
      unfold checkTotal
      rw [hafter]
      split
      · next hzero =>
        have hstore := hexact.resolve_left (not_not_intro hzero)
        exact ⟨hstore.trans hzero.symm, storedTotal_of_store_eq_zero hstore⟩
      · refine ⟨Money.store_toProduct _, storedTotal_eq (Or.inr ?_)⟩
        unfold Money.toProduct
        omega
    have hfind₁ : db₁.orders.find? o.id = some o := by
      rw [hframe.orders]
      exact hfind
    have hstored : (db₁.orders.save (checked ctx data o
          (checkTotal db₁ o.id (lines db data.usedItems).sum))).find? o.id =
        some (checked ctx data o (checkTotal db₁ o.id (lines db data.usedItems).sum)) := by
      refine (find?_of_save _ hfind₁ ?_ o.id).trans (if_pos ?_)
      · rfl
      · rfl
    exact ⟨⟨hdeducts.inventory, hdeducts.usages⟩, hstored, htotals.1, htotals.2, rfl, hframe.wallet⟩

/-- A check does all that it is to do, or nothing when the stock does not cover it, unless
the stored totals of the usages sum to zero and its own unrounded ones do not round to
zero. -/
theorem check_submission {pk : Uuid} {data : OrderCompletePayload}
    (hfind : db.orders.find? pk = some o) (hactive : o.status ∈ activeOrderStatuses)
    (hproducts : StockHasProducts db) (hfresh : FreshUsages ctx db 0) :
    AsSpecified ctx data o db (save ctx pk data db) ↔
      (Covers db o data.usedItems →
        totalAfter db o data.usedItems ≠ 0 ∨ Money.store (lines db data.usedItems).sum = 0) := by
  have hid : o.id = pk := Table.key_of_find? hfind
  subst hid
  by_cases hcovers : Covers db o data.usedItems
  · obtain ⟨total, db₁, hitems⟩ := (useItems_ok_iff hproducts hfresh).mpr hcovers
    have hsave : save ctx o.id data db =
        (.ok (checked ctx data o (checkTotal db₁ o.id total)),
          { db₁ with
            orders := db₁.orders.save (checked ctx data o (checkTotal db₁ o.id total))
            journal := db₁.journal ++
              [.checkSubmitted (checked ctx data o (checkTotal db₁ o.id total))] }) := by
      simp only [save, saveOrder, record, atomic_eq_ok, bind_eq_ok, fetch_eq_ok, require_eq_ok,
        get_eq_ok, modify_eq_ok, pure_eq_ok]
      exact ⟨o, db, ⟨hfind, rfl⟩, (), db, ⟨hactive, rfl⟩, total, db₁, hitems, db₁, db₁, ⟨rfl, rfl⟩,
        (), _, rfl, (), _, rfl, rfl, rfl⟩
    rw [hsave]
    exact ⟨fun h _ => (submits_iff hfind hitems).mp h.2,
      fun h => ⟨hcovers, (submits_iff hfind hitems).mpr (h hcovers)⟩⟩
  · rcases hsave : save ctx o.id data db with ⟨e | saved, db'⟩
    · obtain rfl := atomic_error hsave
      exact iff_of_true ⟨hcovers, rfl, rfl, rfl⟩ fun h => absurd h hcovers
    · simp only [save, atomic_eq_ok, bind_eq_ok, fetch_eq_ok, require_eq_ok] at hsave
      obtain ⟨o', _, ⟨hfind', rfl⟩, _, _, ⟨-, rfl⟩, total, db₁, hitems, -⟩ := hsave
      obtain rfl := Option.some.inj (hfind.symm.trans hfind')
      exact absurd ((useItems_ok_iff hproducts hfresh).mp ⟨total, db₁, hitems⟩) hcovers

end Orders.OrderCompleteSerializer

namespace Sample

open Relational Orders OrderCompleteSerializer Warehouse

/-- Order 10 of master 2 is accepted. -/
def acceptedOrder : Order where
  id := 10
  client := 1
  master := some 2
  service := 4
  addressText := "Chilonzor"
  lat := 0
  lng := 0
  scheduledDate := 0
  scheduledTime := 0
  status := .accepted

/-- An earlier usage of row 6, of the time when the product had a negative price. -/
def refund : OrderInventoryUsage := .of 90 10 6 100 (-2000)

/-- The accepted order, and these usages of it. -/
def accepting (usages : Table OrderInventoryUsage) : DB :=
  { db with orders := ⟨[acceptedOrder], by decide⟩, usages }

/-- New usages get the ids from 100 on. -/
def drawing : Context where
  now := 21
  uuid draw := match draw with
    | .usage i => 100 + i
    | _ => 10

/-- Row 6 is listed twice. -/
def twoItems : OrderCompletePayload where
  serviceFee := 100000
  usedItems := [⟨6, 100, piece_pos⟩, ⟨6, 200, by decide⟩]

def oneItem : OrderCompletePayload where
  serviceFee := 100000
  usedItems := [⟨6, 100, piece_pos⟩]

/-- The earlier usage only. -/
def refunded : Table OrderInventoryUsage := ⟨[refund], by decide⟩

theorem stockHasProducts (usages : Table OrderInventoryUsage) :
    StockHasProducts (accepting usages) := by
  intro pk row hrow
  have hmem : row ∈ db.inventory.rows := Table.mem_of_find? hrow
  rw [List.mem_singleton.mp hmem]
  rfl

theorem freshUsages {usages : Table OrderInventoryUsage}
    (h : ∀ usage ∈ usages.rows, usage.id < 100) : FreshUsages drawing (accepting usages) 0 := by
  refine ⟨fun j k hjk => Nat.add_left_cancel hjk, fun j _ => ?_⟩
  rw [Table.find?_eq_none_iff]
  intro usage husage hid
  have hlt : usage.id < 100 := h usage husage
  have hj : usage.id = 100 + j := hid
  rw [hj] at hlt
  exact absurd hlt (Nat.not_lt.mpr (Nat.le_add_right 100 j))

end Sample

open Orders OrderCompleteSerializer Sample in
theorem Orders.OrderCompleteSerializer.check_submission_sample :
    ((save drawing 10 twoItems (accepting .empty)).2.inventory.find? 6).map
        (fun row => row.quantity) = some 0 ∧
      AsSpecified drawing twoItems acceptedOrder (accepting .empty)
        (save drawing 10 twoItems (accepting .empty)) := by
  refine ⟨by decide, (check_submission rfl (by decide) (stockHasProducts .empty) ?_).mpr ?_⟩
  · exact freshUsages fun _ h => nomatch h
  · exact fun _ => Or.inl (by decide)

open Orders OrderCompleteSerializer Sample in
/-- The stored totals sum to zero, and the check takes the total of its own item. -/
theorem Orders.OrderCompleteSerializer.check_adds_up_wrong :
    ¬∀ (ctx : Context) (db : DB) (o : Order) (pk : Uuid) (data : OrderCompletePayload),
      db.orders.find? pk = some o → o.status ∈ activeOrderStatuses → StockHasProducts db →
      FreshUsages ctx db 0 → AsSpecified ctx data o db (save ctx pk data db) := by
  intro h
  have hspecified := h drawing (accepting refunded) acceptedOrder 10 oneItem rfl (by decide)
    (stockHasProducts refunded) (freshUsages (by decide))
  have hsaved : (save drawing 10 oneItem (accepting refunded)).1.toOption.map
      (fun saved => saved.inventoryTotal) = some 2000 := by decide
  have hstored : usageTotal (save drawing 10 oneItem (accepting refunded)).2 10 = 0 := by decide
  rcases hrun : save drawing 10 oneItem (accepting refunded) with ⟨e | saved, db'⟩
  · rw [hrun] at hsaved
    cases hsaved
  · rw [hrun] at hsaved hstored hspecified
    have htotal : saved.inventoryTotal = 2000 := Option.some.inj hsaved
    have hsum : saved.inventoryTotal = usageTotal db' 10 := hspecified.2.inventoryTotal
    rw [hstored, htotal] at hsum
    cases hsum

end Homex
