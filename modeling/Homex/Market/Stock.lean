import Homex.Market.Views
import Mathlib.Algebra.Order.BigOperators.Group.List
import Mathlib.Algebra.Order.Ring.Nat

/-!
# The marketplace does not oversell

Stock is taken once, when an order is placed, and never given back. So the
quantity of a product and what its orders took, cancelled orders included, add up
to at most the opening quantity, unless an update changes what an order took: the
generic update writes the product and the quantity of an order, and neither takes
the difference from the stock nor prices the order again. `keepsSale` is the
condition that an update takes no more of any product and keeps the price.
-/

namespace Homex

namespace Market

open Relational Action

/-- What an order took of a product. -/
def MarketOrder.taken (order : MarketOrder) (product : Uuid) : Nat :=
  if order.product = product then order.quantity else 0

/-- What an order that is not cancelled took of a product. -/
def MarketOrder.sold (order : MarketOrder) (product : Uuid) : Nat :=
  if order.status = .cancelled then 0 else order.taken product

namespace MarketTables

variable (db : MarketTables)

/-- What the orders took of a product. -/
def taken (product : Uuid) : Nat := db.orders.sum fun o => o.taken product

/-- The quantity of a product over its orders that are not cancelled. -/
def sold (product : Uuid) : Nat := db.orders.sum fun o => o.sold product

/-- The price of an order at the price of its product. -/
def cost (order : MarketOrder) : Option Int :=
  (db.products.find? order.product).map fun p => p.price * order.quantity

end MarketTables

theorem MarketOrder.sold_le_taken (order : MarketOrder) (product : Uuid) :
    order.sold product ≤ order.taken product := by
  unfold MarketOrder.sold
  split
  · exact Nat.zero_le _
  · exact le_refl _

theorem MarketTables.sold_le_taken (db : MarketTables) (product : Uuid) :
    db.sold product ≤ db.taken product :=
  List.sum_le_sum fun o _ => o.sold_le_taken product

/-- The stock and the totals are right: no product of the opening tables has sold more
than it had, and every order costs what its product did. No request edits a price. -/
structure Honest (opening db : MarketTables) : Prop where
  not_oversold : ∀ p₀ ∈ opening.products.rows, ∃ p, db.products.find? p₀.id = some p ∧
    p.price = p₀.price ∧ p.quantity + db.sold p₀.id ≤ p₀.quantity
  total : ∀ o ∈ db.orders.rows, ∃ p₀, opening.products.find? o.product = some p₀ ∧
    o.totalAmount = p₀.price * o.quantity

/-- What a request does to the tables. -/
inductive Change (db : MarketTables) : MarketRequest → MarketTables → Prop
  | refused {r : MarketRequest} : Change db r db
  | placed {r : MarketRequest} {product : MarketProduct} {order : MarketOrder}
      {t : Table MarketOrder} (hfind : db.products.find? product.id = some product)
      (hproduct : order.product = product.id) (hquantity : order.quantity ≤ product.quantity)
      (hins : db.orders.insert? (order.priced product) = some t) :
      Change db r { db with
        products := db.products.save
          { product with quantity := product.quantity - order.quantity }
        orders := t }
  | updated {order : MarketOrder} {data : OrderPatch}
      (hfind : db.orders.find? order.id = some order)
      (hproduct : ∀ pk, data.product = some pk → ∃ p, db.products.find? pk = some p) :
      Change db (.dashboardUpdate order.id data)
        { db with orders := db.orders.save (data.apply order) }
  | deleted {order : MarketOrder} (hfind : db.orders.find? order.id = some order) :
      Change db (.dashboardDestroy order.id) { db with orders := db.orders.delete order.id }

section Change

variable {ctx : Context} {db db' : MarketTables}

theorem within_requirePk {ρ : Type} [Keyed ρ Uuid] (table : MarketTables → Table ρ)
    (field : String) (pk : Option Uuid) : Within Eq (requirePk table field pk) := by
  cases pk with
  | none => exact within_pure
  | some pk => exact within_get.bind fun _ => within_require

theorem requirePk_eq_ok {ρ : Type} [Keyed ρ Uuid] {table : MarketTables → Table ρ}
    {field : String} {pk : Option Uuid} {u : Unit} :
    requirePk table field pk db = (.ok u, db') ↔
      (∀ k, pk = some k → ∃ r, (table db).find? k = some r) ∧ db = db' := by
  cases pk with
  | none => simp [requirePk]
  | some pk => simp [requirePk, Option.isSome_iff_exists, and_comm]

theorem change_of_place {r : MarketRequest} {client : Uuid} {fields : OrderFields}
    {status : MarketStatus} {order : MarketOrder}
    (h : placeMarketOrder ctx client fields status db = (.ok order, db')) :
    Change db r db' := by
  simp only [placeMarketOrder, createOrder, saveProduct, atomic_eq_ok, bind_eq_ok, fetch_eq_ok,
    require_eq_ok, modify_eq_ok, write_eq_ok, pure_eq_ok] at h
  obtain ⟨product, _, ⟨hfind, rfl⟩, _, _, ⟨_, rfl⟩, _, _, ⟨hquantity, rfl⟩, _, _, rfl, _, _,
    hins, _, rfl⟩ := h
  obtain ⟨t, ht, rfl⟩ := Option.map_eq_some_iff.mp hins
  have hid : product.id = fields.product := Table.key_of_find? hfind
  rw [← hid] at hfind
  exact .placed hfind hid.symm hquantity ht

theorem clean_view (r : MarketRequest) : Clean Eq (r.view ctx) := by
  cases r with
  | clientCreate user data =>
      exact .map (.bind (within_requirePk _ _ _) fun _ => clean_atomic)
  | dashboardCreate client data status =>
      exact .map (.bind (within_requirePk _ _ _) fun _ =>
        .bind (within_requirePk _ _ _) fun _ => clean_atomic)
  | dashboardUpdate pk data =>
      exact .map (.bind within_fetch fun _ => .bind (within_requirePk _ _ _) fun _ =>
        .bind (within_requirePk _ _ _) fun _ => (total_modify.bind fun _ => total_pure).clean)
  | dashboardDestroy pk =>
      exact .bind within_fetch fun _ => total_modify.clean

/-- A request that fails changes nothing, and one that succeeds is one of three writes. -/
theorem change_next (db : MarketTables) (l : Context × MarketRequest) :
    Change db l.2 (db.next l) := by
  obtain ⟨ctx, r⟩ := l
  change Change db r (r.view ctx db).2
  rcases hrun : r.view ctx db with ⟨e | u, db'⟩
  · rw [← clean_view r db e db' hrun]
    exact .refused
  · cases r with
    | clientCreate user data =>
        simp only [MarketRequest.view, MarketOrderListCreateView.post, map_eq_ok, bind_eq_ok,
          requirePk_eq_ok] at hrun
        obtain ⟨order, ⟨_, _, ⟨_, rfl⟩, hplace⟩, _⟩ := hrun
        exact change_of_place hplace
    | dashboardCreate client data status =>
        simp only [MarketRequest.view, DashboardMarketOrderListCreateAPIView.post, map_eq_ok,
          bind_eq_ok, requirePk_eq_ok] at hrun
        obtain ⟨order, ⟨_, _, ⟨_, rfl⟩, _, _, ⟨_, rfl⟩, hplace⟩, _⟩ := hrun
        exact change_of_place hplace
    | dashboardUpdate pk data =>
        simp only [MarketRequest.view, DashboardMarketOrderDetailAPIView.update, getOrder,
          saveOrder, map_eq_ok, bind_eq_ok, fetch_eq_ok, requirePk_eq_ok, modify_eq_ok,
          pure_eq_ok] at hrun
        obtain ⟨_, ⟨order, _, ⟨hfind, rfl⟩, _, _, ⟨_, rfl⟩, _, _, ⟨hproduct, rfl⟩, _, _, rfl, _,
          rfl⟩, _⟩ := hrun
        obtain rfl : order.id = pk := Table.key_of_find? hfind
        exact .updated hfind hproduct
    | dashboardDestroy pk =>
        simp only [MarketRequest.view, DashboardMarketOrderDetailAPIView.destroy, getOrder,
          deleteOrder, bind_eq_ok, fetch_eq_ok, modify_eq_ok] at hrun
        obtain ⟨order, _, ⟨hfind, rfl⟩, rfl⟩ := hrun
        obtain rfl : order.id = pk := Table.key_of_find? hfind
        exact .deleted hfind

end Change

/-- The update of an order takes no more of any product, and the price of the order is
the same. -/
def keepsSale (db : MarketTables) (l : Context × MarketRequest) : Prop :=
  ∀ pk data order, l.2 = .dashboardUpdate pk data → db.orders.find? pk = some order →
    (∀ product, (data.apply order).taken product ≤ order.taken product) ∧
      db.cost (data.apply order) = db.cost order

/-- The invariant: what an order took stays taken when it is cancelled. -/
structure Reserved (opening db : MarketTables) : Prop where
  stock : ∀ pk p₀, opening.products.find? pk = some p₀ → ∃ p, db.products.find? pk = some p ∧
    p.price = p₀.price ∧ p.quantity + db.taken pk ≤ p₀.quantity
  known : ∀ pk p, db.products.find? pk = some p → ∃ p₀, opening.products.find? pk = some p₀
  total : ∀ o ∈ db.orders.rows, ∃ p₀, opening.products.find? o.product = some p₀ ∧
    o.totalAmount = p₀.price * o.quantity

namespace Reserved

variable {opening db : MarketTables}

theorem init : Reserved opening { opening with orders := .empty } where
  stock _ p₀ h := ⟨p₀, h, rfl, le_refl _⟩
  known _ p h := ⟨p, h⟩
  total _ h := absurd h List.not_mem_nil

theorem honest (h : Reserved opening db) : Honest opening db where
  not_oversold p₀ hp₀ := by
    obtain ⟨p, hp, hprice, hstock⟩ := h.stock p₀.id p₀ (Table.find?_of_mem hp₀)
    have hsold := db.sold_le_taken p₀.id
    exact ⟨p, hp, hprice, by omega⟩
  total := h.total

/-- The products are the same, and the orders took no more. -/
theorem of_orders {t : Table MarketOrder} (h : Reserved opening db)
    (htaken : ∀ pk, (t.sum fun o => o.taken pk) ≤ db.taken pk)
    (htotal : ∀ o ∈ t.rows, ∃ p₀, opening.products.find? o.product = some p₀ ∧
      o.totalAmount = p₀.price * o.quantity) : Reserved opening { db with orders := t } where
  stock pk p₀ hp₀ := by
    obtain ⟨p, hp, hprice, hstock⟩ := h.stock pk p₀ hp₀
    have hle := htaken pk
    exact ⟨p, hp, hprice, (Nat.add_le_add_left hle _).trans hstock⟩
  known := h.known
  total := htotal

/-- A placed order takes from the stock what it records. -/
theorem placed {product : MarketProduct} {order : MarketOrder} {t : Table MarketOrder}
    (h : Reserved opening db) (hfind : db.products.find? product.id = some product)
    (hproduct : order.product = product.id) (hquantity : order.quantity ≤ product.quantity)
    (hins : db.orders.insert? (order.priced product) = some t) :
    Reserved opening { db with
      products := db.products.save
        { product with quantity := product.quantity - order.quantity }
      orders := t } := by
  have hsave : ∀ pk, (db.products.save { product with
      quantity := product.quantity - order.quantity }).find? pk =
      if product.id = pk then some { product with quantity := product.quantity - order.quantity }
      else db.products.find? pk :=
    Table.find?_save (r := { product with quantity := product.quantity - order.quantity }) hfind
  have hsum : ∀ pk, (t.sum fun o => o.taken pk) =
      db.taken pk + if product.id = pk then order.quantity else 0 := by
    intro pk
    rw [← hproduct]
    exact Table.sum_insert? hins fun o => o.taken pk
  refine ⟨fun pk p₀ hp₀ => ?_, fun pk p hp => ?_, fun o ho => ?_⟩
  · obtain ⟨p, hp, hprice, hstock⟩ := h.stock pk p₀ hp₀
    change ∃ p, (db.products.save _).find? pk = some p ∧ p.price = p₀.price ∧
      p.quantity + (t.sum fun o => o.taken pk) ≤ p₀.quantity
    rw [hsave, hsum]
    by_cases hpk : product.id = pk
    · obtain rfl : product = p := Option.some.inj (hfind.symm.trans (hpk ▸ hp))
      rw [if_pos hpk, if_pos hpk]
      refine ⟨_, rfl, hprice, ?_⟩
      change product.quantity - order.quantity + (db.taken pk + order.quantity) ≤ p₀.quantity
      omega
    · rw [if_neg hpk, if_neg hpk]
      exact ⟨p, hp, hprice, hstock⟩
  · change (db.products.save _).find? pk = some p at hp
    rw [hsave] at hp
    split at hp
    · next hpk => exact h.known pk product (hpk ▸ hfind)
    · exact h.known pk p hp
  · rcases (Table.mem_insert? hins).mp ho with ho | rfl
    · exact h.total o ho
    · obtain ⟨p₀, hp₀⟩ := h.known _ product hfind
      obtain ⟨p, hp, hprice, -⟩ := h.stock _ p₀ hp₀
      obtain rfl : product = p := Option.some.inj (hfind.symm.trans hp)
      refine ⟨p₀, hproduct ▸ hp₀, ?_⟩
      rw [← hprice]
      rfl

/-- An update that takes no more and costs the same. -/
theorem updated {order : MarketOrder} {data : OrderPatch} (h : Reserved opening db)
    (hfind : db.orders.find? order.id = some order)
    (hproduct : ∀ pk, data.product = some pk → ∃ p, db.products.find? pk = some p)
    (htaken : ∀ pk, (data.apply order).taken pk ≤ order.taken pk)
    (hcost : db.cost (data.apply order) = db.cost order) :
    Reserved opening { db with orders := db.orders.save (data.apply order) } := by
  refine h.of_orders (fun pk => ?_) (Table.forall_save h.total ?_)
  · have hsum := Table.sum_save (r := data.apply order) hfind fun o => o.taken pk
    have hle := htaken pk
    change _ + order.taken pk = db.taken pk + (data.apply order).taken pk at hsum
    omega
  · obtain ⟨p₀, hp₀, htotal⟩ := h.total order (Table.mem_of_find? hfind)
    obtain ⟨p, hp, hprice, -⟩ := h.stock _ p₀ hp₀
    have hnew : ∃ q, db.products.find? (data.apply order).product = some q := by
      cases hd : data.product with
      | none => exact ⟨p, by simpa [OrderPatch.apply, hd] using hp⟩
      | some pk => simpa [OrderPatch.apply, hd] using hproduct pk hd
    obtain ⟨q, hq⟩ := hnew
    obtain ⟨q₀, hq₀⟩ := h.known _ q hq
    obtain ⟨q', hq', hqprice, -⟩ := h.stock _ q₀ hq₀
    obtain rfl : q = q' := Option.some.inj (hq.symm.trans hq')
    refine ⟨q₀, hq₀, ?_⟩
    unfold MarketTables.cost at hcost
    rw [hq, hp, Option.map_some, Option.map_some, Option.some_inj] at hcost
    rw [OrderPatch.totalAmount_apply, htotal, ← hprice, ← hqprice, hcost]

theorem deleted {order : MarketOrder} (h : Reserved opening db)
    (hfind : db.orders.find? order.id = some order) :
    Reserved opening { db with orders := db.orders.delete order.id } := by
  refine h.of_orders (fun pk => ?_) (Table.forall_delete h.total _)
  have hsum := Table.sum_delete hfind fun o => o.taken pk
  change _ + order.taken pk = db.taken pk at hsum
  omega

/-- Every request that keeps the sale keeps the invariant. -/
theorem step {l : Context × MarketRequest} {db' : MarketTables} (h : Reserved opening db)
    (hguard : keepsSale db l) (hc : Change db l.2 db') : Reserved opening db' := by
  obtain ⟨ctx, r⟩ := l
  cases hc with
  | refused => exact h
  | placed hfind hproduct hquantity hins => exact h.placed hfind hproduct hquantity hins
  | updated hfind hproduct =>
      obtain ⟨htaken, hcost⟩ := hguard _ _ _ rfl hfind
      exact h.updated hfind hproduct htaken hcost
  | deleted hfind => exact h.deleted hfind

end Reserved

/-- While updates keep the sale, the marketplace sells no more than it had. -/
theorem never_oversold {opening db : MarketTables}
    (h : ((marketplace opening).restrict keepsSale).Reachable db) : Honest opening db := by
  have hreserved : Reserved opening db := by
    refine h.invariant_of_guard (fun s hs => ?_) fun s l s' _ hi hguard hstep => ?_
    · subst hs
      exact Reserved.init
    · subst hstep
      exact hi.step hguard (change_next s l)
  exact hreserved.honest

namespace Sample

theorem nodup_client :
    ([({ id := 1, phone := "+998901112233" } : Profiles.Client)].map key).Nodup := by decide

/-- One client, and five pieces of one product. -/
def opening : MarketTables where
  clients := ⟨[{ id := 1, phone := "+998901112233" }], nodup_client⟩
  products := ⟨[{ id := 2, price := 5000, quantity := 5 }], by decide⟩

/-- The client buys one piece. -/
def bought : Context × MarketRequest :=
  ({ now := 0, uuid := fun _ => 10 }, .clientCreate 1
    { product := 2, quantity := 1, deliveryAddress := "Chilonzor", phone := "+998901112233" })

/-- The dashboard updates the order. -/
def edited (data : OrderPatch) : Context × MarketRequest :=
  ({ now := 1, uuid := fun _ => 11 }, .dashboardUpdate 10 data)

/-- The client buys, and the dashboard updates the order. -/
def boughtAndEdited (data : OrderPatch) : MarketTables := opening.run [bought, edited data]

theorem reachable_bought : (marketplace opening).Reachable (opening.next bought) :=
  .step (.init rfl) rfl

end Sample

theorem never_oversold_sample :
    Honest Sample.opening (Sample.boughtAndEdited { status := some .cancelled }) := by
  have hinit : ((marketplace Sample.opening).restrict keepsSale).Reachable Sample.opening :=
    .init rfl
  have hbought := hinit.step (l := Sample.bought) ⟨(by intro _ _ _ h; cases h), rfl⟩
  refine never_oversold (hbought.step (l := Sample.edited { status := some .cancelled }) ⟨?_, rfl⟩)
  intro pk data order h _
  cases h
  exact ⟨fun _ => le_refl _, rfl⟩

/-- The dashboard sets the quantity of a bought piece to five: nine pieces of five. -/
theorem oversold :
    (marketplace Sample.opening).Reachable (Sample.boughtAndEdited { quantity := some 5 }) ∧
      ¬Honest Sample.opening (Sample.boughtAndEdited { quantity := some 5 }) := by
  refine ⟨Sample.reachable_bought.step rfl, fun h => ?_⟩
  obtain ⟨p, hp, -, hle⟩ := h.not_oversold { id := 2, price := 5000, quantity := 5 } (by decide)
  have hfour : (Sample.boughtAndEdited { quantity := some 5 }).products.find? 2 =
      some { id := 2, price := 5000, quantity := 4 } := by decide
  have hfive : (Sample.boughtAndEdited { quantity := some 5 }).sold 2 = 5 := by decide
  obtain rfl : { id := 2, price := 5000, quantity := 4 } = p :=
    Option.some.inj (hfour.symm.trans hp)
  rw [hfive] at hle
  exact absurd hle (by decide)

end Market

end Homex
