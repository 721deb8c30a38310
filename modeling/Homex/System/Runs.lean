import Homex.System.Handling

/-!
# Runs of requests

What a step gives to an invariant proof: its effect, and the order rows after it
in terms of those before. `World.run` executes a list of requests, so that a run
on concrete inputs can be evaluated; `Sample` has one to start from, up to an
order that awaits payment.
-/

namespace Homex

open Relational Action Orders Profiles Wallet Warehouse Payme

variable {cfg : Settings}

theorem World.Step.effect {w w' : World} {l : Context × Request} (h : World.Step cfg w l w') :
    Effect cfg l.1 w.db w'.db l.2 := by
  rw [h.db]
  exact effect_handle cfg l.1 l.2 w.db

/-- Handle one request. -/
def World.next (cfg : Settings) (w : World) (l : Context × Request) : World where
  db := (handle cfg l.1 l.2 w.db).2
  clock := l.1.now

/-- Handle a list of requests in turn. -/
def World.run (cfg : Settings) (w : World) : List (Context × Request) → World
  | [] => w
  | l :: ls => World.run cfg (w.next cfg l) ls

/-- The instants of the requests do not go back behind the clock. -/
def World.Timed (clock : Int) : List (Context × Request) → Prop
  | [] => True
  | l :: ls => clock ≤ l.1.now ∧ World.Timed l.1.now ls

instance World.decidableTimed (clock : Int) (ls : List (Context × Request)) :
    Decidable (World.Timed clock ls) :=
  match ls with
  | [] => isTrue trivial
  | l :: ls =>
      haveI := World.decidableTimed l.1.now ls
      inferInstanceAs (Decidable (clock ≤ l.1.now ∧ World.Timed l.1.now ls))

/-- The requests meet a condition, each in the state it is handled in. -/
def World.Guarded (cfg : Settings) (guard : World → Context × Request → Prop) (w : World) :
    List (Context × Request) → Prop
  | [] => True
  | l :: ls => guard w l ∧ World.Guarded cfg guard (w.next cfg l) ls

instance World.decidableGuarded (guard : World → Context × Request → Prop)
    [∀ w l, Decidable (guard w l)] (w : World) (ls : List (Context × Request)) :
    Decidable (World.Guarded cfg guard w ls) :=
  match ls with
  | [] => isTrue trivial
  | l :: ls =>
      haveI := World.decidableGuarded guard (w.next cfg l) ls
      inferInstanceAs (Decidable (guard w l ∧ World.Guarded cfg guard (w.next cfg l) ls))

theorem reachable_run {w : World} (hw : (backend cfg).Reachable w)
    {ls : List (Context × Request)} (hls : World.Timed w.clock ls) :
    (backend cfg).Reachable (w.run cfg ls) := by
  induction ls generalizing w with
  | nil => exact hw
  | cons l ls ih => exact ih (hw.step ⟨hls.1, rfl, rfl⟩) hls.2

/-- From any initial states. -/
theorem reachable_run_from {init : World → Prop} {guard : World → Context × Request → Prop}
    {w : World} (hw : ((Transition.System.mk init (World.Step cfg)).restrict guard).Reachable w)
    {ls : List (Context × Request)} (hls : World.Timed w.clock ls)
    (hguard : World.Guarded cfg guard w ls) :
    ((Transition.System.mk init (World.Step cfg)).restrict guard).Reachable (w.run cfg ls) := by
  induction ls generalizing w with
  | nil => exact hw
  | cons l ls ih => exact ih (hw.step ⟨hguard.1, hls.1, rfl, rfl⟩) hls.2 hguard.2

theorem reachable_run_restrict {guard : World → Context × Request → Prop} {w : World}
    (hw : ((backend cfg).restrict guard).Reachable w) {ls : List (Context × Request)}
    (hls : World.Timed w.clock ls) (hguard : World.Guarded cfg guard w ls) :
    ((backend cfg).restrict guard).Reachable (w.run cfg ls) :=
  reachable_run_from hw hls hguard

/-- The status of an order. -/
def DB.statusOf (db : DB) (id : Uuid) : Option OrderStatus :=
  (db.orders.find? id).map Order.status

theorem DB.statusOf_of_find {db : DB} {id : Uuid} {o : Order}
    (h : db.orders.find? id = some o) : db.statusOf id = some o.status := by
  rw [statusOf, h, Option.map_some]

/-- An order looked up after one was rewritten is the new version or an old row. -/
theorem find?_of_save {t : Table Order} {o : Order} (o' : Order) (hfind : t.find? o.id = some o)
    (hid : o'.id = o.id) (id : Uuid) :
    (t.save o').find? id = if o.id = id then some o' else t.find? id := by
  have hfind' : t.find? (key o') = some o := by
    rw [key_order, hid]
    exact hfind
  rw [Table.find?_save hfind', key_order, hid]

namespace Sample

/-- A client, two masters, a service, and stock of a product with one master. -/
def db : DB where
  clients := ⟨[{ id := 1, phone := "+998901112233" }], by decide⟩
  masters := ⟨[{ id := 2 }, { id := 3 }], by decide⟩
  services := ⟨[{ id := 4, name := "Konditsioner tozalash" }], by decide⟩
  products := ⟨[{ id := 5, name := "Filtr", salePrice := 2000 }], by decide⟩
  inventory := ⟨[{ id := 6, master := 2, warehouseProduct := 5, quantity := 300 }], by decide⟩

def world : World := ⟨db, 0⟩

/-- The surroundings of the request at instant `now`; the order it may create has
the id 10, any other row the instant as its id. -/
def at_ (now : Nat) : Context where
  now := now
  uuid draw := if draw = .order then 10 else now

theorem reachable : (backend cfg).Reachable world := .init ⟨rfl, rfl, rfl, rfl⟩

/-- The dashboard creates the order, accepted by master 2. -/
def accepted : List (Context × Request) :=
  [(at_ 20, .dashboardCreate
    { client := some 1, master := some (some 2), service := some 4
      addressText := some "Chilonzor", lat := some 0, lng := some 0, scheduledDate := some 0
      scheduledTime := some 0, status := some .accepted, serviceFee := some 100000 })]

/-- The master submits the check, and the order awaits payment. -/
def awaiting : List (Context × Request) :=
  accepted ++ [(at_ 21, .masterComplete 2 10 { serviceFee := 100000 })]

/-- One piece, as the quantity of a usage. -/
theorem piece_pos : (0 : Int) < 100 := by decide

/-- 400, as the amount of a withdrawal. -/
theorem withdrawal_pos : (0 : Int) < 40000 := by decide

/-- An advance, as the description of a transaction. -/
theorem advance_described : "Avans" ≠ "" ∧ "Avans".length ≤ 200 := by decide

/-- The client pays in cash. -/
def paidInCash : List (Context × Request) :=
  awaiting ++ [(at_ 30, .clientPay 1 10 (.choice .cash))]

/-- Payme creates the transaction of the order. -/
def paymeCreate : Request :=
  .paymeCreate { id := some "tx", amount := some (some 100000), account := some [("id", 10)] }

/-- Payme performs it. -/
def paymePerform : Request := .paymePerform { id := some "tx" }

/-- The transaction of the awaited order is open. -/
def paymeOpened : List (Context × Request) :=
  awaiting ++ [(at_ 22, paymeCreate)]

/-- The order is paid through Payme before its check is submitted. -/
def prepaid : List (Context × Request) :=
  accepted ++ [(at_ 22, paymeCreate), (at_ 23, paymePerform)]

end Sample

end Homex
