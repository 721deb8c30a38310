import Homex.Concurrency.Handover
import Homex.System.Interleavings

/-!
# The accept race

Any number of masters who are assigned to a new order accept it at once. Each
call reads its assignment, then locks the order, and only then looks at the
status: the first to obtain the lock becomes the lead master, and the calls that
waited find the order accepted.

`Stage` is what is left of a call, and `Race` the invariant: the row of the
order belongs to the one call between its lock and its commit, which leads
exactly when nobody has settled the row before.
-/

namespace Homex

open Relational Concurrency Orders

namespace AcceptRace

variable (pk : Uuid)

/-- What the lead master writes. -/
def accept (user : Uuid) (db : DB) : DB :=
  { db with
      orders := db.orders.update pk fun row =>
        { row with master := some user, status := .accepted } }

/-- What every master writes. -/
def mark (user : Uuid) (db : DB) : DB :=
  { db with
      assignedMasters := db.assignedMasters.update (pk, user) fun row =>
        { row with hasAccepted := true } }

/-- The statements that are left of a call, and what its transaction has written. -/
inductive Stage
  | idle
  | begun
  | reading
  | locking (assignment : Assignment)
  | leading (assignment : Assignment)
  | marking (led : Bool)
  | committing (led marked : Bool)
  | finished

namespace Stage

variable (user : Uuid)

def committingCode : Program DB RowKey Error Unit := .commit (.done (.ok ()))

def markingCode : Program DB RowKey Error Unit :=
  .update (.assignedMaster pk user) (mark pk user) committingCode

def afterLead (assignment : Assignment) : Program DB RowKey Error Unit :=
  if assignment.hasAccepted = false then markingCode pk user else committingCode

def leadingCode (assignment : Assignment) : Program DB RowKey Error Unit :=
  .update (.order pk) (accept pk user) (afterLead pk user assignment)

def lockingCode (assignment : Assignment) : Program DB RowKey Error Unit :=
  .lock (.order pk) (fun db => (db.orders.find? pk).isSome) fun db =>
    match db.orders.find? pk with
    | none => .done (.error (.serverError "DoesNotExist"))
    | some order =>
        if order.status = .new then leadingCode pk user assignment
        else afterLead pk user assignment

def readingCode : Program DB RowKey Error Unit :=
  .read (.assignedMaster pk user) fun db =>
    match (db.assignedMasters.find? (pk, user)).filter fun row => row.isActive with
    | none => .done (.error (.notFound "OrderMaster"))
    | some assignment => lockingCode pk user assignment

theorem program_masterAccept (ctx : Context) :
    OrderRequest.program (ctx, .masterAccept user pk) = .start (readingCode pk user) := by
  refine congrArg Program.start (congrArg (Program.read _) (funext fun db => ?_))
  beta_reduce
  cases (db.assignedMasters.find? (pk, user)).filter fun row => row.isActive with
  | none => rfl
  | some assignment =>
      refine congrArg (Program.lock _ _) (funext fun db => ?_)
      beta_reduce
      cases db.orders.find? pk with
      | none => rfl
      | some order =>
          change (Program.bind (Program.bind (Program.bind (do
              if order.status = .new then
                Statements.updateOrder pk fun row =>
                  { row with master := some user, status := .accepted }
              if assignment.hasAccepted = false then
                Program.write (.assignedMaster pk user) (mark pk user)
              pure (if order.status = .new then
                { order with master := some user, status := .accepted } else order))
              fun a => .commit (pure a)) fun a => pure (Response.order a)) fun _ => pure ()) =
            if order.status = .new then leadingCode pk user assignment
            else afterLead pk user assignment
          by_cases hnew : order.status = .new
          · by_cases hmarked : assignment.hasAccepted = false
            · simp only [hnew, hmarked, if_true, leadingCode, afterLead]
              rfl
            · simp only [hnew, hmarked, if_true, leadingCode, afterLead]
              rfl
          · by_cases hmarked : assignment.hasAccepted = false
            · simp only [hnew, hmarked, if_true, if_false, afterLead]
              rfl
            · simp only [hnew, hmarked, if_false, afterLead]
              rfl

/-- The program of a call in the stage. -/
def code : Stage → Option (Program DB RowKey Error Unit)
  | .idle => none
  | .begun => some (.start (readingCode pk user))
  | .reading => some (readingCode pk user)
  | .locking assignment => some (lockingCode pk user assignment)
  | .leading assignment => some (leadingCode pk user assignment)
  | .marking _ => some (markingCode pk user)
  | .committing _ _ => some committingCode
  | .finished => some (.done (.ok ()))

/-- What the call has written. -/
def written (led marked : Bool) (db : DB) : DB :=
  (cond marked (mark pk user) id) ((cond led (accept pk user) id) db)

/-- The transaction of a call in the stage. -/
def tx : Stage → Option (DB → DB)
  | .idle | .begun | .finished => none
  | .reading | .locking _ | .leading _ => some id
  | .marking led => some (written pk user led false)
  | .committing led marked => some (written pk user led marked)

/-- The stage after the order has been led, or not. -/
def next (assignment : Assignment) (led : Bool) : Stage :=
  if assignment.hasAccepted = false then .marking led else .committing led false

/-- Whether the call holds the row of the order. -/
def Holds : Stage → Prop
  | .leading _ | .marking _ | .committing _ _ => True
  | _ => False

/-- Whether the call leads and has not committed yet. -/
def Leads : Stage → Prop
  | .leading _ | .marking true | .committing true _ => True
  | _ => False

/-- Whether the call has found, or left, the order accepted. -/
def Follows : Stage → Prop
  | .marking false | .committing false _ | .finished => True
  | _ => False

/-- What the call knows of its assignment: whether it is marked as accepted. -/
def Knows (marked : Prop) : Stage → Prop
  | .locking assignment | .leading assignment => assignment.hasAccepted = true → marked
  | .committing _ false | .finished => marked
  | _ => True

end Stage

/-- The call of a process is in a stage. -/
structure At (user : Uuid) (st : Stage) (c : Process DB RowKey Error) : Prop where
  code : c.code = st.code pk user
  tx : c.tx = st.tx pk user

/-- How a statement of `p` takes it from one stage to the next, and what it does
to the store and the locks. -/
inductive Step (user : Uuid) (p : ℕ) (σ σ' : State DB RowKey Error ℕ) : Stage → Stage → Prop
  | start (hstore : σ'.store = σ.store) (howner : σ'.owner = σ.owner) :
      Step user p σ σ' .begun .reading
  | read {a : Assignment} (ha : σ.store.assignedMasters.find? (pk, user) = some a)
      (hstore : σ'.store = σ.store) (howner : σ'.owner = σ.owner) :
      Step user p σ σ' .reading (.locking a)
  | lead {a : Assignment} {order : Order} (hfind : σ.store.orders.find? pk = some order)
      (hnew : order.status = .new) (hfree : σ.Free p (.order pk)) (hstore : σ'.store = σ.store)
      (howner : σ'.owner = (σ.hold p (.order pk)).owner) :
      Step user p σ σ' (.locking a) (.leading a)
  | follow {a : Assignment} {order : Order} (hfind : σ.store.orders.find? pk = some order)
      (hnew : order.status ≠ .new) (hfree : σ.Free p (.order pk)) (hstore : σ'.store = σ.store)
      (howner : σ'.owner = (σ.hold p (.order pk)).owner) :
      Step user p σ σ' (.locking a) (.next a false)
  | accept {a : Assignment} (hfree : σ.Free p (.order pk)) (hstore : σ'.store = σ.store)
      (howner : σ'.owner = (σ.hold p (.order pk)).owner) :
      Step user p σ σ' (.leading a) (.next a true)
  | mark {led : Bool} (hfree : σ.Free p (.assignedMaster pk user)) (hstore : σ'.store = σ.store)
      (howner : σ'.owner = (σ.hold p (.assignedMaster pk user)).owner) :
      Step user p σ σ' (.marking led) (.committing led true)
  | commit {led marked : Bool} (hstore : σ'.store = Stage.written pk user led marked σ.store)
      (howner : σ'.owner = (σ.release p).owner) :
      Step user p σ σ' (.committing led marked) .finished
  | finish (hstore : σ'.store = σ.store) (howner : σ'.owner = (σ.release p).owner) :
      Step user p σ σ' .finished .idle

section Send

variable {pk} {user : Uuid} {p : ℕ} {σ σ' : State DB RowKey Error ℕ} {st : Stage}
  {order : Order} {a : Assignment}

theorem at_next (led : Bool) {seen : RowKey → Option DB} :
    At pk user (.next a led)
      { code := some (Stage.afterLead pk user a), tx := some (Stage.written pk user led false),
        seen } := by
  unfold Stage.next Stage.afterLead
  by_cases hmarked : a.hasAccepted = false
  · rw [if_pos hmarked, if_pos hmarked]
    exact ⟨rfl, rfl⟩
  · rw [if_neg hmarked, if_neg hmarked]
    exact ⟨rfl, rfl⟩

/-- The step lemma: what each statement of a call does. -/
theorem step_of_send (h : At pk user st (σ.proc p))
    (hfind : σ.store.orders.find? pk = some order)
    (hassigned : σ.store.assignedMasters.find? (pk, user) = some a) (hactive : a.isActive = true)
    (hs : σ.send p = some σ') :
    ∃ st', At pk user st' (σ'.proc p) ∧ Step pk user p σ σ' st st' := by
  obtain ⟨hcode, htx⟩ := h
  unfold State.send at hs
  simp only [hcode] at hs
  cases st with
  | idle => cases hs
  | begun =>
      simp only [Stage.code, htx, Stage.tx] at hs
      cases hs
      refine ⟨.reading, ?_, .start rfl rfl⟩
      rw [State.proc_goOn]
      exact ⟨rfl, rfl⟩
  | reading =>
      simp only [Stage.code, Stage.readingCode, Process.view, htx, Stage.tx, Option.getD_some, id,
        hassigned, Option.filter_some, hactive, if_true] at hs
      cases hs
      refine ⟨.locking a, ?_, .read hassigned rfl rfl⟩
      rw [State.proc_goOn]
      exact ⟨rfl, htx⟩
  | locking b =>
      simp only [Stage.code, Stage.lockingCode, Process.view, htx, Stage.tx, Option.getD_some, id,
        hfind, Option.isSome_some, if_true] at hs
      split at hs
      · next hfree =>
        cases hs
        by_cases hnew : order.status = .new
        · refine ⟨.leading b, ?_, .lead hfind hnew hfree.1 rfl rfl⟩
          rw [State.proc_goOn, if_pos hnew]
          exact ⟨rfl, htx⟩
        · refine ⟨.next b false, ?_, .follow hfind hnew hfree.1 rfl rfl⟩
          rw [State.proc_goOn, if_neg hnew]
          have hnext : At pk user (.next b false)
              { code := some (Stage.afterLead pk user b),
                tx := some (Stage.written pk user false false), seen := (σ.proc p).seen } :=
            at_next false
          exact ⟨hnext.code, htx.trans hnext.tx⟩
      · cases hs
  | leading b =>
      simp only [Stage.code, Stage.leadingCode] at hs
      split at hs
      · next hfree =>
        cases hs
        rw [State.write_of_tx (c := ((σ.proc p).wrote (.order pk)).goOn _) htx]
        refine ⟨.next b true, ?_, .accept hfree rfl rfl⟩
        rw [State.proc_goOn]
        exact at_next true
      · cases hs
  | marking led =>
      simp only [Stage.code, Stage.markingCode] at hs
      split at hs
      · next hfree =>
        cases hs
        rw [State.write_of_tx (c := ((σ.proc p).wrote (.assignedMaster pk user)).goOn _) htx]
        refine ⟨.committing led true, ?_, .mark hfree rfl rfl⟩
        rw [State.proc_goOn]
        exact ⟨rfl, rfl⟩
      · cases hs
  | committing led marked =>
      simp only [Stage.code, Stage.committingCode, htx, Stage.tx] at hs
      cases hs
      refine ⟨.finished, ?_, .commit rfl rfl⟩
      rw [State.proc_goOn]
      exact ⟨rfl, rfl⟩
  | finished =>
      simp only [Stage.code] at hs
      cases hs
      refine ⟨.idle, ?_, .finish rfl rfl⟩
      rw [State.proc_goOn]
      exact ⟨rfl, rfl⟩

end Send

/-! ### The invariant -/

/-- The assignment of the master is marked as accepted. -/
def Marked (user : Uuid) (db : DB) : Prop :=
  ∃ a, db.assignedMasters.find? (pk, user) = some a ∧ a.hasAccepted = true

section Writes

variable {pk} {user user' : Uuid} {db : DB} {led marked : Bool}

theorem find?_mark (user user' : Uuid) (db : DB) :
    (mark pk user db).assignedMasters.find? (pk, user') =
      (db.assignedMasters.find? (pk, user')).map fun row =>
        if user' = user then { row with hasAccepted := true } else row := by
  change (db.assignedMasters.update (pk, user) _).find? (pk, user') = _
  rw [Table.find?_update]
  · by_cases hu : user' = user
    · simp [hu]
    · simp [hu]
  · intro row
    rfl

theorem assignedMasters_written :
    (Stage.written pk user led marked db).assignedMasters =
      (cond marked (mark pk user) id db).assignedMasters := by
  cases marked <;> cases led <;> rfl

theorem orders_written :
    (Stage.written pk user led marked db).orders = (cond led (accept pk user) id db).orders := by
  cases marked <;> cases led <;> rfl

theorem marked_written (h : Marked pk user' db) :
    Marked pk user' (Stage.written pk user led marked db) := by
  obtain ⟨a, hfind, hmarked⟩ := h
  unfold Marked
  rw [assignedMasters_written]
  cases marked with
  | false => exact ⟨a, hfind, hmarked⟩
  | true =>
      change ∃ b, (mark pk user db).assignedMasters.find? (pk, user') = some b ∧ _
      rw [find?_mark, hfind]
      by_cases hu : user' = user
      · simp [hu]
      · simp [hu, hmarked]

theorem assigned_written {a : Assignment}
    (hfind : db.assignedMasters.find? (pk, user') = some a) (hactive : a.isActive = true) :
    ∃ b, (Stage.written pk user led marked db).assignedMasters.find? (pk, user') = some b ∧
      b.isActive = true := by
  rw [assignedMasters_written]
  cases marked with
  | false => exact ⟨a, hfind, hactive⟩
  | true =>
      change ∃ b, (mark pk user db).assignedMasters.find? (pk, user') = some b ∧ _
      rw [find?_mark, hfind]
      by_cases hu : user' = user
      · simp [hu, hactive]
      · simp [hu, hactive]

/-- A call that has written its mark leaves it there. -/
theorem marked_of_mark {a : Assignment} (hfind : db.assignedMasters.find? (pk, user) = some a) :
    Marked pk user (Stage.written pk user led true db) := by
  unfold Marked
  rw [assignedMasters_written]
  change ∃ b, (mark pk user db).assignedMasters.find? (pk, user) = some b ∧ _
  rw [find?_mark, hfind]
  simp

theorem find?_accept {order : Order} (hfind : db.orders.find? pk = some order) :
    (accept pk user db).orders.find? pk =
      some { order with master := some user, status := .accepted } := by
  change (db.orders.update pk _).find? pk = _
  rw [Table.find?_update, if_pos rfl, hfind]
  · rfl
  · intro row
    rfl

end Writes

variable (who : ℕ → Uuid) (order : Order)

/-- The order that a call leads. -/
def led (p : ℕ) : Order := { order with master := some (who p), status := .accepted }

/-- A stage of a call, against how the race stands. -/
structure Fits (m : Stand ℕ) (σ : State DB RowKey Error ℕ) (p : ℕ) (st : Stage) : Prop where
  owner : σ.owner (.order pk) = some p ↔ st.Holds
  leads : m = .taken p ↔ st.Leads
  follows : st.Follows → ∃ q, m = .settled q
  knows : st.Knows (Marked pk (who p) σ.store)

/-- How the race stands: `order` is the row before it. -/
structure Race (m : Stand ℕ) (σ : State DB RowKey Error ℕ) : Prop where
  stages : ∀ p, ∃ st, At pk (who p) st (σ.proc p) ∧ Fits pk who m σ p st
  row : σ.store.orders.find? pk = some (m.value order (led who order))
  assigned : ∀ p, ∃ a, σ.store.assignedMasters.find? (pk, who p) = some a ∧ a.isActive = true

section Steps

variable {pk who order} {m m' : Stand ℕ} {σ σ' : State DB RowKey Error ℕ} {p : ℕ} {st st' : Stage}

/-- A call that holds the row and does not lead has found it settled. -/
theorem Fits.settled_of_holds (h : Fits pk who m σ p st) (hholds : st.Holds) (hleads : ¬st.Leads) :
    ∃ q, m = .settled q := by
  apply h.follows
  cases st with
  | leading a => exact absurd trivial hleads
  | marking led =>
      cases led with
      | true => exact absurd trivial hleads
      | false => trivial
  | committing led marked =>
      cases led with
      | true => exact absurd trivial hleads
      | false => trivial
  | _ => cases hholds

theorem holds_of_leads (h : st.Leads) : st.Holds := by
  cases st with
  | leading a => trivial
  | marking led => trivial
  | committing led marked => trivial
  | _ => cases h

/-- A step of `p` keeps the invariant when it keeps it for `p` and for the store. -/
theorem Race.of_step (h : Race pk who order m σ) (hmoves : m.Moves p m')
    (hproc : ∀ q, q ≠ p → σ'.proc q = σ.proc q)
    (howner : ∀ q, q ≠ p → (σ'.owner (.order pk) = some q ↔ σ.owner (.order pk) = some q))
    (hmarked : ∀ user, Marked pk user σ.store → Marked pk user σ'.store)
    (hp : At pk (who p) st' (σ'.proc p)) (hfits : Fits pk who m' σ' p st')
    (hrow : σ'.store.orders.find? pk = some (m'.value order (led who order)))
    (hassigned : ∀ q, ∃ a, σ'.store.assignedMasters.find? (pk, who q) = some a ∧
      a.isActive = true) :
    Race pk who order m' σ' where
  stages := by
    intro q
    by_cases hq : q = p
    · subst hq
      exact ⟨st', hp, hfits⟩
    · obtain ⟨st, hat, hst⟩ := h.stages q
      rw [hproc q hq]
      refine ⟨st, hat, (howner q hq).trans hst.owner, (hmoves.taken_iff hq).trans hst.leads,
        fun hfollows => hmoves.settled (hst.follows hfollows), ?_⟩
      have hknows := hst.knows
      cases st with
      | locking a => exact fun ha => hmarked _ (hknows ha)
      | leading a => exact fun ha => hmarked _ (hknows ha)
      | committing led marked =>
          cases marked with
          | true => trivial
          | false => exact hmarked _ hknows
      | finished => exact hmarked _ hknows
      | _ => trivial
  row := hrow
  assigned := hassigned

/-- A statement that commits nothing. -/
theorem Race.of_same_store (h : Race pk who order m σ) (hmoves : m.Moves p m')
    (hvalue : m'.value order (led who order) = m.value order (led who order))
    (hproc : ∀ q, q ≠ p → σ'.proc q = σ.proc q)
    (howner : ∀ q, q ≠ p → (σ'.owner (.order pk) = some q ↔ σ.owner (.order pk) = some q))
    (hstore : σ'.store = σ.store) (hp : At pk (who p) st' (σ'.proc p))
    (hfits : Fits pk who m' σ' p st') : Race pk who order m' σ' := by
  refine h.of_step hmoves hproc howner (fun user => ?_) hp hfits ?_ ?_
  · rw [hstore]
    exact id
  · rw [hstore, hvalue]
    exact h.row
  · rw [hstore]
    exact h.assigned

theorem fits_next {a : Assignment} {led : Bool} (howner : σ.owner (.order pk) = some p)
    (hleads : m = .taken p ↔ led = true) (hfollows : led = false → ∃ q, m = .settled q)
    (hknows : a.hasAccepted = true → Marked pk (who p) σ.store) :
    Fits pk who m σ p (.next a led) := by
  unfold Stage.next
  by_cases hmarked : a.hasAccepted = false
  · rw [if_pos hmarked]
    cases led with
    | true =>
        exact ⟨iff_of_true howner trivial, hleads.trans (iff_of_true rfl trivial),
          fun h => h.elim, trivial⟩
    | false =>
        exact ⟨iff_of_true howner trivial, hleads.trans (iff_of_false Bool.false_ne_true id),
          fun _ => hfollows rfl, trivial⟩
  · rw [if_neg hmarked]
    have hknown := hknows (by simpa using hmarked)
    cases led with
    | true =>
        exact ⟨iff_of_true howner trivial, hleads.trans (iff_of_true rfl trivial),
          fun h => h.elim, hknown⟩
    | false =>
        exact ⟨iff_of_true howner trivial, hleads.trans (iff_of_false Bool.false_ne_true id),
          fun _ => hfollows rfl, hknown⟩

/-- A call that finds the order new, and free, is the first to hold it. -/
theorem Race.untouched (h : Race pk who order m σ) {found : Order}
    (hfind : σ.store.orders.find? pk = some found) (hnew : found.status = .new)
    (hfree : σ.Free p (.order pk)) (hp : σ.owner (.order pk) ≠ some p) : m = .untouched := by
  cases m with
  | untouched => rfl
  | taken q =>
      obtain ⟨st, -, hst⟩ := h.stages q
      have howner := hst.owner.mpr (holds_of_leads (hst.leads.mp rfl))
      rcases hfree with hnone | hsome
      · rw [hnone] at howner
        cases howner
      · exact absurd hsome hp
  | settled q =>
      have hrow := h.row
      rw [hfind] at hrow
      cases hrow
      cases hnew

/-- A call that finds the order in another status comes after the lead master. -/
theorem Race.settled (h : Race pk who order m σ) (hold : order.status = .new) {found : Order}
    (hfind : σ.store.orders.find? pk = some found) (hnew : found.status ≠ .new) :
    ∃ q, m = .settled q := by
  have hrow := h.row
  rw [hfind] at hrow
  cases m with
  | settled q => exact ⟨q, rfl⟩
  | untouched =>
      cases hrow
      exact absurd hold hnew
  | taken q =>
      cases hrow
      exact absurd hold hnew

/-- The commit of a call settles the order when the call leads. -/
theorem Race.commit (h : Race pk who order m σ) {led marked : Bool}
    (hfits : Fits pk who m σ p (.committing led marked))
    (hproc : ∀ q, q ≠ p → σ'.proc q = σ.proc q)
    (hstore : σ'.store = Stage.written pk (who p) led marked σ.store)
    (howner : σ'.owner = (σ.release p).owner) (hp : At pk (who p) .finished (σ'.proc p)) :
    ∃ m', m.Moves p m' ∧ Race pk who order m' σ' := by
  obtain ⟨a, hassigned, -⟩ := h.assigned p
  have hmarked : Marked pk (who p) σ'.store := by
    rw [hstore]
    cases marked with
    | true => exact marked_of_mark hassigned
    | false => exact marked_written hfits.knows
  have hothers : ∀ q, q ≠ p →
      (σ'.owner (.order pk) = some q ↔ σ.owner (.order pk) = some q) := by
    intro q hq
    rw [howner]
    exact State.owner_release hq _
  have hfree : σ'.owner (.order pk) ≠ some p := by
    rw [howner]
    exact State.owner_release_self _
  have hkept : ∀ user, Marked pk user σ.store → Marked pk user σ'.store := by
    intro user hu
    rw [hstore]
    exact marked_written hu
  have hrows : ∀ q, ∃ a, σ'.store.assignedMasters.find? (pk, who q) = some a ∧
      a.isActive = true := by
    intro q
    obtain ⟨b, hb, hactive⟩ := h.assigned q
    rw [hstore]
    exact assigned_written hb hactive
  have hrow := h.row
  cases led with
  | true =>
      obtain rfl : m = .taken p := hfits.leads.mpr trivial
      refine ⟨.settled p, .settle, h.of_step .settle hproc hothers hkept hp
        ⟨iff_of_false hfree id, ?_, fun _ => ⟨p, rfl⟩, hmarked⟩ ?_ hrows⟩
      · simp [Stage.Leads]
      · rw [hstore, orders_written]
        exact find?_accept hrow
  | false =>
      obtain ⟨q, rfl⟩ := hfits.follows trivial
      refine ⟨.settled q, .same, h.of_step .same hproc hothers hkept hp
        ⟨iff_of_false hfree id, ?_, fun _ => ⟨q, rfl⟩, hmarked⟩ ?_ hrows⟩
      · simp [Stage.Leads]
      · rw [hstore, orders_written]
        exact hrow

/-- The step lemma of the race. -/
theorem Race.send (h : Race pk who order m σ) (hold : order.status = .new)
    (hs : σ.send p = some σ') : ∃ m', m.Moves p m' ∧ Race pk who order m' σ' := by
  obtain ⟨st, hat, hfits⟩ := h.stages p
  obtain ⟨a, hassigned, hactive⟩ := h.assigned p
  obtain ⟨st', hat', hstep⟩ := step_of_send hat h.row hassigned hactive hs
  have hproc : ∀ q, q ≠ p → σ'.proc q = σ.proc q := fun q hq => State.proc_of_send hs hq
  have hsame : σ'.owner = σ.owner → ∀ q, q ≠ p →
      (σ'.owner (.order pk) = some q ↔ σ.owner (.order pk) = some q) := by
    intro howner q _
    rw [howner]
  have hheld : ∀ k, σ.Free p k → σ'.owner = (σ.hold p k).owner → ∀ q, q ≠ p →
      (σ'.owner (.order pk) = some q ↔ σ.owner (.order pk) = some q) := by
    intro k hfree howner q hq
    rw [howner]
    exact State.owner_hold hfree hq _
  have hown : σ'.owner = (σ.hold p (.order pk)).owner → σ'.owner (.order pk) = some p := by
    intro howner
    rw [howner, State.owner_hold_self]
    exact Or.inr rfl
  cases hstep with
  | start hstore howner =>
      refine ⟨m, .same, h.of_same_store .same rfl hproc (hsame howner) hstore hat' ?_⟩
      exact ⟨by rw [howner]; exact hfits.owner, hfits.leads, fun hf => hf.elim, trivial⟩
  | @read b hb hstore howner =>
      refine ⟨m, .same, h.of_same_store .same rfl hproc (hsame howner) hstore hat' ?_⟩
      refine ⟨by rw [howner]; exact hfits.owner, hfits.leads, fun hf => hf.elim, fun hm => ?_⟩
      rw [hstore]
      exact ⟨b, hb, hm⟩
  | lead hfind hnew hfree hstore howner =>
      obtain rfl := h.untouched hfind hnew hfree fun hp => hfits.owner.mp hp
      refine ⟨.taken p, .take,
        h.of_same_store .take rfl hproc (hheld _ hfree howner) hstore hat' ?_⟩
      refine ⟨iff_of_true (hown howner) trivial, iff_of_true rfl trivial, fun hf => hf.elim, ?_⟩
      rw [hstore]
      exact hfits.knows
  | follow hfind hnew hfree hstore howner =>
      obtain ⟨q, rfl⟩ := h.settled hold hfind hnew
      refine ⟨_, .same, h.of_same_store .same rfl hproc (hheld _ hfree howner) hstore hat' ?_⟩
      refine fits_next (hown howner) (by simp) (fun _ => ⟨q, rfl⟩) ?_
      rw [hstore]
      exact hfits.knows
  | accept hfree hstore howner =>
      obtain rfl : m = .taken p := hfits.leads.mpr trivial
      refine ⟨_, .same, h.of_same_store .same rfl hproc (hheld _ hfree howner) hstore hat' ?_⟩
      refine fits_next (hown howner) (by simp) (fun hf => by cases hf) ?_
      rw [hstore]
      exact hfits.knows
  | @mark led hfree hstore howner =>
      refine ⟨m, .same, h.of_same_store .same rfl hproc (hheld _ hfree howner) hstore hat' ?_⟩
      have howned : σ'.owner (.order pk) = some p := by
        rw [howner, State.owner_hold_self]
        exact Or.inl (hfits.owner.mpr trivial)
      cases led with
      | true => exact ⟨iff_of_true howned trivial, hfits.leads, fun hf => hf.elim, trivial⟩
      | false =>
          exact ⟨iff_of_true howned trivial, hfits.leads, fun _ => hfits.follows trivial, trivial⟩
  | commit hstore howner => exact h.commit hfits hproc hstore howner hat'
  | finish hstore howner =>
      refine ⟨m, .same, h.of_same_store .same rfl hproc ?_ hstore hat' ?_⟩
      · intro q hq
        rw [howner]
        exact State.owner_release hq _
      · refine ⟨iff_of_false ?_ id, hfits.leads, fun hf => hf.elim, trivial⟩
        rw [howner]
        exact State.owner_release_self _

end Steps

/-! ### Runs -/

/-- Accept calls alone, which all run to their end: call `p` is by `who p`. -/
def AcceptCalls (_ : State DB RowKey Error ℕ) :
    Concurrency.Event (Context × OrderRequest) ℕ → Prop
  | .request p (_, .masterAccept user order) => user = who p ∧ order = pk
  | .request _ _ => False
  | .statement _ => True
  | .stop _ => False

instance decidableAcceptCalls (σ : State DB RowKey Error ℕ) :
    (e : Concurrency.Event (Context × OrderRequest) ℕ) → Decidable (AcceptCalls pk who σ e)
  | .request p (_, .masterAccept user order) =>
      inferInstanceAs (Decidable (user = who p ∧ order = pk))
  | .request _ (_, .clientCancel ..) | .request _ (_, .clientPay ..)
  | .request _ (_, .masterOnWay ..) | .request _ (_, .masterStart ..)
  | .request _ (_, .masterReject ..) | .request _ (_, .masterComplete ..)
  | .request _ (_, .dashboardUpdate ..) | .request _ (_, .dashboardStatus ..)
  | .request _ (_, .internalUpdate ..) | .request _ (_, .internalAssign ..)
  | .request _ (_, .paymePerform ..) => isFalse id
  | .statement _ => isTrue trivial
  | .stop _ => isFalse id

section Runs

variable {pk who order} {m : Stand ℕ} {σ σ' : State DB RowKey Error ℕ} {p : ℕ}
  {e : Concurrency.Event (Context × OrderRequest) ℕ}
  {es : List (Concurrency.Event (Context × OrderRequest) ℕ)}

theorem race_idle {s : DB} (hfind : s.orders.find? pk = some order)
    (hassigned : ∀ p, ∃ a, s.assignedMasters.find? (pk, who p) = some a ∧ a.isActive = true) :
    Race pk who order .untouched (.idle s) where
  stages p := ⟨.idle, ⟨rfl, rfl⟩, ⟨by simp [State.idle, Stage.Holds], by simp [Stage.Leads],
    fun h => h.elim, trivial⟩⟩
  row := hfind
  assigned := hassigned

theorem Race.request (h : Race pk who order m σ) {ctx : Context}
    (hs : σ.next OrderRequest.program (.request p (ctx, .masterAccept (who p) pk)) = some σ') :
    Race pk who order m σ' := by
  unfold State.next at hs
  simp only at hs
  split at hs
  · next hcode htx =>
    cases hs
    obtain ⟨st, hat, hfits⟩ := h.stages p
    have hst : st = .idle := by
      have := hat.code
      rw [hcode] at this
      cases st with
      | idle => rfl
      | _ => cases this
    subst hst
    have hbegun : At pk (who p) .begun (σ.goOn p
        { code := some (OrderRequest.program (ctx, .masterAccept (who p) pk)) } |>.proc p) := by
      rw [State.proc_goOn]
      exact ⟨congrArg some (Stage.program_masterAccept pk (who p) ctx), rfl⟩
    exact h.of_same_store .same rfl (fun q hq => State.proc_goOn_of_ne hq _)
      (fun _ _ => Iff.rfl) rfl hbegun ⟨hfits.owner, hfits.leads, fun hf => hf.elim, trivial⟩
  · cases hs

theorem handover (hnew : order.status = .new) :
    Handover OrderRequest.program (AcceptCalls pk who) (.order pk)
      (fun db : DB => db.orders.find? pk) (some order) (fun p => some (led who order p))
      (Race pk who order) where
  step := by
    intro m σ e σ' h hguard hnext
    cases e with
    | request p r =>
        obtain ⟨ctx, r⟩ := r
        cases r with
        | masterAccept user pk' =>
            obtain ⟨rfl, rfl⟩ := hguard
            exact ⟨m, .same, h.request hnext⟩
        | _ => cases hguard
    | statement p => exact h.send hnew hnext
    | stop p => cases hguard
  free := by
    intro σ h
    cases howner : σ.owner (.order pk) with
    | none => rfl
    | some p =>
        obtain ⟨st, -, hfits⟩ := h.stages p
        have hholds := hfits.owner.mp howner
        by_cases hleads : st.Leads
        · cases hfits.leads.mpr hleads
        · obtain ⟨q, hq⟩ := hfits.settled_of_holds hholds hleads
          cases hq
  held := by
    intro p σ h
    obtain ⟨st, -, hfits⟩ := h.stages p
    exact hfits.owner.mpr (holds_of_leads (hfits.leads.mp rfl))
  value := by
    intro m σ h
    rw [h.row]
    cases m <;> rfl

/-- The call of `p` is under way, or has marked its assignment on a settled order. -/
def Called (m : Stand ℕ) (σ : State DB RowKey Error ℕ) (p : ℕ) : Prop :=
  (σ.proc p).code ≠ none ∨ Marked pk (who p) σ.store ∧ ∃ q, m = .settled q

theorem Race.marked_of_send (h : Race pk who order m σ) (hs : σ.send p = some σ') {user : Uuid}
    (hmarked : Marked pk user σ.store) : Marked pk user σ'.store := by
  obtain ⟨st, hat, -⟩ := h.stages p
  obtain ⟨a, hassigned, hactive⟩ := h.assigned p
  obtain ⟨st', -, hstep⟩ := step_of_send hat h.row hassigned hactive hs
  cases hstep with
  | commit hstore howner =>
      rw [hstore]
      exact marked_written hmarked
  | start hstore | read ha hstore | lead ha hb hc hstore | follow ha hb hc hstore
  | accept ha hstore | mark ha hstore | finish hstore =>
      rw [hstore]
      exact hmarked

/-- A call ends with its assignment marked. -/
theorem Race.called_of_send (h : Race pk who order m σ) (hs : σ.send p = some σ')
    (hdone : (σ'.proc p).code = none) : Marked pk (who p) σ.store ∧ ∃ q, m = .settled q := by
  obtain ⟨st, hat, hfits⟩ := h.stages p
  obtain ⟨a, hassigned, hactive⟩ := h.assigned p
  obtain ⟨st', hat', hstep⟩ := step_of_send hat h.row hassigned hactive hs
  have hidle := hat'.code
  rw [hdone] at hidle
  cases hstep with
  | finish hstore howner => exact ⟨hfits.knows, hfits.follows trivial⟩
  | follow | accept =>
      unfold Stage.next at hidle
      split at hidle
      · cases hidle
      · cases hidle
  | _ => cases hidle

theorem Race.called_of_next (h : Race pk who order m σ) {m' : Stand ℕ}
    (hmoves : m.Moves e.process m') (hguard : AcceptCalls pk who σ e)
    (hs : σ.next OrderRequest.program e = some σ')
    (hcalled : (∃ r, e = .request p r) ∨ @Called pk who m σ p) :
    @Called pk who m' σ' p := by
  cases e with
  | stop q => cases hguard
  | request q r =>
      unfold State.next at hs
      simp only at hs
      split at hs
      · cases hs
        by_cases hp : p = q
        · subst hp
          left
          rw [State.proc_goOn]
          exact fun hnone => by cases hnone
        · rcases hcalled with ⟨r', hr⟩ | hbusy | ⟨hmarked, hset⟩
          · cases hr
            exact absurd rfl hp
          · left
            rw [State.proc_goOn_of_ne hp]
            exact hbusy
          · exact Or.inr ⟨hmarked, hmoves.settled hset⟩
      · cases hs
  | statement q =>
      rcases hcalled with ⟨r, hr⟩ | hbusy | ⟨hmarked, hset⟩
      · cases hr
      · by_cases hp : p = q
        · subst hp
          by_cases hdone : (σ'.proc p).code = none
          · obtain ⟨hmarked, hset⟩ := h.called_of_send hs hdone
            exact Or.inr ⟨h.marked_of_send hs hmarked, hmoves.settled hset⟩
          · exact Or.inl hdone
        · left
          rw [State.proc_of_send hs hp]
          exact hbusy
      · exact Or.inr ⟨h.marked_of_send hs hmarked, hmoves.settled hset⟩

/-- The run lemma for the calls. -/
theorem Race.called_of_run (h : Race pk who order m σ) (hnew : order.status = .new)
    (hrun : σ.run OrderRequest.program (AcceptCalls pk who) es = some σ')
    (hcalled : (∃ r, .request p r ∈ es) ∨ @Called pk who m σ p) :
    ∃ m', Race pk who order m' σ' ∧ @Called pk who m' σ' p := by
  induction es generalizing m σ with
  | nil =>
      cases hrun
      rcases hcalled with ⟨r, hr⟩ | hcalled
      · cases hr
      · exact ⟨m, h, hcalled⟩
  | cons e es ih =>
      obtain ⟨σ₁, hguard, hnext, hrest⟩ := State.run_cons hrun
      obtain ⟨m₁, hmoves, h₁⟩ := (handover hnew).step h hguard hnext
      refine ih h₁ hrest ?_
      rcases hcalled with ⟨r, hr⟩ | hcalled
      · rcases List.mem_cons.mp hr with rfl | hr
        · exact Or.inr (h.called_of_next hmoves hguard hnext (Or.inl ⟨r, rfl⟩))
        · exact Or.inl ⟨r, hr⟩
      · exact Or.inr (h.called_of_next hmoves hguard hnext (Or.inr hcalled))

end Runs

end AcceptRace

open AcceptRace in
/-- The order is new until the first call to obtain its lock commits, and from then
on accepted by that master; when all calls have finished, each master who called is
marked. -/
theorem accept_race (pk : Uuid) (who : ℕ → Uuid) {s : DB} {order : Order}
    (hfind : s.orders.find? pk = some order) (hnew : order.status = .new)
    (hassigned : ∀ p, ∃ a, s.assignedMasters.find? (pk, who p) = some a ∧ a.isActive = true)
    {es : List (Concurrency.Event (Context × OrderRequest) ℕ)} {σ : State DB RowKey Error ℕ}
    (hrun : (State.idle s).run OrderRequest.program (AcceptCalls pk who) es = some σ) :
    (∃ n rest,
      (State.idle s).history OrderRequest.program (fun db => db.orders.find? pk) es =
        List.replicate (n + 1) (some order) ++ rest ∧
      (∀ row ∈ rest, ∃ p,
        (State.idle s).firstHolder OrderRequest.program (.order pk) es = some p ∧
          row = some { order with master := some (who p), status := .accepted }) ∧
      ((∀ p, (σ.proc p).code = none) → (∃ p r, .request p r ∈ es) → rest ≠ [])) ∧
    ((∀ p, (σ.proc p).code = none) → ∀ p r, .request p r ∈ es →
      ∃ a, σ.store.assignedMasters.find? (pk, who p) = some a ∧ a.hasAccepted = true) := by
  have hrace : Race pk who order .untouched (.idle s) := race_idle hfind hassigned
  have hcalled : (∀ p, (σ.proc p).code = none) → ∀ p r, .request p r ∈ es →
      ∃ q, Race pk who order (.settled q) σ ∧ Marked pk (who p) σ.store := by
    intro hdone p r hr
    obtain ⟨m, hlast, hbusy | ⟨hmarked, q, rfl⟩⟩ := hrace.called_of_run hnew hrun (Or.inl ⟨r, hr⟩)
    · exact absurd (hdone p) hbusy
    · exact ⟨q, hlast, hmarked⟩
  constructor
  · obtain ⟨m, n, hholder, hlast, ⟨hhistory, hopen⟩ | ⟨p, l, hhistory, rfl⟩⟩ :=
      (handover hnew).history_untouched hrace hrun
    · refine ⟨n, [], by rw [hhistory, List.append_nil], (by simp), ?_⟩
      rintro hdone ⟨p, r, hr⟩
      obtain ⟨q, hsettled, -⟩ := hcalled hdone p r hr
      have hrow := congrArg (Option.map Order.status) (hlast.row.symm.trans hsettled.row)
      cases m with
      | settled q => exact absurd rfl (hopen q)
      | untouched =>
          change some order.status = some .accepted at hrow
          rw [hnew] at hrow
          cases hrow
      | taken q =>
          change some order.status = some .accepted at hrow
          rw [hnew] at hrow
          cases hrow
    · refine ⟨n, _, hhistory, fun row hrow => ?_, fun _ _ h => by cases h⟩
      rw [List.eq_of_mem_replicate hrow]
      exact ⟨p, hholder.symm, rfl⟩
  · intro hdone p r hr
    obtain ⟨-, -, hmarked⟩ := hcalled hdone p r hr
    exact hmarked

namespace Sample

/-- A new order, to which masters 2 and 3 are assigned. -/
def assignedTwice : DB where
  orders := ⟨[{ id := 10, client := 1, service := 4, addressText := "Chilonzor", lat := 0, lng := 0
                scheduledDate := 0, scheduledTime := 0 }], by decide⟩
  assignedMasters := ⟨[{ order := 10, master := 2 }, { order := 10, master := 3 }], by decide⟩

/-- Call 0 is by master 2, the others are by master 3. -/
def caller (p : ℕ) : Uuid := if p = 0 then 2 else 3

/-- Both have read their assignment when call 1 obtains the lock. -/
def bothAccept : List (Concurrency.Event (Context × OrderRequest) ℕ) :=
  .request 0 (at_ 30, .masterAccept 2 10) :: .request 1 (at_ 30, .masterAccept 3 10) ::
    statements 0 2 ++ statements 1 7 ++ statements 0 4

end Sample

open AcceptRace Sample in
/-- Master 3 leads, and both are marked. -/
theorem accept_race_sample :
    ∃ σ, (State.idle assignedTwice).run OrderRequest.program (AcceptCalls 10 caller) bothAccept =
        some σ ∧
      (State.idle assignedTwice).firstHolder OrderRequest.program (.order 10) bothAccept = some 1 ∧
      (∃ n rest, (State.idle assignedTwice).history OrderRequest.program
          (fun db => db.orders.find? 10) bothAccept =
          List.replicate (n + 1) (assignedTwice.orders.find? 10) ++ rest ∧ rest ≠ []) ∧
      ∀ p ∈ [0, 1], ∃ a, σ.store.assignedMasters.find? (10, caller p) = some a ∧
        a.hasAccepted = true := by
  have hassigned : ∀ p, ∃ a, assignedTwice.assignedMasters.find? (10, caller p) = some a ∧
      a.isActive = true := by
    intro p
    unfold caller
    by_cases hp : p = 0
    · rw [if_pos hp]
      exact ⟨{ order := 10, master := 2 }, by decide, rfl⟩
    · rw [if_neg hp]
      exact ⟨{ order := 10, master := 3 }, by decide, rfl⟩
  have hfinished : (((State.idle assignedTwice).run OrderRequest.program (AcceptCalls 10 caller)
      bothAccept).map fun σ => ((σ.proc 0).code.isNone, (σ.proc 1).code.isNone)) =
      some (true, true) := by decide
  obtain ⟨σ, hrun, hidle⟩ := Option.map_eq_some_iff.mp hfinished
  obtain ⟨h0, h1⟩ := Prod.mk.inj hidle
  have hdone : ∀ p, (σ.proc p).code = none := by
    refine State.finished_of_run hrun
      (by decide : ∀ e ∈ bothAccept, e.process ∈ [0, 1]) fun p hp => ?_
    rcases List.mem_pair.mp hp with rfl | rfl
    · simpa using h0
    · simpa using h1
  obtain ⟨⟨n, rest, hhistory, -, hrest⟩, hmarked⟩ :=
    accept_race 10 caller (s := assignedTwice) rfl rfl hassigned hrun
  refine ⟨σ, hrun, by decide, ⟨n, rest, hhistory, hrest hdone ⟨0, _, List.mem_cons_self ..⟩⟩, ?_⟩
  intro p hp
  rcases List.mem_pair.mp hp with rfl | rfl
  · exact hmarked hdone 0 _ (List.mem_cons_self ..)
  · exact hmarked hdone 1 (at_ 30, .masterAccept 3 10) (by simp [bothAccept])

end Homex
