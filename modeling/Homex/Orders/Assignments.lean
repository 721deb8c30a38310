import Homex.Dashboard.Orders

/-!
# The masters assigned to an order

`syncRelatedSet` replaces the masters of an order, or its assistants, by those a
list of ids names: the rows of the others are deactivated, and a row is created or
activated for each master named. It compares the ids twice, as texts in the first
loop and as ids in the query of the second, and a text that is not the one `str`
writes of an id is the same id for the query alone.
-/

namespace Homex

namespace Orders

open Relational Action Code
open Dashboard.DashboardOrderAssignSerializer (activate deactivate)

/-- A text sent as an id: the one that `str` writes of the id, another one that
`uuid.UUID` reads as it (in capitals, without hyphens, in braces), or one that it
does not read. -/
inductive IdText
  | str (id : Uuid)
  | variant (id : Uuid) (spelling : String)
  | malformed (text : String)
  deriving DecidableEq, Repr

/-- The id that a text is read as. -/
def IdText.uuid? : IdText → Option Uuid
  | .str id => some id
  | .variant id _ => some id
  | .malformed _ => none

/-- The two sets of rows of an order: `OrderMaster` and `DashboardOrderAssistant`. -/
inductive RelatedName
  | assignedMasters
  | dashboardAssistants
  deriving DecidableEq, Repr

namespace RelatedName

def table : RelatedName → DB → Table Assignment
  | assignedMasters => DB.assignedMasters
  | dashboardAssistants => DB.assistants

def setTable : RelatedName → DB → Table Assignment → DB
  | assignedMasters, db, t => { db with assignedMasters := t }
  | dashboardAssistants, db, t => { db with assistants := t }

def save : RelatedName → Assignment → Code Unit
  | assignedMasters => saveAssignedMaster
  | dashboardAssistants => saveAssistant

def create : RelatedName → Assignment → Code Unit
  | assignedMasters => createAssignedMaster
  | dashboardAssistants => createAssistant

variable (related : RelatedName) (db : DB) (t t' : Table Assignment) (row : Assignment)

@[simp] theorem table_setTable : related.table (related.setTable db t) = t := by
  cases related <;> rfl

@[simp] theorem setTable_setTable :
    related.setTable (related.setTable db t) t' = related.setTable db t' := by
  cases related <;> rfl

@[simp] theorem setTable_table : related.setTable db (related.table db) = db := by
  cases related <;> rfl

@[simp] theorem masters_setTable : (related.setTable db t).masters = db.masters := by
  cases related <;> rfl

theorem run_save :
    related.save row db = (.ok (), related.setTable db ((related.table db).save row)) := by
  cases related <;> rfl

variable {related db t row}

theorem run_create (h : (related.table db).insert? row = some t) :
    related.create row db = (.ok (), related.setTable db t) := by
  cases related with
  | assignedMasters =>
      have hinsert : db.assignedMasters.insert? row = some t := h
      change createAssignedMaster row db = _
      unfold createAssignedMaster
      exact run_write (by rw [hinsert, Option.map_some]; rfl)
  | dashboardAssistants =>
      have hinsert : db.assistants.insert? row = some t := h
      change createAssistant row db = _
      unfold createAssistant
      exact run_write (by rw [hinsert, Option.map_some]; rfl)

/-- The order has a row for the master already. -/
theorem run_create_none (h : (related.table db).insert? row = none) :
    related.create row db = (.error integrityError, db) := by
  cases related with
  | assignedMasters =>
      have hinsert : db.assignedMasters.insert? row = none := h
      change createAssignedMaster row db = _
      unfold createAssignedMaster
      exact run_write_none (by rw [hinsert, Option.map_none])
  | dashboardAssistants =>
      have hinsert : db.assistants.insert? row = none := h
      change createAssistant row db = _
      unfold createAssistant
      exact run_write_none (by rw [hinsert, Option.map_none])

end RelatedName

/-- The rows of an order, `existing` in both implementations. -/
def existing (related : RelatedName) (order : Uuid) (db : DB) : List Assignment :=
  (related.table db).rows.filter fun row => row.order = order

/-- The first loop of `sync_related_set`; returns the rows as it leaves them. -/
def deactivateUnwanted (save : Assignment → Code Unit) (wanted : List IdText) :
    List Assignment → Code (List Assignment)
  | [] => pure []
  | row :: rows =>
      if .str row.master ∉ wanted ∧ row.isActive = true then do
        let deactivated := { row with isActive := false }
        save deactivated
        let rest ← deactivateUnwanted save wanted rows
        pure (deactivated :: rest)
      else do
        let rest ← deactivateUnwanted save wanted rows
        pure (row :: rest)

/-- `Master.objects.filter(id__in=wanted)`. -/
def wantedMasters (db : DB) (wanted : List IdText) : List Uuid :=
  (db.masters.rows.filter fun master => master.id ∈ wanted.filterMap IdText.uuid?).map
    fun master => master.id

/-- `sync_related_set`; returns the newly assigned masters. Its second loop is the
one of `_sync_set`. -/
def syncRelatedSet (related : RelatedName) (order : Uuid) (wantedIds : List IdText)
    (admin : Option Uuid) : Code (List Uuid) := do
  let db ← get
  let rows ← deactivateUnwanted related.save wantedIds (existing related order db)
  require (∀ text ∈ wantedIds, text.uuid?.isSome) (.serverError "ValidationError")
  let db ← get
  activate related.save related.create order admin rows (wantedMasters db wantedIds)

/-- The row is there and active. -/
def active (row? : Option Assignment) : Bool := row?.any fun row => row.isActive

/-- A row after the first loop. -/
def kept (wanted : List IdText) (row : Assignment) : Assignment :=
  if .str row.master ∉ wanted ∧ row.isActive = true then { row with isActive := false } else row

/-- A row that is activated again. -/
def reactivated (admin : Option Uuid) (row : Assignment) : Assignment :=
  { row with isActive := true, assignedBy := admin }

/-- The row of a wanted master after the second loop. -/
def assigned (order : Uuid) (admin : Option Uuid) (master : Uuid) : Option Assignment → Assignment
  | none => { order, master, assignedBy := admin }
  | some row => if row.isActive = true then row
      else reactivated admin row

section Lemmas

variable {related : RelatedName} {order : Uuid} {admin : Option Uuid} {wanted : List IdText}
  {db : DB} {rows : List Assignment} {row : Assignment} {master : Uuid}

@[simp] theorem key_assignment (row : Assignment) : key row = (row.order, row.master) := rfl

@[simp] theorem active_none : active none = false := rfl

@[simp] theorem active_some : active (some row) = row.isActive := rfl

@[simp] theorem active_assigned (row? : Option Assignment) :
    (assigned order admin master row?).isActive = true := by
  unfold assigned
  cases row? with
  | none => rfl
  | some row =>
      by_cases h : row.isActive = true
      · simp [h]
      · simp [h, reactivated]

@[simp] theorem key_kept : key (kept wanted row) = key row := by
  unfold kept
  split <;> rfl

@[simp] theorem master_kept : (kept wanted row).master = row.master := by
  unfold kept
  split <;> rfl

theorem mem_wantedMasters :
    master ∈ wantedMasters db wanted ↔
      (∃ text ∈ wanted, text.uuid? = some master) ∧ (db.masters.find? master).isSome := by
  simp only [wantedMasters, List.mem_map, List.mem_filter, List.mem_filterMap, decide_eq_true_eq,
    Option.isSome_iff_exists, Table.find?_eq_some_iff]
  constructor
  · rintro ⟨m, ⟨hm, htext⟩, rfl⟩
    exact ⟨htext, m, hm, rfl⟩
  · rintro ⟨htext, m, hm, rfl⟩
    exact ⟨m, ⟨hm, htext⟩, rfl⟩

theorem nodup_wantedMasters : (wantedMasters db wanted).Nodup :=
  db.masters.nodup_keys.sublist (List.filter_sublist.map _)

/-- The row of a master among the rows of the order. -/
theorem find?_existing :
    (existing related order db).find? (fun row => row.master = master) =
      (related.table db).find? (order, master) := by
  unfold existing Table.find?
  rw [List.find?_filter]
  refine congrArg (fun p => List.find? p _) (funext fun row => ?_)
  simp [Prod.ext_iff]

theorem nodup_existing : ((existing related order db).map key).Nodup :=
  (related.table db).nodup_keys.sublist (List.filter_sublist.map key)

/-- The first loop writes each of its rows as `kept` says. -/
theorem run_deactivateUnwanted (hnodup : (rows.map key).Nodup)
    (hfound : ∀ row ∈ rows, (related.table db).find? (key row) = some row) :
    ∃ t, deactivateUnwanted related.save wanted rows db =
        (.ok (rows.map (kept wanted)), related.setTable db t) ∧
      ∀ k, t.find? k = if k ∈ rows.map key then ((related.table db).find? k).map (kept wanted)
        else (related.table db).find? k := by
  induction rows generalizing db with
  | nil => exact ⟨related.table db, by rw [RelatedName.setTable_table]; rfl, fun k => rfl⟩
  | cons row rows ih =>
      rw [List.map_cons, List.nodup_cons] at hnodup
      have hrow := hfound row List.mem_cons_self
      have hrest : ∀ row ∈ rows, (related.table db).find? (key row) = some row :=
        fun row hmem => hfound row (List.mem_cons_of_mem _ hmem)
      by_cases hoff : .str row.master ∉ wanted ∧ row.isActive = true
      · have hkept : kept wanted row = { row with isActive := false } := if_pos hoff
        have hsave : ∀ k, ((related.table db).save { row with isActive := false }).find? k =
            if key row = k then some { row with isActive := false }
            else (related.table db).find? k := fun k =>
          Table.find?_save (r := { row with isActive := false }) hrow k
        have hne : ∀ row' ∈ rows, key row ≠ key row' := by
          intro row' hmem heq
          exact hnodup.1 (heq ▸ List.mem_map_of_mem hmem)
        obtain ⟨t, hrun, hfind⟩ := @ih
          (related.setTable db ((related.table db).save { row with isActive := false }))
          hnodup.2 fun row' hmem => by
            rw [RelatedName.table_setTable, hsave, if_neg (hne row' hmem), hrest row' hmem]
        rw [RelatedName.table_setTable] at hfind
        rw [RelatedName.setTable_setTable] at hrun
        refine ⟨t, ?_, fun k => ?_⟩
        · unfold deactivateUnwanted
          rw [if_pos hoff, run_bind_ok (RelatedName.run_save ..), run_bind_ok hrun, List.map_cons,
            hkept]
          rfl
        · rw [hfind, List.map_cons]
          by_cases hk : key row = k
          · subst hk
            rw [if_neg hnodup.1, hsave, if_pos rfl, if_pos List.mem_cons_self, hrow,
              Option.map_some, hkept]
          · rw [hsave, if_neg hk]
            simp only [List.mem_cons, Ne.symm hk, false_or]
      · have hkept : kept wanted row = row := if_neg hoff
        obtain ⟨t, hrun, hfind⟩ := ih hnodup.2 hrest
        refine ⟨t, ?_, fun k => ?_⟩
        · unfold deactivateUnwanted
          rw [if_neg hoff, run_bind_ok hrun, List.map_cons, hkept]
          rfl
        · rw [hfind, List.map_cons]
          by_cases hk : key row = k
          · subst hk
            rw [if_neg hnodup.1, if_pos List.mem_cons_self, hrow, Option.map_some, hkept]
          · simp only [List.mem_cons, Ne.symm hk, false_or]

/-- Rows that the first loop keeps are not written. -/
theorem run_deactivateUnwanted_eq_self (h : ∀ row ∈ rows, kept wanted row = row) :
    deactivateUnwanted related.save wanted rows db = (.ok rows, db) := by
  induction rows with
  | nil => rfl
  | cons row rows ih =>
      have hrow := h row List.mem_cons_self
      have hon : ¬(.str row.master ∉ wanted ∧ row.isActive = true) := by
        intro hoff
        rw [kept, if_pos hoff] at hrow
        have hactive := congrArg Assignment.isActive hrow
        rw [hoff.2] at hactive
        cases hactive
      unfold deactivateUnwanted
      rw [if_neg hon, run_bind_ok (ih fun row hmem => h row (List.mem_cons_of_mem _ hmem))]
      rfl

section Activate

variable {masters : List Uuid} {m : Uuid}

/-- The row of a master among rows that are one for each master. -/
def rowOf (rows : List Assignment) (master : Uuid) : Option Assignment :=
  rows.find? fun row => row.master = master

theorem rowOf_map {f : Assignment → Assignment} (hf : ∀ row, (f row).master = row.master) :
    rowOf (rows.map f) master = (rowOf rows master).map f := by
  unfold rowOf
  rw [List.find?_map]
  refine congrArg (fun p => (rows.find? p).map f) (funext fun row => ?_)
  simp [hf]

theorem master_of_rowOf (h : rowOf rows master = some row) : row.master = master := by
  simpa using List.find?_some h

/-- The rows after one of them was activated. -/
theorem rowOf_replace (hrow : rowOf rows master = some row) (new : Assignment)
    (hnew : new.master = master) (m : Uuid) :
    rowOf (rows.map fun r => if r.master = master then new else r) m =
      if m = master then some new else rowOf rows m := by
  have hmaster : ∀ r : Assignment, (if r.master = master then new else r).master = r.master := by
    intro r
    by_cases h : r.master = master
    · rw [if_pos h, hnew, h]
    · rw [if_neg h]
  rw [rowOf_map hmaster]
  by_cases hm : m = master
  · subst hm
    rw [if_pos rfl, hrow, Option.map_some, if_pos (master_of_rowOf hrow)]
  · rw [if_neg hm]
    cases hother : rowOf rows m with
    | none => rfl
    | some r =>
        rw [Option.map_some, if_neg]
        rw [master_of_rowOf hother]
        exact hm

section Rounds

variable {save create : Assignment → Code Unit}

/-- A round for a master who has no row. -/
theorem activate_new (hrow : rowOf rows master = none) :
    activate save create order admin rows (master :: masters) =
      (create { order, master, assignedBy := admin } >>= fun _ =>
        activate save create order admin rows masters >>= fun rest => pure (master :: rest)) := by
  unfold rowOf at hrow
  conv_lhs => unfold activate
  rw [hrow]

/-- A round for a master who is assigned already. -/
theorem activate_active (hrow : rowOf rows master = some row) (hactive : row.isActive = true) :
    activate save create order admin rows (master :: masters) =
      activate save create order admin rows masters := by
  unfold rowOf at hrow
  conv_lhs => unfold activate
  rw [hrow]
  exact if_pos hactive

/-- A round for a master whose row was deactivated. -/
theorem activate_inactive (hrow : rowOf rows master = some row) (hinactive : row.isActive = false) :
    activate save create order admin rows (master :: masters) =
      (save (reactivated admin row) >>= fun _ =>
        activate save create order admin
          (rows.map fun r => if r.master = master
            then reactivated admin row else r) masters >>=
          fun rest => pure (master :: rest)) := by
  unfold rowOf at hrow
  conv_lhs => unfold activate
  rw [hrow]
  exact if_neg (by simp [hinactive])

end Rounds

/-- What the second loop leaves: a row, active, for each of the masters. -/
structure Activates (related : RelatedName) (order : Uuid) (admin : Option Uuid)
    (masters : List Uuid) (db : DB) (out : List Uuid) (t : Table Assignment) : Prop where
  find? : ∀ k : Uuid × Uuid, t.find? k =
    if k.1 = order ∧ k.2 ∈ masters then
      some (assigned order admin k.2 ((related.table db).find? k))
    else (related.table db).find? k
  nodup : out.Nodup
  mem : ∀ m, m ∈ out ↔ m ∈ masters ∧ active ((related.table db).find? (order, m)) = false

theorem assigned_of_active (hactive : row.isActive = true) :
    assigned order admin master (some row) = row := if_pos hactive

theorem assigned_of_inactive (hinactive : row.isActive = false) :
    assigned order admin master (some row) =
      reactivated admin row := if_neg (by simp [hinactive])

/-- A round that leaves the row of one master active, and the rounds after it. -/
theorem Activates.cons {out : List Uuid} {t : Table Assignment} (t₁ : Table Assignment)
    (hfirst : ∀ k, t₁.find? k = if (order, master) = k then
        some (assigned order admin master ((related.table db).find? (order, master)))
      else (related.table db).find? k)
    (h : Activates related order admin masters (related.setTable db t₁) out t) :
    Activates related order admin (master :: masters) db
      (if active ((related.table db).find? (order, master)) = true then out else master :: out)
      t := by
  obtain ⟨hfind, hnodup, hmem⟩ := h
  simp only [RelatedName.table_setTable] at hfind hmem
  have hself : t₁.find? (order, master) =
      some (assigned order admin master ((related.table db).find? (order, master))) := by
    rw [hfirst, if_pos rfl]
  have hother : ∀ m, m ≠ master → t₁.find? (order, m) = (related.table db).find? (order, m) := by
    intro m hne
    rw [hfirst, if_neg fun heq => hne (congrArg Prod.snd heq).symm]
  have hout : master ∉ out := by
    rw [hmem, hself, active_some, active_assigned]
    exact fun h => Bool.noConfusion h.2
  refine ⟨fun k => ?_, ?_, fun m => ?_⟩
  · rw [hfind]
    by_cases hk : (order, master) = k
    · subst hk
      rw [hself, assigned_of_active (active_assigned _), ite_self,
        if_pos ⟨rfl, List.mem_cons_self⟩]
    · rw [hfirst, if_neg hk]
      by_cases horder : k.1 = order
      · have hne : k.2 ≠ master := fun heq => hk (Prod.ext horder.symm heq.symm)
        simp only [horder, true_and, List.mem_cons, hne, false_or]
      · simp only [horder, false_and, if_false]
  · split
    · exact hnodup
    · exact List.nodup_cons.mpr ⟨hout, hnodup⟩
  · by_cases hm : m = master
    · subst hm
      cases hactive : active ((related.table db).find? (order, m)) with
      | true => simpa using hout
      | false => simp
    · have hiff : m ∈ (if active ((related.table db).find? (order, master)) = true then out
          else master :: out) ↔ m ∈ out := by
        split
        · rfl
        · rw [List.mem_cons, or_iff_right hm]
      rw [hiff, hmem, hother m hm, List.mem_cons, or_iff_right hm]

/-- The second loop succeeds when no master without a row is named twice. -/
theorem run_activate
    (hone : (masters.filter fun m => (rowOf rows m).isNone).Nodup)
    (hagree : ∀ m ∈ masters, (related.table db).find? (order, m) = rowOf rows m) :
    ∃ out t, activate related.save related.create order admin rows masters db =
        (.ok out, related.setTable db t) ∧
      Activates related order admin masters db out t := by
  induction masters generalizing db rows with
  | nil =>
      refine ⟨[], related.table db, by rw [RelatedName.setTable_table]; rfl, ?_, List.nodup_nil, ?_⟩
      · simp
      · simp
  | cons master masters ih =>
      have hhead := hagree master List.mem_cons_self
      have htail : ∀ m ∈ masters, (related.table db).find? (order, m) = rowOf rows m :=
        fun m hmem => hagree m (List.mem_cons_of_mem _ hmem)
      rw [List.filter_cons] at hone
      cases hrow : rowOf rows master with
      | none =>
          rw [hrow, Option.isNone_none, if_pos rfl, List.nodup_cons, List.mem_filter] at hone
          rw [hrow] at hhead
          obtain ⟨t₁, hinsert⟩ := Table.exists_insert? (t := related.table db)
            (r := { order, master, assignedBy := admin }) hhead
          have hfirst := Table.find?_insert? hinsert
          obtain ⟨out, t, hrun, hout⟩ := @ih (related.setTable db t₁) rows hone.2 fun m hmem => by
            have hne : (order, master) ≠ (order, m) := by
              intro heq
              obtain rfl : master = m := congrArg Prod.snd heq
              exact hone.1 ⟨hmem, by rw [hrow]; rfl⟩
            rw [RelatedName.table_setTable, hfirst, htail m hmem]
            exact if_neg hne
          refine ⟨_, t, ?_, hout.cons t₁ fun k => ?_⟩
          · rw [activate_new hrow, run_bind_ok (RelatedName.run_create hinsert), run_bind_ok hrun,
              RelatedName.setTable_setTable, hhead]
            rfl
          · rw [hhead]
            exact hfirst k
      | some row =>
          rw [hrow, Option.isNone_some, if_neg Bool.false_ne_true] at hone
          rw [hrow] at hhead
          cases hactive : row.isActive with
          | true =>
              obtain ⟨out, t, hrun, hout⟩ := ih hone htail
              rw [← RelatedName.setTable_table related db] at hout
              refine ⟨_, t, ?_, hout.cons (related.table db) fun k => ?_⟩
              · rw [activate_active hrow hactive, hrun, hhead, active_some, if_pos hactive]
              · rw [hhead, assigned_of_active hactive]
                split
                · next hk => rw [← hk, hhead]
                · rfl
          | false =>
              have hmaster := master_of_rowOf hrow
              have horder : row.order = order :=
                congrArg Prod.fst (Table.key_of_find? hhead)
              have hfirst : ∀ k, ((related.table db).save
                  (reactivated admin row)).find? k =
                  if (order, master) = k then
                    some (reactivated admin row)
                  else (related.table db).find? k := by
                intro k
                have hkey : key (reactivated admin row) =
                    (order, master) := Prod.ext horder hmaster
                rw [Table.find?_save (hkey ▸ hhead), hkey]
              have hreplace := rowOf_replace hrow (reactivated admin row) hmaster
              have hone' : (masters.filter fun m => (rowOf (rows.map fun r =>
                  if r.master = master then
                    reactivated admin row else r) m).isNone).Nodup := by
                refine (congrArg List.Nodup (List.filter_congr fun m _ => ?_)).mpr hone
                rw [hreplace]
                split
                · next hm => rw [hm, hrow]; rfl
                · rfl
              obtain ⟨out, t, hrun, hout⟩ := @ih (related.setTable db
                ((related.table db).save (reactivated admin row)))
                _ hone' fun m hmem => by
                  rw [RelatedName.table_setTable, hfirst, hreplace]
                  by_cases hm : m = master
                  · rw [if_pos (by rw [hm]), if_pos hm]
                  · rw [if_neg fun heq => hm (congrArg Prod.snd heq).symm, if_neg hm, htail m hmem]
              refine ⟨_, t, ?_, hout.cons _ fun k => ?_⟩
              · rw [activate_inactive hrow hactive, run_bind_ok (RelatedName.run_save ..),
                  run_bind_ok hrun, RelatedName.setTable_setTable, hhead, active_some, hactive]
                rfl
              · rw [hhead, assigned_of_inactive hactive]
                exact hfirst k

/-- The second loop fails at a master whose row it does not know of. -/
theorem activate_fails (hmem : m ∈ masters) (hrow : rowOf rows m = none)
    (hthere : ((related.table db).find? (order, m)).isSome) :
    ∃ e db', activate related.save related.create order admin rows masters db =
      (.error e, db') := by
  induction masters generalizing db rows with
  | nil => cases hmem
  | cons master masters ih =>
      by_cases hm : m = master
      · subst hm
        have htaken : (related.table db).insert?
            { order := order, master := m, assignedBy := admin } = none :=
          Table.insert?_eq_none hthere
        refine ⟨integrityError, db, ?_⟩
        rw [activate_new hrow]
        exact run_bind_error (RelatedName.run_create_none htaken)
      · have hmem' : m ∈ masters := (List.mem_cons.mp hmem).resolve_left hm
        cases hhead : rowOf rows master with
        | none =>
            rw [activate_new hhead]
            cases hinsert : (related.table db).insert?
                { order := order, master := master, assignedBy := admin } with
            | none => exact ⟨_, _, run_bind_error (RelatedName.run_create_none hinsert)⟩
            | some t =>
                obtain ⟨e, db', hfails⟩ := @ih (related.setTable db t) rows hmem' hrow (by
                  rw [RelatedName.table_setTable, Table.find?_insert? hinsert]
                  split
                  · rfl
                  · exact hthere)
                refine ⟨e, db', ?_⟩
                rw [run_bind_ok (RelatedName.run_create hinsert)]
                exact run_bind_error hfails
        | some row =>
            cases hactive : row.isActive with
            | true =>
                rw [activate_active hhead hactive]
                exact ih hmem' hrow hthere
            | false =>
                have hmaster := master_of_rowOf hhead
                have hreplace := rowOf_replace hhead (reactivated admin row) hmaster m
                rw [if_neg hm, hrow] at hreplace
                obtain ⟨e, db', hfails⟩ := @ih (related.setTable db
                  ((related.table db).save (reactivated admin row)))
                  _ hmem' hreplace (by
                    rw [RelatedName.table_setTable, Table.isSome_find?_save]
                    exact hthere)
                refine ⟨e, db', ?_⟩
                rw [activate_inactive hhead hactive, run_bind_ok (RelatedName.run_save ..)]
                exact run_bind_error hfails

/-- The second loop fails when a master without a row is named twice. -/
theorem activate_fails_of_not_nodup
    (htwice : ¬(masters.filter fun m => (rowOf rows m).isNone).Nodup) :
    ∃ e db', activate related.save related.create order admin rows masters db =
      (.error e, db') := by
  induction masters generalizing db rows with
  | nil => exact absurd List.nodup_nil htwice
  | cons master masters ih =>
      rw [List.filter_cons] at htwice
      cases hhead : rowOf rows master with
      | none =>
          rw [hhead, Option.isNone_none, if_pos rfl, List.nodup_cons, List.mem_filter] at htwice
          rw [activate_new hhead]
          cases hinsert : (related.table db).insert?
              { order := order, master := master, assignedBy := admin } with
          | none => exact ⟨_, _, run_bind_error (RelatedName.run_create_none hinsert)⟩
          | some t =>
              have hrest : ∃ e db', activate related.save related.create order admin rows masters
                  (related.setTable db t) = (.error e, db') := by
                by_cases hmem : master ∈ masters
                · refine activate_fails hmem hhead ?_
                  rw [RelatedName.table_setTable, Table.find?_insert? hinsert]
                  exact if_pos rfl ▸ rfl
                · exact ih fun hnodup => htwice ⟨fun h => hmem h.1, hnodup⟩
              obtain ⟨e, db', hfails⟩ := hrest
              refine ⟨e, db', ?_⟩
              rw [run_bind_ok (RelatedName.run_create hinsert)]
              exact run_bind_error hfails
      | some row =>
          rw [hhead, Option.isNone_some, if_neg Bool.false_ne_true] at htwice
          cases hactive : row.isActive with
          | true =>
              rw [activate_active hhead hactive]
              exact ih htwice
          | false =>
              have hmaster := master_of_rowOf hhead
              have htwice' : ¬(masters.filter fun m => (rowOf (rows.map fun r =>
                  if r.master = master then
                    reactivated admin row else r) m).isNone).Nodup := by
                refine fun hnodup => htwice ?_
                refine (congrArg List.Nodup (List.filter_congr fun m _ => ?_)).mp hnodup
                rw [rowOf_replace hhead (reactivated admin row) hmaster]
                split
                · next hm => rw [hm, hhead]; rfl
                · rfl
              obtain ⟨e, db', hfails⟩ := ih htwice'
              refine ⟨e, db', ?_⟩
              rw [activate_inactive hhead hactive, run_bind_ok (RelatedName.run_save ..)]
              exact run_bind_error hfails

/-- Masters who are assigned already are left alone. -/
theorem run_activate_eq_self (h : ∀ m ∈ masters, active (rowOf rows m) = true) :
    activate related.save related.create order admin rows masters db = (.ok [], db) := by
  induction masters with
  | nil => rfl
  | cons master masters ih =>
      have hhead := h master List.mem_cons_self
      cases hrow : rowOf rows master with
      | none =>
          rw [hrow] at hhead
          cases hhead
      | some row =>
          rw [hrow] at hhead
          rw [activate_active hrow hhead]
          exact ih fun m hmem => h m (List.mem_cons_of_mem _ hmem)

end Activate

/-- The first loop on the rows of the order. -/
theorem run_deactivateUnwanted_existing (related : RelatedName) (order : Uuid)
    (wanted : List IdText) (db : DB) :
    ∃ t, deactivateUnwanted related.save wanted (existing related order db) db =
        (.ok ((existing related order db).map (kept wanted)), related.setTable db t) ∧
      ∀ k : Uuid × Uuid, t.find? k =
        if k.1 = order then ((related.table db).find? k).map (kept wanted)
        else (related.table db).find? k := by
  have hfound : ∀ row ∈ existing related order db, (related.table db).find? (key row) = some row :=
    fun row hmem => Table.find?_of_mem (List.mem_filter.mp hmem).1
  obtain ⟨t, hrun, hfind⟩ := run_deactivateUnwanted nodup_existing hfound
  refine ⟨t, hrun, fun k => ?_⟩
  rw [hfind]
  by_cases horder : k.1 = order
  · rw [if_pos horder]
    cases hrow : (related.table db).find? k with
    | none =>
        rw [Option.map_none, ite_self]
    | some row =>
        refine if_pos (List.mem_map.mpr ⟨row, ?_, Table.key_of_find? hrow⟩)
        have hkey : row.order = k.1 := congrArg Prod.fst (Table.key_of_find? hrow)
        exact List.mem_filter.mpr ⟨Table.mem_of_find? hrow, decide_eq_true (hkey.trans horder)⟩
  · rw [if_neg horder, if_neg]
    intro hmem
    obtain ⟨row, hrow, rfl⟩ := List.mem_map.mp hmem
    exact horder (of_decide_eq_true (List.mem_filter.mp hrow).2)

/-- The rows of an order after the call. -/
structure Syncs (related : RelatedName) (order : Uuid) (admin : Option Uuid)
    (wanted : List IdText) (db : DB) (out : List Uuid) (t : Table Assignment) : Prop where
  others : ∀ k : Uuid × Uuid, k.1 ≠ order → t.find? k = (related.table db).find? k
  named : ∀ m ∈ wantedMasters db wanted, t.find? (order, m) =
    some (assigned order admin m (((related.table db).find? (order, m)).map (kept wanted)))
  unnamed : ∀ m, m ∉ wantedMasters db wanted →
    t.find? (order, m) = ((related.table db).find? (order, m)).map (kept wanted)
  nodup : out.Nodup
  mem : ∀ m, m ∈ out ↔ m ∈ wantedMasters db wanted ∧
    active (((related.table db).find? (order, m)).map (kept wanted)) = false

theorem run_syncRelatedSet (related : RelatedName) (order : Uuid) (admin : Option Uuid) (db : DB)
    (hread : ∀ text ∈ wanted, text.uuid?.isSome) :
    ∃ out t, syncRelatedSet related order wanted admin db = (.ok out, related.setTable db t) ∧
      Syncs related order admin wanted db out t := by
  obtain ⟨t₁, hrun₁, hfind₁⟩ := run_deactivateUnwanted_existing related order wanted db
  have hrow : ∀ m, rowOf ((existing related order db).map (kept wanted)) m =
      t₁.find? (order, m) := by
    intro m
    rw [rowOf_map fun row => master_kept, hfind₁, if_pos rfl]
    exact congrArg _ find?_existing
  have hmasters : wantedMasters (related.setTable db t₁) wanted = wantedMasters db wanted := by
    unfold wantedMasters
    rw [RelatedName.masters_setTable]
  have hrun₂ : ∃ out t, activate related.save related.create order admin
      ((existing related order db).map (kept wanted)) (wantedMasters db wanted)
      (related.setTable db t₁) = (.ok out, related.setTable (related.setTable db t₁) t) ∧
        Activates related order admin (wantedMasters db wanted) (related.setTable db t₁) out t := by
    refine run_activate (nodup_wantedMasters.filter _) fun m _ => ?_
    rw [RelatedName.table_setTable, hrow]
  obtain ⟨out, t, hrun₂, hfind, hnodup, hmem⟩ := hrun₂
  rw [RelatedName.table_setTable] at hfind hmem
  refine ⟨out, t, ?_, ⟨fun k hk => ?_, fun m hm => ?_, fun m hm => ?_, hnodup, fun m => ?_⟩⟩
  · unfold syncRelatedSet
    rw [run_bind_ok run_get, run_bind_ok hrun₁, run_bind_ok (run_require hread),
      run_bind_ok run_get, hmasters, hrun₂, RelatedName.setTable_setTable]
  · rw [hfind, if_neg fun h => hk h.1, hfind₁, if_neg hk]
  · rw [hfind, if_pos ⟨rfl, hm⟩, hfind₁, if_pos rfl]
  · rw [hfind, if_neg fun h => hm h.2, hfind₁, if_pos rfl]
  · rw [hmem, hfind₁, if_pos rfl]

/-- A text that is not an id stops the call after its first loop. -/
theorem syncRelatedSet_fails (related : RelatedName) (order : Uuid) (admin : Option Uuid)
    (db : DB) (hread : ¬∀ text ∈ wanted, text.uuid?.isSome) :
    ∃ db', syncRelatedSet related order wanted admin db =
      (.error (.serverError "ValidationError"), db') := by
  obtain ⟨t, hrun, -⟩ := run_deactivateUnwanted_existing related order wanted db
  refine ⟨related.setTable db t, ?_⟩
  unfold syncRelatedSet
  rw [run_bind_ok run_get, run_bind_ok hrun]
  exact run_bind_error (run_require_not hread)

/-- A call that finds the rows as it would leave them. -/
theorem syncRelatedSet_eq_self (hread : ∀ text ∈ wanted, text.uuid?.isSome)
    (hkept : ∀ row ∈ existing related order db, kept wanted row = row)
    (hactive : ∀ m ∈ wantedMasters db wanted,
      active ((related.table db).find? (order, m)) = true) :
    syncRelatedSet related order wanted admin db = (.ok [], db) := by
  unfold syncRelatedSet
  rw [run_bind_ok run_get, run_bind_ok (run_deactivateUnwanted_eq_self hkept),
    run_bind_ok (run_require hread), run_bind_ok run_get]
  refine run_activate_eq_self fun m hmem => ?_
  exact (congrArg active find?_existing).trans (hactive m hmem)

end Lemmas

end Orders

end Homex
