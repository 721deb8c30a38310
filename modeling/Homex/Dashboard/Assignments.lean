import Homex.Orders.Replacement

/-!
# The two implementations of an assignment

`_sync_set` of the dashboard goes through the list of masters that it is sent, and
`sync_related_set` of the admin site through the masters it finds in the database.
They do the same unless the list has a master twice who has no row for the order
yet: the first creates a second row for that master and fails.
-/

namespace Homex

namespace Dashboard

open Relational Action Code Orders DashboardOrderAssignSerializer

variable {related : RelatedName} {order : Uuid} {admin : Option Uuid} {masters : List Uuid}
  {db db' : DB} {m : Uuid}

/-- Both implementations finish, leave the same rows, and return the same masters. -/
def Agree (related : RelatedName) (order : Uuid) (masters : List Uuid) (admin : Option Uuid)
    (db : DB) : Prop :=
  ∃ out₁ db₁ out₂ db₂,
    syncSet related.table related.save related.create order masters admin db = (.ok out₁, db₁) ∧
    syncRelatedSet related order (masters.map .str) admin db = (.ok out₂, db₂) ∧
    (∀ k, (related.table db₁).find? k = (related.table db₂).find? k) ∧
    ∀ m, m ∈ out₁ ↔ m ∈ out₂

@[simp] theorem str_mem_map : IdText.str m ∈ masters.map .str ↔ m ∈ masters := by
  simp

/-- The two first loops do the same. -/
theorem run_deactivate {rows rows' : List Assignment}
    (h : deactivateUnwanted related.save (masters.map .str) rows db = (.ok rows', db')) :
    deactivate related.save masters rows db = (.ok (), db') := by
  induction rows generalizing db rows' with
  | nil =>
      obtain rfl : db = db' := congrArg Prod.snd h
      rfl
  | cons row rows ih =>
      unfold deactivateUnwanted at h
      unfold deactivate
      simp only [str_mem_map] at h
      by_cases hoff : row.master ∉ masters ∧ row.isActive = true
      · rw [if_pos hoff, run_bind_ok (RelatedName.run_save ..), bind_eq_ok] at h
        obtain ⟨rest, db₁, hrest, heq⟩ := h
        obtain rfl : db₁ = db' := congrArg Prod.snd heq
        rw [if_pos hoff, run_bind_ok (RelatedName.run_save ..)]
        exact ih hrest
      · rw [if_neg hoff, bind_eq_ok] at h
        obtain ⟨rest, db₁, hrest, heq⟩ := h
        obtain rfl : db₁ = db' := congrArg Prod.snd heq
        rw [if_neg hoff]
        exact ih hrest

theorem map_kept_of_mem (hm : m ∈ masters) :
    ((related.table db).find? (order, m)).map (kept (masters.map .str)) =
      (related.table db).find? (order, m) := by
  cases hrow : (related.table db).find? (order, m) with
  | none => rfl
  | some row =>
      have hmaster : row.master = m := congrArg Prod.snd (Table.key_of_find? hrow)
      rw [Option.map_some, kept_of_str]
      rw [str_mem_map, hmaster]
      exact hm

/-- `_sync_set` comes to its second loop with the rows of the wanted masters as they
were. -/
theorem syncSet_eq (related : RelatedName) (order : Uuid) (masters : List Uuid)
    (admin : Option Uuid) (db : DB) :
    ∃ t, (∀ k : Uuid × Uuid, t.find? k =
        if k.1 = order then ((related.table db).find? k).map (kept (masters.map .str))
        else (related.table db).find? k) ∧
      syncSet related.table related.save related.create order masters admin db =
        activate related.save related.create order admin (existing related order db) masters
          (related.setTable db t) := by
  obtain ⟨t, hrun, hfind⟩ :=
    run_deactivateUnwanted_existing related order (masters.map .str) db
  refine ⟨t, hfind, ?_⟩
  unfold syncSet
  rw [run_bind_ok run_get]
  exact run_bind_ok (run_deactivate hrun)

theorem rowOf_existing : rowOf (existing related order db) m =
    (related.table db).find? (order, m) := find?_existing

/-- Every master of the list is found by the query. -/
theorem mem_wantedMasters_map (hexist : ∀ m ∈ masters, (db.masters.find? m).isSome) :
    m ∈ Orders.wantedMasters db (masters.map .str) ↔ m ∈ masters := by
  rw [mem_wantedMasters]
  constructor
  · rintro ⟨⟨text, htext, hread⟩, -⟩
    obtain ⟨m', hm', rfl⟩ := List.mem_map.mp htext
    obtain rfl := Option.some.inj hread
    exact hm'
  · intro hm
    exact ⟨⟨_, List.mem_map_of_mem hm, rfl⟩, hexist m hm⟩

theorem nodup_new_eq (related : RelatedName) (order : Uuid) (db : DB) (masters : List Uuid) :
    (masters.filter fun m => ((related.table db).find? (order, m)).isNone) =
      masters.filter fun m => (rowOf (existing related order db) m).isNone :=
  List.filter_congr fun m _ => by rw [rowOf_existing]

/-- A master who is new to the order and is named twice fails one of the two. -/
theorem Agree.nodup (h : Agree related order masters admin db) :
    (masters.filter fun m => ((related.table db).find? (order, m)).isNone).Nodup := by
  rw [nodup_new_eq]
  obtain ⟨t₁, -, hrun₁⟩ := syncSet_eq related order masters admin db
  obtain ⟨out₁, db₁, -, -, hsync, -⟩ := h
  by_contra htwice
  rw [hrun₁] at hsync
  obtain ⟨e, db', hfails⟩ := activate_fails_of_not_nodup htwice
  cases hfails.symm.trans hsync

/-- The implementations agree when no master without a row for the order is in the
list twice. -/
theorem sync_implementations_agree (related : RelatedName) (order : Uuid) (admin : Option Uuid)
    (db : DB) (hactive : ∀ m ∈ masters, ∃ master, db.masters.find? m = some master ∧
      master.isActive = true) :
    Agree related order masters admin db ↔
      (masters.filter fun m => ((related.table db).find? (order, m)).isNone).Nodup := by
  have hexist : ∀ m ∈ masters, (db.masters.find? m).isSome := by
    intro m hm
    obtain ⟨master, hfind, -⟩ := hactive m hm
    rw [hfind, Option.isSome_some]
  obtain ⟨t₁, hfind₁, hrun₁⟩ := syncSet_eq related order masters admin db
  constructor
  · exact Agree.nodup
  · intro hone
    rw [nodup_new_eq] at hone
    have hactivates : ∃ out t, activate related.save related.create order admin
        (existing related order db) masters (related.setTable db t₁) =
          (.ok out, related.setTable (related.setTable db t₁) t) ∧
          Activates related order admin masters (related.setTable db t₁) out t := by
      refine run_activate hone fun m hm => ?_
      rw [RelatedName.table_setTable, hfind₁, if_pos rfl, map_kept_of_mem hm, rowOf_existing]
    obtain ⟨out₁, t, hrun, hfind, -, hmem⟩ := hactivates
    rw [RelatedName.table_setTable] at hfind hmem
    have hread : ∀ text ∈ masters.map IdText.str, text.uuid?.isSome := by
      intro text htext
      obtain ⟨m, -, rfl⟩ := List.mem_map.mp htext
      rfl
    obtain ⟨out₂, t₂, hrun₂, hsyncs⟩ := run_syncRelatedSet related order admin db hread
    refine ⟨out₁, _, out₂, _, hrun₁.trans hrun, hrun₂, ?_, fun m => ?_⟩
    · rintro ⟨order', m⟩
      rw [RelatedName.table_setTable, RelatedName.table_setTable, hfind, hfind₁]
      by_cases horder : order' = order
      · subst horder
        by_cases hm : m ∈ masters
        · rw [hsyncs.named m ((mem_wantedMasters_map hexist).mpr hm)]
          simp only [hm, and_self, if_true]
        · rw [hsyncs.unnamed m fun h => hm ((mem_wantedMasters_map hexist).mp h)]
          simp only [hm, and_false, if_false, if_true]
      · rw [hsyncs.others (order', m) horder]
        simp only [horder, false_and, if_false]
    · rw [hmem, hsyncs.mem, mem_wantedMasters_map hexist, hfind₁, if_pos rfl]

/-- Master 2 is assigned to the order already, and may be named twice. -/
theorem sync_implementations_agree_sample :
    Agree .assignedMasters 10 [2, 3, 2] (some 1) Orders.Sample.assignments := by
  refine (sync_implementations_agree _ _ _ _ fun m hm => ?_).mpr (by decide)
  revert m
  decide

/-- A master who is new to the order is named twice. -/
theorem sync_implementations_differ :
    ¬∀ (related : RelatedName) (order : Uuid) (admin : Option Uuid) (masters : List Uuid) (db : DB),
      (∀ m ∈ masters, ∃ master, db.masters.find? m = some master ∧ master.isActive = true) →
        Agree related order masters admin db := by
  intro h
  have hmasters : ∀ m ∈ [2, 2], ∃ master, Orders.Sample.assignments.masters.find? m = some master ∧
      master.isActive = true := by
    decide
  have hagree := h .assignedMasters 11 (some 1) [2, 2] Orders.Sample.assignments hmasters
  have hone := hagree.nodup
  revert hone
  decide

end Dashboard

end Homex
