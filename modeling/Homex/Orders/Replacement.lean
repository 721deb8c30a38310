import Homex.Orders.Assignments
import Homex.System.Runs

/-!
# Replacing the masters of an order

A call leaves the wanted masters assigned and nobody else, and a second one does
nothing. That takes wanted texts that the two loops read as the same ids: a master
who is named only by another text than the one `str` writes is deactivated by the
first loop and assigned anew by the second, each time.
-/

namespace Homex

namespace Orders

open Relational Action Code

variable {related : RelatedName} {order : Uuid} {admin : Option Uuid} {wanted : List IdText}
  {db db' : DB} {out : List Uuid} {m : Uuid}

/-- The master exists, and a text names it. -/
def Wanted (db : DB) (wanted : List IdText) (m : Uuid) : Prop :=
  (∃ text ∈ wanted, text.uuid? = some m) ∧ (db.masters.find? m).isSome

/-- The rows of the order are replaced by the wanted masters, and the new ones are
returned. -/
structure Replaces (related : RelatedName) (order : Uuid) (wanted : List IdText)
    (db : DB) (out : List Uuid) (db' : DB) : Prop where
  active_iff : ∀ m, active ((related.table db').find? (order, m)) = true ↔ Wanted db wanted m
  one_row : ((existing related order db').map fun row => row.master).Nodup
  not_deleted : ∀ k, ((related.table db).find? k).isSome → ((related.table db').find? k).isSome
  unchanged : ∀ row ∈ existing related order db,
    (row.isActive = true ↔ Wanted db wanted row.master) → row ∈ existing related order db'
  nodup : out.Nodup
  newly : ∀ m, m ∈ out ↔ active ((related.table db).find? (order, m)) = false ∧
    active ((related.table db').find? (order, m)) = true
  again : ∀ admin, syncRelatedSet related order wanted admin db' = (.ok [], db')

/-- Every text is an id, and every master that a text names is named by the text
that `str` writes of it. -/
def NamedByStr (db : DB) (wanted : List IdText) : Prop :=
  (∀ text ∈ wanted, text.uuid?.isSome) ∧ ∀ m, Wanted db wanted m → .str m ∈ wanted

/-- The masters of the rows of the order exist. -/
def MastersExist (related : RelatedName) (order : Uuid) (db : DB) : Prop :=
  ∀ row ∈ existing related order db, (db.masters.find? row.master).isSome

theorem wanted_iff : Wanted db wanted m ↔ m ∈ wantedMasters db wanted := mem_wantedMasters.symm

theorem mem_existing {row : Assignment} :
    row ∈ existing related order db ↔ (related.table db).find? (order, row.master) = some row := by
  unfold existing
  rw [List.mem_filter, decide_eq_true_eq, Table.find?_eq_some_iff]
  refine and_congr_right fun _ => ?_
  rw [key_assignment, Prod.mk.injEq]
  exact (and_iff_left rfl).symm

theorem kept_of_str {row : Assignment} (h : .str row.master ∈ wanted) : kept wanted row = row :=
  if_neg fun hoff => hoff.1 h

theorem kept_of_inactive {row : Assignment} (h : row.isActive = false) : kept wanted row = row :=
  if_neg fun hoff => by simp [h] at hoff

theorem active_kept {row : Assignment} (h : .str row.master ∉ wanted) :
    (kept wanted row).isActive = false := by
  unfold kept
  cases hactive : row.isActive with
  | true => rw [if_pos ⟨h, rfl⟩]
  | false => rw [if_neg fun hoff => Bool.false_ne_true hoff.2, hactive]

theorem one_row_existing : ((existing related order db).map fun row => row.master).Nodup := by
  have hkeys : (existing related order db).map key =
      ((existing related order db).map fun row => row.master).map (Prod.mk order) := by
    rw [List.map_map]
    refine List.map_congr_left fun row hmem => ?_
    have horder : row.order = order := of_decide_eq_true (List.mem_filter.mp hmem).2
    exact Prod.ext horder rfl
  have hnodup : ((existing related order db).map key).Nodup := nodup_existing
  rw [hkeys] at hnodup
  exact hnodup.of_map _

/-- The wanted masters are there whatever the rows are. -/
theorem wantedMasters_setTable {t : Table Assignment} :
    wantedMasters (related.setTable db t) wanted = wantedMasters db wanted := by
  unfold wantedMasters
  rw [RelatedName.masters_setTable]

/-- The first loop leaves the row of a wanted master alone. -/
theorem map_kept_of_wanted (hstr : NamedByStr db wanted) (hm : m ∈ wantedMasters db wanted) :
    ((related.table db).find? (order, m)).map (kept wanted) =
      (related.table db).find? (order, m) := by
  cases hrow : (related.table db).find? (order, m) with
  | none => rfl
  | some row =>
      have hmaster : row.master = m := congrArg Prod.snd (Table.key_of_find? hrow)
      have hnamed : .str row.master ∈ wanted := by
        rw [hmaster]
        exact hstr.2 m (wanted_iff.mpr hm)
      rw [Option.map_some, kept_of_str hnamed]

section Replaces

variable {t : Table Assignment} (h : Syncs related order admin wanted db out t)
include h

/-- The active rows are the wanted ones. -/
theorem Syncs.active_iff (hmasters : MastersExist related order db) :
    active (t.find? (order, m)) = true ↔ Wanted db wanted m := by
  rw [wanted_iff]
  by_cases hm : m ∈ wantedMasters db wanted
  · rw [h.named m hm, active_some, active_assigned]
    exact iff_of_true rfl hm
  · rw [h.unnamed m hm]
    refine iff_of_false (fun hactive => ?_) hm
    cases hrow : (related.table db).find? (order, m) with
    | none =>
        rw [hrow] at hactive
        cases hactive
    | some row =>
        obtain rfl : row.master = m := congrArg Prod.snd (Table.key_of_find? hrow)
        have hexists := hmasters row (mem_existing.mpr hrow)
        have hunnamed : .str row.master ∉ wanted := fun hstr =>
          hm (wanted_iff.mp ⟨⟨_, hstr, rfl⟩, hexists⟩)
        rw [hrow, Option.map_some, active_some, active_kept hunnamed] at hactive
        cases hactive

theorem Syncs.isSome_find? (m : Uuid) (hrow : ((related.table db).find? (order, m)).isSome) :
    (t.find? (order, m)).isSome := by
  by_cases hm : m ∈ wantedMasters db wanted
  · rw [h.named m hm, Option.isSome_some]
  · rw [h.unnamed m hm, Option.isSome_map]
    exact hrow

variable (hstr : NamedByStr db wanted)
include hstr

/-- A row in the right state is not written. -/
theorem Syncs.find?_unchanged {row : Assignment}
    (hrow : (related.table db).find? (order, m) = some row)
    (hright : row.isActive = true ↔ Wanted db wanted m) : t.find? (order, m) = some row := by
  by_cases hm : m ∈ wantedMasters db wanted
  · have hactive := hright.mpr (wanted_iff.mpr hm)
    rw [h.named m hm, map_kept_of_wanted hstr hm, hrow, assigned_of_active hactive]
  · have hinactive : row.isActive = false := by
      rw [← Bool.not_eq_true, hright, wanted_iff]
      exact hm
    rw [h.unnamed m hm, hrow, Option.map_some, kept_of_inactive hinactive]

variable (hmasters : MastersExist related order db)
include hmasters

/-- A second call finds every row in the right state. -/
theorem Syncs.again (admin : Option Uuid) :
    syncRelatedSet related order wanted admin (related.setTable db t) =
      (.ok [], related.setTable db t) := by
  refine syncRelatedSet_eq_self hstr.1 (fun row hrow => ?_) fun m hm => ?_
  · rw [mem_existing, RelatedName.table_setTable] at hrow
    cases hactive : row.isActive with
    | false => exact kept_of_inactive hactive
    | true =>
        have hwanted : Wanted db wanted row.master := by
          rw [← h.active_iff hmasters, hrow]
          exact hactive
        exact kept_of_str (hstr.2 _ hwanted)
  · rw [wantedMasters_setTable, ← wanted_iff] at hm
    rw [RelatedName.table_setTable]
    exact (h.active_iff hmasters).mpr hm

theorem Syncs.replaces : Replaces related order wanted db out (related.setTable db t) := by
  constructor
  case active_iff =>
    rw [RelatedName.table_setTable]
    exact fun m => h.active_iff hmasters
  case one_row => exact one_row_existing
  case not_deleted =>
    rintro ⟨order', m⟩ hrow
    rw [RelatedName.table_setTable]
    by_cases horder : order' = order
    · subst horder
      exact h.isSome_find? m hrow
    · rwa [h.others (order', m) horder]
  case unchanged =>
    intro row hrow hright
    rw [mem_existing, RelatedName.table_setTable]
    exact h.find?_unchanged hstr (mem_existing.mp hrow) hright
  case nodup => exact h.nodup
  case newly =>
    intro m
    rw [RelatedName.table_setTable, h.active_iff hmasters, wanted_iff, h.mem, and_comm]
    refine and_congr_left fun hm => ?_
    rw [map_kept_of_wanted hstr hm]
  case again => exact h.again hstr hmasters

end Replaces

/-- A master who is named by another text alone is assigned anew by every call. -/
theorem mem_of_not_str {t : Table Assignment} (h : Syncs related order admin wanted db out t)
    (hm : Wanted db wanted m) (hvariant : .str m ∉ wanted) : m ∈ out := by
  rw [h.mem, ← wanted_iff]
  refine ⟨hm, ?_⟩
  cases hfind : (related.table db).find? (order, m) with
  | none => rfl
  | some row =>
      have hmaster : row.master = m := congrArg Prod.snd (Table.key_of_find? hfind)
      rw [Option.map_some, active_some, active_kept]
      rwa [hmaster]

/-- A call that replaces the rows has read every text and named the masters as `str`
writes them. -/
theorem Replaces.namedByStr (h : Replaces related order wanted db out db')
    (hrun : syncRelatedSet related order wanted admin db = (.ok out, db')) :
    NamedByStr db wanted := by
  have hread : ∀ text ∈ wanted, text.uuid?.isSome := by
    by_contra hread
    obtain ⟨db₁, hfails⟩ := syncRelatedSet_fails related order admin db hread
    cases hfails.symm.trans hrun
  refine ⟨hread, fun m hm => ?_⟩
  by_contra hvariant
  obtain ⟨out₁, t₁, hrun₁, -⟩ := run_syncRelatedSet related order admin db hread
  obtain rfl : related.setTable db t₁ = db' := congrArg Prod.snd (hrun₁.symm.trans hrun)
  obtain ⟨out₂, t₂, hrun₂, hsyncs⟩ :=
    run_syncRelatedSet related order admin (related.setTable db t₁) hread
  have hm₁ : Wanted (related.setTable db t₁) wanted m := by
    rw [wanted_iff, wantedMasters_setTable, ← wanted_iff]
    exact hm
  have hmem := mem_of_not_str hsyncs hm₁ hvariant
  rw [← Except.ok.inj (congrArg Prod.fst ((h.again admin).symm.trans hrun₂))] at hmem
  cases hmem

/-- A call replaces the rows, and a second one does nothing, exactly when its texts
are ids and name the masters as `str` writes them. -/
theorem sync_replaces_iff (related : RelatedName) (order : Uuid) (admin : Option Uuid)
    (wanted : List IdText) (db : DB) (hmasters : MastersExist related order db) :
    (∃ out db', syncRelatedSet related order wanted admin db = (.ok out, db') ∧
      Replaces related order wanted db out db') ↔ NamedByStr db wanted := by
  constructor
  · rintro ⟨out, db', hrun, hreplaces⟩
    exact hreplaces.namedByStr hrun
  · intro hstr
    obtain ⟨out, t, hrun, hsyncs⟩ := run_syncRelatedSet related order admin db hstr.1
    exact ⟨out, _, hrun, hsyncs.replaces hstr hmasters⟩

namespace Sample

/-- Master 2 is assigned to order 10 and has accepted it; master 3 was assigned. -/
def assignments : DB :=
  { Sample.db with
    assignedMasters := ⟨[{ order := 10, master := 2, hasAccepted := true },
      { order := 10, master := 3, isActive := false }], by decide⟩ }

theorem mastersExist : MastersExist .assignedMasters 10 assignments := by
  unfold MastersExist
  decide

end Sample

/-- Master 3 replaces master 2, named twice and next to a master who does not exist. -/
theorem sync_replaces_iff_sample :
    ∃ out db', syncRelatedSet .assignedMasters 10 [.str 3, .str 99, .str 3] (some 1)
        Sample.assignments = (.ok out, db') ∧
      Replaces .assignedMasters 10 [.str 3, .str 99, .str 3] Sample.assignments out db' := by
  refine (sync_replaces_iff _ _ _ _ _ Sample.mastersExist).mpr ⟨by decide, fun m hm => ?_⟩
  obtain ⟨⟨text, htext, hread⟩, -⟩ := hm
  simp only [List.mem_cons, List.not_mem_nil, or_false] at htext
  rcases htext with rfl | rfl | rfl
  all_goals
    obtain rfl := Option.some.inj hread
    decide

/-- Master 2 is sent in capitals, and is deactivated and assigned anew. -/
theorem sync_reassigns :
    ¬∀ (related : RelatedName) (order : Uuid) (admin : Option Uuid) (wanted : List IdText)
      (db : DB), MastersExist related order db → (∀ text ∈ wanted, text.uuid?.isSome) →
        ∃ out db', syncRelatedSet related order wanted admin db = (.ok out, db') ∧
          Replaces related order wanted db out db' := by
  intro h
  obtain ⟨out, db', hrun, hreplaces⟩ := h .assignedMasters 10 (some 1) [.variant 2 "capitals"]
    Sample.assignments Sample.mastersExist (by decide)
  have hstr := hreplaces.namedByStr hrun
  have hwanted : Wanted Sample.assignments [.variant 2 "capitals"] 2 :=
    ⟨⟨_, List.mem_singleton_self _, rfl⟩, by decide⟩
  have hmem := hstr.2 2 hwanted
  rw [List.mem_singleton] at hmem
  cases hmem

end Orders

end Homex
