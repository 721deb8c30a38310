import Homex.Relational.Aggregate
import Mathlib.Logic.Relation

/-!
# Deleting a row that others refer to

A reference says what happens to its row when the row it names is deleted: the row goes
too, the reference is set to null, or the deletion is refused. `gone` collects the rows
that a deletion takes with it; it is the least set with the row in which cascades end.

A deletion is refused exactly if a protecting reference names a row of that set, whether
or not the protecting row is in the set itself. One that is not refused leaves every
reference with the row it names.
-/

namespace Relational

/-- What becomes of a row when the row it refers to is deleted. -/
inductive OnDelete
  | cascade
  | setNull
  | protect
  deriving DecidableEq, Repr

/-- Rows with references, of which the nullable ones can be cleared. -/
class Linked (ρ : Type*) (κ : outParam Type*) extends Keyed ρ κ where
  refs : ρ → List (OnDelete × κ)
  /-- The row, with the nullable references into a set of keys set to null. -/
  clear : (κ → Bool) → ρ → ρ
  key_clear : ∀ p r, key (clear p r) = key r
  mem_refs_clear : ∀ p r ref, ref ∈ refs (clear p r) ↔
    ref ∈ refs r ∧ ¬(ref.1 = .setNull ∧ p ref.2 = true)

export Linked (refs clear)

namespace Table

section Retain

variable {ρ κ : Type*} [Keyed ρ κ]

/-- The rows that satisfy a condition, with columns set that are not in the key. -/
def retain (t : Table ρ) (p : ρ → Bool) (set : ρ → ρ) (hset : ∀ r, key (set r) = key r) :
    Table ρ :=
  ⟨(t.rows.filter p).map set, by
    rw [List.map_map, show key ∘ set = key from funext hset]
    exact t.nodup_keys.sublist (List.filter_sublist.map key)⟩

variable {t : Table ρ} {p : ρ → Bool} {set : ρ → ρ} {hset : ∀ r, key (set r) = key r}

theorem mem_retain {x : ρ} :
    x ∈ (t.retain p set hset).rows ↔ ∃ r ∈ t.rows, p r = true ∧ set r = x := by
  simp only [retain, List.mem_map, List.mem_filter, and_assoc]

theorem retain_eq_self (hset : ∀ r, key (set r) = key r) (hp : ∀ r ∈ t.rows, p r = true)
    (hid : ∀ r ∈ t.rows, set r = r) :
    t.retain p set hset = t := by
  apply Table.ext
  change (t.rows.filter p).map set = t.rows
  rw [List.filter_eq_self.mpr hp, List.map_congr_left hid, List.map_id']

/-- What is left of a sum. -/
theorem sum_retain {M : Type*} [AddMonoid M] (f : ρ → M) :
    (t.retain p set hset).sum f = t.sum fun r => if p r then f (set r) else 0 := by
  change (((t.rows.filter p).map set).map f).sum = (t.rows.map _).sum
  induction t.rows with
  | nil => rfl
  | cons r l ih =>
      cases hr : p r with
      | true =>
          rw [List.filter_cons_of_pos hr, List.map_cons, List.map_cons, List.sum_cons,
            List.map_cons, List.sum_cons, if_pos hr, ih]
      | false =>
          rw [List.filter_cons_of_neg (by simp [hr]), List.map_cons, List.sum_cons,
            if_neg (by simp [hr]), zero_add, ih]

/-- The totals of some groups go with their rows, and the others stay. -/
theorem caches_retain {γ M : Type*} [DecidableEq γ] [AddMonoid M] {c c' : γ → M} {group : ρ → γ}
    {f : ρ → M} (gone : γ → Prop) [DecidablePred gone] (hset : ∀ r, key (set r) = key r)
    (h : Caches c t group f)
    (hc : ∀ g, c' g = if gone g then 0 else c g)
    (hp : ∀ r ∈ t.rows, p r = true ↔ ¬gone (group r))
    (hgroup : ∀ r, group (set r) = group r) (hf : ∀ r, f (set r) = f r) :
    Caches c' (t.retain p set hset) group f := by
  intro g
  rw [hc, total, sum_retain]
  split
  · next hg =>
      refine (sum_eq_zero _ fun r hr => ?_).symm
      rw [hgroup]
      by_cases hr' : group r = g
      · rw [if_neg fun hpr => (hp r hr).mp hpr (hr' ▸ hg)]
      · rw [if_neg hr', ite_self]
  · next hg =>
      rw [h g, total]
      refine sum_congr _ fun r hr => ?_
      rw [hgroup, hf]
      by_cases hr' : group r = g
      · rw [if_pos hr', if_pos ((hp r hr).mpr (hr' ▸ hg))]
      · rw [if_neg hr', ite_self]

variable [DecidableEq κ]

/-- A row is found afterwards if it satisfied the condition. -/
theorem find?_retain (k : κ) :
    (t.retain p set hset).find? k = ((t.find? k).filter p).map set := by
  cases hfind : t.find? k with
  | none =>
      rw [find?_eq_none_iff] at hfind
      rw [Option.filter_none, Option.map_none, find?_eq_none_iff]
      intro x hx
      obtain ⟨r, hr, -, rfl⟩ := mem_retain.mp hx
      rw [hset]
      exact hfind r hr
  | some r =>
      obtain ⟨hr, rfl⟩ := find?_eq_some_iff.mp hfind
      cases hp : p r with
      | true =>
          rw [Option.filter_some_pos hp, Option.map_some, ← hset r]
          exact find?_of_mem (mem_retain.mpr ⟨r, hr, hp, rfl⟩)
      | false =>
          rw [Option.filter_some_neg (by simp [hp]), Option.map_none, find?_eq_none_iff]
          intro x hx hkey
          obtain ⟨r', hr', hp', rfl⟩ := mem_retain.mp hx
          rw [hset] at hkey
          obtain rfl := List.inj_on_of_nodup_map t.nodup_keys hr' hr hkey
          rw [hp] at hp'
          exact Bool.false_ne_true hp'

end Retain

variable {ρ κ : Type*} [Linked ρ κ] [DecidableEq κ]

/-- A row with a cascading reference to one of the keys. -/
def CascadesInto (ks : List κ) (r : ρ) : Prop := ∃ k ∈ ks, (OnDelete.cascade, k) ∈ refs r

/-- A row with a protecting reference to one of the keys. -/
def ProtectsIn (ks : List κ) (r : ρ) : Prop := ∃ k ∈ ks, (OnDelete.protect, k) ∈ refs r

instance (ks : List κ) (r : ρ) : Decidable (CascadesInto ks r) :=
  inferInstanceAs (Decidable (∃ k ∈ ks, (OnDelete.cascade, k) ∈ refs r))

instance (ks : List κ) (r : ρ) : Decidable (ProtectsIn ks r) :=
  inferInstanceAs (Decidable (∃ k ∈ ks, (OnDelete.protect, k) ∈ refs r))

/-- Adds, one at a time, the rows that cascade into the keys collected so far. -/
def collect (t : Table ρ) : ℕ → List κ → List κ
  | 0, ks => ks
  | n + 1, ks =>
      match t.rows.find? fun r => key r ∉ ks ∧ CascadesInto ks r with
      | none => ks
      | some r => t.collect n (key r :: ks)

/-- The keys of the rows that a deletion takes with it, the row itself among them. -/
def gone (t : Table ρ) (k : κ) : List κ := t.collect t.rows.length [k]

/-- Membership in `ks`, as a condition on keys. -/
def inside (ks : List κ) (k : κ) : Bool := decide (k ∈ ks)

@[simp] theorem inside_eq_true {ks : List κ} {k : κ} : inside ks k = true ↔ k ∈ ks :=
  decide_eq_true_iff

/-- The rows without those in `ks`, the references into `ks` set to null. -/
def without (t : Table ρ) (ks : List κ) : Table ρ :=
  t.retain (fun r => decide (key r ∉ ks)) (clear (inside ks)) (Linked.key_clear _)

/-- `DELETE` of a row, with what follows from it; nothing when a row is protected. -/
def deleteCascade? (t : Table ρ) (k : κ) : Option (Table ρ) :=
  if ∃ r ∈ t.rows, ProtectsIn (t.gone k) r then none else some (t.without (t.gone k))

/-- Every reference names a row. -/
def Sound (t : Table ρ) : Prop :=
  ∀ r ∈ t.rows, ∀ ref ∈ refs r, ∃ r' ∈ t.rows, key r' = ref.2

/-- The second key is that of a row with a cascading reference to the first. -/
def Cascades (t : Table ρ) (k k' : κ) : Prop :=
  ∃ r ∈ t.rows, key r = k' ∧ (OnDelete.cascade, k) ∈ refs r

section Collect

variable {t : Table ρ} {k k' : κ} {ks : List κ}

theorem subset_collect (n : ℕ) : ks ⊆ t.collect n ks := by
  induction n generalizing ks with
  | zero => exact List.Subset.refl ks
  | succ n ih =>
      rw [collect]
      split
      · exact List.Subset.refl ks
      · exact fun x hx => ih (List.mem_cons_of_mem _ hx)

/-- What is collected follows from the keys by cascades. -/
theorem exists_cascades_of_mem_collect {n : ℕ} {x : κ} (hx : x ∈ t.collect n ks) :
    ∃ k ∈ ks, Relation.ReflTransGen t.Cascades k x := by
  induction n generalizing ks with
  | zero => exact ⟨x, hx, .refl⟩
  | succ n ih =>
      rw [collect] at hx
      split at hx
      · exact ⟨x, hx, .refl⟩
      · next r hr =>
          obtain ⟨k, hk, hkx⟩ := ih hx
          rcases List.mem_cons.mp hk with rfl | hk
          · have hfound := List.find?_some hr
            simp only [decide_eq_true_eq] at hfound
            obtain ⟨-, k, hk, href⟩ := hfound
            exact ⟨k, hk, .head ⟨r, List.mem_of_find?_eq_some hr, rfl, href⟩ hkx⟩
          · exact ⟨k, hk, hkx⟩

/-- With fuel for every row outside, no cascade leads out of what is collected. -/
theorem mem_collect_of_cascadesInto {n : ℕ}
    (hn : (t.rows.filter fun r => key r ∉ ks).length ≤ n) {r : ρ} (hr : r ∈ t.rows)
    (hcascade : CascadesInto (t.collect n ks) r) : key r ∈ t.collect n ks := by
  induction n generalizing ks with
  | zero =>
      have hnone := List.length_eq_zero_iff.mp (Nat.le_zero.mp hn)
      have hout := List.filter_eq_nil_iff.mp hnone r hr
      exact not_not.mp fun hr => hout (decide_eq_true hr)
  | succ n ih =>
      rw [collect] at hcascade ⊢
      split at hcascade
      · next hnone =>
          by_contra hout
          have := List.find?_eq_none.mp hnone r hr
          exact this (decide_eq_true ⟨hout, hcascade⟩)
      · next r' hr' =>
          refine ih ?_ hcascade
          have hfound := List.find?_some hr'
          simp only [decide_eq_true_eq] at hfound
          -- One row less is outside: the one that was found.
          have hsub : (t.rows.filter fun r => key r ∉ key r' :: ks) =
              (t.rows.filter fun r => key r ∉ ks).filter fun r => key r ≠ key r' := by
            rw [List.filter_filter]
            congr 1
            funext r
            simp only [List.mem_cons, not_or, ne_eq, decide_not, Bool.decide_and]
          have hmem : r' ∈ t.rows.filter fun r => key r ∉ ks :=
            List.mem_filter.mpr ⟨List.mem_of_find?_eq_some hr', decide_eq_true hfound.1⟩
          have hlt : ((t.rows.filter fun r => key r ∉ ks).filter
              fun r => key r ≠ key r').length < (t.rows.filter fun r => key r ∉ ks).length :=
            List.length_filter_lt_length_iff_exists.mpr ⟨r', hmem, by simp⟩
          rw [hsub]
          omega

/-- The collected keys are those that cascades lead to. -/
theorem mem_gone_iff : k' ∈ t.gone k ↔ Relation.ReflTransGen t.Cascades k k' := by
  constructor
  · intro h
    obtain ⟨_, hk, hreach⟩ := exists_cascades_of_mem_collect h
    obtain rfl := List.mem_singleton.mp hk
    exact hreach
  · intro h
    induction h with
    | refl => exact subset_collect _ (List.mem_singleton.mpr rfl)
    | tail _ hstep ih =>
        obtain ⟨r, hr, rfl, href⟩ := hstep
        exact mem_collect_of_cascadesInto (List.length_filter_le _ _) hr ⟨_, ih, href⟩

theorem self_mem_gone : k ∈ t.gone k := mem_gone_iff.mpr .refl

/-- A row with a cascading reference into what goes, goes. -/
theorem key_mem_gone {r : ρ} (hr : r ∈ t.rows) (h : k' ∈ t.gone k)
    (href : (OnDelete.cascade, k') ∈ refs r) : key r ∈ t.gone k :=
  mem_gone_iff.mpr ((mem_gone_iff.mp h).tail ⟨r, hr, rfl, href⟩)

/-- What goes is the row itself, or refers by a cascade to what goes. -/
theorem mem_gone_cases (h : k' ∈ t.gone k) :
    k' = k ∨ ∃ r ∈ t.rows, key r = k' ∧ ∃ k'' ∈ t.gone k, (OnDelete.cascade, k'') ∈ refs r := by
  rcases Relation.ReflTransGen.cases_tail (mem_gone_iff.mp h) with h | ⟨k'', hk, r, hr, hkey, href⟩
  · exact Or.inl h
  · exact Or.inr ⟨r, hr, hkey, k'', mem_gone_iff.mpr hk, href⟩

/-- A row of the table goes if it is the one deleted, or by one of its references. -/
theorem key_mem_gone_iff {r : ρ} (hr : r ∈ t.rows) :
    key r ∈ t.gone k ↔ key r = k ∨ ∃ k' ∈ t.gone k, (OnDelete.cascade, k') ∈ refs r := by
  constructor
  · intro h
    rcases mem_gone_cases h with hroot | ⟨r', hr', hkey, hleads⟩
    · exact Or.inl hroot
    · obtain rfl := List.inj_on_of_nodup_map t.nodup_keys hr' hr hkey
      exact Or.inr hleads
  · rintro (h | ⟨k', hk', href⟩)
    · exact h ▸ self_mem_gone
    · exact key_mem_gone hr hk' href

/-- The rule of induction: a condition on keys that holds of the row and is passed along
cascades holds of what goes. -/
theorem gone_induction {P : κ → Prop} (hroot : P k)
    (hcascade : ∀ r ∈ t.rows, ∀ k', P k' → (OnDelete.cascade, k') ∈ refs r → P (key r))
    (h : k' ∈ t.gone k) : P k' := by
  induction mem_gone_iff.mp h with
  | refl => exact hroot
  | tail hreach hstep ih =>
      obtain ⟨r, hr, rfl, href⟩ := hstep
      exact hcascade r hr _ (ih (mem_gone_iff.mpr hreach)) href

end Collect

section Delete

variable {t t' : Table ρ} {k : κ}

theorem mem_without {ks : List κ} {x : ρ} :
    x ∈ (t.without ks).rows ↔
      ∃ r ∈ t.rows, key r ∉ ks ∧ clear (inside ks) r = x := by
  simp only [without, mem_retain, decide_eq_true_eq]

theorem deleteCascade?_eq_none_iff :
    t.deleteCascade? k = none ↔ ∃ r ∈ t.rows, ∃ k' ∈ t.gone k, (OnDelete.protect, k') ∈ refs r := by
  unfold deleteCascade?
  split
  · next h => exact ⟨fun _ => h, fun _ => rfl⟩
  · next h => exact ⟨fun ht => (nomatch ht), fun hr => absurd hr h⟩

theorem deleteCascade?_eq_some_iff :
    t.deleteCascade? k = some t' ↔
      (∀ r ∈ t.rows, ∀ k' ∈ t.gone k, (OnDelete.protect, k') ∉ refs r) ∧
        t' = t.without (t.gone k) := by
  unfold deleteCascade?
  split
  · next h =>
      obtain ⟨r, hr, k', hk', href⟩ := h
      exact ⟨fun ht => (nomatch ht), fun ht => absurd href (ht.1 r hr k' hk')⟩
  · next h =>
      rw [Option.some.injEq]
      exact ⟨fun ht => ⟨fun r hr k' hk' href => h ⟨r, hr, k', hk', href⟩, ht.symm⟩,
        fun ht => ht.2.symm⟩

/-- A deletion leaves no reference without the row it names. -/
theorem Sound.deleteCascade? (hsound : t.Sound) (h : t.deleteCascade? k = some t') :
    t'.Sound := by
  obtain ⟨hprotect, rfl⟩ := deleteCascade?_eq_some_iff.mp h
  intro x hx ref href
  obtain ⟨r, hr, hstays, rfl⟩ := mem_without.mp hx
  obtain ⟨href, hclear⟩ := (Linked.mem_refs_clear _ r ref).mp href
  obtain ⟨r', hr', hkey⟩ := hsound r hr ref href
  -- A reference into what goes would have made its row go, be cleared or be refused.
  have hkept : ref.2 ∉ t.gone k := by
    intro hgone
    obtain ⟨action, k'⟩ := ref
    cases action with
    | cascade => exact hstays (key_mem_gone hr hgone href)
    | setNull => exact hclear ⟨rfl, inside_eq_true.mpr hgone⟩
    | protect => exact hprotect r hr k' hgone href
  refine ⟨clear _ r', mem_without.mpr ⟨r', hr', ?_, rfl⟩, (Linked.key_clear _ r').trans hkey⟩
  rw [hkey]
  exact hkept

end Delete

end Table

end Relational
