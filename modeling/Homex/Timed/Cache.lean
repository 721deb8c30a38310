import Mathlib.Algebra.Order.Ring.Int
import Mathlib.Logic.Function.Basic

/-!
# A cache with timeouts

A key is kept exactly until the timeout it was set with: `get` at `now` answers
an entry whose expiry is later than `now`. An expired entry stays in the map, and
no `get` answers it, so a cache is compared entry by entry.
-/

namespace Timed

/-- Values with the instant each expires. -/
def Cache (κ ν : Type*) := κ → Option (ν × Int)

namespace Cache

variable {κ ν : Type*}

/-- The cache without entries. -/
def empty : Cache κ ν := fun _ => none

/-- `cache.get(key)` at the instant `now`. -/
def get (c : Cache κ ν) (now : Int) (k : κ) : Option ν :=
  (c k).bind fun entry => if now < entry.2 then some entry.1 else none

/-- `cache.set(key, value, timeout)` at the instant `now`. -/
def set [DecidableEq κ] (c : Cache κ ν) (now : Int) (k : κ) (v : ν) (timeout : Int) : Cache κ ν :=
  Function.update c k (some (v, now + timeout))

@[simp] theorem empty_apply (k : κ) : (empty : Cache κ ν) k = none := rfl

@[simp] theorem set_self [DecidableEq κ] (c : Cache κ ν) (now : Int) (k : κ) (v : ν)
    (timeout : Int) : c.set now k v timeout k = some (v, now + timeout) :=
  Function.update_self k _ c

theorem set_of_ne [DecidableEq κ] {k k' : κ} (h : k' ≠ k) (c : Cache κ ν) (now : Int) (v : ν)
    (timeout : Int) : c.set now k v timeout k' = c k' :=
  Function.update_of_ne h _ c

/-- An answer is the value of an entry that has not expired. -/
theorem get_eq_some_iff {c : Cache κ ν} {now : Int} {k : κ} {v : ν} :
    c.get now k = some v ↔ ∃ expiry, c k = some (v, expiry) ∧ now < expiry := by
  unfold get
  cases hk : c k with
  | none => simp
  | some entry =>
      obtain ⟨w, expiry⟩ := entry
      by_cases hlt : now < expiry
      · simp [hlt]
      · simp [hlt]

/-- No answer: there is no entry, or it has expired. -/
theorem get_eq_none_iff {c : Cache κ ν} {now : Int} {k : κ} :
    c.get now k = none ↔ ∀ v expiry, c k = some (v, expiry) → expiry ≤ now := by
  unfold get
  cases hk : c k with
  | none => simp
  | some entry =>
      obtain ⟨w, expiry⟩ := entry
      simp

end Cache

end Timed
