import Mathlib.Data.List.Basic
import Mathlib.Logic.Function.Basic

/-!
# Groups of channels

A layer keeps the channels of every group and a queue of messages for every channel. A
message to a group goes to the channels that are in the group at that moment, and any of
them may lose it.
-/

namespace Concurrency

namespace Groups

variable {G C M : Type*}

/-- The channels of the groups, and the messages a channel has not taken yet. -/
structure Layer (G C M : Type*) where
  members : List (G × C) := []
  inbox : C → List M := fun _ => []

namespace Layer

def groupAdd (layer : Layer G C M) (g : G) (c : C) : Layer G C M :=
  { layer with members := (g, c) :: layer.members }

theorem mem_groupAdd {layer : Layer G C M} {g : G} {c : C} {p : G × C} :
    p ∈ (layer.groupAdd g c).members ↔ p = (g, c) ∨ p ∈ layer.members := List.mem_cons

variable [DecidableEq G] [DecidableEq C] (layer : Layer G C M)

def groupDiscard (g : G) (c : C) : Layer G C M :=
  { layer with members := layer.members.filter (· ≠ (g, c)) }

/-- The channels in `drops` lose the message. -/
def groupSend (g : G) (m : M) (drops : List C) : Layer G C M :=
  { layer with inbox := fun c =>
      if (g, c) ∈ layer.members ∧ c ∉ drops then layer.inbox c ++ [m] else layer.inbox c }

omit [DecidableEq G] in
/-- The channel takes its first message. -/
def take (c : C) : Layer G C M :=
  { layer with inbox := Function.update layer.inbox c (layer.inbox c).tail }

/-- The channel is closed, and its messages are gone. -/
def close (g : G) (c : C) : Layer G C M :=
  { layer.groupDiscard g c with inbox := Function.update layer.inbox c [] }

variable {layer} {g : G} {c c' : C} {m m' : M} {drops : List C}

theorem mem_close {p : G × C} :
    p ∈ (layer.close g c).members ↔ p ∈ layer.members ∧ p ≠ (g, c) := by
  rw [close, groupDiscard, List.mem_filter, decide_eq_true_iff]

/-- What is sent to a group is added for those in the group, and for no other. -/
theorem mem_inbox_groupSend :
    m' ∈ (layer.groupSend g m drops).inbox c ↔
      m' ∈ layer.inbox c ∨ m' = m ∧ (g, c) ∈ layer.members ∧ c ∉ drops := by
  dsimp only [groupSend]
  split
  · next h => simp [h]
  · next h => simp [h]

theorem inbox_close : (layer.close g c).inbox c' = if c' = c then [] else layer.inbox c' :=
  Function.update_apply _ _ _ _

theorem mem_inbox_close : m ∈ (layer.close g c).inbox c' ↔ c' ≠ c ∧ m ∈ layer.inbox c' := by
  rw [inbox_close]
  by_cases hc : c' = c
  · simp [hc]
  · simp [hc]

omit [DecidableEq G] in
theorem inbox_take :
    (layer.take c).inbox c' = if c' = c then (layer.inbox c).tail else layer.inbox c' :=
  Function.update_apply _ _ _ _

omit [DecidableEq G] in
theorem mem_inbox_of_take (h : m ∈ (layer.take c).inbox c') : m ∈ layer.inbox c' := by
  rw [inbox_take] at h
  split at h
  · next hc => exact hc ▸ List.mem_of_mem_tail h
  · exact h

omit [DecidableEq G] in
/-- A message is taken first, or is still there. -/
theorem mem_inbox_take (h : m ∈ layer.inbox c') :
    m ∈ (layer.take c).inbox c' ∨ c' = c ∧ (layer.inbox c).head? = some m := by
  rw [inbox_take]
  split
  · next hc =>
      subst hc
      cases hbox : layer.inbox c' with
      | nil =>
          rw [hbox] at h
          cases h
      | cons m₀ l =>
          rw [hbox, List.mem_cons] at h
          rcases h with rfl | h
          · exact Or.inr ⟨rfl, rfl⟩
          · exact Or.inl h
  · exact Or.inl h

end Layer

end Groups

end Concurrency
