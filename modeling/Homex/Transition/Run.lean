import Mathlib.Logic.Basic

/-!
# Runs of a transition system

A system has initial states and labelled steps. `Reachable` states are those a
finite run ends in, `Leads s s'` says that a run from `s` ends in `s'`. An
invariant is proved once for the initial states and once for a step; a property
that every step keeps, once it holds, holds from then on.

`restrict` keeps the steps that meet a condition on the state before the step
and on the label. A theorem about the runs of the restricted system is a theorem
about the runs whose steps all meet the condition.
-/

namespace Transition

/-- Initial states and labelled steps. -/
structure System (S L : Type*) where
  init : S → Prop
  step : S → L → S → Prop

namespace System

variable {S L : Type*} (M : System S L)

/-- The states a finite run ends in. -/
inductive Reachable : S → Prop
  | init {s : S} : M.init s → Reachable s
  | step {s s' : S} {l : L} : Reachable s → M.step s l s' → Reachable s'

/-- A run from `s` ends in the second state. -/
inductive Leads (s : S) : S → Prop
  | refl : Leads s s
  | step {s' s'' : S} {l : L} : Leads s s' → M.step s' l s'' → Leads s s''

/-- The steps whose label and state before satisfy `guard`. -/
def restrict (guard : S → L → Prop) : System S L where
  init := M.init
  step s l s' := guard s l ∧ M.step s l s'

variable {M}

/-- The invariant rule; the state before a step is reachable too, so invariants
proved earlier may be used. -/
theorem Reachable.invariant {I : S → Prop} (hinit : ∀ s, M.init s → I s)
    (hstep : ∀ s l s', M.Reachable s → I s → M.step s l s' → I s') {s : S}
    (h : M.Reachable s) : I s := by
  induction h with
  | init h => exact hinit _ h
  | step hs h ih => exact hstep _ _ _ hs ih h

theorem Reachable.leads {s s' : S} (h : M.Reachable s) (hl : M.Leads s s') :
    M.Reachable s' := by
  induction hl with
  | refl => exact h
  | step _ hstep ih => exact ih.step hstep

/-- What every step from a reachable state keeps is kept by every run. -/
theorem Leads.stable {P : S → Prop}
    (hstep : ∀ s l s', M.Reachable s → P s → M.step s l s' → P s') {s s' : S}
    (hs : M.Reachable s) (hl : M.Leads s s') (h : P s) : P s' := by
  induction hl with
  | refl => exact h
  | step hl' hst ih => exact hstep _ _ _ (hs.leads hl') ih hst

theorem Reachable.of_restrict {guard : S → L → Prop} {s : S}
    (h : (M.restrict guard).Reachable s) : M.Reachable s := by
  induction h with
  | init h => exact .init h
  | step _ h ih => exact ih.step h.2

/-- Two conditions, one after the other. -/
theorem Reachable.restrict_restrict {guard guard' : S → L → Prop} {s : S}
    (h : (M.restrict fun s l => guard s l ∧ guard' s l).Reachable s) :
    ((M.restrict guard).restrict guard').Reachable s := by
  induction h with
  | init h => exact .init h
  | step _ h ih => exact ih.step ⟨h.1.2, h.1.1, h.2⟩

theorem Leads.of_restrict {guard : S → L → Prop} {s s' : S}
    (h : (M.restrict guard).Leads s s') : M.Leads s s' := by
  induction h with
  | refl => exact .refl
  | step _ h ih => exact ih.step h.2

/-- Every run meets the condition that is always true. -/
theorem Leads.restrict_true {s s' : S} (h : M.Leads s s') :
    (M.restrict fun _ _ => True).Leads s s' := by
  induction h with
  | refl => exact .refl
  | step _ h ih => exact ih.step ⟨trivial, h⟩

section Mono

variable {guard guard' : S → L → Prop} (hguard : ∀ s l, guard s l → guard' s l)
include hguard

/-- A weaker condition admits the same runs. -/
theorem Reachable.restrict_mono {s : S} (h : (M.restrict guard).Reachable s) :
    (M.restrict guard').Reachable s := by
  induction h with
  | init h => exact .init h
  | step _ h ih => exact ih.step ⟨hguard _ _ h.1, h.2⟩

theorem Leads.restrict_mono {s s' : S} (h : (M.restrict guard).Leads s s') :
    (M.restrict guard').Leads s s' := by
  induction h with
  | refl => exact .refl
  | step _ h ih => exact ih.step ⟨hguard _ _ h.1, h.2⟩

end Mono

/-- The invariant rule for runs whose steps all meet a condition. -/
theorem Reachable.invariant_of_guard {guard : S → L → Prop} {I : S → Prop}
    (hinit : ∀ s, M.init s → I s)
    (hstep : ∀ s l s', M.Reachable s → I s → guard s l → M.step s l s' → I s') {s : S}
    (h : (M.restrict guard).Reachable s) : I s := by
  refine Reachable.invariant (M := M.restrict guard) hinit ?_ h
  intro s l s' hs hi hst
  exact hstep s l s' hs.of_restrict hi hst.1 hst.2

end System

end Transition
