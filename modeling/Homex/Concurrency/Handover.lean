import Homex.Concurrency.Interleaving

/-!
# One process settles a row

`states` are the states a run goes through, `history` is what is committed in
each of them, and `firstHolder` is the process that is first to hold a row.

A race for a row is described by its `Stand`: nobody has held the row yet, the
first to hold it has not committed, or what it wrote is committed. An invariant
that says of each stand who holds the row and what is committed determines the
whole history: the old value, and from one commit on the value of the first
holder.
-/

namespace Concurrency

universe u v

variable {S K ε R P : Type u} {β : Type v}

namespace State

variable [DecidableEq K] [DecidableEq P] (program : R → Program S K ε PUnit)

/-- The states a run goes through, the first and the last included. -/
def states (σ : State S K ε P) : List (Event R P) → List (State S K ε P)
  | [] => [σ]
  | e :: es => σ :: ((σ.next program e).map fun σ' => σ'.states es).getD []

/-- What is observed of the committed store in each state of a run. -/
def history (obs : S → β) (σ : State S K ε P) (es : List (Event R P)) : List β :=
  (σ.states program es).map fun σ => obs σ.store

/-- The process that is first to hold the row in a run. -/
def firstHolder (k : K) (σ : State S K ε P) (es : List (Event R P)) : Option P :=
  (σ.states program es).findSome? fun σ => σ.owner k

variable {program} {σ σ' : State S K ε P} {e : Event R P} {es : List (Event R P)}
  {obs : S → β} {k : K}

theorem states_cons (h : σ.next program e = some σ') :
    σ.states program (e :: es) = σ :: σ'.states program es := by
  simp only [states, h, Option.map_some, Option.getD_some]

theorem history_nil : σ.history program obs ([] : List (Event R P)) = [obs σ.store] := rfl

theorem history_cons (h : σ.next program e = some σ') :
    σ.history program obs (e :: es) = obs σ.store :: σ'.history program obs es := by
  simp only [history, states_cons h, List.map_cons]

theorem firstHolder_of_owner {p : P} (h : σ.owner k = some p) :
    σ.firstHolder program k es = some p := by
  cases es with
  | nil => simp [firstHolder, states, h]
  | cons e es => simp [firstHolder, states, h]

theorem firstHolder_nil (h : σ.owner k = none) :
    σ.firstHolder program k ([] : List (Event R P)) = none := by
  simp [firstHolder, states, h]

theorem firstHolder_cons (hnext : σ.next program e = some σ') (h : σ.owner k = none) :
    σ.firstHolder program k (e :: es) = σ'.firstHolder program k es := by
  simp only [firstHolder, states_cons hnext, List.findSome?_cons, h]

variable {guard : State S K ε P → Event R P → Prop} [∀ σ e, Decidable (guard σ e)]

theorem run_cons (hrun : σ.run program guard (e :: es) = some σ') :
    ∃ σ₁, guard σ e ∧ σ.next program e = some σ₁ ∧ σ₁.run program guard es = some σ' := by
  unfold run at hrun
  split at hrun
  · next hguard =>
    obtain ⟨σ₁, hnext, hrest⟩ := Option.bind_eq_some_iff.mp hrun
    exact ⟨σ₁, hguard, hnext, hrest⟩
  · cases hrun

end State

/-- How a race for a row stands. -/
inductive Stand (P : Type u)
  | untouched
  | taken (p : P)
  | settled (p : P)

namespace Stand

/-- How it may stand after a step of `p`. -/
inductive Moves (p : P) : Stand P → Stand P → Prop
  | same {m : Stand P} : Moves p m m
  | take : Moves p .untouched (.taken p)
  | settle : Moves p (.taken p) (.settled p)

/-- Nobody else takes the row. -/
theorem Moves.taken_iff {p q : P} {m m' : Stand P} (h : Moves p m m') (hq : q ≠ p) :
    m' = .taken q ↔ m = .taken q := by
  cases h with
  | same => exact Iff.rfl
  | take => simp [hq.symm]
  | settle => simp [hq.symm]

theorem Moves.settled {p : P} {m m' : Stand P} (h : Moves p m m') (hm : ∃ q, m = .settled q) :
    ∃ q, m' = .settled q := by
  obtain ⟨q, rfl⟩ := hm
  cases h
  exact ⟨q, rfl⟩

/-- The first to hold the row. -/
def holder : Stand P → Option P
  | .untouched => none
  | .taken p => some p
  | .settled p => some p

/-- The value that is committed. -/
def value (old : β) (new : P → β) : Stand P → β
  | .settled p => new p
  | _ => old

end Stand

/-- An invariant of a race for the row `k`, on which the committed store is
observed to change from `old` to `new p`. -/
structure Handover [DecidableEq K] [DecidableEq P] (program : R → Program S K ε PUnit)
    (guard : State S K ε P → Event R P → Prop) (k : K) (obs : S → β) (old : β) (new : P → β)
    (I : Stand P → State S K ε P → Prop) : Prop where
  step : ∀ {m σ e σ'}, I m σ → guard σ e → σ.next program e = some σ' →
    ∃ m', m.Moves e.process m' ∧ I m' σ'
  free : ∀ {σ}, I .untouched σ → σ.owner k = none
  held : ∀ {p σ}, I (.taken p) σ → σ.owner k = some p
  value : ∀ {m σ}, I m σ → obs σ.store = m.value old new

namespace Handover

variable [DecidableEq K] [DecidableEq P] {program : R → Program S K ε PUnit}
  {guard : State S K ε P → Event R P → Prop} [∀ σ e, Decidable (guard σ e)] {k : K}
  {obs : S → β} {old : β} {new : P → β} {I : Stand P → State S K ε P → Prop}
  {σ σ' : State S K ε P} {es : List (Event R P)} {p : P}

/-- From then on the row keeps its new value. -/
theorem history_settled (H : Handover program guard k obs old new I) (h : I (.settled p) σ)
    (hrun : σ.run program guard es = some σ') :
    I (.settled p) σ' ∧ σ.history program obs es = List.replicate (es.length + 1) (new p) := by
  induction es generalizing σ with
  | nil =>
      cases hrun
      rw [State.history_nil, H.value h]
      exact ⟨h, rfl⟩
  | cons e es ih =>
      obtain ⟨σ₁, hguard, hnext, hrest⟩ := State.run_cons hrun
      obtain ⟨m, hmoves, h₁⟩ := H.step h hguard hnext
      cases hmoves
      obtain ⟨hlast, hhistory⟩ := ih h₁ hrest
      rw [State.history_cons hnext, hhistory, H.value h]
      exact ⟨hlast, rfl⟩

/-- The old value, and from the first holder's commit on its value. -/
theorem history_taken (H : Handover program guard k obs old new I) (h : I (.taken p) σ)
    (hrun : σ.run program guard es = some σ') :
    ∃ m n l, m.holder = some p ∧ I m σ' ∧
      σ.history program obs es = List.replicate n old ++ List.replicate l (new p) ∧
      (0 < l ↔ m = .settled p) := by
  induction es generalizing σ with
  | nil =>
      cases hrun
      rw [State.history_nil, H.value h]
      exact ⟨.taken p, 1, 0, rfl, h, rfl, by simp⟩
  | cons e es ih =>
      obtain ⟨σ₁, hguard, hnext, hrest⟩ := State.run_cons hrun
      obtain ⟨m, hmoves, h₁⟩ := H.step h hguard hnext
      rw [State.history_cons hnext, H.value h]
      cases hmoves with
      | same =>
          obtain ⟨m, n, l, hholder, hlast, hhistory, hl⟩ := ih h₁ hrest
          exact ⟨m, n + 1, l, hholder, hlast, by rw [hhistory]; rfl, hl⟩
      | settle =>
          obtain ⟨hlast, hhistory⟩ := H.history_settled h₁ hrest
          exact ⟨.settled _, 1, es.length + 1, rfl, hlast, by rw [hhistory]; rfl, by simp⟩

/-- The run lemma: the first to hold the row settles it, once and for all. -/
theorem history_untouched (H : Handover program guard k obs old new I) (h : I .untouched σ)
    (hrun : σ.run program guard es = some σ') :
    ∃ m n, m.holder = σ.firstHolder program k es ∧ I m σ' ∧
      (σ.history program obs es = List.replicate (n + 1) old ∧ (∀ p, m ≠ .settled p) ∨
        ∃ p l, σ.history program obs es =
          List.replicate (n + 1) old ++ List.replicate (l + 1) (new p) ∧ m = .settled p) := by
  induction es generalizing σ with
  | nil =>
      cases hrun
      rw [State.history_nil, H.value h, State.firstHolder_nil (H.free h)]
      exact ⟨.untouched, 0, rfl, h, Or.inl ⟨rfl, fun p hp => by cases hp⟩⟩
  | cons e es ih =>
      obtain ⟨σ₁, hguard, hnext, hrest⟩ := State.run_cons hrun
      obtain ⟨m, hmoves, h₁⟩ := H.step h hguard hnext
      rw [State.history_cons hnext, H.value h, State.firstHolder_cons hnext (H.free h)]
      cases hmoves with
      | same =>
          obtain ⟨m, n, hholder, hlast, hhistory⟩ := ih h₁ hrest
          refine ⟨m, n + 1, hholder, hlast, hhistory.imp ?_ ?_⟩
          · rintro ⟨hsame, hm⟩
            exact ⟨by rw [hsame]; rfl, hm⟩
          · rintro ⟨p, l, hsame, hm⟩
            exact ⟨p, l, by rw [hsame]; rfl, hm⟩
      | take =>
          obtain ⟨m, n, l, hholder, hlast, hhistory, hl⟩ := H.history_taken h₁ hrest
          rw [State.firstHolder_of_owner (H.held h₁)]
          refine ⟨m, n, hholder, hlast, ?_⟩
          cases l with
          | zero =>
              refine Or.inl ⟨by rw [hhistory]; simp [Stand.value, List.replicate_succ], ?_⟩
              rintro q rfl
              cases hholder
              exact absurd (hl.mpr rfl) (Nat.lt_irrefl 0)
          | succ l =>
              exact Or.inr ⟨e.process, l, by rw [hhistory]; rfl, hl.mp (Nat.succ_pos l)⟩

end Handover

end Concurrency
