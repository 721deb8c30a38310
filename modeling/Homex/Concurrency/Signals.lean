import Homex.Concurrency.Program

/-!
# Signals of a write

A run of one program, without other processes in between, that may stop at any
step. After a write that changes what an observer looks at, code runs that sends
messages about the change: at once, or when the transaction of the write commits.
When the run stops, its open transaction is rolled back, and what was sent at once
stays sent.

The changes are numbered, and a message has the number of the change it reports. So
a message that is sent when its transaction commits reports a committed change
wherever the run stops, and one that is sent at once does unless the run stops
before the transaction commits.
-/

namespace Concurrency

namespace Signals

universe u

variable {S K ε α β E : Type u}

/-- A step of the code after a write. -/
inductive Step (E : Type u)
  /-- A statement. -/
  | query
  | broadcast (e : E)
  | onCommit (e : E)

def Step.isBroadcast : Step E → Bool
  | .query => false
  | .broadcast _ => true
  | .onCommit _ => false

/-- The steps after a write, when it changes what is observed of the row. -/
abbrev Observer (S K E : Type u) := K → S → S → Option (List (Step E))

/-- The store as the run sees it, the store to go back to when a transaction is open, the
numbers of the changes, and the messages. -/
structure Session (S E : Type u) where
  store : S
  saved : Option S := none
  changes : Nat := 0
  pending : List Nat := []
  committed : List Nat := []
  broadcasts : List (Nat × E) := []
  queued : List (Nat × E) := []
  pushes : List (Nat × E) := []

namespace Session

/-- The store to go back to is that of the first start. -/
def start (σ : Session S E) : Session S E :=
  { σ with saved := some (σ.saved.getD σ.store) }

def commit (σ : Session S E) : Session S E :=
  { σ with
      saved := none
      pending := []
      committed := σ.committed ++ σ.pending
      queued := []
      pushes := σ.pushes ++ σ.queued }

def rollback (σ : Session S E) : Session S E :=
  match σ.saved with
  | none => σ
  | some s => { σ with store := s, saved := none, pending := [], queued := [] }

/-- A write that changes what is observed, committed at once outside a transaction. -/
def change (s : S) (σ : Session S E) : Session S E :=
  match σ.saved with
  | none =>
      { σ with store := s, changes := σ.changes + 1, committed := σ.committed ++ [σ.changes] }
  | some _ =>
      { σ with store := s, changes := σ.changes + 1, pending := σ.pending ++ [σ.changes] }

/-- One step of the code after the change with the number `k`. -/
def take (k : Nat) (σ : Session S E) : Step E → Session S E
  | .query => σ
  | .broadcast e => { σ with broadcasts := σ.broadcasts ++ [(k, e)] }
  | .onCommit e =>
      match σ.saved with
      | none => { σ with pushes := σ.pushes ++ [(k, e)] }
      | some _ => { σ with queued := σ.queued ++ [(k, e)] }

/-- Some steps of the code after a write that leaves the store `s`. -/
def report (s : S) (steps : List (Step E)) (σ : Session S E) : Session S E :=
  steps.foldl (take σ.changes) (σ.change s)

/-- Whether a message of the open transaction has been broadcast. -/
def told (σ : Session S E) : Option Bool :=
  σ.saved.map fun _ => σ.broadcasts.any fun message => message.1 ∈ σ.pending

/-- Every message reports a committed change. -/
structure OnlyCommitted (σ : Session S E) : Prop where
  broadcasts : ∀ message ∈ σ.broadcasts, message.1 ∈ σ.committed
  pushes : ∀ message ∈ σ.pushes, message.1 ∈ σ.committed

end Session

/-- The next step, when there is one left. -/
def next (n : Nat) (σ : Session S E) (go : Nat → Option (Except ε α) × Session S E) :
    Option (Except ε α) × Session S E :=
  match n with
  | 0 => (none, σ.rollback)
  | n + 1 => go n

/-- Run the program for `n` steps at most. It has no answer when it stops before its end. -/
def run (observe : Observer S K E) :
    Program S K ε α → Nat → Session S E → Option (Except ε α) × Session S E
  | .done r, _, σ => (some r, σ.rollback)
  | .read _ rest, n, σ => next n σ fun n => run observe (rest σ.store) n σ
  | .query rest, n, σ => next n σ fun n => run observe (rest σ.store) n σ
  | .lock _ _ rest, n, σ => next n σ fun n => run observe (rest σ.store) n σ
  | .update key f rest, n, σ => next n σ fun n =>
      match observe key σ.store (f σ.store) with
      | none => run observe rest n { σ with store := f σ.store }
      | some steps =>
          if n < steps.length then (none, (σ.report (f σ.store) (steps.take n)).rollback)
          else run observe rest (n - steps.length) (σ.report (f σ.store) steps)
  | .insert _ f e rest, n, σ => next n σ fun n =>
      match f σ.store with
      | none => (some (.error e), σ.rollback)
      | some s => run observe rest n { σ with store := s }
  | .start rest, n, σ => next n σ fun n => run observe rest n σ.start
  | .commit rest, n, σ => next n σ fun n => run observe rest n σ.commit

/-- The run stops here, or goes on. -/
def StopsNext (n : Nat) (told : Option Bool) (go : Nat → Prop) : Prop :=
  match n with
  | 0 => told = some true
  | n + 1 => go n

/-- The run of `n` steps stops in a transaction in which it has broadcast. `told` says
whether a transaction is open, and whether it has. -/
def StopsTold (observe : Observer S K E) : Program S K ε α → Nat → S → Option Bool → Prop
  | .done _, _, _, told => told = some true
  | .read _ rest, n, s, told => StopsNext n told fun n => StopsTold observe (rest s) n s told
  | .query rest, n, s, told => StopsNext n told fun n => StopsTold observe (rest s) n s told
  | .lock _ _ rest, n, s, told => StopsNext n told fun n => StopsTold observe (rest s) n s told
  | .update key f rest, n, s, told => StopsNext n told fun n =>
      match observe key s (f s) with
      | none => StopsTold observe rest n (f s) told
      | some steps =>
          if n < steps.length then
            told.map (· || (steps.take n).any Step.isBroadcast) = some true
          else
            StopsTold observe rest (n - steps.length) (f s)
              (told.map (· || steps.any Step.isBroadcast))
  | .insert _ f _ rest, n, s, told => StopsNext n told fun n =>
      match f s with
      | none => told = some true
      | some s => StopsTold observe rest n s told
  | .start rest, n, s, told => StopsNext n told fun n =>
      StopsTold observe rest n s (some (told.getD false))
  | .commit rest, n, s, told => StopsNext n told fun n => StopsTold observe rest n s none

/-! ### What a session keeps -/

namespace Session

/-- The numbers of the changes, and which of them the messages have. -/
structure Inv (σ : Session S E) : Prop where
  pending_lt : ∀ k ∈ σ.pending, k < σ.changes
  committed_lt : ∀ k ∈ σ.committed, k < σ.changes
  disjoint : ∀ k ∈ σ.pending, k ∉ σ.committed
  pending_nil : σ.saved = none → σ.pending = []
  broadcasts : ∀ message ∈ σ.broadcasts, message.1 ∈ σ.committed ∨ message.1 ∈ σ.pending
  queued : ∀ message ∈ σ.queued, message.1 ∈ σ.pending
  pushes : ∀ message ∈ σ.pushes, message.1 ∈ σ.committed

variable {σ : Session S E} {s : S} {k : Nat}

theorem inv_idle (s : S) : ({ store := s } : Session S E).Inv := by
  constructor <;> simp

theorem Inv.setStore (h : σ.Inv) (s : S) : ({ σ with store := s } : Session S E).Inv :=
  ⟨h.pending_lt, h.committed_lt, h.disjoint, h.pending_nil, h.broadcasts, h.queued, h.pushes⟩

theorem Inv.start (h : σ.Inv) : σ.start.Inv :=
  ⟨h.pending_lt, h.committed_lt, h.disjoint, fun hnone => (by cases hnone), h.broadcasts, h.queued,
    h.pushes⟩

theorem Inv.commit (h : σ.Inv) : σ.commit.Inv where
  pending_lt := by simp [Session.commit]
  committed_lt := by
    intro k hk
    rcases List.mem_append.mp hk with hk | hk
    · exact h.committed_lt k hk
    · exact h.pending_lt k hk
  disjoint := by simp [Session.commit]
  pending_nil := fun _ => rfl
  broadcasts := by
    intro message hmessage
    exact Or.inl (List.mem_append.mpr (h.broadcasts message hmessage))
  queued := by simp [Session.commit]
  pushes := by
    intro message hmessage
    rcases List.mem_append.mp hmessage with hold | hnew
    · exact List.mem_append_left _ (h.pushes message hold)
    · exact List.mem_append_right _ (h.queued message hnew)

/-- After a rollback, the broadcasts of the open transaction report changes that are gone. -/
theorem Inv.broadcasts_rollback (h : σ.Inv) :
    (∀ message ∈ σ.rollback.broadcasts, message.1 ∈ σ.rollback.committed) ↔
      σ.told ≠ some true := by
  unfold Session.rollback told
  cases hsaved : σ.saved with
  | none =>
      refine iff_of_true (fun message hmessage => ?_) (by simp)
      refine (h.broadcasts message hmessage).resolve_right fun hpending => ?_
      rw [h.pending_nil hsaved] at hpending
      cases hpending
  | some s =>
      simp only [Option.map_some, ne_eq, Option.some.injEq, List.any_eq_true, decide_eq_true_eq,
        not_exists, not_and]
      refine forall₂_congr fun message hmessage => ?_
      constructor
      · intro hcommitted hpending
        exact h.disjoint _ hpending hcommitted
      · intro hpending
        exact (h.broadcasts message hmessage).resolve_right hpending

theorem Inv.pushes_rollback (h : σ.Inv) :
    ∀ message ∈ σ.rollback.pushes, message.1 ∈ σ.rollback.committed := by
  unfold Session.rollback
  cases σ.saved with
  | none => exact h.pushes
  | some s => exact h.pushes

/-- The change with the number `k` is of the open transaction, or committed. -/
def Current (σ : Session S E) (k : Nat) : Prop :=
  match σ.saved with
  | none => k ∈ σ.committed
  | some _ => k ∈ σ.pending

theorem change_of_none (h : σ.saved = none) (s : S) :
    σ.change s =
      { σ with store := s, changes := σ.changes + 1, committed := σ.committed ++ [σ.changes] } := by
  unfold Session.change
  rw [h]

theorem change_of_some {saved : S} (h : σ.saved = some saved) (s : S) :
    σ.change s =
      { σ with store := s, changes := σ.changes + 1, pending := σ.pending ++ [σ.changes] } := by
  unfold Session.change
  rw [h]

theorem store_change (s : S) : (σ.change s).store = s := by
  cases hsaved : σ.saved with
  | none => rw [change_of_none hsaved]
  | some saved => rw [change_of_some hsaved]

theorem current_change (s : S) : (σ.change s).Current σ.changes := by
  cases hsaved : σ.saved with
  | none => simp [change_of_none hsaved, Current, hsaved]
  | some saved => simp [change_of_some hsaved, Current, hsaved]

theorem Inv.ne_changes (h : σ.Inv) {message : Nat × E} (hmessage : message ∈ σ.broadcasts) :
    message.1 ≠ σ.changes := by
  rcases h.broadcasts message hmessage with hcommitted | hpending
  · exact Nat.ne_of_lt (h.committed_lt _ hcommitted)
  · exact Nat.ne_of_lt (h.pending_lt _ hpending)

theorem Inv.change (h : σ.Inv) (s : S) : (σ.change s).Inv := by
  cases hsaved : σ.saved with
  | none =>
      rw [change_of_none hsaved]
      have hnil := h.pending_nil hsaved
      constructor
      · intro k hk
        exact Nat.lt_succ_of_lt (h.pending_lt k hk)
      · intro k hk
        rcases List.mem_append.mp hk with hk | hk
        · exact Nat.lt_succ_of_lt (h.committed_lt k hk)
        · rw [List.mem_singleton.mp hk]
          exact Nat.lt_succ_self _
      · simp [hnil]
      · exact fun _ => hnil
      · intro message hmessage
        exact (h.broadcasts message hmessage).imp_left fun hk => List.mem_append_left _ hk
      · exact h.queued
      · intro message hmessage
        exact List.mem_append_left _ (h.pushes message hmessage)
  | some saved =>
      rw [change_of_some hsaved]
      constructor
      · intro k hk
        rcases List.mem_append.mp hk with hk | hk
        · exact Nat.lt_succ_of_lt (h.pending_lt k hk)
        · rw [List.mem_singleton.mp hk]
          exact Nat.lt_succ_self _
      · intro k hk
        exact Nat.lt_succ_of_lt (h.committed_lt k hk)
      · intro k hk hcommitted
        rcases List.mem_append.mp hk with hk | hk
        · exact h.disjoint k hk hcommitted
        · rw [List.mem_singleton.mp hk] at hcommitted
          exact absurd (h.committed_lt _ hcommitted) (Nat.lt_irrefl _)
      · intro hnone
        cases hsaved.symm.trans hnone
      · intro message hmessage
        exact (h.broadcasts message hmessage).imp_right fun hk => List.mem_append_left _ hk
      · intro message hmessage
        exact List.mem_append_left _ (h.queued message hmessage)
      · exact h.pushes

theorem Inv.told_change (h : σ.Inv) (s : S) : (σ.change s).told = σ.told := by
  cases hsaved : σ.saved with
  | none => simp [change_of_none hsaved, told, hsaved]
  | some saved =>
      rw [change_of_some hsaved]
      simp only [told, hsaved, Option.map_some, Option.some.injEq]
      rw [Bool.eq_iff_iff, List.any_eq_true, List.any_eq_true]
      refine exists_congr fun message => and_congr_right fun hmessage => ?_
      simp [h.ne_changes hmessage]

section Take

variable {step : Step E}

theorem take_onCommit_of_none (h : σ.saved = none) (e : E) :
    σ.take k (.onCommit e) = { σ with pushes := σ.pushes ++ [(k, e)] } := by
  unfold Session.take
  simp only [h]

theorem take_onCommit_of_some {saved : S} (h : σ.saved = some saved) (e : E) :
    σ.take k (.onCommit e) = { σ with queued := σ.queued ++ [(k, e)] } := by
  unfold Session.take
  simp only [h]

theorem current_of_none (h : σ.saved = none) : σ.Current k ↔ k ∈ σ.committed := by
  unfold Current
  rw [h]

theorem current_of_some {saved : S} (h : σ.saved = some saved) :
    σ.Current k ↔ k ∈ σ.pending := by
  unfold Current
  rw [h]

/-- What a step keeps. -/
structure Frame (σ σ' : Session S E) : Prop where
  store : σ'.store = σ.store
  saved : σ'.saved = σ.saved
  pending : σ'.pending = σ.pending
  committed : σ'.committed = σ.committed

theorem take_frame (step : Step E) : Frame σ (σ.take k step) := by
  cases step with
  | query => exact ⟨rfl, rfl, rfl, rfl⟩
  | broadcast e => exact ⟨rfl, rfl, rfl, rfl⟩
  | onCommit e =>
      cases hsaved : σ.saved with
      | none =>
          rw [take_onCommit_of_none hsaved]
          exact ⟨rfl, rfl, rfl, rfl⟩
      | some saved =>
          rw [take_onCommit_of_some hsaved]
          exact ⟨rfl, rfl, rfl, rfl⟩

theorem Current.take (h : σ.Current k) (step : Step E) : (σ.take k step).Current k := by
  have hframe : Frame σ (σ.take k step) := take_frame step
  unfold Current
  rw [hframe.saved, hframe.pending, hframe.committed]
  exact h

theorem Current.mem (h : σ.Current k) : k ∈ σ.committed ∨ k ∈ σ.pending := by
  cases hsaved : σ.saved with
  | none => exact Or.inl ((current_of_none hsaved).mp h)
  | some saved => exact Or.inr ((current_of_some hsaved).mp h)

theorem Inv.take (h : σ.Inv) (hk : σ.Current k) (step : Step E) : (σ.take k step).Inv := by
  cases step with
  | query => exact h
  | broadcast e =>
      refine { h with broadcasts := fun message hmessage => ?_ }
      rcases List.mem_append.mp hmessage with hold | hnew
      · exact h.broadcasts message hold
      · rw [List.mem_singleton.mp hnew]
        exact hk.mem
  | onCommit e =>
      cases hsaved : σ.saved with
      | none =>
          rw [take_onCommit_of_none hsaved]
          refine { h with pushes := fun message hmessage => ?_ }
          rcases List.mem_append.mp hmessage with hold | hnew
          · exact h.pushes message hold
          · rw [List.mem_singleton.mp hnew]
            exact (current_of_none hsaved).mp hk
      | some saved =>
          rw [take_onCommit_of_some hsaved]
          refine { h with queued := fun message hmessage => ?_ }
          rcases List.mem_append.mp hmessage with hold | hnew
          · exact h.queued message hold
          · rw [List.mem_singleton.mp hnew]
            exact (current_of_some hsaved).mp hk

theorem Current.told_take (h : σ.Current k) (step : Step E) :
    (σ.take k step).told = σ.told.map (· || step.isBroadcast) := by
  cases hsaved : σ.saved with
  | none => simp [told, (take_frame step).saved, hsaved]
  | some saved =>
      have hpending := (current_of_some hsaved).mp h
      cases step with
      | query =>
          simp only [Session.take, told, hsaved, Step.isBroadcast, Bool.or_false, Option.map_some]
          rfl
      | broadcast e => simp [Session.take, told, hsaved, Step.isBroadcast, hpending]
      | onCommit e => simp [take_onCommit_of_some hsaved, told, hsaved, Step.isBroadcast]

/-- All the steps. -/
theorem takes (steps : List (Step E)) (h : σ.Inv) (hk : σ.Current k) :
    (steps.foldl (Session.take k) σ).Inv ∧
      (steps.foldl (Session.take k) σ).store = σ.store ∧
      (steps.foldl (Session.take k) σ).told =
        σ.told.map (· || steps.any Step.isBroadcast) := by
  induction steps generalizing σ with
  | nil => simp [h]
  | cons step steps ih =>
      obtain ⟨hinv, hstore, htold⟩ := ih (h.take hk step) (hk.take step)
      refine ⟨hinv, hstore.trans (take_frame step).store, ?_⟩
      rw [List.foldl_cons, htold, hk.told_take, Option.map_map, List.any_cons]
      congr 1
      funext b
      simp [Bool.or_assoc]

/-- What a change and its steps keep. -/
theorem Inv.report (h : σ.Inv) (s : S) (steps : List (Step E)) :
    (σ.report s steps).Inv ∧ (σ.report s steps).store = s ∧
      (σ.report s steps).told = σ.told.map (· || steps.any Step.isBroadcast) := by
  obtain ⟨hinv, hstore, htold⟩ := takes steps (h.change s) (current_change s)
  rw [h.told_change] at htold
  exact ⟨hinv, hstore.trans (store_change s), htold⟩

end Take

theorem Inv.told_start (h : σ.Inv) : σ.start.told = some (σ.told.getD false) := by
  cases hsaved : σ.saved with
  | none => simp [Session.start, told, hsaved, h.pending_nil hsaved]
  | some saved =>
      simp only [Session.start, told, hsaved, Option.map_some, Option.getD_some]

end Session

/-! ### What a run keeps -/

section Run

open Session

/-- The messages of a session that has ended: the broadcasts report committed changes
unless the run stops so, and the others always do. -/
structure Reports (σ : Session S E) (stops : Prop) : Prop where
  broadcasts : (∀ message ∈ σ.broadcasts, message.1 ∈ σ.committed) ↔ ¬stops
  pushes : ∀ message ∈ σ.pushes, message.1 ∈ σ.committed

variable {observe : Observer S K E} {n : Nat} {σ : Session S E}

theorem reports_rollback (h : σ.Inv) : Reports σ.rollback (σ.told = some true) :=
  ⟨h.broadcasts_rollback, h.pushes_rollback⟩

theorem reports_next {go : Nat → Option (Except ε α) × Session S E} {stops : Nat → Prop}
    (h : σ.Inv) (hgo : ∀ n, Reports (go n).2 (stops n)) :
    Reports (next n σ go).2 (StopsNext n σ.told stops) := by
  cases n with
  | zero => exact reports_rollback h
  | succ n => exact hgo n

/-- Wherever the run stops. -/
theorem reports_run (p : Program S K ε α) (n : Nat) (h : σ.Inv) :
    Reports (run observe p n σ).2 (StopsTold observe p n σ.store σ.told) := by
  induction p generalizing n σ with
  | done r => exact reports_rollback h
  | read key rest ih => exact reports_next h fun n => ih σ.store n h
  | query rest ih => exact reports_next h fun n => ih σ.store n h
  | lock key found rest ih => exact reports_next h fun n => ih σ.store n h
  | update key f rest ih =>
      refine reports_next h fun n => ?_
      cases hobserve : observe key σ.store (f σ.store) with
      | none => exact ih n (h.setStore (f σ.store))
      | some steps =>
          by_cases hn : n < steps.length
          · obtain ⟨hinv, -, htold⟩ := h.report (f σ.store) (steps.take n)
            simp only [if_pos hn]
            rw [← htold]
            exact reports_rollback hinv
          · obtain ⟨hinv, hstore, htold⟩ := h.report (f σ.store) steps
            simp only [if_neg hn]
            have hrest := ih (n - steps.length) hinv
            rw [hstore, htold] at hrest
            exact hrest
  | insert key f e rest ih =>
      refine reports_next h fun n => ?_
      cases hf : f σ.store with
      | none => exact reports_rollback h
      | some s => exact ih n (h.setStore s)
  | start rest ih =>
      refine reports_next h fun n => ?_
      rw [← h.told_start]
      exact ih n h.start
  | commit rest ih => exact reports_next h fun n => ih n h.commit

/-- From a store without an open transaction. -/
theorem onlyCommitted_run_iff (p : Program S K ε α) (n : Nat) (s : S) :
    (run observe p n ({ store := s } : Session S E)).2.OnlyCommitted ↔
      ¬StopsTold observe p n s none := by
  have hreports : Reports (run observe p n ({ store := s } : Session S E)).2
      (StopsTold observe p n s none) := reports_run p n (inv_idle s)
  constructor
  · intro h
    exact hreports.broadcasts.mp h.broadcasts
  · intro h
    exact ⟨hreports.broadcasts.mpr h, hreports.pushes⟩

end Run

/-! ### Programs that never stop so -/

/-- No transaction is started. -/
def NoTransaction : Program S K ε α → Prop
  | .done _ => True
  | .read _ rest => ∀ s, NoTransaction (rest s)
  | .query rest => ∀ s, NoTransaction (rest s)
  | .lock _ _ rest => ∀ s, NoTransaction (rest s)
  | .update _ _ rest => NoTransaction rest
  | .insert _ _ _ rest => NoTransaction rest
  | .start _ => False
  | .commit _ => False

/-- A program that starts in a transaction, or outside, has no open transaction when it
ends with a result. -/
def Closes : Program S K ε α → Bool → Prop
  | .done (.ok _), inTransaction => inTransaction = false
  | .done (.error _), _ => True
  | .read _ rest, inTransaction => ∀ s, Closes (rest s) inTransaction
  | .query rest, inTransaction => ∀ s, Closes (rest s) inTransaction
  | .lock _ _ rest, inTransaction => ∀ s, Closes (rest s) inTransaction
  | .update _ _ rest, inTransaction => Closes rest inTransaction
  | .insert _ _ _ rest, inTransaction => Closes rest inTransaction
  | .start rest, inTransaction => inTransaction = false ∧ Closes rest true
  | .commit rest, inTransaction => inTransaction = true ∧ Closes rest false

section Programs

open Program

variable {observe : Observer S K E} {p x : Program S K ε α} {f : α → Program S K ε β}
  {inTransaction : Bool}

theorem noTransaction_pure (a : α) : NoTransaction (pure a : Program S K ε α) := trivial

theorem noTransaction_raise (e : ε) : NoTransaction (raise e : Program S K ε α) := trivial

theorem noTransaction_require {c : Prop} [Decidable c] (e : ε) :
    NoTransaction (require c e : Program S K ε PUnit) := by
  by_cases hc : c
  · simp [require, hc, noTransaction_pure]
  · simp [require, hc, noTransaction_raise]

theorem noTransaction_found (e : ε) (a? : Option α) :
    NoTransaction (found e a? : Program S K ε α) := by
  cases a? with
  | none => exact noTransaction_raise e
  | some a => exact noTransaction_pure a

theorem noTransaction_fetch (key : K) (row : S → Option α) (e : ε) :
    NoTransaction (fetch key row e) :=
  fun s => noTransaction_found e (row s)

theorem noTransaction_fetchForUpdate (key : K) (row : S → Option α) (e : ε) :
    NoTransaction (fetchForUpdate key row e) :=
  fun s => noTransaction_found e (row s)

theorem noTransaction_write (key : K) (g : S → S) :
    NoTransaction (write key g : Program S K ε PUnit) :=
  trivial

theorem noTransaction_create (key : K) (g : S → Option S) (e : ε) :
    NoTransaction (create key g e) :=
  trivial

theorem NoTransaction.bind (hx : NoTransaction x) (hf : ∀ a, NoTransaction (f a)) :
    NoTransaction (x >>= f) := by
  change NoTransaction (x.bind f)
  induction x with
  | done r =>
      cases r with
      | ok a => exact hf a
      | error e => trivial
  | read key rest ih => exact fun s => ih s (hx s)
  | query rest ih => exact fun s => ih s (hx s)
  | lock key found rest ih => exact fun s => ih s (hx s)
  | update key g rest ih => exact ih hx
  | insert key g e rest ih => exact ih hx
  | start rest ih => exact hx.elim
  | commit rest ih => exact hx.elim

theorem NoTransaction.map {g : α → β} (hx : NoTransaction x) : NoTransaction (g <$> x) :=
  hx.bind fun _ => trivial

theorem NoTransaction.ite {c : Prop} [Decidable c] {x y : Program S K ε α}
    (hx : NoTransaction x) (hy : NoTransaction y) : NoTransaction (if c then x else y) := by
  by_cases hc : c
  · simpa [hc] using hx
  · simpa [hc] using hy

theorem NoTransaction.closes_bind (hx : NoTransaction x)
    (hf : ∀ a, Closes (f a) inTransaction) : Closes (x >>= f) inTransaction := by
  change Closes (x.bind f) inTransaction
  induction x with
  | done r =>
      cases r with
      | ok a => exact hf a
      | error e => trivial
  | read key rest ih => exact fun s => ih s (hx s)
  | query rest ih => exact fun s => ih s (hx s)
  | lock key found rest ih => exact fun s => ih s (hx s)
  | update key g rest ih => exact ih hx
  | insert key g e rest ih => exact ih hx
  | start rest ih => exact hx.elim
  | commit rest ih => exact hx.elim

theorem NoTransaction.closes (h : NoTransaction p) : Closes p false := by
  induction p with
  | done r =>
      cases r with
      | ok a => rfl
      | error e => trivial
  | read key rest ih => exact fun s => ih s (h s)
  | query rest ih => exact fun s => ih s (h s)
  | lock key found rest ih => exact fun s => ih s (h s)
  | update key g rest ih => exact ih h
  | insert key g e rest ih => exact ih h
  | start rest ih => exact h.elim
  | commit rest ih => exact h.elim

theorem Closes.bind (hx : Closes x inTransaction) (hf : ∀ a, Closes (f a) false) :
    Closes (x >>= f) inTransaction := by
  change Closes (x.bind f) inTransaction
  induction x generalizing inTransaction with
  | done r =>
      cases r with
      | ok a =>
          have hopen : inTransaction = false := hx
          rw [hopen]
          exact hf a
      | error e => trivial
  | read key rest ih => exact fun s => ih s (hx s)
  | query rest ih => exact fun s => ih s (hx s)
  | lock key found rest ih => exact fun s => ih s (hx s)
  | update key g rest ih => exact ih hx
  | insert key g e rest ih => exact ih hx
  | start rest ih => exact ⟨hx.1, ih hx.2⟩
  | commit rest ih => exact ⟨hx.1, ih hx.2⟩

theorem Closes.map {g : α → β} (hx : Closes x inTransaction) :
    Closes (g <$> x) inTransaction :=
  hx.bind fun _ => rfl

/-- A transaction around statements is closed. -/
theorem NoTransaction.closes_atomic (h : NoTransaction p) : Closes (atomic p) false :=
  ⟨rfl, h.closes_bind fun _ => ⟨rfl, rfl⟩⟩

theorem not_stopsNext {go : Nat → Prop} (h : ∀ n, ¬go n) (n : Nat) : ¬StopsNext n none go := by
  cases n with
  | zero => simp [StopsNext]
  | succ n => exact h n

/-- Outside a transaction, what is broadcast is committed. -/
theorem NoTransaction.not_stopsTold (h : NoTransaction p) (n : Nat) (s : S) :
    ¬StopsTold observe p n s none := by
  induction p generalizing n s with
  | done r => simp [StopsTold]
  | read key rest ih => exact not_stopsNext (fun n => ih s (h s) n s) n
  | query rest ih => exact not_stopsNext (fun n => ih s (h s) n s) n
  | lock key found rest ih => exact not_stopsNext (fun n => ih s (h s) n s) n
  | update key g rest ih =>
      refine not_stopsNext (fun n => ?_) n
      cases observe key s (g s) with
      | none => exact ih h n (g s)
      | some steps =>
          by_cases hn : n < steps.length
          · simp [hn]
          · simpa [hn] using ih h (n - steps.length) (g s)
  | insert key g e rest ih =>
      refine not_stopsNext (fun n => ?_) n
      cases g s with
      | none => simp
      | some s' => exact ih h n s'
  | start rest ih => exact h.elim
  | commit rest ih => exact h.elim

end Programs

section Answered

variable {observe : Observer S K E} {σ : Session S E} {p : Program S K ε α} {a : α}

theorem not_stopsNext_of_answer {go : Nat → Option (Except ε α) × Session S E}
    {stops : Nat → Prop} {told : Option Bool} {n : Nat}
    (hgo : ∀ n, (go n).1 = some (.ok a) → ¬stops n) (h : (next n σ go).1 = some (.ok a)) :
    ¬StopsNext n told stops := by
  cases n with
  | zero => simp [next] at h
  | succ n => exact hgo n h

/-- A run with a result has not stopped before its end, and has committed. -/
theorem Closes.not_stopsTold (hp : Closes p σ.told.isSome) (h : σ.Inv) {n : Nat}
    (hrun : (run observe p n σ).1 = some (.ok a)) :
    ¬StopsTold observe p n σ.store σ.told := by
  induction p generalizing n σ with
  | done r =>
      cases r with
      | ok a =>
          have hnone : σ.told = none := by simpa [Closes] using hp
          simp [StopsTold, hnone]
      | error e => simp [run] at hrun
  | read key rest ih =>
      exact not_stopsNext_of_answer (fun n => ih σ.store (hp σ.store) h) hrun
  | query rest ih =>
      exact not_stopsNext_of_answer (fun n => ih σ.store (hp σ.store) h) hrun
  | lock key found rest ih =>
      exact not_stopsNext_of_answer (fun n => ih σ.store (hp σ.store) h) hrun
  | update key g rest ih =>
      refine not_stopsNext_of_answer (fun n hrun => ?_) hrun
      cases hobserve : observe key σ.store (g σ.store) with
      | none =>
          simp only [hobserve] at hrun
          have hclosed : Closes rest ({ σ with store := g σ.store } : Session S E).told.isSome := hp
          exact ih hclosed (h.setStore (g σ.store)) hrun
      | some steps =>
          by_cases hn : n < steps.length
          · simp [hobserve, hn] at hrun
          · simp only [hobserve, if_neg hn] at hrun
            simp only [if_neg hn]
            obtain ⟨hinv, hstore, htold⟩ := h.report (g σ.store) steps
            have hclosed : Closes rest (σ.report (g σ.store) steps).told.isSome := by
              rw [htold, Option.isSome_map]
              exact hp
            have hrest := ih hclosed hinv hrun
            rwa [hstore, htold] at hrest
  | insert key g e rest ih =>
      refine not_stopsNext_of_answer (fun n hrun => ?_) hrun
      cases hg : g σ.store with
      | none => simp [hg] at hrun
      | some s =>
          simp only [hg] at hrun
          have hclosed : Closes rest ({ σ with store := s } : Session S E).told.isSome := hp
          exact ih hclosed (h.setStore s) hrun
  | start rest ih =>
      refine not_stopsNext_of_answer (fun n hrun => ?_) hrun
      have hclosed : Closes rest σ.start.told.isSome := by
        rw [h.told_start]
        exact hp.2
      rw [← h.told_start]
      exact ih hclosed h.start hrun
  | commit rest ih =>
      have hclosed : Closes rest σ.commit.told.isSome := hp.2
      exact not_stopsNext_of_answer (fun n => ih hclosed h.commit) hrun

theorem onlyCommitted_of_answer {s : S} {n : Nat} (hp : Closes p false)
    (hrun : (run observe p n ({ store := s } : Session S E)).1 = some (.ok a)) :
    (run observe p n ({ store := s } : Session S E)).2.OnlyCommitted := by
  have hidle : Closes p ({ store := s } : Session S E).told.isSome := hp
  exact (onlyCommitted_run_iff p n s).mpr (hidle.not_stopsTold (Session.inv_idle s) hrun)

end Answered

end Signals

end Concurrency
