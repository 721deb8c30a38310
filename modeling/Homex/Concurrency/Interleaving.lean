import Homex.Concurrency.Program
import Homex.Transition.Run

/-!
# Interleavings of requests

Any number of processes share a store. A step sends one statement of one
process, and any process may go next. Isolation is `READ COMMITTED`: a statement
sees what is committed when it is sent and the writes of its own transaction. A
row that a transaction locked or wrote belongs to it until it ends, and a
statement that would lock or write it meanwhile has to wait.

A process may stop at any point: the request failed, its connection was lost, or
it was chosen to break a deadlock. Its transaction is rolled back then.

`seen` is a history variable: the store in which the process last read a row
that it has not written since. No statement reads it.
-/

namespace Concurrency

universe u

/-- One connection: the statements left to send, the writes of the open
transaction, and the rows read. -/
structure Process (S K ε : Type u) where
  code : Option (Program S K ε PUnit) := none
  tx : Option (S → S) := none
  seen : K → Option S := fun _ => none

/-- The committed store, the process that holds each row, and the processes. -/
structure State (S K ε P : Type u) where
  store : S
  owner : K → Option P
  proc : P → Process S K ε

/-- What happens next. -/
inductive Event (R P : Type u)
  | request (p : P) (r : R)
  | statement (p : P)
  | stop (p : P)

variable {S K ε R P : Type u}

/-- The process that an event is about. -/
def Event.process : Event R P → P
  | .request p _ => p
  | .statement p => p
  | .stop p => p

/-- What the process sees of the store. -/
def Process.view (c : Process S K ε) (s : S) : S := (c.tx.getD id) s

/-- The program goes on as `next`. -/
def Process.goOn (c : Process S K ε) (next : Program S K ε PUnit) : Process S K ε where
  code := some next
  tx := c.tx
  seen := c.seen

/-- The row was read in the store `s`. -/
def Process.read [DecidableEq K] (c : Process S K ε) (k : K) (s : S) : Process S K ε where
  code := c.code
  tx := c.tx
  seen := Function.update c.seen k (some s)

/-- The row was written. -/
def Process.wrote [DecidableEq K] (c : Process S K ε) (k : K) : Process S K ε where
  code := c.code
  tx := c.tx
  seen := Function.update c.seen k none

namespace State

variable [DecidableEq K] [DecidableEq P]

/-- Whether a statement of `p` may lock or write the row now. -/
def Free (σ : State S K ε P) (p : P) (k : K) : Prop := σ.owner k = none ∨ σ.owner k = some p

instance (σ : State S K ε P) (p : P) (k : K) : Decidable (σ.Free p k) :=
  inferInstanceAs (Decidable (σ.owner k = none ∨ σ.owner k = some p))

/-- `p` goes on as `c`. -/
def goOn (σ : State S K ε P) (p : P) (c : Process S K ε) : State S K ε P :=
  { σ with proc := Function.update σ.proc p c }

/-- `p` holds the row from now on. -/
def hold (σ : State S K ε P) (p : P) (k : K) : State S K ε P :=
  { σ with owner := Function.update σ.owner k (some p) }

/-- `p` holds no row any more. -/
def release (σ : State S K ε P) (p : P) : State S K ε P :=
  { σ with owner := fun k => if σ.owner k = some p then none else σ.owner k }

/-- A write of `p`: of its open transaction, or committed at once. -/
def write (σ : State S K ε P) (p : P) (k : K) (f : S → S) (c : Process S K ε) :
    State S K ε P :=
  match c.tx with
  | some w => (σ.hold p k).goOn p { c with tx := some fun s => f (w s) }
  | none => { σ with store := f σ.store }.goOn p c

/-- Send the next statement of `p`; `none` when it has to wait, or there is none. -/
def send (σ : State S K ε P) (p : P) : Option (State S K ε P) :=
  let c := σ.proc p
  match c.code with
  | none => none
  | some (.done _) => some ((σ.release p).goOn p {})
  | some (.read k next) =>
      let s := c.view σ.store
      some (σ.goOn p ((c.read k s).goOn (next s)))
  | some (.query next) => some (σ.goOn p (c.goOn (next (c.view σ.store))))
  | some (.lock k found next) =>
      let s := c.view σ.store
      if σ.Free p k ∧ c.tx.isSome then
        if found s then some ((σ.hold p k).goOn p ((c.read k s).goOn (next s)))
        else some (σ.goOn p ((c.read k s).goOn (next s)))
      else none
  | some (.update k f next) =>
      if σ.Free p k then some (σ.write p k f ((c.wrote k).goOn next)) else none
  | some (.insert k f e next) =>
      if σ.Free p k then
        match f (c.view σ.store) with
        | none => some (σ.goOn p (c.goOn (.done (.error e))))
        | some _ => some (σ.write p k (fun s => (f s).getD s) ((c.wrote k).goOn next))
      else none
  | some (.start next) =>
      match c.tx with
      | none => some (σ.goOn p { code := some next, tx := some id, seen := c.seen })
      | some _ => none
  | some (.commit next) =>
      match c.tx with
      | none => none
      | some w =>
          some (({ σ with store := w σ.store }.release p).goOn p
            { code := some next, seen := c.seen })

/-- The state after an event, if it can happen. -/
def next (program : R → Program S K ε PUnit) (σ : State S K ε P) :
    Event R P → Option (State S K ε P)
  | .request p r =>
      match (σ.proc p).code, (σ.proc p).tx with
      | none, none => some (σ.goOn p { code := some (program r) })
      | _, _ => none
  | .statement p => σ.send p
  | .stop p => some ((σ.release p).goOn p {})

/-- A list of events in turn, each of which meets a condition and can happen. -/
def run (program : R → Program S K ε PUnit) (guard : State S K ε P → Event R P → Prop)
    [∀ σ e, Decidable (guard σ e)] (σ : State S K ε P) :
    List (Event R P) → Option (State S K ε P)
  | [] => some σ
  | e :: es =>
      if guard σ e then (σ.next program e).bind fun σ' => σ'.run program guard es else none

section Owners

variable {σ : State S K ε P} {p q : P} {k : K}

omit [DecidableEq K] in
@[simp] theorem proc_goOn (c : Process S K ε) : (σ.goOn p c).proc p = c :=
  Function.update_self ..

theorem write_of_tx {f w : S → S} {c : Process S K ε} (h : c.tx = some w) :
    σ.write p k f c = (σ.hold p k).goOn p { c with tx := some fun s => f (w s) } := by
  unfold write
  rw [h]

theorem write_of_no_tx {f : S → S} {c : Process S K ε} (h : c.tx = none) :
    σ.write p k f c = { σ with store := f σ.store }.goOn p c := by
  unfold write
  rw [h]

omit [DecidableEq P] in
theorem owner_hold (hfree : σ.Free p k) (hq : q ≠ p) (k' : K) :
    (σ.hold p k).owner k' = some q ↔ σ.owner k' = some q := by
  change Function.update σ.owner k (some p) k' = some q ↔ _
  by_cases hk : k' = k
  · subst hk
    rw [Function.update_self]
    constructor
    · intro h
      exact absurd (Option.some.inj h).symm hq
    · intro h
      rcases hfree with hnone | hsome
      · rw [hnone] at h
        cases h
      · rw [hsome] at h
        exact absurd (Option.some.inj h).symm hq
  · rw [Function.update_of_ne hk]

omit [DecidableEq P] in
theorem owner_hold_self (k' : K) :
    (σ.hold p k).owner k' = some p ↔ σ.owner k' = some p ∨ k' = k := by
  change Function.update σ.owner k (some p) k' = some p ↔ _
  by_cases hk : k' = k
  · simp [hk]
  · simp [hk]

omit [DecidableEq K] in
theorem owner_release (hq : q ≠ p) (k : K) :
    (σ.release p).owner k = some q ↔ σ.owner k = some q := by
  change (if σ.owner k = some p then none else σ.owner k) = some q ↔ _
  by_cases hk : σ.owner k = some p
  · rw [if_pos hk, hk, Option.some.injEq]
    constructor
    · intro h
      cases h
    · intro h
      exact absurd h.symm hq
  · rw [if_neg hk]

omit [DecidableEq K] in
theorem owner_release_self (k : K) : (σ.release p).owner k ≠ some p := by
  change (if σ.owner k = some p then none else σ.owner k) ≠ some p
  by_cases hk : σ.owner k = some p
  · rw [if_pos hk]
    exact fun h => by cases h
  · rw [if_neg hk]
    exact hk

end Owners

/-- What the next statement of `p` does, when it does not have to wait. -/
inductive Sent (σ : State S K ε P) (p : P) : State S K ε P → Prop
  | done {result : Except ε PUnit} (hcode : (σ.proc p).code = some (.done result)) :
      Sent σ p ((σ.release p).goOn p {})
  | read {k : K} {next : S → Program S K ε PUnit}
      (hcode : (σ.proc p).code = some (.read k next)) :
      Sent σ p (σ.goOn p (((σ.proc p).read k ((σ.proc p).view σ.store)).goOn
        (next ((σ.proc p).view σ.store))))
  | query {next : S → Program S K ε PUnit} (hcode : (σ.proc p).code = some (.query next)) :
      Sent σ p (σ.goOn p ((σ.proc p).goOn (next ((σ.proc p).view σ.store))))
  | lock {k : K} {found : S → Bool} {next : S → Program S K ε PUnit}
      (hcode : (σ.proc p).code = some (.lock k found next)) (hfree : σ.Free p k)
      (htx : (σ.proc p).tx.isSome) (hfound : found ((σ.proc p).view σ.store) = true) :
      Sent σ p ((σ.hold p k).goOn p (((σ.proc p).read k ((σ.proc p).view σ.store)).goOn
        (next ((σ.proc p).view σ.store))))
  | miss {k : K} {found : S → Bool} {next : S → Program S K ε PUnit}
      (hcode : (σ.proc p).code = some (.lock k found next)) (hfree : σ.Free p k)
      (htx : (σ.proc p).tx.isSome) (hfound : ¬found ((σ.proc p).view σ.store) = true) :
      Sent σ p (σ.goOn p (((σ.proc p).read k ((σ.proc p).view σ.store)).goOn
        (next ((σ.proc p).view σ.store))))
  | update {k : K} {f : S → S} {next : Program S K ε PUnit}
      (hcode : (σ.proc p).code = some (.update k f next)) (hfree : σ.Free p k) :
      Sent σ p (σ.write p k f (((σ.proc p).wrote k).goOn next))
  | insert {k : K} {f : S → Option S} {e : ε} {next : Program S K ε PUnit} {s : S}
      (hcode : (σ.proc p).code = some (.insert k f e next)) (hfree : σ.Free p k)
      (hf : f ((σ.proc p).view σ.store) = some s) :
      Sent σ p (σ.write p k (fun s => (f s).getD s) (((σ.proc p).wrote k).goOn next))
  | refuse {k : K} {f : S → Option S} {e : ε} {next : Program S K ε PUnit}
      (hcode : (σ.proc p).code = some (.insert k f e next)) (hfree : σ.Free p k)
      (hf : f ((σ.proc p).view σ.store) = none) :
      Sent σ p (σ.goOn p ((σ.proc p).goOn (.done (.error e))))
  | start {next : Program S K ε PUnit} (hcode : (σ.proc p).code = some (.start next))
      (htx : (σ.proc p).tx = none) :
      Sent σ p (σ.goOn p { code := some next, tx := some id, seen := (σ.proc p).seen })
  | commit {next : Program S K ε PUnit} {w : S → S}
      (hcode : (σ.proc p).code = some (.commit next)) (htx : (σ.proc p).tx = some w) :
      Sent σ p (({ σ with store := w σ.store }.release p).goOn p
        { code := some next, seen := (σ.proc p).seen })

theorem sent_of_send {σ σ' : State S K ε P} {p : P} (hs : σ.send p = some σ') : σ.Sent p σ' := by
  unfold send at hs
  cases hc : (σ.proc p).code with
  | none =>
      simp only [hc] at hs
      cases hs
  | some q =>
      cases q with
      | done result =>
          simp only [hc] at hs
          cases hs
          exact .done hc
      | read k next =>
          simp only [hc] at hs
          cases hs
          exact .read hc
      | query next =>
          simp only [hc] at hs
          cases hs
          exact .query hc
      | lock k found next =>
          simp only [hc] at hs
          split at hs
          · next hfree =>
            split at hs
            · next hfound =>
              cases hs
              exact .lock hc hfree.1 hfree.2 hfound
            · next hfound =>
              cases hs
              exact .miss hc hfree.1 hfree.2 hfound
          · cases hs
      | update k f next =>
          simp only [hc] at hs
          split at hs
          · next hfree =>
            cases hs
            exact .update hc hfree
          · cases hs
      | insert k f e next =>
          simp only [hc] at hs
          split at hs
          · next hfree =>
            split at hs
            · next hf =>
              cases hs
              exact .refuse hc hfree hf
            · next s hf =>
              cases hs
              exact .insert hc hfree hf
          · cases hs
      | start next =>
          simp only [hc] at hs
          split at hs
          · next htx =>
            cases hs
            exact .start hc htx
          · cases hs
      | commit next =>
          simp only [hc] at hs
          split at hs
          · cases hs
          · next w htx =>
            cases hs
            exact .commit hc htx

/-- How a statement of `p` changes what is committed. -/
inductive Commits (σ : State S K ε P) (p : P) (s : S) : Prop
  | same (h : s = σ.store)
  | update {k : K} {f : S → S} {next : Program S K ε PUnit}
      (hcode : (σ.proc p).code = some (.update k f next)) (htx : (σ.proc p).tx = none)
      (h : s = f σ.store)
  | insert {k : K} {f : S → Option S} {e : ε} {next : Program S K ε PUnit}
      (hcode : (σ.proc p).code = some (.insert k f e next)) (htx : (σ.proc p).tx = none)
      (h : f σ.store = some s)
  | commit {next : Program S K ε PUnit} {w : S → S}
      (hcode : (σ.proc p).code = some (.commit next)) (htx : (σ.proc p).tx = some w)
      (h : s = w σ.store)

theorem commits_of_send {σ σ' : State S K ε P} {p : P}
    (hs : σ.send p = some σ') : σ.Commits p σ'.store := by
  cases sent_of_send hs with
  | @update k f next hcode _ =>
      cases htx : (σ.proc p).tx with
      | none =>
          rw [write_of_no_tx (c := ((σ.proc p).wrote k).goOn next) htx]
          exact .update hcode htx rfl
      | some w =>
          rw [write_of_tx (c := ((σ.proc p).wrote k).goOn next) htx]
          exact .same rfl
  | @insert k f e next s hcode _ hf =>
      cases htx : (σ.proc p).tx with
      | none =>
          rw [write_of_no_tx (c := ((σ.proc p).wrote k).goOn next) htx]
          refine .insert hcode htx ?_
          rw [Process.view, htx] at hf
          change f σ.store = some ((f σ.store).getD σ.store)
          rw [show f σ.store = some s from hf, Option.getD_some]
      | some w =>
          rw [write_of_tx (c := ((σ.proc p).wrote k).goOn next) htx]
          exact .same rfl
  | commit hcode htx => exact .commit hcode htx rfl
  | _ => exact .same rfl

/-- A store that no request has been sent to. -/
def idle (s : S) : State S K ε P where
  store := s
  owner := fun _ => none
  proc := fun _ => {}

section Others

variable {σ σ' : State S K ε P} {p q : P}

omit [DecidableEq K] in
theorem proc_goOn_of_ne (hq : q ≠ p) (c : Process S K ε) : (σ.goOn p c).proc q = σ.proc q :=
  Function.update_of_ne hq _ _

theorem proc_write_of_ne {k : K} (hq : q ≠ p) (f : S → S) (c : Process S K ε) :
    (σ.write p k f c).proc q = σ.proc q := by
  unfold write
  split
  · exact proc_goOn_of_ne hq _
  · exact proc_goOn_of_ne hq _

/-- A statement leaves the other processes as they are. -/
theorem proc_of_send (hs : σ.send p = some σ') (hq : q ≠ p) : σ'.proc q = σ.proc q := by
  cases sent_of_send hs with
  | update _ _ => exact proc_write_of_ne hq _ _
  | insert _ _ _ => exact proc_write_of_ne hq _ _
  | _ => exact proc_goOn_of_ne hq _

variable {program : R → Program S K ε PUnit}

theorem proc_of_next {e : Event R P} (hs : σ.next program e = some σ') (hq : q ≠ e.process) :
    σ'.proc q = σ.proc q := by
  cases e with
  | request p r =>
      unfold next at hs
      simp only at hs
      split at hs
      · cases hs
        exact proc_goOn_of_ne hq _
      · cases hs
  | statement p => exact proc_of_send hs hq
  | stop p =>
      cases hs
      exact proc_goOn_of_ne hq _

variable {guard : State S K ε P → Event R P → Prop} [∀ σ e, Decidable (guard σ e)]
  {es : List (Event R P)}

theorem proc_of_run (hrun : σ.run program guard es = some σ') (hq : ∀ e ∈ es, q ≠ e.process) :
    σ'.proc q = σ.proc q := by
  induction es generalizing σ with
  | nil =>
      cases hrun
      rfl
  | cons e es ih =>
      unfold run at hrun
      split at hrun
      · obtain ⟨σ₁, hnext, hrest⟩ := Option.bind_eq_some_iff.mp hrun
        rw [ih hrest fun e he => hq e (List.mem_cons_of_mem _ he)]
        exact proc_of_next hnext (hq e (List.mem_cons_self ..))
      · cases hrun

/-- Every request has finished when those of the processes that took part have. -/
theorem finished_of_run {s : S} {ps : List P} (hrun : (idle s).run program guard es = some σ)
    (hps : ∀ e ∈ es, e.process ∈ ps) (hdone : ∀ p ∈ ps, (σ.proc p).code = none) (p : P) :
    (σ.proc p).code = none := by
  by_cases hp : p ∈ ps
  · exact hdone p hp
  · have hother : ∀ e ∈ es, p ≠ e.process := by
      rintro e he rfl
      exact hp (hps e he)
    rw [proc_of_run hrun hother]
    rfl

end Others

end State

variable [DecidableEq K] [DecidableEq P]

/-- Every interleaving of any requests, from any store. -/
def interleavings (P : Type u) [DecidableEq P] (program : R → Program S K ε PUnit) :
    Transition.System (State S K ε P) (Event R P) where
  init σ := ∃ s, σ = .idle s
  step σ e σ' := σ.next program e = some σ'

theorem leads_of_run {program : R → Program S K ε PUnit}
    {guard : State S K ε P → Event R P → Prop} [∀ σ e, Decidable (guard σ e)]
    {σ₀ σ σ' : State S K ε P} {es : List (Event R P)}
    (hl : ((interleavings P program).restrict guard).Leads σ₀ σ)
    (hrun : σ.run program guard es = some σ') :
    ((interleavings P program).restrict guard).Leads σ₀ σ' := by
  induction es generalizing σ with
  | nil =>
      cases hrun
      exact hl
  | cons e es ih =>
      unfold State.run at hrun
      split at hrun
      · next hguard =>
        obtain ⟨σ₁, hnext, hrest⟩ := Option.bind_eq_some_iff.mp hrun
        exact ih (hl.step ⟨hguard, hnext⟩) hrest
      · cases hrun

end Concurrency
