import Homex.Concurrency.Interleaving
import Mathlib.Data.Set.Basic
import Mathlib.Logic.Relation
import Mathlib.Order.Defs.Unbundled

/-!
# Waiting for rows

A statement that would lock or write a row of another transaction is sent all
the same, and its process waits until it goes through. Transactions that wait
for each other in a circle wait for ever.

There is no circle while the rows that a transaction holds come before the one
it waits for, in one order of all rows. Which rows a program takes after which
others is a property of the program alone. Of the pairs that it may take, the
order has to be shown at the waits only.
-/

namespace Concurrency

universe u v

variable {S K ε R P α β : Type u}

namespace Program

/-- The row that the next statement locks or writes. -/
def wanted : Program S K ε α → Option K
  | .lock k _ _ => some k
  | .update k _ _ => some k
  | .insert k _ _ _ => some k
  | _ => none

/-- The program takes a row only after rows that it `may` follow. `held` are the
rows that its open transaction has taken. -/
def Follows (may : K → K → Prop) (Q : α → Set K → Prop) : Program S K ε α → Set K → Prop
  | .done (.ok a), held => Q a held
  | .done (.error _), _ => True
  | .read _ next, held => ∀ s, (next s).Follows may Q held
  | .query next, held => ∀ s, (next s).Follows may Q held
  | .lock k _ next, held =>
      (∀ k' ∈ held, k' ≠ k → may k' k) ∧ ∀ s, (next s).Follows may Q (held ∪ {k})
  | .update k _ next, held =>
      (∀ k' ∈ held, k' ≠ k → may k' k) ∧ next.Follows may Q (held ∪ {k})
  | .insert k _ _ next, held =>
      (∀ k' ∈ held, k' ≠ k → may k' k) ∧ next.Follows may Q (held ∪ {k})
  | .start next, held => next.Follows may Q held
  | .commit next, _ => next.Follows may Q ∅

section Follows

variable {may : K → K → Prop} {Q Q' : α → Set K → Prop} {held : Set K}

theorem Follows.mono (hQ : ∀ a held, Q a held → Q' a held) {p : Program S K ε α}
    (h : p.Follows may Q held) : p.Follows may Q' held := by
  induction p generalizing held with
  | done result =>
      cases result with
      | ok a => exact hQ a held h
      | error e => trivial
  | read k next ih => exact fun s => ih s (h s)
  | query next ih => exact fun s => ih s (h s)
  | lock k found next ih => exact ⟨h.1, fun s => ih s (h.2 s)⟩
  | update k f next ih => exact ⟨h.1, ih h.2⟩
  | insert k f e next ih => exact ⟨h.1, ih h.2⟩
  | start next ih => exact ih h
  | commit next ih => exact ih h

/-- The sequence rule. -/
theorem follows_bind {Q : β → Set K → Prop} {p : Program S K ε α} {f : α → Program S K ε β} :
    (p >>= f).Follows may Q held ↔ p.Follows may (fun a held => (f a).Follows may Q held) held := by
  change (p.bind f).Follows may Q held ↔ _
  induction p generalizing held with
  | done result =>
      cases result with
      | ok a => exact Iff.rfl
      | error e => exact Iff.rfl
  | read k next ih => exact forall_congr' fun s => ih s
  | query next ih => exact forall_congr' fun s => ih s
  | lock k found next ih => exact and_congr_right fun _ => forall_congr' fun s => ih s
  | update k g next ih => exact and_congr_right fun _ => ih
  | insert k g e next ih => exact and_congr_right fun _ => ih
  | start next ih => exact ih
  | commit next ih => exact ih

theorem follows_done {result : Except ε α} :
    (done result : Program S K ε α).Follows may Q held ↔ ∀ a, result = .ok a → Q a held := by
  cases result with
  | ok a => simp [Follows]
  | error e => simp [Follows]

@[simp] theorem follows_map {Q : β → Set K → Prop} {p : Program S K ε α} {f : α → β} :
    (f <$> p).Follows may Q held ↔ p.Follows may (fun a => Q (f a)) held :=
  follows_bind (f := fun a => pure (f a))

@[simp] theorem follows_pure {a : α} :
    (pure a : Program S K ε α).Follows may Q held ↔ Q a held := Iff.rfl

@[simp] theorem follows_raise {e : ε} :
    (raise e : Program S K ε α).Follows may Q held := trivial

@[simp] theorem follows_ite {c : Prop} [Decidable c] {p q : Program S K ε α} :
    (if c then p else q).Follows may Q held ↔
      (c → p.Follows may Q held) ∧ (¬c → q.Follows may Q held) := by
  by_cases hc : c
  · simp [hc]
  · simp [hc]

@[simp] theorem follows_require {c : Prop} [Decidable c] {e : ε} {Q : PUnit → Set K → Prop} :
    (require c e : Program S K ε PUnit).Follows may Q held ↔ (c → Q ⟨⟩ held) := by
  unfold require
  simp

@[simp] theorem follows_found {e : ε} {a? : Option α} :
    (found e a? : Program S K ε α).Follows may Q held ↔ ∀ a, a? = some a → Q a held := by
  cases a? with
  | none => simp [found]
  | some a => simp [found]

@[simp] theorem follows_fetch {k : K} {row : S → Option α} {e : ε} :
    (fetch k row e : Program S K ε α).Follows may Q held ↔
      ∀ s a, row s = some a → Q a held :=
  forall_congr' fun _ => follows_found

@[simp] theorem follows_fetchForUpdate {k : K} {row : S → Option α} {e : ε} :
    (fetchForUpdate k row e : Program S K ε α).Follows may Q held ↔
      (∀ k' ∈ held, k' ≠ k → may k' k) ∧ ∀ s a, row s = some a → Q a (held ∪ {k}) :=
  and_congr_right fun _ => forall_congr' fun _ => follows_found

@[simp] theorem follows_write {k : K} {f : S → S} {Q : PUnit → Set K → Prop} :
    (write k f : Program S K ε PUnit).Follows may Q held ↔
      (∀ k' ∈ held, k' ≠ k → may k' k) ∧ Q ⟨⟩ (held ∪ {k}) := Iff.rfl

@[simp] theorem follows_create {k : K} {f : S → Option S} {e : ε} {Q : PUnit → Set K → Prop} :
    (create k f e : Program S K ε PUnit).Follows may Q held ↔
      (∀ k' ∈ held, k' ≠ k → may k' k) ∧ Q ⟨⟩ (held ∪ {k}) := Iff.rfl

@[simp] theorem follows_atomic {p : Program S K ε α} :
    (atomic p).Follows may Q held ↔ p.Follows may (fun a _ => Q a ∅) held :=
  follows_bind (f := fun a => .commit (pure a))

end Follows

end Program

/-- The processes, and the row that each of them waits for. -/
structure Contended (S K ε P : Type u) where
  state : State S K ε P
  waiting : P → Option K

/-- What happens next: an event, or a process sends a statement that has to wait. -/
inductive Contention (R P : Type u)
  | event (e : Event R P)
  | wait (p : P)

section Contended

variable [DecidableEq K] [DecidableEq P]

namespace State

variable {σ σ' : State S K ε P} {p q : P} {may : K → K → Prop}

/-- What `p` holds and has still to do. -/
structure Follows (may : K → K → Prop) (σ : State S K ε P) (p : P) : Prop where
  idle : (σ.proc p).code = none → ∀ k, σ.owner k ≠ some p
  code : ∀ c ∈ (σ.proc p).code, ∃ held : Set K,
    (∀ k, σ.owner k = some p → k ∈ held) ∧ c.Follows may (fun _ _ => True) held

/-- Nothing changes for `q`. -/
def SameFor (q : P) (σ σ' : State S K ε P) : Prop :=
  σ'.proc q = σ.proc q ∧ ∀ k, σ'.owner k = some q ↔ σ.owner k = some q

omit [DecidableEq K] [DecidableEq P] in
theorem Follows.of_sameFor (h : σ.Follows may q) (hsame : SameFor q σ σ') : σ'.Follows may q where
  idle hcode k hk := h.idle (hsame.1 ▸ hcode) k ((hsame.2 k).mp hk)
  code c hc := by
    obtain ⟨held, hheld, hfollows⟩ := h.code c (hsame.1 ▸ hc)
    exact ⟨held, fun k hk => hheld k ((hsame.2 k).mp hk), hfollows⟩

omit [DecidableEq K] in
theorem sameFor_goOn {c : Process S K ε} (hq : q ≠ p) : SameFor q σ (σ.goOn p c) :=
  ⟨proc_goOn_of_ne hq c, fun _ => Iff.rfl⟩

theorem sameFor_hold {k : K} {c : Process S K ε} (hfree : σ.Free p k) (hq : q ≠ p) :
    SameFor q σ ((σ.hold p k).goOn p c) :=
  ⟨proc_goOn_of_ne hq c, owner_hold hfree hq⟩

omit [DecidableEq K] in
theorem sameFor_release {c : Process S K ε} (hq : q ≠ p) :
    SameFor q σ ((σ.release p).goOn p c) :=
  ⟨proc_goOn_of_ne hq c, owner_release hq⟩

theorem sameFor_write {k : K} {f : S → S} {c : Process S K ε} (hfree : σ.Free p k) (hq : q ≠ p) :
    SameFor q σ (σ.write p k f c) := by
  unfold write
  cases c.tx with
  | none => exact ⟨proc_goOn_of_ne hq c, fun _ => Iff.rfl⟩
  | some w => exact sameFor_hold hfree hq

/-- A statement changes nothing for the other processes. -/
theorem sameFor_send (hs : σ.send p = some σ') (hq : q ≠ p) : SameFor q σ σ' := by
  cases sent_of_send hs with
  | done _ => exact sameFor_release hq
  | lock _ hfree _ _ => exact sameFor_hold hfree hq
  | update _ hfree => exact sameFor_write hfree hq
  | insert _ hfree _ => exact sameFor_write hfree hq
  | commit _ _ => exact ⟨proc_goOn_of_ne hq _, owner_release hq⟩
  | _ => exact sameFor_goOn hq

section Send

variable {held : Set K} {next : Program S K ε PUnit} {c : Process S K ε}

omit [DecidableEq K] [DecidableEq P] in
/-- `p` goes on as `next`, and holds no more than `held`. -/
theorem Follows.of_code (hcode : (σ.proc p).code = some next)
    (hheld : ∀ k, σ.owner k = some p → k ∈ held)
    (hnext : next.Follows may (fun _ _ => True) held) : σ.Follows may p where
  idle hnone := by
    rw [hcode] at hnone
    cases hnone
  code c hc := by
    rw [hcode, Option.mem_some_iff] at hc
    exact ⟨held, hheld, hc ▸ hnext⟩

omit [DecidableEq K] in
theorem follows_release (hcode : c.code = none) : ((σ.release p).goOn p c).Follows may p where
  idle _ := owner_release_self
  code q hq := by
    rw [proc_goOn, hcode] at hq
    cases hq

omit [DecidableEq K] in
theorem follows_goOn (hheld : ∀ k, σ.owner k = some p → k ∈ held) (hcode : c.code = some next)
    (hnext : next.Follows may (fun _ _ => True) held) : (σ.goOn p c).Follows may p :=
  .of_code ((congrArg Process.code (proc_goOn c)).trans hcode) hheld hnext

theorem follows_hold {k : K} (hheld : ∀ k, σ.owner k = some p → k ∈ held)
    (hcode : c.code = some next)
    (hnext : next.Follows may (fun _ _ => True) (held ∪ {k})) :
    ((σ.hold p k).goOn p c).Follows may p := by
  refine follows_goOn (fun k' hk' => ?_) hcode hnext
  rcases (owner_hold_self k').mp hk' with hown | rfl
  · exact Or.inl (hheld k' hown)
  · exact Or.inr rfl

theorem follows_write {k : K} {f : S → S} (hheld : ∀ k, σ.owner k = some p → k ∈ held)
    (hcode : c.code = some next)
    (hnext : next.Follows may (fun _ _ => True) (held ∪ {k})) :
    (σ.write p k f c).Follows may p := by
  unfold write
  cases c.tx with
  | none =>
      have hheld' : ∀ k', σ.owner k' = some p → k' ∈ held ∪ {k} :=
        fun k' hk' => Or.inl (hheld k' hk')
      exact follows_goOn hheld' hcode hnext
  | some w => exact follows_hold hheld hcode hnext

end Send

/-- Each statement of a program that follows. -/
theorem Follows.send (h : σ.Follows may p) (hs : σ.send p = some σ') : σ'.Follows may p := by
  cases sent_of_send hs with
  | done _ => exact follows_release rfl
  | read hcode =>
      obtain ⟨held, hheld, hfollows⟩ := h.code _ hcode
      exact follows_goOn hheld rfl (hfollows _)
  | query hcode =>
      obtain ⟨held, hheld, hfollows⟩ := h.code _ hcode
      exact follows_goOn hheld rfl (hfollows _)
  | lock hcode _ _ _ =>
      obtain ⟨held, hheld, hfollows⟩ := h.code _ hcode
      exact follows_hold hheld rfl (hfollows.2 _)
  | miss hcode _ _ _ =>
      obtain ⟨held, hheld, hfollows⟩ := h.code _ hcode
      exact follows_goOn (fun k hk => Or.inl (hheld k hk)) rfl (hfollows.2 _)
  | update hcode _ =>
      obtain ⟨held, hheld, hfollows⟩ := h.code _ hcode
      exact follows_write hheld rfl hfollows.2
  | insert hcode _ _ =>
      obtain ⟨held, hheld, hfollows⟩ := h.code _ hcode
      exact follows_write hheld rfl hfollows.2
  | refuse hcode _ _ =>
      obtain ⟨held, hheld, -⟩ := h.code _ hcode
      exact follows_goOn hheld rfl trivial
  | start hcode _ =>
      obtain ⟨held, hheld, hfollows⟩ := h.code _ hcode
      exact follows_goOn hheld rfl hfollows
  | commit hcode _ =>
      obtain ⟨held, hheld, hfollows⟩ := h.code _ hcode
      exact follows_goOn (fun k hk => absurd hk (owner_release_self k)) rfl hfollows

/-- The step lemma: programs that follow go on following. -/
theorem Follows.next {program : R → Program S K ε PUnit} {e : Event R P}
    (hprog : ∀ r, (program r).Follows may (fun _ _ => True) ∅) (h : ∀ q, σ.Follows may q)
    (hs : σ.next program e = some σ') (q : P) :
    σ'.Follows may q ∧ (q ≠ e.process → SameFor q σ σ') := by
  cases e with
  | request p r =>
      unfold State.next at hs
      simp only at hs
      split at hs
      · next hcode _ =>
        cases hs
        refine ⟨?_, sameFor_goOn⟩
        by_cases hq : q = p
        · subst hq
          exact follows_goOn (fun k hk => absurd hk ((h q).idle hcode k)) rfl (hprog r)
        · exact (h q).of_sameFor (sameFor_goOn hq)
      · cases hs
  | statement p =>
      refine ⟨?_, sameFor_send hs⟩
      by_cases hq : q = p
      · subst hq
        exact (h q).send hs
      · exact (h q).of_sameFor (sameFor_send hs hq)
  | stop p =>
      cases hs
      refine ⟨?_, sameFor_release⟩
      by_cases hq : q = p
      · subst hq
        exact follows_release rfl
      · exact (h q).of_sameFor (sameFor_release hq)

end State

namespace Contended

variable {σ σ' : Contended S K ε P} {p q : P}

/-- Any event ends the wait of its process. -/
def next (program : R → Program S K ε PUnit) (σ : Contended S K ε P) :
    Contention R P → Option (Contended S K ε P)
  | .event e => (σ.state.next program e).map fun state =>
      { state, waiting := Function.update σ.waiting e.process none }
  | .wait p =>
      match (σ.state.proc p).code.bind Program.wanted with
      | none => none
      | some k =>
          if σ.state.Free p k then none
          else some { σ with waiting := Function.update σ.waiting p (some k) }

/-- `p` waits for a row that `q` holds. -/
def Waits (σ : Contended S K ε P) (p q : P) : Prop :=
  ∃ k, σ.waiting p = some k ∧ σ.state.owner k = some q

/-- The rows that a process holds come before the one it waits for. -/
def Ascending (before : K → K → Prop) (σ : Contended S K ε P) : Prop :=
  ∀ p k k', σ.waiting p = some k → σ.state.owner k' = some p → before k' k

section Circles

variable {before : K → K → Prop}

omit [DecidableEq K] [DecidableEq P] in
/-- Along a chain of waits the rows ascend. -/
theorem Ascending.row_of_waits [IsTrans K before] (h : σ.Ascending before)
    (hpq : Relation.TransGen σ.Waits p q) {k : K} (hk : σ.waiting p = some k) :
    ∃ k', (k' = k ∨ before k k') ∧ σ.state.owner k' = some q := by
  induction hpq with
  | single hwaits =>
      obtain ⟨l, hl, howner⟩ := hwaits
      rw [hk, Option.some.injEq] at hl
      exact ⟨k, Or.inl rfl, hl ▸ howner⟩
  | tail _ hwaits ih =>
      obtain ⟨k', hk', howner'⟩ := ih
      obtain ⟨l, hl, howner⟩ := hwaits
      have hlt : before k' l := h _ l k' hl howner'
      refine ⟨l, Or.inr ?_, howner⟩
      rcases hk' with rfl | hk'
      · exact hlt
      · exact trans_of before hk' hlt

omit [DecidableEq K] [DecidableEq P] in
/-- While the rows ascend no process waits for itself. -/
theorem Ascending.acyclic [IsStrictOrder K before] (h : σ.Ascending before) (p : P) :
    ¬Relation.TransGen σ.Waits p p := by
  intro hcircle
  obtain ⟨q, ⟨k, hk, -⟩, -⟩ := Relation.TransGen.head'_iff.mp hcircle
  obtain ⟨k', hk', howner⟩ := h.row_of_waits hcircle hk
  have hlt : before k' k := h p k k' hk howner
  rcases hk' with rfl | hk'
  · exact irrefl_of before k' hlt
  · exact irrefl_of before k (trans_of before hk' hlt)

end Circles

end Contended

/-- Every interleaving of any requests, with their waits. -/
def contentions (P : Type u) [DecidableEq P] (program : R → Program S K ε PUnit) :
    Transition.System (Contended S K ε P) (Contention R P) where
  init σ := ∃ s, σ = { state := .idle s, waiting := fun _ => none }
  step σ e σ' := σ.next program e = some σ'

namespace Contended

variable {σ σ' : Contended S K ε P} {may before : K → K → Prop}

/-- What every process holds it may, and what it waits for comes after. -/
structure Orderly (may before : K → K → Prop) (σ : Contended S K ε P) : Prop where
  follows : ∀ p, σ.state.Follows may p
  ascending : σ.Ascending before

/-- The waits of the pairs of rows that a program may take are in the order. -/
def OrdersWaits (may before : K → K → Prop) (guard : Contended S K ε P → Contention R P → Prop) :
    Prop :=
  ∀ σ p k k', guard σ (.wait p) → (σ.state.proc p).code.bind Program.wanted = some k →
    σ.state.owner k' = some p → may k' k → before k' k

omit [DecidableEq K] [DecidableEq P] in
theorem orderly_idle (s : S) :
    Orderly may before ({ state := .idle s, waiting := fun _ => none } : Contended S K ε P) where
  follows p := by
    constructor
    · rintro _ k ⟨⟩
    · rintro c ⟨⟩
  ascending := by
    rintro p k k' ⟨⟩

omit [DecidableEq K] [DecidableEq P] in
/-- A wanted row may follow the rows that are held. -/
theorem may_of_wanted {p : P} (h : σ.state.Follows may p) {k k' : K}
    (hwanted : (σ.state.proc p).code.bind Program.wanted = some k) (hfree : ¬σ.state.Free p k)
    (hk' : σ.state.owner k' = some p) : may k' k := by
  obtain ⟨c, hc, hwanted⟩ := Option.bind_eq_some_iff.mp hwanted
  obtain ⟨held, hheld, hcode⟩ := h.code c hc
  have hne : k' ≠ k := by
    rintro rfl
    exact hfree (Or.inr hk')
  cases c with
  | lock l found next =>
      cases hwanted
      exact hcode.1 k' (hheld k' hk') hne
  | update l f next =>
      cases hwanted
      exact hcode.1 k' (hheld k' hk') hne
  | insert l f e next =>
      cases hwanted
      exact hcode.1 k' (hheld k' hk') hne
  | _ => cases hwanted

theorem Orderly.step {program : R → Program S K ε PUnit}
    {guard : Contended S K ε P → Contention R P → Prop} {e : Contention R P}
    (hprog : ∀ r, (program r).Follows may (fun _ _ => True) ∅)
    (hguard : OrdersWaits may before guard) (h : Orderly may before σ) (he : guard σ e)
    (hs : σ.next program e = some σ') : Orderly may before σ' := by
  cases e with
  | event e =>
      obtain ⟨s, hnext, rfl⟩ := Option.map_eq_some_iff.mp hs
      have hfollows := State.Follows.next hprog h.follows hnext
      refine ⟨fun q => (hfollows q).1, fun q k k' hk hk' => ?_⟩
      by_cases hq : q = e.process
      · subst hq
        change Function.update σ.waiting _ none _ = some k at hk
        rw [Function.update_self] at hk
        cases hk
      · change Function.update σ.waiting _ none q = some k at hk
        rw [Function.update_of_ne hq] at hk
        exact h.ascending q k k' hk ((((hfollows q).2 hq).2 k').mp hk')
  | wait p =>
      unfold Contended.next at hs
      cases hwanted : (σ.state.proc p).code.bind Program.wanted with
      | none =>
          simp only [hwanted] at hs
          cases hs
      | some l =>
          simp only [hwanted] at hs
          split at hs
          · cases hs
          · next hfree =>
            cases hs
            refine ⟨h.follows, fun q k k' hk hk' => ?_⟩
            change Function.update σ.waiting p (some l) q = some k at hk
            by_cases hq : q = p
            · subst hq
              rw [Function.update_self, Option.some.injEq] at hk
              subst hk
              exact hguard σ q l k' he hwanted hk' (may_of_wanted (h.follows q) hwanted hfree hk')
            · rw [Function.update_of_ne hq] at hk
              exact h.ascending q k k' hk hk'

section Reachable

variable {program : R → Program S K ε PUnit} {guard : Contended S K ε P → Contention R P → Prop}

/-- A run without waits. -/
theorem reachable_of_run {s s' : State S K ε P} {es : List (Event R P)}
    (hguard : ∀ σ e, guard σ (.event e))
    (h : ((contentions P program).restrict guard).Reachable
      { state := s, waiting := fun _ => none })
    (hrun : s.run program (fun _ _ => True) es = some s') :
    ((contentions P program).restrict guard).Reachable
      { state := s', waiting := fun _ => none } := by
  induction es generalizing s with
  | nil =>
      cases hrun
      exact h
  | cons e es ih =>
      unfold State.run at hrun
      rw [if_pos trivial] at hrun
      obtain ⟨s₁, hnext, hrest⟩ := Option.bind_eq_some_iff.mp hrun
      refine ih (h.step ⟨hguard _ e, ?_⟩) hrest
      refine Option.map_eq_some_iff.mpr ⟨s₁, hnext, ?_⟩
      rw [Function.update_eq_self_iff.mpr rfl]

/-- The next statement of `p` has to wait. -/
theorem reachable_wait {p : P} {k : K} (h : ((contentions P program).restrict guard).Reachable σ)
    (hguard : guard σ (.wait p)) (hwanted : (σ.state.proc p).code.bind Program.wanted = some k)
    (hfree : ¬σ.state.Free p k) :
    ((contentions P program).restrict guard).Reachable
      { σ with waiting := Function.update σ.waiting p (some k) } := by
  refine h.step ⟨hguard, ?_⟩
  change Contended.next program σ (.wait p) = _
  unfold Contended.next
  simp only [hwanted, if_neg hfree]

end Reachable

/-- The run lemma: no process ever waits for itself. -/
theorem acyclic_of_reachable {program : R → Program S K ε PUnit}
    {guard : Contended S K ε P → Contention R P → Prop} [IsStrictOrder K before]
    (hprog : ∀ r, (program r).Follows may (fun _ _ => True) ∅)
    (hguard : OrdersWaits may before guard)
    (h : ((contentions P program).restrict guard).Reachable σ) (p : P) :
    ¬Relation.TransGen σ.Waits p p := by
  have horderly : Orderly may before σ := by
    refine h.invariant (I := Orderly may before) ?_ ?_
    · rintro _ ⟨s, rfl⟩
      exact orderly_idle s
    · exact fun _ _ _ _ hi hstep => hi.step hprog hguard hstep.1 hstep.2
  exact horderly.ascending.acyclic p

end Contended

end Contended

end Concurrency
