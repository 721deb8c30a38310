import Homex.Concurrency.Accounts
import Homex.Concurrency.RowLocks
import Mathlib.Algebra.BigOperators.Finsupp.Basic

/-!
# Settled accounts under interleaving

Programs that settle keep a total through any interleaving, up to what the
requests under way still owe: once every request has finished it is what it was
at the start. It takes that a request which writes a row it does not hold finds
the row as it has read it.

The invariant has books for each process: what it knows of the rows it holds, by
how much its open transaction has moved the total, and what it has committed and
not yet balanced. The events of the others leave its books right.
-/

namespace Concurrency

universe u v w

variable {S K ε R P : Type u} {ρ : Type v} {M : Type w} (A : Account S K ρ M)

/-! ### The books of one process -/

namespace Process

variable {c : Process S K ε}

/-- In a transaction a process sees its own writes. -/
theorem view_of_tx {w : S → S} (htx : c.tx = some w) : c.view = w := by
  unfold Process.view
  rw [htx]
  rfl

theorem view_of_no_tx (htx : c.tx = none) : c.view = id := by
  unfold Process.view
  rw [htx]
  rfl

end Process

namespace Account

section Committed

variable [DecidableEq P]

/-- What is committed in the rows that the process holds. -/
def committed (σ : State S K ε P) (p : P) : K → Option ρ :=
  fun k => if σ.owner k = some p then some (A.obs σ.store k) else none

variable {A} {σ σ' : State S K ε P} {p q : P} {k : K}

theorem agrees_committed (σ : State S K ε P) (p : P) : A.Agrees σ.store (A.committed σ p) := by
  intro k x hx
  unfold committed at hx
  split at hx
  · exact Option.some.inj hx
  · cases hx

theorem committed_of_owner (h : σ.owner k = some p) :
    A.committed σ p k = some (A.obs σ.store k) := if_pos h

theorem committed_of_not_owner (h : σ.owner k ≠ some p) : A.committed σ p k = none := if_neg h

theorem committed_of_released (h : ∀ k, σ.owner k ≠ some p) :
    A.committed σ p = fun _ => none :=
  funext fun k => committed_of_not_owner (h k)

theorem committed_hold [DecidableEq K] (σ : State S K ε P) (p : P) (k : K) :
    A.committed (σ.hold p k) p =
      Function.update (A.committed σ p) k (some (A.obs σ.store k)) := by
  funext k'
  by_cases hne : k' = k
  · subst hne
    rw [Function.update_self]
    exact committed_of_owner (Function.update_self ..)
  · rw [Function.update_of_ne hne]
    simp only [committed, State.hold, Function.update_of_ne hne]

/-- The others leave the rows that a process holds as they are. -/
theorem committed_of_moves [DecidableEq K] (h : Moves A.obs p σ σ') (hq : q ≠ p) :
    A.committed σ' q = A.committed σ q := by
  funext k
  by_cases howner : σ.owner k = some q
  · rw [committed_of_owner howner, committed_of_owner ((h.owner q hq k).mpr howner)]
    rcases h.store k with hnone | hsome | hsame
    · rw [howner] at hnone
      cases hnone
    · rw [howner, Option.some.injEq] at hsome
      exact absurd hsome hq
    · rw [hsame]
  · rw [committed_of_not_owner howner,
      committed_of_not_owner fun h' => howner ((h.owner q hq k).mp h')]

end Committed

variable [DecidableEq K] [DecidableEq P] [AddGroup M]

/-- How a process stands: its books are right. -/
structure Audited (σ : State S K ε P) (p : P) (b : Books K ρ M) : Prop where
  /-- What it still sends settles them. -/
  settles : ∀ q, (σ.proc p).code = some q → q.Settles A (fun _ b => b.Settled) b
  /-- A process with no request owes nothing. -/
  idle : (σ.proc p).code = none → b.owed = 0
  inTx : b.inTx = (σ.proc p).tx.isSome
  read : ∀ k, b.read k = ((σ.proc p).seen k).map fun s => A.obs s k
  /-- Its open transaction has moved the total by what they say. -/
  shifts : A.Shifts (A.committed σ p) (σ.proc p).view b.gain b.held
  /-- Rows are held in a transaction. -/
  released : (σ.proc p).tx = none → ∀ k, σ.owner k ≠ some p

namespace Audited

variable {A} {σ σ' : State S K ε P} {p q : P} {b b' : Books K ρ M} {k : K}
  {next : Program S K ε PUnit} {c : Process S K ε}

/-- The store that the process sees. -/
theorem sees (h : A.Audited σ p b) (hvalid : A.valid σ.store) :
    A.Sees b ((σ.proc p).view σ.store) where
  valid := h.shifts.valid _ hvalid (agrees_committed σ p)
  agrees := h.shifts.agrees _ hvalid (agrees_committed σ p)

theorem held_eq_none_iff (h : A.Audited σ p b) : b.held k = none ↔ σ.owner k ≠ some p := by
  have hrows := h.shifts.rows k
  by_cases howner : σ.owner k = some p
  · rw [committed_of_owner howner, Option.isSome_some, Option.isSome_iff_ne_none] at hrows
    exact ⟨fun hnone => absurd hnone hrows, fun hne => absurd howner hne⟩
  · rw [committed_of_not_owner howner, Option.isSome_none] at hrows
    exact ⟨fun _ => howner, fun _ => Option.not_isSome_iff_eq_none.mp (by rw [hrows]; simp)⟩

/-- A row that the process does not hold looks to it as it is committed. -/
theorem obs_view (h : A.Audited σ p b) (hvalid : A.valid σ.store) (hk : σ.owner k ≠ some p) :
    A.obs ((σ.proc p).view σ.store) k = A.obs σ.store k :=
  h.shifts.frame _ hvalid (agrees_committed σ p) k (committed_of_not_owner hk)

/-- A row was read. -/
theorem read_note (h : A.Audited σ p b) (k : K) (s : S) (k' : K) :
    (b.note k (A.obs s k)).read k' =
      (((σ.proc p).read k s).seen k').map fun s => A.obs s k' := by
  change Function.update b.read k _ k' = (Function.update (σ.proc p).seen k (some s) k').map _
  by_cases hne : k' = k
  · subst hne
    rw [Function.update_self, Function.update_self, Option.map_some]
  · rw [Function.update_of_ne hne, Function.update_of_ne hne, h.read]

/-- A row was written. -/
theorem read_wrote (h : A.Audited σ p b) (k : K) (d : M) (held : K → Option ρ) (k' : K) :
    (b.wrote k d held).read k' =
      (((σ.proc p).wrote k).seen k').map fun s => A.obs s k' := by
  change Function.update b.read k none k' = (Function.update (σ.proc p).seen k none k').map _
  by_cases hne : k' = k
  · subst hne
    rw [Function.update_self, Function.update_self, Option.map_none]
  · rw [Function.update_of_ne hne, Function.update_of_ne hne, h.read]

/-- Its transaction, with one more row that it holds. -/
theorem shifts_hold (h : A.Audited σ p b) (hvalid : A.valid σ.store) (k : K) :
    A.Shifts (A.committed (σ.hold p k) p) (σ.proc p).view b.gain
      (b.hold k (A.obs ((σ.proc p).view σ.store) k)).held := by
  rw [committed_hold]
  by_cases howner : σ.owner k = some p
  · have hheld : b.held k = some (A.obs ((σ.proc p).view σ.store) k) := by
      obtain ⟨x, hx⟩ := Option.ne_none_iff_exists'.mp
        (mt h.held_eq_none_iff.mp (not_not.mpr howner))
      rw [hx, (h.sees hvalid).agrees k x hx]
    rw [← committed_of_owner howner, Function.update_eq_self, Books.hold, ← hheld,
      Function.update_eq_self]
    exact h.shifts
  · rw [h.obs_view hvalid howner]
    exact h.shifts.hold (committed_of_not_owner howner) _

/-- The events of the others leave its books right. -/
theorem of_moves (h : A.Audited σ q b) (hm : Moves A.obs p σ σ') (hq : q ≠ p) :
    A.Audited σ' q b := by
  have hproc := hm.proc q hq
  constructor
  case settles => exact fun r hr => h.settles r (by rwa [← hproc])
  case idle => exact fun hcode => h.idle (by rwa [← hproc])
  case inTx => rw [hproc, h.inTx]
  case read => exact fun k => by rw [hproc, h.read]
  case shifts =>
    rw [committed_of_moves hm hq, hproc]
    exact h.shifts
  case released =>
    intro htx k howner
    exact h.released (by rwa [← hproc]) k ((hm.owner q hq k).mp howner)

/-- A process that has sent nothing yet. -/
theorem blank {code : Option (Program S K ε PUnit)} (hproc : σ.proc p = { code := code })
    (howner : ∀ k, σ.owner k ≠ some p)
    (hcode : ∀ q, code = some q → q.Settles A (fun _ b => b.Settled) Books.blank) :
    A.Audited σ p Books.blank where
  settles q hq := hcode q (by rwa [hproc] at hq)
  idle _ := rfl
  inTx := by rw [hproc]; rfl
  read k := by rw [hproc]; rfl
  shifts := by
    rw [committed_of_released howner, hproc]
    exact Shifts.id
  released _ := howner

/-- The program goes on in the same transaction, or still outside one. -/
theorem goOn (h : A.Audited σ p b) (htx : c.tx = (σ.proc p).tx) (hcode : c.code = some next)
    (hnext : next.Settles A (fun _ b => b.Settled) b')
    (hread : ∀ k, b'.read k = (c.seen k).map fun s => A.obs s k)
    (hb : b' = { b with read := b'.read }) : A.Audited (σ.goOn p c) p b' := by
  have hproc : (σ.goOn p c).proc p = c := State.proc_goOn c
  constructor
  case settles =>
    intro q hq
    rw [hproc, hcode, Option.some.injEq] at hq
    exact hq ▸ hnext
  case idle =>
    intro hnone
    rw [hproc, hcode] at hnone
    cases hnone
  case inTx =>
    rw [hproc, htx, ← h.inTx, hb]
  case read =>
    intro k
    rw [hproc, hread]
  case shifts =>
    have hview : c.view = (σ.proc p).view := by
      unfold Process.view
      rw [htx]
    rw [hproc, hview, hb]
    exact h.shifts
  case released =>
    intro hnone
    rw [hproc, htx] at hnone
    exact h.released hnone

/-- In a transaction: a row is held from now on, and may have been written. -/
theorem goOn_tx {w : S → S} (htx : c.tx = some w) (hin : b'.inTx = true)
    (hcode : c.code = some next) (hnext : next.Settles A (fun _ b => b.Settled) b')
    (hread : ∀ k, b'.read k = (c.seen k).map fun s => A.obs s k)
    (hshifts : A.Shifts (A.committed (σ.hold p k) p) w b'.debt b'.held) :
    A.Audited ((σ.hold p k).goOn p c) p b' := by
  have hproc : ((σ.hold p k).goOn p c).proc p = c := State.proc_goOn c
  constructor
  case settles =>
    intro q hq
    rw [hproc, hcode, Option.some.injEq] at hq
    exact hq ▸ hnext
  case idle =>
    intro hnone
    rw [hproc, hcode] at hnone
    cases hnone
  case inTx => rw [hproc, htx, hin, Option.isSome_some]
  case read =>
    intro k
    rw [hproc, hread]
  case shifts =>
    rw [hproc, Process.view_of_tx htx, Books.gain, if_pos hin]
    exact hshifts
  case released =>
    intro hnone
    rw [hproc, htx] at hnone
    cases hnone

/-- Outside a transaction: what was written is committed. -/
theorem goOn_no_tx (hproc : σ.proc p = c) (htx : c.tx = none) (hin : b.inTx = false)
    (howner : ∀ k, σ.owner k ≠ some p) (hcode : c.code = some next)
    (hnext : next.Settles A (fun _ b => b.Settled) b)
    (hread : ∀ k, b.read k = (c.seen k).map fun s => A.obs s k)
    (hheld : b.held = fun _ => none) : A.Audited σ p b := by
  subst hproc
  constructor
  case settles =>
    intro q hq
    rw [hcode, Option.some.injEq] at hq
    exact hq ▸ hnext
  case idle =>
    intro hnone
    rw [hcode] at hnone
    cases hnone
  case inTx => rw [htx, hin, Option.isSome_none]
  case read => exact hread
  case shifts =>
    rw [committed_of_released howner, Process.view_of_no_tx htx, Books.gain,
      if_neg (by rw [hin]; simp), hheld]
    exact Shifts.id
  case released => exact fun _ => howner

/-- Outside a transaction a request owes something only when it is about to write
a closing row. -/
theorem owed_of_stop (h : A.Audited σ p b) (htx : (σ.proc p).tx = none)
    (hstop : ∀ q ∈ (σ.proc p).code, ∀ k ∈ q.target, ¬A.closing k) : b.owed = 0 := by
  have hin : b.inTx = false := by rw [h.inTx, htx, Option.isSome_none]
  cases hc : (σ.proc p).code with
  | none => exact h.idle hc
  | some q =>
      have hsettles := h.settles q hc
      have hsettled : b.Settled := by
        cases q with
        | done result =>
            cases result with
            | ok a => exact hsettles
            | error e => exact hsettles
        | update k f next => exact hsettles.1 (hstop _ hc k rfl)
        | start next => exact fun _ => hsettles.1
        | _ => exact hsettles.1
      rw [Books.owed, hin]
      exact hsettled hin

end Audited

end Account

/-! ### Interleavings -/

section Steps

variable [DecidableEq K] [DecidableEq P] [AddCommGroup M]

namespace Account

/-- The total is what it was, up to what the requests under way owe. -/
structure Balanced (t : M) (σ : State S K ε P) : Prop where
  valid : A.valid σ.store
  books : ∃ owed : P →₀ M,
    A.total σ.store = t + Finsupp.liftAddHom (fun _ => AddMonoidHom.id M) owed ∧
      ∀ p, ∃ b, A.Audited σ p b ∧ b.owed = owed p

variable {A} {t : M} {σ σ' : State S K ε P} {p : P} {b b' : Books K ρ M} {k : K} {x : M}
  {f : S → S} {next : Program S K ε PUnit}

/-- The next statement, when it writes a row that its process does not hold,
finds the row as the process has read it. A request that stops outside a
transaction is not about to write a closing row. -/
def AsRead (good : R → Prop) (σ : State S K ε P) : Event R P → Prop
  | .request _ r => good r
  | .statement p =>
      ∀ q ∈ (σ.proc p).code, ∀ k ∈ q.target, σ.owner k ≠ some p →
        ∀ s ∈ (σ.proc p).seen k, A.like (A.obs s k) (A.obs σ.store k)
  | .stop p => (σ.proc p).tx = none → ∀ q ∈ (σ.proc p).code, ∀ k ∈ q.target, ¬A.closing k

/-- What an event of `p` does to the total, it does to what `p` owes. -/
structure Posts (σ σ' : State S K ε P) (p : P) (b b' : Books K ρ M) (x : M) : Prop where
  moves : Moves A.obs p σ σ'
  valid : A.valid σ'.store
  audited : A.Audited σ' p b'
  total : A.total σ'.store = A.total σ.store + x
  owed : b'.owed = b.owed + x

theorem balanced_idle {s : S} (hs : A.valid s) :
    A.Balanced (A.total s) (.idle s : State S K ε P) where
  valid := hs
  books := by
    refine ⟨0, by rw [map_zero, add_zero]; rfl, fun p => ⟨Books.blank, ?_, rfl⟩⟩
    exact Audited.blank rfl (fun _ h => by cases h) fun _ h => by cases h

theorem Balanced.of_posts (h : A.Balanced t σ)
    (hp : ∀ b, A.Audited σ p b → ∃ b' x, A.Posts σ σ' p b b' x) : A.Balanced t σ' := by
  obtain ⟨owed, htotal, hbooks⟩ := h.books
  obtain ⟨b, hb, howed⟩ := hbooks p
  obtain ⟨b', x, hposts⟩ := hp b hb
  refine ⟨hposts.valid, owed + Finsupp.single p x, ?_, fun q => ?_⟩
  · rw [hposts.total, htotal, map_add, Finsupp.liftAddHom_apply_single, AddMonoidHom.id_apply,
      add_assoc]
  · by_cases hq : q = p
    · subst hq
      refine ⟨b', hposts.audited, ?_⟩
      rw [hposts.owed, howed, Finsupp.add_apply, Finsupp.single_eq_same]
    · obtain ⟨c, hc, hcowed⟩ := hbooks q
      refine ⟨c, hc.of_moves hposts.moves hq, ?_⟩
      rw [hcowed, Finsupp.add_apply, Finsupp.single_eq_of_ne hq, add_zero]

/-- A statement that moves nothing. -/
theorem posts_goOn {c : Process S K ε} (hvalid : A.valid σ.store)
    (h : A.Audited (σ.goOn p c) p b') (howed : b'.owed = b.owed) :
    A.Posts σ (σ.goOn p c) p b b' 0 where
  moves := moves_goOn
  valid := hvalid
  audited := h
  total := (add_zero _).symm
  owed := by rw [howed, add_zero]

/-- The request is over, and its open transaction is rolled back. -/
theorem posts_release (hvalid : A.valid σ.store) (howed : b.owed = 0) :
    A.Posts σ ((σ.release p).goOn p {}) p b Books.blank 0 where
  moves := moves_release
  valid := hvalid
  audited := by
    refine Audited.blank (State.proc_goOn _) State.owner_release_self ?_
    intro q hq
    cases hq
  total := (add_zero _).symm
  owed := by rw [howed, add_zero]; rfl

/-- A row is locked. -/
theorem posts_lock (hvalid : A.valid σ.store) (h : A.Audited σ p b)
    (hfree : σ.Free p k) (htx : (σ.proc p).tx.isSome)
    (hnext : next.Settles A (fun _ b => b.Settled)
      ((b.hold k (A.obs ((σ.proc p).view σ.store) k)).note k
        (A.obs ((σ.proc p).view σ.store) k))) :
    A.Posts σ ((σ.hold p k).goOn p
        (((σ.proc p).read k ((σ.proc p).view σ.store)).goOn next)) p b
      ((b.hold k (A.obs ((σ.proc p).view σ.store) k)).note k
        (A.obs ((σ.proc p).view σ.store) k)) 0 := by
  obtain ⟨w, hw⟩ := Option.isSome_iff_exists.mp htx
  have hin : b.inTx = true := h.inTx.trans htx
  constructor
  case moves => exact moves_hold hfree
  case valid => exact hvalid
  case audited =>
    refine Audited.goOn_tx hw hin rfl hnext (h.read_note k _) ?_
    have hshifts := h.shifts_hold hvalid k
    rw [Books.gain, if_pos hin, Process.view_of_tx hw] at hshifts
    rw [Process.view_of_tx hw]
    exact hshifts
  case total => exact (add_zero _).symm
  case owed => rw [add_zero]; rfl

/-- A row is written: in the open transaction, or committed at once. -/
theorem posts_write {held : K → Option ρ} (hvalid : A.valid σ.store) (h : A.Audited σ p b)
    (hfree : σ.Free p k)
    (hshifts : A.Shifts (b.hold k (A.obs ((σ.proc p).view σ.store) k)).held f x held)
    (hnext : next.Settles A (fun _ b => b.Settled) (b.wrote k x held)) :
    ∃ y, A.Posts σ (σ.write p k f (((σ.proc p).wrote k).goOn next)) p b (b.wrote k x held) y := by
  have hread := h.read_wrote k x held
  cases htx : (σ.proc p).tx with
  | some w =>
      have hin : b.inTx = true := by rw [h.inTx, htx, Option.isSome_some]
      rw [State.write_of_tx (c := ((σ.proc p).wrote k).goOn next) htx]
      refine ⟨0, moves_hold hfree, hvalid, Audited.goOn_tx rfl hin rfl hnext hread ?_,
        (add_zero _).symm, ?_⟩
      · have hall := (h.shifts_hold hvalid k).trans hshifts
        rw [Books.gain, if_pos hin, Process.view_of_tx htx] at hall
        simp only [Books.wrote, if_pos hin]
        exact hall
      · simp only [Books.owed, Books.wrote, if_pos hin, add_zero]
  | none =>
      have hin : b.inTx = false := by rw [h.inTx, htx, Option.isSome_none]
      rw [State.write_of_no_tx (c := ((σ.proc p).wrote k).goOn next) htx]
      have hall := (h.shifts_hold hvalid k).trans hshifts
      rw [Books.gain, if_neg (by rw [hin]; simp), Process.view_of_no_tx htx, zero_add] at hall
      have hagrees : A.Agrees σ.store (A.committed (σ.hold p k) p) :=
        agrees_committed (σ.hold p k) p
      refine ⟨x, ⟨fun _ hq => Function.update_of_ne hq _ _, fun _ _ _ => Iff.rfl, fun k' => ?_⟩,
        hall.valid _ hvalid hagrees, ?_, hall.total _ hvalid hagrees, ?_⟩
      · by_cases hne : k' = k
        · subst hne
          exact hfree.imp_right Or.inl
        · refine Or.inr (Or.inr (hall.frame _ hvalid hagrees k' ?_))
          rw [committed_hold, Function.update_of_ne hne]
          exact committed_of_not_owner (h.released htx k')
      · refine Audited.goOn_no_tx (State.proc_goOn _) htx hin (h.released htx) rfl hnext hread ?_
        simp only [Books.wrote, hin, Bool.false_eq_true, if_false]
      · simp only [Books.owed, Books.wrote, hin, Bool.false_eq_true, if_false]

/-- A transaction starts. -/
theorem posts_start (hvalid : A.valid σ.store) (h : A.Audited σ p b)
    (htx : (σ.proc p).tx = none) (hdebt : b.debt = 0)
    (hnext : next.Settles A (fun _ b => b.Settled) b.start) :
    A.Posts σ (σ.goOn p { code := some next, tx := some id, seen := (σ.proc p).seen }) p b
      b.start 0 where
  moves := moves_goOn
  valid := hvalid
  audited := by
    have hproc := State.proc_goOn (σ := σ) (p := p)
      { code := some next, tx := some id, seen := (σ.proc p).seen }
    constructor
    case settles =>
      intro q hq
      rw [hproc, Option.some.injEq] at hq
      exact hq ▸ hnext
    case idle =>
      intro hnone
      rw [hproc] at hnone
      cases hnone
    case inTx => rw [hproc]; rfl
    case read =>
      intro k
      rw [hproc]
      exact h.read k
    case shifts =>
      have hheld : b.held = A.committed σ p := by
        rw [committed_of_released (h.released htx)]
        exact funext fun k => h.held_eq_none_iff.mpr (h.released htx k)
      rw [hproc, Process.view_of_tx rfl]
      change A.Shifts (A.committed σ p) id b.debt b.held
      rw [hdebt, hheld]
      exact Shifts.id
    case released =>
      intro hnone
      rw [hproc] at hnone
      cases hnone
  total := (add_zero _).symm
  owed := by
    have hin : b.inTx = false := by rw [h.inTx, htx, Option.isSome_none]
    simp only [Books.owed, Books.start, hin, hdebt, if_true, Bool.false_eq_true, if_false, add_zero]

/-- The transaction is committed. -/
theorem posts_commit {w : S → S} (hvalid : A.valid σ.store) (h : A.Audited σ p b)
    (htx : (σ.proc p).tx = some w)
    (hnext : next.Settles A (fun _ b => b.Settled) b.commit) :
    A.Posts σ (({ σ with store := w σ.store }.release p).goOn p
      { code := some next, seen := (σ.proc p).seen }) p b b.commit b.debt := by
  have hin : b.inTx = true := by rw [h.inTx, htx, Option.isSome_some]
  have hshifts := h.shifts
  rw [Books.gain, if_pos hin, Process.view_of_tx htx] at hshifts
  have hagrees : A.Agrees σ.store (A.committed σ p) := agrees_committed σ p
  constructor
  case moves =>
    exact moves_commit fun k hk => hshifts.frame _ hvalid hagrees k (committed_of_not_owner hk)
  case valid => exact hshifts.valid _ hvalid hagrees
  case audited =>
    exact Audited.goOn_no_tx (State.proc_goOn _) rfl rfl State.owner_release_self rfl hnext
      (fun k => h.read k) rfl
  case total => exact hshifts.total _ hvalid hagrees
  case owed =>
    simp only [Books.owed, Books.commit, hin, Bool.false_eq_true, if_false, if_true, zero_add]

/-- A row that the next statement writes is found as it was read. -/
theorem finds_of_asRead {good : R → Prop} {q : Program S K ε PUnit} (hvalid : A.valid σ.store)
    (h : A.Audited σ p b) (hread : A.AsRead good σ (.statement p))
    (hcode : (σ.proc p).code = some q) (hk : k ∈ q.target) :
    A.Finds b k ((σ.proc p).view σ.store) := by
  intro hnone x hx
  have howner := h.held_eq_none_iff.mp hnone
  rw [h.read, Option.map_eq_some_iff] at hx
  obtain ⟨s, hseen, rfl⟩ := hx
  rw [h.obs_view hvalid howner]
  exact hread q hcode k hk howner s hseen

/-- Each statement of a program that settles. -/
theorem posts_send {good : R → Prop} (hvalid : A.valid σ.store) (h : A.Audited σ p b)
    (hread : A.AsRead good σ (.statement p)) (hs : σ.send p = some σ') :
    ∃ b' x, A.Posts σ σ' p b b' x := by
  have hsees := h.sees hvalid
  cases State.sent_of_send hs with
  | @done result hcode =>
      have hsettles := h.settles _ hcode
      have hsettled : b.Settled := by
        cases result with
        | ok a => exact hsettles
        | error e => exact hsettles
      refine ⟨_, 0, posts_release hvalid ?_⟩
      unfold Books.owed
      split
      · rfl
      · next hin => exact hsettled (Bool.eq_false_iff.mpr hin)
  | @read k next hcode =>
      have hsettles := h.settles _ hcode
      have hnoted := h.goOn (c := ((σ.proc p).read k ((σ.proc p).view σ.store)).goOn _)
        rfl rfl (hsettles.2 _ hsees) (h.read_note k _) rfl
      exact ⟨_, 0, posts_goOn hvalid hnoted rfl⟩
  | query hcode =>
      have hsettles := h.settles _ hcode
      exact ⟨b, 0, posts_goOn hvalid (h.goOn rfl rfl (hsettles.2 _ hsees) h.read rfl) rfl⟩
  | lock hcode hfree htx hfound =>
      have hnext := (h.settles _ hcode).2 _ hsees
      rw [if_pos hfound] at hnext
      exact ⟨_, 0, posts_lock hvalid h hfree htx hnext⟩
  | @miss k found next hcode _ _ hfound =>
      have hnext := (h.settles _ hcode).2 _ hsees
      rw [if_neg hfound] at hnext
      have hnoted := h.goOn (c := ((σ.proc p).read k ((σ.proc p).view σ.store)).goOn _)
        rfl rfl hnext (h.read_note k _) rfl
      exact ⟨_, 0, posts_goOn hvalid hnoted rfl⟩
  | update hcode hfree =>
      have hfinds := finds_of_asRead hvalid h hread hcode rfl
      obtain ⟨x, held, hshifts, hnext⟩ := (h.settles _ hcode).2 _ hsees hfinds
      exact ⟨_, posts_write hvalid h hfree hshifts hnext⟩
  | insert hcode hfree hf =>
      have hfinds := finds_of_asRead hvalid h hread hcode rfl
      obtain ⟨x, held, hshifts, hnext⟩ := (h.settles _ hcode).2 _ _ hsees hfinds hf
      exact ⟨_, posts_write hvalid h hfree hshifts hnext⟩
  | refuse hcode _ _ =>
      exact ⟨b, 0, posts_goOn hvalid (h.goOn rfl rfl (h.settles _ hcode).1 h.read rfl) rfl⟩
  | start hcode htx =>
      have hsettles := h.settles _ hcode
      exact ⟨_, 0, posts_start hvalid h htx hsettles.1 hsettles.2⟩
  | commit hcode htx => exact ⟨_, _, posts_commit hvalid h htx (h.settles _ hcode).2⟩

/-- The step lemma: programs that settle keep the total balanced. -/
theorem Balanced.step {program : R → Program S K ε PUnit} {good : R → Prop}
    (hprog : ∀ r, good r → (program r).Settles A (fun _ b => b.Settled) Books.blank)
    {e : Event R P} (h : A.Balanced t σ) (hread : A.AsRead good σ e)
    (hs : σ.next program e = some σ') : A.Balanced t σ' := by
  cases e with
  | request p r =>
      unfold State.next at hs
      simp only at hs
      split at hs
      · next hcode htx =>
        cases hs
        refine h.of_posts fun b hb => ⟨Books.blank, 0, moves_goOn, h.valid, ?_,
          (add_zero _).symm, by rw [hb.idle hcode]; exact (add_zero _).symm⟩
        refine Audited.blank (State.proc_goOn _) (hb.released htx) ?_
        rintro q ⟨⟩
        exact hprog r hread
      · cases hs
  | statement p => exact h.of_posts fun b hb => posts_send h.valid hb hread hs
  | stop p =>
      cases hs
      refine h.of_posts fun b hb => ⟨_, 0, posts_release h.valid ?_⟩
      cases htx : (σ.proc p).tx with
      | none => exact hb.owed_of_stop htx (hread htx)
      | some w =>
          have hin : b.inTx = true := by rw [hb.inTx, htx, Option.isSome_some]
          rw [Books.owed, if_pos hin]

/-- The run lemma: once every request has finished, the total is what it was. -/
theorem total_of_finished {program : R → Program S K ε PUnit} {good : R → Prop}
    (hprog : ∀ r, good r → (program r).Settles A (fun _ b => b.Settled) Books.blank) {s : S}
    (hs : A.valid s)
    (hl : ((interleavings P program).restrict (A.AsRead good)).Leads (.idle s) σ)
    (hdone : ∀ p, (σ.proc p).code = none) : A.valid σ.store ∧ A.total σ.store = A.total s := by
  have hbalanced : A.Balanced (A.total s) σ := by
    have hinit : ((interleavings P program).restrict (A.AsRead good)).Reachable (.idle s) :=
      .init ⟨s, rfl⟩
    refine hl.stable (P := A.Balanced (A.total s)) ?_ hinit (balanced_idle hs)
    exact fun _ _ _ _ h hstep => h.step hprog hstep.1 hstep.2
  obtain ⟨owed, htotal, hbooks⟩ := hbalanced.books
  have hzero : owed = 0 := by
    ext p
    obtain ⟨b, hb, howed⟩ := hbooks p
    rw [← howed, hb.idle (hdone p), Finsupp.zero_apply]
  rw [htotal, hzero, map_zero, add_zero]
  exact ⟨hbalanced.valid, rfl⟩

end Account

end Steps

end Concurrency
