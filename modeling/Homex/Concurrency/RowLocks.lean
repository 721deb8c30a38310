import Homex.Concurrency.Interleaving
import Mathlib.Order.Defs.Unbundled

/-!
# Row locks keep what each program keeps

`obs s k` is what is observed of the row `k`, and `ok` relates the values it may
take from one commit to the next. A program keeps `ok` when each of its updates
takes the version of the row it last read to an allowed value. That is a
property of the program alone. It is enough for the interleavings when every
update finds the row as it was read: a row that the program locked before it
read it is as it was, and `Fresh` asks it of the others.

The invariant says of each process, for itself, how its open transaction and its
versions of the rows relate to the committed store. The writes of the others
leave the rows it holds alone, so they keep the invariant.
-/

namespace Concurrency

universe u v

variable {S K ε R P α β : Type u} {ρ : Type v} (obs : S → K → ρ)

/-- A write of the row `k` alone, whose new value `g` takes from the old one. -/
structure Writes (k : K) (f : S → S) (g : ρ → ρ) : Prop where
  row : ∀ s, obs (f s) k = g (obs s k)
  frame : ∀ s k', k' ≠ k → obs (f s) k' = obs s k'

variable {obs} in
/-- Rows observed alike are written alike. -/
theorem Writes.congr {k : K} {f : S → S} {g : ρ → ρ} (h : Writes obs k f g) {s s' : S} {k' : K}
    (heq : obs s k' = obs s' k') : obs (f s) k' = obs (f s') k' := by
  by_cases hk : k' = k
  · subst hk
    rw [h.row, h.row, heq]
  · rw [h.frame s k' hk, h.frame s' k' hk, heq]

variable (ok : ρ → ρ → Prop)

section Programs

variable [DecidableEq K]

/-- An update whose new value is allowed after the version that was read, or
after any. -/
def Allowed (k : K) (f : S → S) (version : Option S) : Prop :=
  ∃ g, Writes obs k f g ∧
    ((∀ x, ok x (g x)) ∨ ∃ s, version = some s ∧ ok (obs s k) (g (obs s k)))

/-- Each update of the program is allowed, whatever its statements are answered,
and a result is reached with `Q`. -/
def Program.Keeps (Q : α → (K → Option S) → Prop) :
    Program S K ε α → (K → Option S) → Prop
  | .done (.ok a), seen => Q a seen
  | .done (.error _), _ => True
  | .read k next, seen => ∀ s, (next s).Keeps Q (Function.update seen k (some s))
  | .query next, seen => ∀ s, (next s).Keeps Q seen
  | .lock k _ next, seen => ∀ s, (next s).Keeps Q (Function.update seen k (some s))
  | .update k f next, seen =>
      Allowed obs ok k f (seen k) ∧ next.Keeps Q (Function.update seen k none)
  | .insert k f _ next, seen =>
      (∀ s s', f s = some s' → obs s' = obs s) ∧ next.Keeps Q (Function.update seen k none)
  | .start next, seen => next.Keeps Q seen
  | .commit next, seen => next.Keeps Q seen

namespace Program

variable {obs ok} {Q Q' : α → (K → Option S) → Prop} {seen : K → Option S}

theorem Keeps.mono (hQ : ∀ a seen, Q a seen → Q' a seen) {p : Program S K ε α}
    (h : p.Keeps obs ok Q seen) : p.Keeps obs ok Q' seen := by
  induction p generalizing seen with
  | done result =>
      cases result with
      | ok a => exact hQ a seen h
      | error e => trivial
  | read k next ih => exact fun s => ih s (h s)
  | query next ih => exact fun s => ih s (h s)
  | lock k found next ih => exact fun s => ih s (h s)
  | update k f next ih => exact ⟨h.1, ih h.2⟩
  | insert k f e next ih => exact ⟨h.1, ih h.2⟩
  | start next ih => exact ih h
  | commit next ih => exact ih h

/-- The sequence rule. -/
theorem keeps_bind {Q : β → (K → Option S) → Prop} {p : Program S K ε α}
    {f : α → Program S K ε β} :
    (p >>= f).Keeps obs ok Q seen ↔
      p.Keeps obs ok (fun a seen' => (f a).Keeps obs ok Q seen') seen := by
  change (p.bind f).Keeps obs ok Q seen ↔ _
  induction p generalizing seen with
  | done result =>
      cases result with
      | ok a => exact Iff.rfl
      | error e => exact Iff.rfl
  | read k next ih => exact forall_congr' fun s => ih s
  | query next ih => exact forall_congr' fun s => ih s
  | lock k found next ih => exact forall_congr' fun s => ih s
  | update k f next ih => exact and_congr_right fun _ => ih
  | insert k f e next ih => exact and_congr_right fun _ => ih
  | start next ih => exact ih
  | commit next ih => exact ih

theorem keeps_done {result : Except ε α} :
    (done result : Program S K ε α).Keeps obs ok Q seen ↔ ∀ a, result = .ok a → Q a seen := by
  cases result with
  | error e => simp [Keeps]
  | ok a => simp [Keeps]

@[simp] theorem keeps_map {Q : β → (K → Option S) → Prop} {p : Program S K ε α} {f : α → β} :
    (f <$> p).Keeps obs ok Q seen ↔ p.Keeps obs ok (fun a => Q (f a)) seen :=
  keeps_bind (f := fun a => pure (f a))

@[simp] theorem keeps_pure {a : α} :
    (pure a : Program S K ε α).Keeps obs ok Q seen ↔ Q a seen := Iff.rfl

@[simp] theorem keeps_raise {e : ε} :
    (raise e : Program S K ε α).Keeps obs ok Q seen ↔ True := Iff.rfl

@[simp] theorem keeps_ite {c : Prop} [Decidable c] {p q : Program S K ε α} :
    (if c then p else q).Keeps obs ok Q seen ↔
      (c → p.Keeps obs ok Q seen) ∧ (¬c → q.Keeps obs ok Q seen) := by
  by_cases hc : c
  · simp [hc]
  · simp [hc]

@[simp] theorem keeps_require {c : Prop} [Decidable c] {e : ε}
    {Q : PUnit → (K → Option S) → Prop} :
    (require c e : Program S K ε PUnit).Keeps obs ok Q seen ↔ (c → Q ⟨⟩ seen) := by
  unfold require
  simp

@[simp] theorem keeps_found {e : ε} {a? : Option α} :
    (found e a? : Program S K ε α).Keeps obs ok Q seen ↔ ∀ a, a? = some a → Q a seen := by
  cases a? with
  | none => simp [found]
  | some a => simp [found]

@[simp] theorem keeps_fetch {k : K} {row : S → Option α} {e : ε} :
    (fetch k row e).Keeps obs ok Q seen ↔
      ∀ s a, row s = some a → Q a (Function.update seen k (some s)) :=
  forall_congr' fun _ => keeps_found

@[simp] theorem keeps_fetchForUpdate {k : K} {row : S → Option α} {e : ε} :
    (fetchForUpdate k row e).Keeps obs ok Q seen ↔
      ∀ s a, row s = some a → Q a (Function.update seen k (some s)) :=
  forall_congr' fun _ => keeps_found

@[simp] theorem keeps_write {k : K} {f : S → S} {Q : PUnit → (K → Option S) → Prop} :
    (write k f : Program S K ε PUnit).Keeps obs ok Q seen ↔
      Allowed obs ok k f (seen k) ∧ Q ⟨⟩ (Function.update seen k none) := Iff.rfl

@[simp] theorem keeps_create {k : K} {f : S → Option S} {e : ε}
    {Q : PUnit → (K → Option S) → Prop} :
    (create k f e : Program S K ε PUnit).Keeps obs ok Q seen ↔
      (∀ s s', f s = some s' → obs s' = obs s) ∧ Q ⟨⟩ (Function.update seen k none) := Iff.rfl

@[simp] theorem keeps_atomic {p : Program S K ε α} :
    (atomic p).Keeps obs ok Q seen ↔ p.Keeps obs ok Q seen :=
  keeps_bind (f := fun a => .commit (pure a))

end Program

end Programs

/-! ### The invariant of one process -/

/-- How a process stands to the committed store, holding the rows `held`. -/
structure Consistent [DecidableEq K] (s : S) (held : K → Prop) (c : Process S K ε) : Prop where
  /-- What it still sends keeps `ok`. -/
  keeps : ∀ p, c.code = some p → p.Keeps obs ok (fun _ _ => True) c.seen
  /-- Its open transaction has written rows it holds, -/
  frame : ∀ t k, ¬held k → obs (c.view t) k = obs t k
  /-- each from its old value, -/
  congr : ∀ t t' k, obs t k = obs t' k → obs (c.view t) k = obs (c.view t') k
  /-- to an allowed one. -/
  allowed : ∀ k, ok (obs s k) (obs (c.view s) k)
  /-- A row it holds is as it was read. -/
  current : ∀ k t, held k → c.seen k = some t → obs t k = obs (c.view s) k
  /-- Rows are held in a transaction. -/
  held_tx : c.tx = none → ∀ k, ¬held k

namespace Consistent

variable {obs ok} [DecidableEq K] {s s' : S} {held held' : K → Prop} {c : Process S K ε}
  {k : K} {F : S → S} {next : Program S K ε PUnit}

/-- The other processes leave the rows it holds alone. -/
theorem of_store [Std.Refl ok] (h : Consistent obs ok s held c)
    (hs : ∀ k, held k → obs s' k = obs s k) : Consistent obs ok s' held c where
  keeps := h.keeps
  frame := h.frame
  congr := h.congr
  allowed := by
    intro k
    by_cases hk : held k
    · rw [h.congr s' s k (hs k hk), hs k hk]
      exact h.allowed k
    · rw [h.frame s' k hk]
      exact Std.Refl.refl _
  current := by
    intro k t hk ht
    rw [h.congr s' s k (hs k hk)]
    exact h.current k t hk ht
  held_tx := h.held_tx

/-- A program goes on with nothing read or written. -/
theorem goOn (h : Consistent obs ok s held c)
    (hnext : next.Keeps obs ok (fun _ _ => True) c.seen) :
    Consistent obs ok s held (c.goOn next) where
  keeps := by
    intro p hp
    cases hp
    exact hnext
  frame := h.frame
  congr := h.congr
  allowed := h.allowed
  current := h.current
  held_tx := h.held_tx

/-- A row was read, and may be held from now on. -/
theorem read (h : Consistent obs ok s held c)
    (hnext : next.Keeps obs ok (fun _ _ => True) (c.read k (c.view s)).seen)
    (hsub : ∀ k', held k' → held' k') (hsup : ∀ k', held' k' → held k' ∨ k' = k)
    (htx : c.tx = none → ∀ k', ¬held' k') :
    Consistent obs ok s held' ((c.read k (c.view s)).goOn next) where
  keeps := by
    intro p hp
    cases hp
    exact hnext
  frame := by
    intro t k' hk'
    exact h.frame t k' (mt (hsub k') hk')
  congr := h.congr
  allowed := h.allowed
  current := by
    intro k' t hk' ht
    change Function.update c.seen k (some (c.view s)) k' = some t at ht
    by_cases heq : k' = k
    · subst heq
      rw [Function.update_self, Option.some.injEq] at ht
      subst ht
      rfl
    · rw [Function.update_of_ne heq] at ht
      exact h.current k' t ((hsup k' hk').resolve_right heq) ht
  held_tx := htx

/-- A row was written in the open transaction, and is held from now on. -/
theorem write_tx [IsTrans ρ ok] {w : S → S} (h : Consistent obs ok s held c)
    (htx : c.tx = some w)
    (hnext : next.Keeps obs ok (fun _ _ => True) (c.wrote k).seen)
    (hframe : ∀ t k', k' ≠ k → obs (F t) k' = obs t k')
    (hcongr : ∀ t t' k', obs t k' = obs t' k' → obs (F t) k' = obs (F t') k')
    (hok : ∀ k', ok (obs (c.view s) k') (obs (F (c.view s)) k'))
    (hheld : ∀ k', held' k' ↔ held k' ∨ k' = k) :
    Consistent obs ok s held'
      { code := some next, tx := some fun s => F (w s), seen := (c.wrote k).seen } := by
  have hview : ∀ t, Process.view
      { code := some next, tx := some fun s => F (w s), seen := (c.wrote k).seen } t =
        F (c.view t) := by
    intro t
    simp only [Process.view, htx, Option.getD_some]
  constructor
  case keeps =>
    intro p hp
    cases hp
    exact hnext
  case frame =>
    intro t k' hk'
    rw [hheld, not_or] at hk'
    rw [hview, hframe _ _ hk'.2, h.frame t k' hk'.1]
  case congr =>
    intro t t' k' heq
    rw [hview, hview]
    exact hcongr _ _ _ (h.congr t t' k' heq)
  case allowed =>
    intro k'
    rw [hview]
    exact trans_of ok (h.allowed k') (hok k')
  case current =>
    intro k' t hk' ht
    change Function.update c.seen k none k' = some t at ht
    have hne : k' ≠ k := by
      rintro rfl
      rw [Function.update_self] at ht
      cases ht
    rw [Function.update_of_ne hne] at ht
    rw [hview, hframe _ _ hne]
    exact h.current k' t (((hheld k').mp hk').resolve_right hne) ht
  case held_tx =>
    intro hnone
    cases hnone

/-- Outside a transaction a process sees what is committed, and holds nothing. -/
theorem of_no_tx [Std.Refl ok] (htx : c.tx = none)
    (hkeeps : ∀ p, c.code = some p → p.Keeps obs ok (fun _ _ => True) c.seen)
    (hheld : ∀ k, ¬held k) : Consistent obs ok s held c := by
  obtain ⟨code, tx, seen⟩ := c
  subst htx
  exact
    { keeps := hkeeps
      frame := fun _ _ _ => rfl
      congr := fun _ _ _ heq => heq
      allowed := fun _ => Std.Refl.refl _
      current := fun k _ hk => absurd hk (hheld k)
      held_tx := fun _ => hheld }

/-- A transaction starts. -/
theorem start [Std.Refl ok] (h : Consistent obs ok s held c) (htx : c.tx = none)
    (hnext : next.Keeps obs ok (fun _ _ => True) c.seen) :
    Consistent obs ok s held { code := some next, tx := some id, seen := c.seen } where
  keeps := by
    intro p hp
    cases hp
    exact hnext
  frame _ _ _ := rfl
  congr _ _ _ heq := heq
  allowed _ := Std.Refl.refl _
  current := by
    intro k t hk
    exact absurd hk (h.held_tx htx k)
  held_tx := by
    intro hnone
    cases hnone

end Consistent

/-! ### Interleavings -/

section Steps

variable [DecidableEq K] [DecidableEq P]

/-- Each process stands well to the committed store. -/
def Coherent (σ : State S K ε P) : Prop :=
  ∀ p, Consistent obs ok σ.store (fun k => σ.owner k = some p) (σ.proc p)

/-- The next statement, when it updates a row that its process does not hold,
finds the row as the process has read it, or one that may take any value. -/
def State.Fresh (σ : State S K ε P) : Event R P → Prop
  | .statement p =>
      ∀ k f next, (σ.proc p).code = some (.update k f next) → σ.owner k ≠ some p →
        ∀ s, (σ.proc p).seen k = some s →
          obs s k = obs σ.store k ∨ ∀ x, ok (obs σ.store k) x
  | _ => True

/-- What an event of `p` leaves to the others: their code, the rows they hold,
and what is committed in these. -/
structure Moves (p : P) (σ σ' : State S K ε P) : Prop where
  proc : ∀ q, q ≠ p → σ'.proc q = σ.proc q
  owner : ∀ q, q ≠ p → ∀ k, σ'.owner k = some q ↔ σ.owner k = some q
  store : ∀ k, σ.owner k = none ∨ σ.owner k = some p ∨ obs σ'.store k = obs σ.store k

variable {obs ok} {σ σ' : State S K ε P} {p : P} {k : K} {f : S → S}

omit [DecidableEq P] in
theorem coherent_idle [Std.Refl ok] (s : S) : Coherent obs ok (.idle s : State S K ε P) := by
  intro p
  refine Consistent.of_no_tx rfl ?_ fun _ hk => by cases hk
  intro q hq
  cases hq

/-- An event keeps the invariant when it keeps it for its own process. -/
theorem Coherent.of_moves [Std.Refl ok] (h : Coherent obs ok σ) (hm : Moves obs p σ σ')
    (hp : Consistent obs ok σ'.store (fun k => σ'.owner k = some p) (σ'.proc p)) :
    Coherent obs ok σ' := by
  intro q
  by_cases hq : q = p
  · subst hq
    exact hp
  · have hown : (fun k => σ'.owner k = some q) = fun k => σ.owner k = some q := by
      funext k
      exact propext (hm.owner q hq k)
    rw [hm.proc q hq, hown]
    refine (h q).of_store fun k hk => ?_
    rcases hm.store k with hnone | hsome | hsame
    · rw [hk] at hnone
      cases hnone
    · rw [hk, Option.some.injEq] at hsome
      exact absurd hsome hq
    · exact hsame

section Moves

variable {c : Process S K ε}

omit [DecidableEq K] in
theorem moves_goOn : Moves obs p σ (σ.goOn p c) where
  proc _ hq := Function.update_of_ne hq _ _
  owner _ _ _ := Iff.rfl
  store _ := Or.inr (Or.inr rfl)

theorem moves_hold (hfree : σ.Free p k) : Moves obs p σ ((σ.hold p k).goOn p c) where
  proc _ hq := Function.update_of_ne hq _ _
  owner _ hq k' := State.owner_hold hfree hq k'
  store _ := Or.inr (Or.inr rfl)

omit [DecidableEq K] in
theorem moves_release : Moves obs p σ ((σ.release p).goOn p c) where
  proc _ hq := Function.update_of_ne hq _ _
  owner _ hq k := State.owner_release hq k
  store _ := Or.inr (Or.inr rfl)

theorem moves_write (hfree : σ.Free p k)
    (hframe : ∀ s k', k' ≠ k → obs (f s) k' = obs s k') :
    Moves obs p σ (σ.write p k f c) := by
  cases htx : c.tx with
  | some w =>
      rw [State.write_of_tx htx]
      exact moves_hold hfree
  | none =>
      rw [State.write_of_no_tx htx]
      constructor
      case proc => exact fun _ hq => Function.update_of_ne hq _ _
      case owner => exact fun _ _ _ => Iff.rfl
      case store =>
        intro k'
        by_cases hk : k' = k
        · subst hk
          exact hfree.imp_right Or.inl
        · exact Or.inr (Or.inr (hframe _ _ hk))

omit [DecidableEq K] in
theorem moves_commit {w : S → S}
    (hw : ∀ k, σ.owner k ≠ some p → obs (w σ.store) k = obs σ.store k) :
    Moves obs p σ (({ σ with store := w σ.store }.release p).goOn p c) where
  proc _ hq := Function.update_of_ne hq _ _
  owner _ hq k := State.owner_release (σ := { σ with store := w σ.store }) hq k
  store k := by
    by_cases hk : σ.owner k = some p
    · exact Or.inr (Or.inl hk)
    · exact Or.inr (Or.inr (hw k hk))

end Moves

namespace Coherent

variable {c : Process S K ε} {next : Program S K ε PUnit}

theorem goOn [Std.Refl ok] (h : Coherent obs ok σ)
    (hc : Consistent obs ok σ.store (fun k => σ.owner k = some p) c) :
    Coherent obs ok (σ.goOn p c) := by
  refine h.of_moves moves_goOn ?_
  rw [State.proc_goOn]
  exact hc

theorem hold [Std.Refl ok] (h : Coherent obs ok σ) (hfree : σ.Free p k)
    (hc : Consistent obs ok σ.store (fun k' => σ.owner k' = some p ∨ k' = k) c) :
    Coherent obs ok ((σ.hold p k).goOn p c) := by
  refine h.of_moves (moves_hold hfree) ?_
  rw [State.proc_goOn]
  have hown : (fun k' => (σ.hold p k).owner k' = some p) =
      fun k' => σ.owner k' = some p ∨ k' = k := by
    funext k'
    exact propext (State.owner_hold_self k')
  change Consistent obs ok σ.store (fun k' => (σ.hold p k).owner k' = some p) c
  rw [hown]
  exact hc

theorem release [Std.Refl ok] (h : Coherent obs ok σ)
    (hkeeps : ∀ q, c.code = some q → q.Keeps obs ok (fun _ _ => True) c.seen)
    (htx : c.tx = none) : Coherent obs ok ((σ.release p).goOn p c) := by
  refine h.of_moves moves_release ?_
  rw [State.proc_goOn]
  exact Consistent.of_no_tx htx hkeeps State.owner_release_self

/-- A write of the row `k` that takes what its process sees to allowed values. -/
theorem write [Std.Refl ok] [IsTrans ρ ok] (h : Coherent obs ok σ) (hfree : σ.Free p k)
    (hnext : next.Keeps obs ok (fun _ _ => True) ((σ.proc p).wrote k).seen)
    (hframe : ∀ s k', k' ≠ k → obs (f s) k' = obs s k')
    (hcongr : ∀ s t k', obs s k' = obs t k' → obs (f s) k' = obs (f t) k')
    (hok : ∀ k', ok (obs ((σ.proc p).view σ.store) k') (obs (f ((σ.proc p).view σ.store)) k')) :
    Coherent obs ok (σ.write p k f (((σ.proc p).wrote k).goOn next)) := by
  cases htx : (σ.proc p).tx with
  | some w =>
      rw [State.write_of_tx (c := ((σ.proc p).wrote k).goOn next) htx]
      exact h.hold hfree ((h p).write_tx htx hnext hframe hcongr hok fun _ => Iff.rfl)
  | none =>
      refine h.of_moves (moves_write hfree hframe) ?_
      rw [State.write_of_no_tx (c := ((σ.proc p).wrote k).goOn next) htx, State.proc_goOn]
      refine Consistent.of_no_tx htx ?_ ((h p).held_tx htx)
      rintro q ⟨⟩
      exact hnext

theorem commit [Std.Refl ok] {w : S → S} (h : Coherent obs ok σ) (htx : (σ.proc p).tx = some w)
    (hnext : next.Keeps obs ok (fun _ _ => True) (σ.proc p).seen) :
    Coherent obs ok (({ σ with store := w σ.store }.release p).goOn p
      { code := some next, seen := (σ.proc p).seen }) := by
  have hview : ∀ s, (σ.proc p).view s = w s := by
    intro s
    simp only [Process.view, htx, Option.getD_some]
  refine h.of_moves (moves_commit fun k hk => ?_) ?_
  · rw [← hview]
    exact (h p).frame _ k hk
  · rw [State.proc_goOn]
    refine Consistent.of_no_tx rfl ?_ State.owner_release_self
    rintro q ⟨⟩
    exact hnext

/-- What an update may do to the row as the process sees it. -/
theorem ok_of_allowed (h : Coherent obs ok σ) {version : Option S}
    (hver : version = (σ.proc p).seen k) (hallowed : Allowed obs ok k f version)
    (hfresh : σ.owner k ≠ some p → ∀ s, (σ.proc p).seen k = some s →
      obs s k = obs σ.store k ∨ ∀ x, ok (obs σ.store k) x) :
    ok (obs ((σ.proc p).view σ.store) k) (obs (f ((σ.proc p).view σ.store)) k) := by
  obtain ⟨g, hw, hg | ⟨s, hs, hg⟩⟩ := hallowed
  · rw [hw.row]
    exact hg _
  · rw [hver] at hs
    rw [hw.row]
    by_cases hheld : σ.owner k = some p
    · rw [← (h p).current k s hheld hs]
      exact hg
    · rw [(h p).frame _ k hheld]
      rcases hfresh hheld s hs with heq | hany
      · rw [← heq]
        exact hg
      · exact hany _

theorem send [Std.Refl ok] [IsTrans ρ ok] (h : Coherent obs ok σ)
    (hfresh : σ.Fresh obs ok (.statement p : Event R P)) (hs : σ.send p = some σ') :
    Coherent obs ok σ' := by
  cases State.sent_of_send hs with
  | done _ => exact h.release (by rintro q ⟨⟩) rfl
  | read hcode =>
      have hkeeps := (h p).keeps _ hcode
      exact h.goOn ((h p).read (hkeeps _) (fun _ => id) (fun _ => Or.inl) (h p).held_tx)
  | query hcode => exact h.goOn ((h p).goOn ((h p).keeps _ hcode _))
  | lock hcode hfree htx _ =>
      have hkeeps := (h p).keeps _ hcode
      exact h.hold hfree ((h p).read (hkeeps _) (fun _ => Or.inl) (fun _ => id)
        fun hnone => absurd hnone (Option.isSome_iff_ne_none.mp htx))
  | miss hcode _ _ _ =>
      have hkeeps := (h p).keeps _ hcode
      exact h.goOn ((h p).read (hkeeps _) (fun _ => id) (fun _ => Or.inl) (h p).held_tx)
  | @update k f next hcode hfree =>
      have hkeeps := (h p).keeps _ hcode
      have hok := h.ok_of_allowed rfl hkeeps.1 (hfresh k f next hcode)
      obtain ⟨g, hw, -⟩ := hkeeps.1
      refine h.write hfree hkeeps.2 hw.frame (fun _ _ _ => hw.congr) fun k' => ?_
      by_cases hk : k' = k
      · subst hk
        exact hok
      · rw [hw.frame _ _ hk]
        exact Std.Refl.refl _
  | @insert k f e next s hcode hfree _ =>
      have hkeeps := (h p).keeps _ hcode
      have hsame : ∀ s, obs ((f s).getD s) = obs s := by
        intro s
        cases hf : f s with
        | none => rfl
        | some s' => exact hkeeps.1 s s' hf
      refine h.write hfree hkeeps.2 (fun s k' _ => congrFun (hsame s) k') ?_ fun k' => ?_
      · intro s t k' heq
        rw [hsame, hsame]
        exact heq
      · rw [hsame]
        exact Std.Refl.refl _
  | refuse _ _ _ => exact h.goOn ((h p).goOn trivial)
  | start hcode htx =>
      have hkeeps := (h p).keeps _ hcode
      exact h.goOn ((h p).start htx hkeeps)
  | commit hcode htx =>
      have hkeeps := (h p).keeps _ hcode
      exact h.commit htx hkeeps

/-- What a statement commits is allowed. -/
theorem committed [Std.Refl ok] (h : Coherent obs ok σ)
    (hfresh : σ.Fresh obs ok (.statement p : Event R P)) (hs : σ.send p = some σ') (k : K) :
    ok (obs σ.store k) (obs σ'.store k) := by
  cases State.commits_of_send hs with
  | same hstore =>
      rw [hstore]
      exact Std.Refl.refl _
  | @update k' f next hcode htx hstore =>
      have hkeeps := (h p).keeps _ hcode
      have hok := h.ok_of_allowed rfl hkeeps.1 (hfresh k' f next hcode)
      obtain ⟨g, hw, -⟩ := hkeeps.1
      rw [hstore]
      by_cases hk : k = k'
      · subst hk
        rw [Process.view, htx] at hok
        exact hok
      · rw [hw.frame _ _ hk]
        exact Std.Refl.refl _
  | insert hcode htx hstore =>
      rw [((h p).keeps _ hcode).1 _ _ hstore]
      exact Std.Refl.refl _
  | @commit next w hcode htx hstore =>
      have hallowed := (h p).allowed k
      rw [Process.view, htx] at hallowed
      rw [hstore]
      exact hallowed

/-- The step lemma: programs that keep `ok` keep it when their updates are fresh. -/
theorem step [Std.Refl ok] [IsTrans ρ ok] {program : R → Program S K ε PUnit} {e : Event R P}
    (hprog : ∀ r, (program r).Keeps obs ok (fun _ _ => True) fun _ => none)
    (h : Coherent obs ok σ) (hfresh : σ.Fresh obs ok e) (hs : σ.next program e = some σ') :
    Coherent obs ok σ' ∧ ∀ k, ok (obs σ.store k) (obs σ'.store k) := by
  cases e with
  | request p r =>
      unfold State.next at hs
      simp only at hs
      split at hs
      · next hcode htx =>
        cases hs
        refine ⟨h.goOn (Consistent.of_no_tx rfl ?_ ((h p).held_tx htx)), fun k => Std.Refl.refl _⟩
        rintro q ⟨⟩
        exact hprog r
      · cases hs
  | statement p => exact ⟨h.send hfresh hs, h.committed hfresh hs⟩
  | stop p =>
      cases hs
      exact ⟨h.release (by rintro q ⟨⟩) rfl, fun k => Std.Refl.refl _⟩

end Coherent

section Runs

variable [Std.Refl ok] [IsTrans ρ ok] {program : R → Program S K ε PUnit}

theorem coherent_of_reachable
    (hprog : ∀ r, (program r).Keeps obs ok (fun _ _ => True) fun _ => none)
    (h : ((interleavings P program).restrict fun σ e => σ.Fresh obs ok e).Reachable σ) :
    Coherent obs ok σ := by
  refine Transition.System.Reachable.invariant ?_ ?_ h
  · rintro σ ⟨s, rfl⟩
    exact coherent_idle s
  · intro σ e σ' _ hσ hstep
    exact (hσ.step hprog hstep.1 hstep.2).1

/-- The run lemma: what is committed from then on is allowed. -/
theorem committed_of_leads
    (hprog : ∀ r, (program r).Keeps obs ok (fun _ _ => True) fun _ => none)
    (h : ((interleavings P program).restrict fun σ e => σ.Fresh obs ok e).Reachable σ)
    (hl : ((interleavings P program).restrict fun σ e => σ.Fresh obs ok e).Leads σ σ') (k : K) :
    ok (obs σ.store k) (obs σ'.store k) := by
  refine hl.stable (P := fun σ' => ok (obs σ.store k) (obs σ'.store k)) ?_ h
    (Std.Refl.refl _)
  intro σ₁ e σ₂ hσ₁ hok hstep
  exact trans_of ok hok (((coherent_of_reachable hprog hσ₁).step hprog hstep.1 hstep.2).2 k)

end Runs

end Steps

end Concurrency
