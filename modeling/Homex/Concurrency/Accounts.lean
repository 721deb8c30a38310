import Homex.Concurrency.Program
import Mathlib.Algebra.Group.Basic
import Mathlib.Logic.Function.Basic

/-!
# Programs that settle their accounts

Writes move a total of the store, and a request should leave it as it was: what
one of its writes takes, another one gives back. A program settles when its
writes add up to nothing at every end it may come to outside a transaction. That
is a property of the program alone, shown from what it has read: the values of
the rows it holds are known, and a row it does not hold is as it was read.

A request may owe something between two of its commits; what its open
transaction has written is its own until it is committed.
-/

namespace Concurrency

universe u v w

/-- A total, and what its writes depend on: the values observed of the rows, a
property that every store has, and when two values of a row count as one. Outside
a transaction it may be left to the write of a `closing` row to settle it. -/
structure Account (S K : Type u) (ρ : Type v) (M : Type w) where
  obs : S → K → ρ
  valid : S → Prop
  like : ρ → ρ → Prop
  closing : K → Prop
  total : S → M

/-- What a program knows of the rows it has read and of those it holds, and by
how much it has moved the total: since it started, or in its open transaction. -/
structure Books (K : Type u) (ρ : Type v) (M : Type w) where
  inTx : Bool
  read : K → Option ρ
  held : K → Option ρ
  debt : M

namespace Books

variable {K : Type u} {ρ : Type v} {M : Type w}

/-- Nothing is owed once no transaction is open. -/
def Settled [Zero M] (b : Books K ρ M) : Prop := b.inTx = false → b.debt = 0

/-- What is owed in a transaction is its own. -/
theorem settled_of_inTx [Zero M] {b : Books K ρ M} (hin : b.inTx = true) : b.Settled :=
  fun hout => absurd hin (by rw [hout]; simp)

/-- A new request. -/
def blank [Zero M] : Books K ρ M where
  inTx := false
  read := fun _ => none
  held := fun _ => none
  debt := 0

section Rows

variable [DecidableEq K]

/-- The row was read. -/
def note (b : Books K ρ M) (k : K) (x : ρ) : Books K ρ M :=
  { b with read := Function.update b.read k (some x) }

/-- The row is held. -/
def hold (b : Books K ρ M) (k : K) (x : ρ) : Books K ρ M :=
  { b with held := Function.update b.held k (some x) }

/-- The row was written, and the total moved by `d`. -/
def wrote [Add M] (b : Books K ρ M) (k : K) (d : M) (held : K → Option ρ) : Books K ρ M where
  inTx := b.inTx
  read := Function.update b.read k none
  held := if b.inTx then held else fun _ => none
  debt := b.debt + d

@[simp] theorem read_note_self (b : Books K ρ M) (k : K) (x : ρ) :
    (b.note k x).read k = some x :=
  Function.update_self ..

@[simp] theorem held_hold_self (b : Books K ρ M) (k : K) (x : ρ) :
    (b.hold k x).held k = some x :=
  Function.update_self ..

@[simp] theorem settled_note [Zero M] (b : Books K ρ M) (k : K) (x : ρ) :
    (b.note k x).Settled ↔ b.Settled := Iff.rfl

@[simp] theorem settled_hold [Zero M] (b : Books K ρ M) (k : K) (x : ρ) :
    (b.hold k x).Settled ↔ b.Settled := Iff.rfl

end Rows

/-- A transaction starts. -/
def start (b : Books K ρ M) : Books K ρ M := { b with inTx := true }

@[simp] theorem settled_blank [Zero M] : (blank : Books K ρ M).Settled := fun _ => rfl

@[simp] theorem settled_start [Zero M] (b : Books K ρ M) : b.start.Settled :=
  settled_of_inTx rfl

/-- The transaction is committed. -/
def commit (b : Books K ρ M) : Books K ρ M :=
  { b with inTx := false, held := fun _ => none }

/-- What the open transaction has moved the total by. -/
def gain [Zero M] (b : Books K ρ M) : M := if b.inTx then b.debt else 0

/-- What the program has committed and still has to balance. -/
def owed [Zero M] (b : Books K ρ M) : M := if b.inTx then 0 else b.debt

end Books

variable {S K ε R P α β : Type u} {ρ : Type v} {M : Type w} (A : Account S K ρ M)

namespace Account

/-- The rows have these values. -/
def Agrees (s : S) (held : K → Option ρ) : Prop := ∀ k x, held k = some x → A.obs s k = x

/-- A write that moves the total by `d` where the rows held have these values,
and leaves all others as they are. -/
structure Shifts [Add M] (held : K → Option ρ) (f : S → S) (d : M) (held' : K → Option ρ) :
    Prop where
  rows : ∀ k, (held' k).isSome = (held k).isSome
  valid : ∀ s, A.valid s → A.Agrees s held → A.valid (f s)
  total : ∀ s, A.valid s → A.Agrees s held → A.total (f s) = A.total s + d
  agrees : ∀ s, A.valid s → A.Agrees s held → A.Agrees (f s) held'
  frame : ∀ s, A.valid s → A.Agrees s held → ∀ k, held k = none → A.obs (f s) k = A.obs s k

/-- A store that the program may see. -/
structure Sees (b : Books K ρ M) (s : S) : Prop where
  valid : A.valid s
  agrees : A.Agrees s b.held

/-- A row that is not held is as it was read. -/
def Finds (b : Books K ρ M) (k : K) (s : S) : Prop :=
  b.held k = none → ∀ x, b.read k = some x → A.like x (A.obs s k)

namespace Shifts

variable {A} {held held' held'' : K → Option ρ} {f g : S → S} {d e : M}

theorem id [AddZeroClass M] : A.Shifts held id 0 held where
  rows _ := rfl
  valid _ hs _ := hs
  total _ _ _ := (add_zero _).symm
  agrees _ _ h := h
  frame _ _ _ _ _ := rfl

theorem trans [AddSemigroup M] (h : A.Shifts held f d held') (h' : A.Shifts held' g e held'') :
    A.Shifts held (fun s => g (f s)) (d + e) held'' where
  rows k := (h'.rows k).trans (h.rows k)
  valid s hs ha := h'.valid _ (h.valid s hs ha) (h.agrees s hs ha)
  total s hs ha := by
    rw [h'.total _ (h.valid s hs ha) (h.agrees s hs ha), h.total s hs ha, add_assoc]
  agrees s hs ha := h'.agrees _ (h.valid s hs ha) (h.agrees s hs ha)
  frame s hs ha k hk := by
    have hk' : held' k = none := by
      rw [← Option.not_isSome_iff_eq_none, h.rows, hk]
      exact Bool.false_ne_true
    rw [h'.frame _ (h.valid s hs ha) (h.agrees s hs ha) k hk', h.frame s hs ha k hk]

/-- The frame rule: a row that the write leaves alone keeps its value. -/
theorem hold [Add M] [DecidableEq K] {k : K} (h : A.Shifts held f d held') (hk : held k = none)
    (x : ρ) :
    A.Shifts (Function.update held k (some x)) f d (Function.update held' k (some x)) := by
  have hagrees : ∀ s, A.Agrees s (Function.update held k (some x)) → A.Agrees s held := by
    intro s ha k' y hy
    have hne : k' ≠ k := by
      rintro rfl
      rw [hk] at hy
      cases hy
    exact ha k' y (by rwa [Function.update_of_ne hne])
  constructor
  case rows =>
    intro k'
    by_cases hne : k' = k
    · subst hne
      simp
    · rw [Function.update_of_ne hne, Function.update_of_ne hne, h.rows]
  case valid => exact fun s hs ha => h.valid s hs (hagrees s ha)
  case total => exact fun s hs ha => h.total s hs (hagrees s ha)
  case agrees =>
    intro s hs ha k' y hy
    by_cases hne : k' = k
    · subst hne
      rw [Function.update_self] at hy
      rw [h.frame s hs (hagrees s ha) k' hk]
      exact ha k' y (by rwa [Function.update_self])
    · rw [Function.update_of_ne hne] at hy
      exact h.agrees s hs (hagrees s ha) k' y hy
  case frame =>
    intro s hs ha k' hk'
    have hne : k' ≠ k := by
      rintro rfl
      rw [Function.update_self] at hk'
      cases hk'
    rw [Function.update_of_ne hne] at hk'
    exact h.frame s hs (hagrees s ha) k' hk'

/-- A write that moves the total from the row `k` alone. -/
theorem row [Add M] [DecidableEq K] {k : K} {x y : ρ}
    (hvalid : ∀ s, A.valid s → A.obs s k = x → A.valid (f s))
    (htotal : ∀ s, A.valid s → A.obs s k = x → A.total (f s) = A.total s + d)
    (hrow : ∀ s, A.valid s → A.obs s k = x → A.obs (f s) k = y)
    (hframe : ∀ s k', k' ≠ k → A.obs (f s) k' = A.obs s k') :
    A.Shifts (Function.update held k (some x)) f d (Function.update held k (some y)) := by
  have hread : ∀ s, A.Agrees s (Function.update held k (some x)) → A.obs s k = x :=
    fun s ha => ha k x (Function.update_self ..)
  constructor
  case rows =>
    intro k'
    by_cases hne : k' = k
    · subst hne
      simp
    · rw [Function.update_of_ne hne, Function.update_of_ne hne]
  case valid => exact fun s hs ha => hvalid s hs (hread s ha)
  case total => exact fun s hs ha => htotal s hs (hread s ha)
  case agrees =>
    intro s hs ha k' z hz
    by_cases hne : k' = k
    · subst hne
      rw [Function.update_self, Option.some.injEq] at hz
      rw [hrow s hs (hread s ha), hz]
    · rw [Function.update_of_ne hne] at hz
      rw [hframe s k' hne]
      exact ha k' z (by rwa [Function.update_of_ne hne])
  case frame =>
    intro s _ _ k' hk'
    refine hframe s k' ?_
    rintro rfl
    rw [Function.update_self] at hk'
    cases hk'

/-- A write of the row `k` that changes the row `j` with it, which is held. -/
theorem pair [Add M] [DecidableEq K] {j k : K} {x y z z' : ρ} (hj : held j = some z) (hne : j ≠ k)
    (hwrite : ∀ s, A.valid s → A.obs s j = z → A.obs s k = x →
      A.valid (f s) ∧ A.total (f s) = A.total s + d ∧ A.obs (f s) j = z' ∧ A.obs (f s) k = y)
    (hframe : ∀ s k', k' ≠ j → k' ≠ k → A.obs (f s) k' = A.obs s k') :
    A.Shifts (Function.update held k (some x)) f d
      (Function.update (Function.update held j (some z')) k (some y)) := by
  have hread : ∀ s, A.valid s → A.Agrees s (Function.update held k (some x)) →
      A.valid (f s) ∧ A.total (f s) = A.total s + d ∧ A.obs (f s) j = z' ∧ A.obs (f s) k = y := by
    intro s hs ha
    refine hwrite s hs (ha j z ?_) (ha k x (Function.update_self ..))
    rw [Function.update_of_ne hne, hj]
  constructor
  case rows =>
    intro k'
    by_cases hk : k' = k
    · subst hk
      simp
    · rw [Function.update_of_ne hk, Function.update_of_ne hk]
      by_cases hk' : k' = j
      · subst hk'
        rw [Function.update_self, hj]
        rfl
      · rw [Function.update_of_ne hk']
  case valid => exact fun s hs ha => (hread s hs ha).1
  case total => exact fun s hs ha => (hread s hs ha).2.1
  case agrees =>
    intro s hs ha k' w hw
    obtain ⟨-, -, hzj, hyk⟩ := hread s hs ha
    by_cases hk : k' = k
    · subst hk
      rw [Function.update_self, Option.some.injEq] at hw
      rw [hyk, hw]
    · rw [Function.update_of_ne hk] at hw
      by_cases hk' : k' = j
      · subst hk'
        rw [Function.update_self, Option.some.injEq] at hw
        rw [hzj, hw]
      · rw [Function.update_of_ne hk'] at hw
        rw [hframe s k' hk' hk]
        exact ha k' w (by rwa [Function.update_of_ne hk])
  case frame =>
    intro s _ _ k' hk'
    refine hframe s k' ?_ ?_
    · rintro rfl
      rw [Function.update_of_ne hne, hj] at hk'
      cases hk'
    · rintro rfl
      rw [Function.update_self] at hk'
      cases hk'

/-- A write of the row `k` alone that may fail, and does not where the row has
the value `x`. -/
theorem row_of_some [Add M] [DecidableEq K] {k : K} {x y : ρ} {f : S → Option S}
    (hsome : ∀ s, A.valid s → A.obs s k = x →
      ∃ s', f s = some s' ∧ A.valid s' ∧ A.total s' = A.total s + d ∧ A.obs s' k = y)
    (hframe : ∀ s s', f s = some s' → ∀ k', k' ≠ k → A.obs s' k' = A.obs s k') :
    A.Shifts (Function.update held k (some x)) (fun s => (f s).getD s) d
      (Function.update held k (some y)) := by
  refine row ?_ ?_ ?_ ?_
  · intro s hs hx
    obtain ⟨s', hf, hvalid, -⟩ := hsome s hs hx
    rwa [hf]
  · intro s hs hx
    obtain ⟨s', hf, -, htotal, -⟩ := hsome s hs hx
    rwa [hf]
  · intro s hs hx
    obtain ⟨s', hf, -, -, hrow⟩ := hsome s hs hx
    rwa [hf]
  · intro s k' hk'
    cases hf : f s with
    | none => rfl
    | some s' => exact hframe s s' hf k' hk'

/-- A write that nothing of the account depends on. -/
theorem same [AddZeroClass M] (hvalid : ∀ s, A.valid s → A.valid (f s))
    (htotal : ∀ s, A.total (f s) = A.total s) (hobs : ∀ s, A.obs (f s) = A.obs s) :
    A.Shifts held f 0 held where
  rows _ := rfl
  valid s hs _ := hvalid s hs
  total s _ _ := by rw [htotal, add_zero]
  agrees s _ ha k x hx := by
    rw [hobs]
    exact ha k x hx
  frame s _ _ k _ := by rw [hobs]

end Shifts

end Account

section Programs

variable [DecidableEq K] [AddGroup M]

omit [DecidableEq K] in
/-- The row that the next statement writes. -/
def Program.target : Program S K ε α → Option K
  | .update k _ _ => some k
  | .insert k _ _ _ => some k
  | _ => none

/-- The writes of the program add up to nothing at every end outside a
transaction, and a result is reached with `Q`. Outside a transaction no statement
but the update of a closing row is sent while something is owed. -/
def Program.Settles (Q : α → Books K ρ M → Prop) : Program S K ε α → Books K ρ M → Prop
  | .done (.ok a), b => Q a b
  | .done (.error _), b => b.Settled
  | .read k next, b => b.Settled ∧ ∀ s, A.Sees b s → (next s).Settles Q (b.note k (A.obs s k))
  | .query next, b => b.Settled ∧ ∀ s, A.Sees b s → (next s).Settles Q b
  | .lock k found next, b => b.Settled ∧ ∀ s, A.Sees b s →
      (next s).Settles Q ((if found s then b.hold k (A.obs s k) else b).note k (A.obs s k))
  | .update k f next, b => (¬A.closing k → b.Settled) ∧ ∀ s, A.Sees b s → A.Finds b k s →
      ∃ d held, A.Shifts (b.hold k (A.obs s k)).held f d held ∧ next.Settles Q (b.wrote k d held)
  | .insert k f _ next, b => b.Settled ∧
      ∀ s s', A.Sees b s → A.Finds b k s → f s = some s' →
        ∃ d held, A.Shifts (b.hold k (A.obs s k)).held (fun s => (f s).getD s) d held ∧
          next.Settles Q (b.wrote k d held)
  | .start next, b => b.debt = 0 ∧ next.Settles Q b.start
  | .commit next, b => b.Settled ∧ next.Settles Q b.commit

namespace Program

variable {A} {Q Q' : α → Books K ρ M → Prop} {b : Books K ρ M}

theorem Settles.mono (hQ : ∀ a b, Q a b → Q' a b) {p : Program S K ε α}
    (h : p.Settles A Q b) : p.Settles A Q' b := by
  induction p generalizing b with
  | done result =>
      cases result with
      | ok a => exact hQ a b h
      | error e => exact h
  | read k next ih => exact ⟨h.1, fun s hs => ih s (h.2 s hs)⟩
  | query next ih => exact ⟨h.1, fun s hs => ih s (h.2 s hs)⟩
  | lock k found next ih => exact ⟨h.1, fun s hs => ih s (h.2 s hs)⟩
  | update k f next ih =>
      refine ⟨h.1, fun s hs hk => ?_⟩
      obtain ⟨d, held, hf, hnext⟩ := h.2 s hs hk
      exact ⟨d, held, hf, ih hnext⟩
  | insert k f e next ih =>
      refine ⟨h.1, fun s s' hs hk hsome => ?_⟩
      obtain ⟨d, held, hf, hnext⟩ := h.2 s s' hs hk hsome
      exact ⟨d, held, hf, ih hnext⟩
  | start next ih => exact ⟨h.1, ih h.2⟩
  | commit next ih => exact ⟨h.1, ih h.2⟩

/-- The sequence rule. -/
theorem settles_bind {Q : β → Books K ρ M → Prop} {p : Program S K ε α}
    {f : α → Program S K ε β} :
    (p >>= f).Settles A Q b ↔ p.Settles A (fun a b' => (f a).Settles A Q b') b := by
  change (p.bind f).Settles A Q b ↔ _
  induction p generalizing b with
  | done result =>
      cases result with
      | ok a => exact Iff.rfl
      | error e => exact Iff.rfl
  | read k next ih =>
      exact and_congr_right fun _ => forall_congr' fun s => imp_congr_right fun _ => ih s
  | query next ih =>
      exact and_congr_right fun _ => forall_congr' fun s => imp_congr_right fun _ => ih s
  | lock k found next ih =>
      exact and_congr_right fun _ => forall_congr' fun s => imp_congr_right fun _ => ih s
  | update k g next ih =>
      exact and_congr_right fun _ => forall_congr' fun s => imp_congr_right fun _ =>
        imp_congr_right fun _ => exists_congr fun d => exists_congr fun held =>
        and_congr_right fun _ => ih
  | insert k g e next ih =>
      exact and_congr_right fun _ => forall_congr' fun s => forall_congr' fun s' =>
        imp_congr_right fun _ => imp_congr_right fun _ => imp_congr_right fun _ =>
        exists_congr fun d => exists_congr fun held => and_congr_right fun _ => ih
  | start next ih => exact and_congr_right fun _ => ih
  | commit next ih => exact and_congr_right fun _ => ih

theorem settles_done {result : Except ε α} :
    (done result : Program S K ε α).Settles A Q b ↔
      (∀ a, result = .ok a → Q a b) ∧ (∀ e, result = .error e → b.Settled) := by
  cases result with
  | ok a => simp [Settles]
  | error e => simp [Settles]

@[simp] theorem settles_map {Q : β → Books K ρ M → Prop} {p : Program S K ε α} {f : α → β} :
    (f <$> p).Settles A Q b ↔ p.Settles A (fun a => Q (f a)) b :=
  settles_bind (f := fun a => pure (f a))

@[simp] theorem settles_pure {a : α} :
    (pure a : Program S K ε α).Settles A Q b ↔ Q a b := Iff.rfl

@[simp] theorem settles_raise {e : ε} :
    (raise e : Program S K ε α).Settles A Q b ↔ b.Settled := Iff.rfl

@[simp] theorem settles_ite {c : Prop} [Decidable c] {p q : Program S K ε α} :
    (if c then p else q).Settles A Q b ↔
      (c → p.Settles A Q b) ∧ (¬c → q.Settles A Q b) := by
  by_cases hc : c
  · simp [hc]
  · simp [hc]

@[simp] theorem settles_require {c : Prop} [Decidable c] {e : ε}
    {Q : PUnit → Books K ρ M → Prop} :
    (require c e : Program S K ε PUnit).Settles A Q b ↔ (c → Q ⟨⟩ b) ∧ (¬c → b.Settled) := by
  unfold require
  simp

@[simp] theorem settles_found {e : ε} {a? : Option α} :
    (found e a? : Program S K ε α).Settles A Q b ↔
      (∀ a, a? = some a → Q a b) ∧ (a? = none → b.Settled) := by
  cases a? with
  | none => simp [found]
  | some a => simp [found]

@[simp] theorem settles_fetch {k : K} {row : S → Option α} {e : ε} :
    (fetch k row e).Settles A Q b ↔ b.Settled ∧ ∀ s, A.Sees b s → ∀ a, row s = some a →
      Q a (b.note k (A.obs s k)) := by
  refine and_congr_right fun hsettled => forall_congr' fun s => imp_congr_right fun _ => ?_
  exact settles_found.trans (and_iff_left fun _ => hsettled)

/-- A row is held once it is locked and found. -/
theorem settles_lock {k : K} {locked : S → Bool} {next : S → Program S K ε α} :
    (lock k locked next).Settles A Q b ↔ b.Settled ∧ ∀ s, A.Sees b s →
      (locked s = true → (next s).Settles A Q ((b.hold k (A.obs s k)).note k (A.obs s k))) ∧
        (locked s = false → (next s).Settles A Q (b.note k (A.obs s k))) := by
  refine and_congr_right fun _ => forall_congr' fun s => imp_congr_right fun _ => ?_
  by_cases hlocked : locked s = true
  · simp [hlocked]
  · simp [hlocked]

@[simp] theorem settles_fetchForUpdate {k : K} {row : S → Option α} {e : ε} :
    (fetchForUpdate k row e).Settles A Q b ↔ b.Settled ∧ ∀ s, A.Sees b s → ∀ a,
      row s = some a → Q a ((b.hold k (A.obs s k)).note k (A.obs s k)) := by
  refine settles_lock.trans ?_
  refine and_congr_right fun hsettled => forall_congr' fun s => imp_congr_right fun _ => ?_
  cases hrow : row s with
  | none => simpa using hsettled
  | some a => simp

@[simp] theorem settles_write {k : K} {f : S → S} {Q : PUnit → Books K ρ M → Prop} :
    (write k f : Program S K ε PUnit).Settles A Q b ↔ (¬A.closing k → b.Settled) ∧
      ∀ s, A.Sees b s → A.Finds b k s → ∃ d held,
        A.Shifts (b.hold k (A.obs s k)).held f d held ∧ Q ⟨⟩ (b.wrote k d held) := Iff.rfl

@[simp] theorem settles_create {k : K} {f : S → Option S} {e : ε}
    {Q : PUnit → Books K ρ M → Prop} :
    (create k f e : Program S K ε PUnit).Settles A Q b ↔ b.Settled ∧
      ∀ s s', A.Sees b s → A.Finds b k s → f s = some s' → ∃ d held,
        A.Shifts (b.hold k (A.obs s k)).held (fun s => (f s).getD s) d held ∧
          Q ⟨⟩ (b.wrote k d held) := Iff.rfl

@[simp] theorem settles_atomic {p : Program S K ε α} :
    (atomic p).Settles A Q b ↔
      b.debt = 0 ∧ p.Settles A (fun a b' => b'.Settled ∧ Q a b'.commit) b.start :=
  and_congr_right fun _ => settles_bind (f := fun a => .commit (pure a))

end Program

end Programs

end Concurrency
