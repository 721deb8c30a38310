import Homex.Concurrency.Signals

/-!
# Between a message and its commit

The window of a write in a transaction is the rest of the program up to the commit: what
may still fail after the code that the write has started. A run leaves a message about a
change that is not committed exactly when it comes to such a write and stops in its
window, and which rows the statements of a window touch is read off the program.
-/

namespace Concurrency

namespace Signals

universe u

variable {S K ε α β E : Type u}

/-- A write that changes what is observed of its row: the store before and after it, the
steps that follow, the rest of the program, and the steps that the run has left. -/
structure Change (S K ε α E : Type u) where
  key : K
  before : S
  after : S
  steps : List (Step E)
  rest : Program S K ε α
  left : Nat

/-- The run goes on for another step. -/
def GoesOn (n : Nat) (go : Nat → Prop) : Prop :=
  match n with
  | 0 => False
  | n + 1 => go n

/-- A run of `n` steps comes to the change, in a transaction. -/
def ComesTo (observe : Observer S K E) (c : Change S K ε α E) :
    Program S K ε α → Nat → S → Bool → Prop
  | .done _, _, _, _ => False
  | .read _ rest, n, s, tx => GoesOn n fun n => ComesTo observe c (rest s) n s tx
  | .query rest, n, s, tx => GoesOn n fun n => ComesTo observe c (rest s) n s tx
  | .lock _ _ rest, n, s, tx => GoesOn n fun n => ComesTo observe c (rest s) n s tx
  | .update key f rest, n, s, tx => GoesOn n fun n =>
      match observe key s (f s) with
      | none => ComesTo observe c rest n (f s) tx
      | some steps =>
          (tx = true ∧ c = ⟨key, s, f s, steps, rest, n⟩) ∨
            (steps.length ≤ n ∧ ComesTo observe c rest (n - steps.length) (f s) tx)
  | .insert _ f _ rest, n, s, tx => GoesOn n fun n =>
      match f s with
      | none => False
      | some s => ComesTo observe c rest n s tx
  | .start rest, n, s, _ => GoesOn n fun n => ComesTo observe c rest n s true
  | .commit rest, n, s, _ => GoesOn n fun n => ComesTo observe c rest n s false

/-- A run of `n` steps comes to a commit. -/
def Commits (observe : Observer S K E) : Program S K ε α → Nat → S → Prop
  | .done _, _, _ => False
  | .read _ rest, n, s => GoesOn n fun n => Commits observe (rest s) n s
  | .query rest, n, s => GoesOn n fun n => Commits observe (rest s) n s
  | .lock _ _ rest, n, s => GoesOn n fun n => Commits observe (rest s) n s
  | .update key f rest, n, s => GoesOn n fun n =>
      match observe key s (f s) with
      | none => Commits observe rest n (f s)
      | some steps => steps.length ≤ n ∧ Commits observe rest (n - steps.length) (f s)
  | .insert _ f _ rest, n, s => GoesOn n fun n =>
      match f s with
      | none => False
      | some s => Commits observe rest n s
  | .start rest, n, s => GoesOn n fun n => Commits observe rest n s
  | .commit _, n, _ => GoesOn n fun _ => True

/-- The run broadcasts the change and stops before it commits. -/
def Change.Broken (observe : Observer S K E) (c : Change S K ε α E) : Prop :=
  (c.steps.take c.left).any Step.isBroadcast = true ∧
    (c.left < c.steps.length ∨ ¬Commits observe c.rest (c.left - c.steps.length) c.after)

/-- The run has told of a change of the open transaction and does not commit it, or comes to
a change that it tells of and does not commit. -/
def Breaks (observe : Observer S K E) (p : Program S K ε α) (n : Nat) (s : S)
    (told : Option Bool) : Prop :=
  (told = some true ∧ ¬Commits observe p n s) ∨
    ∃ c : Change S K ε α E, ComesTo observe c p n s told.isSome ∧ c.Broken observe

section Breaks

variable {observe : Observer S K E} {c : Change S K ε α E}

/-- With steps left for the code that the write has started, or without. -/
theorem Change.broken_of_lt (h : c.left < c.steps.length) :
    c.Broken observe ↔ (c.steps.take c.left).any Step.isBroadcast = true :=
  and_iff_left (Or.inl h)

theorem Change.broken_of_le (h : c.steps.length ≤ c.left) :
    c.Broken observe ↔ c.steps.any Step.isBroadcast = true ∧
      ¬Commits observe c.rest (c.left - c.steps.length) c.after := by
  unfold Broken
  rw [List.take_of_length_le h]
  exact and_congr_right fun _ => or_iff_right (Nat.not_lt.mpr h)

theorem map_or_eq_true {told : Option Bool} {b : Bool} :
    told.map (· || b) = some true ↔ told = some true ∨ told.isSome = true ∧ b = true := by
  cases told with
  | none => simp
  | some t => cases t <;> simp

theorem exists_here_or {b : Bool} {c₀ : Change S K ε α E} {later : Change S K ε α E → Prop} :
    (∃ c, ((b = true ∧ c = c₀) ∨ later c) ∧ c.Broken observe) ↔
      (b = true ∧ c₀.Broken observe) ∨ ∃ c, later c ∧ c.Broken observe := by
  constructor
  · rintro ⟨c, ⟨hb, rfl⟩ | hlater, hbroken⟩
    · exact Or.inl ⟨hb, hbroken⟩
    · exact Or.inr ⟨c, hlater, hbroken⟩
  · rintro (⟨hb, hbroken⟩ | ⟨c, hlater, hbroken⟩)
    · exact ⟨c₀, Or.inl ⟨hb, rfl⟩, hbroken⟩
    · exact ⟨c, Or.inr hlater, hbroken⟩

/-- A statement that tells nothing. -/
theorem stopsNext_iff {go stops : Nat → Prop} {told : Option Bool} {n : Nat}
    {comes : Change S K ε α E → Nat → Prop}
    (h : ∀ n, stops n ↔ (told = some true ∧ ¬go n) ∨ ∃ c, comes c n ∧ c.Broken observe) :
    StopsNext n told stops ↔
      (told = some true ∧ ¬GoesOn n go) ∨
        ∃ c : Change S K ε α E, GoesOn n (comes c) ∧ c.Broken observe := by
  cases n with
  | zero => simp [StopsNext, GoesOn]
  | succ n => exact h n

/-- Where a run stops with a message about a change that is gone. -/
theorem stopsTold_iff_breaks (p : Program S K ε α) (n : Nat) (s : S) (told : Option Bool) :
    StopsTold observe p n s told ↔ Breaks observe p n s told := by
  induction p generalizing n s told with
  | done r => simp [StopsTold, Breaks, Commits, ComesTo]
  | read key rest ih => exact stopsNext_iff fun n => ih s n s told
  | query rest ih => exact stopsNext_iff fun n => ih s n s told
  | lock key found rest ih => exact stopsNext_iff fun n => ih s n s told
  | update key f rest ih =>
      refine stopsNext_iff fun n => ?_
      cases hobserve : observe key s (f s) with
      | none => exact ih n (f s) told
      | some steps =>
          dsimp only
          rw [exists_here_or]
          by_cases hn : n < steps.length
          · have hlater : ¬steps.length ≤ n := Nat.not_le.mpr hn
            rw [if_pos hn, map_or_eq_true, Change.broken_of_lt hn]
            simp [hlater]
          · have hle : steps.length ≤ n := Nat.not_lt.mp hn
            rw [if_neg hn, ih (n - steps.length) (f s), Breaks, map_or_eq_true, Option.isSome_map,
              Change.broken_of_le hle]
            simp only [hle, true_and, or_and_right, and_assoc, or_assoc]
  | insert key f e rest ih =>
      refine stopsNext_iff fun n => ?_
      cases hf : f s with
      | none => simp
      | some s' => exact ih n s' told
  | start rest ih =>
      refine stopsNext_iff fun n => (ih n s _).trans (or_congr_left ?_)
      cases told with
      | none => simp
      | some t => rfl
  | commit rest ih =>
      refine stopsNext_iff fun n => (ih n s none).trans (or_congr_left ?_)
      simp

end Breaks

/-! ### What a window touches -/

/-- Up to its commit the program reads, locks and writes only rows with `T`, and `T none`
when it makes another query or fails. -/
def Touches (T : Option K → Prop) : Program S K ε α → Prop
  | .done (.ok _) => True
  | .done (.error _) => T none
  | .read key rest => T (some key) ∧ ∀ s, Touches T (rest s)
  | .query rest => T none ∧ ∀ s, Touches T (rest s)
  | .lock key _ rest => T (some key) ∧ ∀ s, Touches T (rest s)
  | .update key _ rest => T (some key) ∧ Touches T rest
  | .insert key _ _ rest => T (some key) ∧ Touches T rest
  | .start rest => Touches T rest
  | .commit _ => True

/-- No row with `C` is updated. -/
def Spares (C : K → Prop) : Program S K ε α → Prop
  | .done _ => True
  | .read _ rest => ∀ s, Spares C (rest s)
  | .query rest => ∀ s, Spares C (rest s)
  | .lock _ _ rest => ∀ s, Spares C (rest s)
  | .update key _ rest => ¬C key ∧ Spares C rest
  | .insert _ _ _ rest => Spares C rest
  | .start rest => Spares C rest
  | .commit rest => Spares C rest

/-- After the update of a row with `C`, the rest up to the commit touches only `T`. -/
def Windows (C : K → Prop) (T : Option K → Prop) : Program S K ε α → Prop
  | .done _ => True
  | .read _ rest => ∀ s, Windows C T (rest s)
  | .query rest => ∀ s, Windows C T (rest s)
  | .lock _ _ rest => ∀ s, Windows C T (rest s)
  | .update key _ rest => (C key → Touches T rest) ∧ Windows C T rest
  | .insert _ _ _ rest => Windows C T rest
  | .start rest => Windows C T rest
  | .commit rest => Windows C T rest

section Programs

open Program

variable {C : K → Prop} {T : Option K → Prop} {x : Program S K ε α} {f : α → Program S K ε β}

theorem Touches.ite {c : Prop} [Decidable c] {x y : Program S K ε α} (hx : Touches T x)
    (hy : Touches T y) : Touches T (if c then x else y) :=
  iteInduction (fun _ => hx) fun _ => hy

theorem touches_require {c : Prop} [Decidable c] {e : ε} (h : T none) :
    Touches T (require c e : Program S K ε PUnit) :=
  .ite trivial h

theorem touches_found {e : ε} {a? : Option α} (h : T none) :
    Touches T (found e a? : Program S K ε α) := by
  cases a? with
  | none => exact h
  | some a => trivial

theorem touches_fetch {key : K} {row : S → Option α} {e : ε} (hkey : T (some key)) (h : T none) :
    Touches T (fetch key row e) :=
  ⟨hkey, fun _ => touches_found h⟩

theorem touches_fetchForUpdate {key : K} {row : S → Option α} {e : ε} (hkey : T (some key))
    (h : T none) : Touches T (fetchForUpdate key row e) :=
  ⟨hkey, fun _ => touches_found h⟩

theorem Touches.bind (hx : Touches T x) (hf : ∀ a, Touches T (f a)) : Touches T (x >>= f) := by
  change Touches T (x.bind f)
  induction x with
  | done r =>
      cases r with
      | ok a => exact hf a
      | error e => exact hx
  | read key rest ih => exact ⟨hx.1, fun s => ih s (hx.2 s)⟩
  | query rest ih => exact ⟨hx.1, fun s => ih s (hx.2 s)⟩
  | lock key found rest ih => exact ⟨hx.1, fun s => ih s (hx.2 s)⟩
  | update key g rest ih => exact ⟨hx.1, ih hx.2⟩
  | insert key g e rest ih => exact ⟨hx.1, ih hx.2⟩
  | start rest ih => exact ih hx
  | commit rest ih => trivial

theorem Spares.ite {c : Prop} [Decidable c] {x y : Program S K ε α} (hx : Spares C x)
    (hy : Spares C y) : Spares C (if c then x else y) :=
  iteInduction (fun _ => hx) fun _ => hy

theorem spares_require {c : Prop} [Decidable c] {e : ε} :
    Spares C (require c e : Program S K ε PUnit) :=
  .ite trivial trivial

theorem spares_found {e : ε} {a? : Option α} : Spares C (found e a? : Program S K ε α) := by
  cases a? with
  | none => trivial
  | some a => trivial

theorem spares_fetch {key : K} {row : S → Option α} {e : ε} : Spares C (fetch key row e) :=
  fun _ => spares_found

theorem spares_fetchForUpdate {key : K} {row : S → Option α} {e : ε} :
    Spares C (fetchForUpdate key row e) :=
  fun _ => spares_found

theorem Spares.bind (hx : Spares C x) (hf : ∀ a, Spares C (f a)) : Spares C (x >>= f) := by
  change Spares C (x.bind f)
  induction x with
  | done r =>
      cases r with
      | ok a => exact hf a
      | error e => trivial
  | read key rest ih => exact fun s => ih s (hx s)
  | query rest ih => exact fun s => ih s (hx s)
  | lock key found rest ih => exact fun s => ih s (hx s)
  | update key g rest ih => exact ⟨hx.1, ih hx.2⟩
  | insert key g e rest ih => exact ih hx
  | start rest ih => exact ih hx
  | commit rest ih => exact ih hx

/-- No window opens in the first program. -/
theorem Spares.windows_bind (hx : Spares C x) (hf : ∀ a, Windows C T (f a)) :
    Windows C T (x >>= f) := by
  change Windows C T (x.bind f)
  induction x with
  | done r =>
      cases r with
      | ok a => exact hf a
      | error e => trivial
  | read key rest ih => exact fun s => ih s (hx s)
  | query rest ih => exact fun s => ih s (hx s)
  | lock key found rest ih => exact fun s => ih s (hx s)
  | update key g rest ih => exact ⟨fun hkey => absurd hkey hx.1, ih hx.2⟩
  | insert key g e rest ih => exact ih hx
  | start rest ih => exact ih hx
  | commit rest ih => exact ih hx

/-- The windows of the first program go on in the second. -/
theorem Windows.bind (hx : Windows C T x) (htouches : ∀ a, Touches T (f a))
    (hf : ∀ a, Windows C T (f a)) : Windows C T (x >>= f) := by
  change Windows C T (x.bind f)
  induction x with
  | done r =>
      cases r with
      | ok a => exact hf a
      | error e => trivial
  | read key rest ih => exact fun s => ih s (hx s)
  | query rest ih => exact fun s => ih s (hx s)
  | lock key found rest ih => exact fun s => ih s (hx s)
  | update key g rest ih => exact ⟨fun hkey => (hx.1 hkey).bind htouches, ih hx.2⟩
  | insert key g e rest ih => exact ih hx
  | start rest ih => exact ih hx
  | commit rest ih => exact ih hx

/-- Without a commit, every window of a program touches what the program does. -/
theorem Touches.windows (h : Touches T x) (hx : NoTransaction x) : Windows C T x := by
  induction x with
  | done r => trivial
  | read key rest ih => exact fun s => ih s (h.2 s) (hx s)
  | query rest ih => exact fun s => ih s (h.2 s) (hx s)
  | lock key found rest ih => exact fun s => ih s (h.2 s) (hx s)
  | update key g rest ih => exact ⟨fun _ => h.2, ih h.2 hx⟩
  | insert key g e rest ih => exact ih h.2 hx
  | start rest ih => exact hx.elim
  | commit rest ih => exact hx.elim

theorem Windows.map {g : α → β} (hx : Windows C T x) : Windows C T (g <$> x) :=
  hx.bind (fun _ => trivial) fun _ => trivial

theorem Windows.atomic (hx : Windows C T x) : Windows C T (atomic x) :=
  hx.bind (fun _ => trivial) fun _ => trivial

theorem Windows.ite {c : Prop} [Decidable c] {x y : Program S K ε α} (hx : Windows C T x)
    (hy : Windows C T y) : Windows C T (if c then x else y) :=
  iteInduction (fun _ => hx) fun _ => hy

theorem windows_write {key : K} {g : S → S} :
    Windows C T (write key g : Program S K ε PUnit) :=
  ⟨fun _ => trivial, trivial⟩

end Programs

section Rest

variable {observe : Observer S K E} {c : Change S K ε α E} {p : Program S K ε α}

/-- What a step of the program hands on to the rest. -/
theorem GoesOn.elim {n : Nat} {go : Nat → Prop} {Q : Prop} (h : GoesOn n go)
    (hgo : ∀ n, go n → Q) : Q := by
  cases n with
  | zero => exact False.elim h
  | succ n => exact hgo n h

/-- A run only comes to changes that are observed, with the window of their write. -/
theorem ComesTo.window {C : K → Prop} {T : Option K → Prop}
    (hC : ∀ key s s' steps, observe key s s' = some steps → C key) {n : Nat} {s : S} {tx : Bool}
    (h : ComesTo observe c p n s tx) (hp : Windows C T p) (hclosed : Closes p tx) :
    observe c.key c.before c.after = some c.steps ∧ Touches T c.rest ∧ Closes c.rest true := by
  induction p generalizing n s tx with
  | done r => exact h.elim
  | read key rest ih => exact GoesOn.elim h fun n h => ih s h (hp s) (hclosed s)
  | query rest ih => exact GoesOn.elim h fun n h => ih s h (hp s) (hclosed s)
  | lock key found rest ih => exact GoesOn.elim h fun n h => ih s h (hp s) (hclosed s)
  | update key f rest ih =>
      refine GoesOn.elim h fun n h => ?_
      cases hobserve : observe key s (f s) with
      | none =>
          simp only [hobserve] at h
          exact ih h hp.2 hclosed
      | some steps =>
          simp only [hobserve] at h
          rcases h with ⟨rfl, rfl⟩ | ⟨-, h⟩
          · exact ⟨hobserve, hp.1 (hC _ _ _ _ hobserve), hclosed⟩
          · exact ih h hp.2 hclosed
  | insert key f e rest ih =>
      refine GoesOn.elim h fun n h => ?_
      cases hf : f s with
      | none =>
          simp only [hf] at h
      | some s' =>
          simp only [hf] at h
          exact ih h hp hclosed
  | start rest ih => exact GoesOn.elim h fun n h => ih h hp hclosed.2
  | commit rest ih => exact GoesOn.elim h fun n h => ih h hp hclosed.2

/-- An empty window is the commit alone. -/
theorem commits_iff_of_touches_nothing (h : Touches (fun _ => False) p) (hclosed : Closes p true)
    (n : Nat) (s : S) : Commits observe p n s ↔ 0 < n := by
  induction p with
  | done r =>
      cases r with
      | ok a => cases hclosed
      | error e => exact h.elim
  | read key rest ih => exact h.1.elim
  | query rest ih => exact h.1.elim
  | lock key found rest ih => exact h.1.elim
  | update key f rest ih => exact h.1.elim
  | insert key f e rest ih => exact h.1.elim
  | start rest ih => cases hclosed.1
  | commit rest ih =>
      cases n with
      | zero => simp [Commits, GoesOn]
      | succ n => simp [Commits, GoesOn]

/-- With an empty window only the code after the write and the commit are left to fail. -/
theorem Change.broken_iff_of_touches_nothing (h : Touches (fun _ => False) c.rest)
    (hclosed : Closes c.rest true) :
    c.Broken observe ↔
      (c.steps.take c.left).any Step.isBroadcast = true ∧ c.left ≤ c.steps.length := by
  refine and_congr_right fun _ => ?_
  rw [commits_iff_of_touches_nothing h hclosed]
  omega

end Rest

end Signals

end Concurrency
