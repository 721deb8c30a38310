import Homex.Relational.Ensures
import Homex.Transition.Run
import Mathlib.Algebra.BigOperators.Group.Finset.Piecewise
import Mathlib.Data.Fintype.Card

/-!
# Requests outside transactions

In autocommit mode every statement of a request is a transaction of its own. A
`Script` is the code of such a request: a tree of statements, each of which waits
for its answer. The statements are data, of a type `Q`, so that one can say which
of them a process sends next; `exec` gives their meaning in a store.

A script can be run alone, without other processes in between (`Script.run`), or
side by side with others (`interleavings`). `Script.Follows` bounds which statement
a script may send after which answer, and every process of an interleaving keeps to
the bounds that its script has.
-/

namespace Concurrency

namespace Autocommit

open Relational

universe u v

variable {Q : Type u} {A : Q → Type v} {ε S R P : Type*} {α β : Type v}

/-- The statements a request still has to send. -/
inductive Script (Q : Type u) (A : Q → Type v) (ε : Type*) (α : Type v)
  | done (result : Except ε α)
  | send (q : Q) (next : A q → Script Q A ε α)

namespace Script

/-- Run `f` on the result. An error ends the script. -/
def bind : Script Q A ε α → (α → Script Q A ε β) → Script Q A ε β
  | .done (.ok a), f => f a
  | .done (.error e), _ => .done (.error e)
  | .send q next, f => .send q fun a => (next a).bind f

instance : Monad (Script Q A ε) where
  pure a := .done (.ok a)
  bind := bind

/-- Fail. -/
def raise (e : ε) : Script Q A ε α := .done (.error e)

/-- Go on only when the condition holds. -/
def require (c : Prop) [Decidable c] (e : ε) : Script Q A ε PUnit :=
  if c then pure ⟨⟩ else raise e

/-- The value found in an answer, or an error when there is none. -/
def found (e : ε) : Option α → Script Q A ε α
  | some a => pure a
  | none => raise e

/-- Send one statement, and return its answer. -/
def ask (q : Q) : Script Q A ε (A q) := .send q fun a => pure a

/-- The statement that is sent next. -/
def head : Script Q A ε α → Option Q
  | .done _ => none
  | .send q _ => some q

section Alone

variable (exec : S → (q : Q) → A q × S)

/-- The script without other processes in between. -/
def run : Script Q A ε α → Action S ε α
  | .done r => fun s => (r, s)
  | .send q next => fun s => (next (exec s q).1).run (exec s q).2

theorem run_bind (x : Script Q A ε α) (f : α → Script Q A ε β) :
    (x >>= f).run exec = x.run exec >>= fun a => (f a).run exec := by
  induction x with
  | done r =>
      cases r with
      | error e => rfl
      | ok a => rfl
  | send q next ih =>
      funext s
      exact congrFun (ih (exec s q).1) (exec s q).2

section Ensures

open Action

variable {exec} {E : S → Prop} {s : S}

theorem ensures_run_bind {Q' : β → S → Prop} {x : Script Q A ε α} {f : α → Script Q A ε β}
    (h : Ensures (fun a s' => Ensures Q' E ((f a).run exec) s') E (x.run exec) s) :
    Ensures Q' E ((x >>= f).run exec) s := by
  rw [run_bind]
  exact ensures_bind h

variable {Q' : α → S → Prop}

theorem ensures_run_pure {a : α} (h : Q' a s) :
    Ensures Q' E ((pure a : Script Q A ε α).run exec) s := h

theorem ensures_run_ite {c : Prop} [Decidable c] {x y : Script Q A ε α}
    (hx : c → Ensures Q' E (x.run exec) s) (hy : ¬c → Ensures Q' E (y.run exec) s) :
    Ensures Q' E ((if c then x else y).run exec) s := by
  by_cases hc : c
  · rw [if_pos hc]
    exact hx hc
  · rw [if_neg hc]
    exact hy hc

theorem ensures_run_require {c : Prop} [Decidable c] {e : ε} {Q' : PUnit → S → Prop}
    (hQ : c → Q' ⟨⟩ s) (hE : E s) :
    Ensures Q' E ((Script.require c e : Script Q A ε PUnit).run exec) s := by
  unfold Script.require
  by_cases hc : c
  · rw [if_pos hc]
    exact hQ hc
  · rw [if_neg hc]
    exact hE

theorem ensures_run_require_of {c : Prop} [Decidable c] {e : ε} {Q' : PUnit → S → Prop}
    (hc : c) (h : Q' ⟨⟩ s) :
    Ensures Q' E ((Script.require c e : Script Q A ε PUnit).run exec) s := by
  unfold Script.require
  rw [if_pos hc]
  exact h

theorem ensures_run_found {e : ε} {a? : Option α} (hQ : ∀ a, a? = some a → Q' a s) (hE : E s) :
    Ensures Q' E ((found e a? : Script Q A ε α).run exec) s := by
  cases a? with
  | none => exact hE
  | some a => exact hQ a rfl

end Ensures

end Alone

section Follows

variable (Next : (q : Q) → A q → Option Q → Prop)

/-- After the answer `a` to the statement `q`, the script sends only what `Next q a` allows. -/
def Follows : Script Q A ε α → Prop
  | .done _ => True
  | .send q next => ∀ a, Next q a (next a).head ∧ (next a).Follows

variable {Next}

theorem follows_pure {a : α} : (pure a : Script Q A ε α).Follows Next := trivial

theorem follows_raise {e : ε} : (raise e : Script Q A ε α).Follows Next := trivial

theorem follows_found {e : ε} {a? : Option α} : (found e a? : Script Q A ε α).Follows Next := by
  cases a? with
  | none => exact trivial
  | some a => exact trivial

/-- What may follow the first part of a script must allow what the second opens with. -/
theorem Follows.bind {Opens : Q → Prop}
    (hNext : ∀ q a q', Next q a none → Opens q' → Next q a (some q'))
    {x : Script Q A ε α} {f : α → Script Q A ε β} (hx : x.Follows Next)
    (hf : ∀ a, (f a).Follows Next) (hopens : ∀ a, ∀ q ∈ (f a).head, Opens q) :
    (x >>= f).Follows Next := by
  induction x with
  | done r =>
      cases r with
      | error e => exact trivial
      | ok a => exact hf a
  | send q next ih =>
      intro a
      refine ⟨?_, ih a (hx a).2⟩
      have hnext := (hx a).1
      change Next q a ((next a).bind f).head
      cases hrest : next a with
      | send q' next' =>
          rw [hrest] at hnext
          exact hnext
      | done r =>
          rw [hrest] at hnext
          cases r with
          | error e => exact hnext
          | ok b =>
              change Next q a (f b).head
              cases hhead : (f b).head with
              | none => exact hnext
              | some q' => exact hNext q a q' hnext (hopens b q' hhead)

end Follows

end Script

/-- The store, and the script of each process that has a request under way. -/
structure State (S : Type*) (Q : Type u) (A : Q → Type v) (ε P : Type*) where
  store : S
  script : P → Option (Script Q A ε PUnit)

/-- What happens next. -/
inductive Event (R P : Type*)
  | request (p : P) (r : R)
  | statement (p : P)

namespace State

variable [DecidableEq P]

/-- A store that no request has been sent to. -/
def idle (s : S) : State S Q A ε P where
  store := s
  script := fun _ => none

/-- `p` goes on as `script`, in the store `s`. -/
def goOn (σ : State S Q A ε P) (p : P) (s : S) (script : Option (Script Q A ε PUnit)) :
    State S Q A ε P where
  store := s
  script := Function.update σ.script p script

/-- The statement that `p` sends next. -/
def asks (σ : State S Q A ε P) (p : P) : Option Q := (σ.script p).bind Script.head

/-- How many processes send a statement of this kind next. -/
def asking [Fintype P] (σ : State S Q A ε P) (kind : Q → Bool) : Nat :=
  (Finset.univ.filter fun p => (σ.asks p).any kind).card

variable (exec : S → (q : Q) → A q × S)

/-- The next statement of `p`, or the end of its request. -/
def send (σ : State S Q A ε P) (p : P) : Option (State S Q A ε P) :=
  match σ.script p with
  | none => none
  | some (.done _) => some (σ.goOn p σ.store none)
  | some (.send q next) =>
      some (σ.goOn p (exec σ.store q).2 (some (next (exec σ.store q).1)))

/-- The state after an event, if it can happen. -/
def next (program : R → Script Q A ε PUnit) (σ : State S Q A ε P) :
    Event R P → Option (State S Q A ε P)
  | .request p r =>
      match σ.script p with
      | none => some (σ.goOn p σ.store (some (program r)))
      | some _ => none
  | .statement p => σ.send exec p

/-- A list of events in turn, each of which meets a condition and can happen. -/
def run (program : R → Script Q A ε PUnit) (guard : State S Q A ε P → Event R P → Prop)
    [∀ σ e, Decidable (guard σ e)] (σ : State S Q A ε P) :
    List (Event R P) → Option (State S Q A ε P)
  | [] => some σ
  | e :: es =>
      if guard σ e then (σ.next exec program e).bind fun σ' => σ'.run program guard es else none

/-- Every process keeps to `Next`. -/
def Follows (Next : (q : Q) → A q → Option Q → Prop) (σ : State S Q A ε P) : Prop :=
  ∀ p, ∀ script ∈ σ.script p, script.Follows Next

section Others

variable {σ : State S Q A ε P} {p p' : P} {s : S} {script : Option (Script Q A ε PUnit)}

@[simp] theorem script_goOn : (σ.goOn p s script).script p = script := Function.update_self ..

theorem script_goOn_of_ne (hp : p' ≠ p) : (σ.goOn p s script).script p' = σ.script p' :=
  Function.update_of_ne hp ..

theorem asks_goOn : (σ.goOn p s script).asks p = script.bind Script.head := by
  rw [asks, script_goOn]

theorem asks_goOn_of_ne (hp : p' ≠ p) : (σ.goOn p s script).asks p' = σ.asks p' := by
  rw [asks, script_goOn_of_ne hp, asks]

/-- Only the process that goes on changes how many send a statement of the kind next. -/
theorem asking_goOn [Fintype P] (kind : Q → Bool) :
    ((σ.goOn p s script).asking kind + if (σ.asks p).any kind then 1 else 0) =
      σ.asking kind + if (script.bind Script.head).any kind then 1 else 0 := by
  have hothers : ∑ p' ∈ Finset.univ.erase p,
        (if ((σ.goOn p s script).asks p').any kind then 1 else 0) =
      ∑ p' ∈ Finset.univ.erase p, (if (σ.asks p').any kind then 1 else 0) := by
    apply Finset.sum_congr rfl
    intro p' hp'
    rw [asks_goOn_of_ne (Finset.ne_of_mem_erase hp')]
  unfold asking
  rw [Finset.card_filter, Finset.card_filter,
    ← Finset.sum_erase_add _ _ (Finset.mem_univ p), hothers,
    ← Finset.sum_erase_add (a := p) _ _ (Finset.mem_univ p), asks_goOn]
  omega

omit [DecidableEq P] in
@[simp] theorem asking_idle [Fintype P] (kind : Q → Bool) :
    (State.idle s : State S Q A ε P).asking kind = 0 := by
  unfold asking
  rw [Finset.card_eq_zero, Finset.filter_eq_empty_iff]
  intro p _ h
  cases h

theorem Follows.goOn {Next : (q : Q) → A q → Option Q → Prop} (h : σ.Follows Next)
    (hscript : ∀ x ∈ script, x.Follows Next) : (σ.goOn p s script).Follows Next := by
  intro p' x hx
  by_cases hp : p' = p
  · subst hp
    rw [script_goOn] at hx
    exact hscript x hx
  · rw [script_goOn_of_ne hp] at hx
    exact h p' x hx

end Others

end State

/-- What an event did to `σ`. -/
inductive Moves [DecidableEq P] (exec : S → (q : Q) → A q × S)
    (program : R → Script Q A ε PUnit) (σ : State S Q A ε P) :
    Event R P → State S Q A ε P → Prop
  | request {p : P} (r : R) (hidle : σ.script p = none) :
      Moves exec program σ (.request p r) (σ.goOn p σ.store (some (program r)))
  | answered {p : P} {result : Except ε PUnit} (hp : σ.script p = some (.done result)) :
      Moves exec program σ (.statement p) (σ.goOn p σ.store none)
  | sent {p : P} {q : Q} {next : A q → Script Q A ε PUnit}
      (hp : σ.script p = some (.send q next)) :
      Moves exec program σ (.statement p)
        (σ.goOn p (exec σ.store q).2 (some (next (exec σ.store q).1)))

section Interleavings

variable [DecidableEq P] (exec : S → (q : Q) → A q × S) (program : R → Script Q A ε PUnit)

/-- Every interleaving of any requests, from any store. -/
def interleavings (P : Type*) [DecidableEq P] :
    Transition.System (State S Q A ε P) (Event R P) where
  init σ := ∃ s, σ = .idle s
  step σ e σ' := σ.next exec program e = some σ'

/-- The requests one after the other. -/
def oneByOne (init : S → Prop) : Transition.System S R where
  init := init
  step s r s' := s' = ((program r).run exec s).2

variable {exec program} {σ σ' σ₀ : State S Q A ε P}

theorem moves_of_next {e : Event R P} (h : σ.next exec program e = some σ') :
    Moves exec program σ e σ' := by
  cases e with
  | request p r =>
      unfold State.next at h
      cases hp : σ.script p with
      | some x => simp [hp] at h
      | none =>
          simp only [hp, Option.some.injEq] at h
          subst h
          exact .request r hp
  | statement p =>
      change σ.send exec p = some σ' at h
      unfold State.send at h
      cases hp : σ.script p with
      | none => simp [hp] at h
      | some x =>
          cases x with
          | done result =>
              simp only [hp, Option.some.injEq] at h
              subst h
              exact .answered hp
          | send q next =>
              simp only [hp, Option.some.injEq] at h
              subst h
              exact .sent hp

/-- The invariant rule for interleavings of scripts that follow `Next`. A statement is
known by its head, and by the head of what is left of the script after it. -/
theorem invariant_of_follows {Next : (q : Q) → A q → Option Q → Prop}
    {guard : State S Q A ε P → Event R P → Prop} {I : State S Q A ε P → Prop} {s : S}
    (hprogram : ∀ r, (program r).Follows Next) (hinit : I (.idle s))
    (hrequest : ∀ σ p r, I σ → guard σ (.request p r) → σ.script p = none →
      I (σ.goOn p σ.store (some (program r))))
    (hanswered : ∀ σ p result, I σ → σ.script p = some (.done result) →
      I (σ.goOn p σ.store none))
    (hsent : ∀ σ p q script, I σ → guard σ (.statement p) → σ.asks p = some q →
      Next q (exec σ.store q).1 script.head →
      I (σ.goOn p (exec σ.store q).2 (some script)))
    (hl : ((interleavings exec program P).restrict guard).Leads (.idle s) σ) : I σ := by
  have hboth : σ.Follows Next ∧ I σ := by
    induction hl with
    | refl => exact ⟨(fun _ _ h => nomatch h), hinit⟩
    | @step σ₁ _ e _ hst ih =>
        obtain ⟨hfollows, hI⟩ := ih
        cases moves_of_next hst.2 with
        | @request p r hidle =>
            refine ⟨hfollows.goOn ?_, hrequest σ₁ p r hI hst.1 hidle⟩
            intro x hx
            rw [← Option.some.inj hx]
            exact hprogram r
        | @answered p result hp =>
            exact ⟨hfollows.goOn (fun x hx => nomatch hx), hanswered σ₁ p result hI hp⟩
        | @sent p q next hp =>
            obtain ⟨hhead, hrest⟩ := hfollows p _ hp (exec σ₁.store q).1
            have hasks : σ₁.asks p = some q := by
              rw [State.asks, hp]
              rfl
            refine ⟨hfollows.goOn ?_, hsent σ₁ p q _ hI hst.1 hasks hhead⟩
            intro x hx
            rw [← Option.some.inj hx]
            exact hrest
  exact hboth.2

theorem goOn_goOn {p : P} {s s' : S}
    {script script' : Option (Script Q A ε PUnit)} :
    (σ.goOn p s script).goOn p s' script' = σ.goOn p s' script' := by
  unfold State.goOn
  rw [Function.update_idem]

/-- A process that no other interrupts runs its script to the end. -/
theorem leads_script {p : P} (x : Script Q A ε PUnit)
    (hl : (interleavings exec program P).Leads σ₀ σ) (hp : σ.script p = some x) :
    (interleavings exec program P).Leads σ₀ (σ.goOn p (x.run exec σ.store).2 none) := by
  induction x generalizing σ with
  | done result =>
      refine hl.step (l := .statement p) ?_
      change σ.send exec p = _
      simp only [State.send, hp]
      rfl
  | send q next ih =>
      have hstep : (interleavings exec program P).Leads σ₀
          (σ.goOn p (exec σ.store q).2 (some (next (exec σ.store q).1))) := by
        refine hl.step (l := .statement p) ?_
        change σ.send exec p = _
        simp only [State.send, hp]
      have hrest := ih (exec σ.store q).1 hstep State.script_goOn
      rw [goOn_goOn] at hrest
      exact hrest

/-- Requests one after the other are an interleaving. -/
theorem leads_of_oneByOne [Nonempty P] {init : S → Prop} {s s' : S}
    (hl : (oneByOne exec program init).Leads s s') :
    (interleavings exec program P).Leads (.idle s) (.idle s') := by
  obtain ⟨p⟩ := ‹Nonempty P›
  induction hl with
  | refl => exact .refl
  | @step s₁ s₂ r _ hst ih =>
      have hrequest : (interleavings exec program P).Leads (.idle s)
          ((State.idle s₁).goOn p s₁ (some (program r))) := ih.step (l := .request p r) rfl
      have hrun := leads_script (program r) hrequest State.script_goOn
      rw [goOn_goOn] at hrun
      have hidle : (State.idle s₁ : State S Q A ε P).goOn p s₂ none = .idle s₂ := by
        unfold State.goOn State.idle
        rw [Function.update_eq_self]
      rw [← hidle, show s₂ = ((program r).run exec s₁).2 from hst]
      exact hrun

theorem leads_of_run {guard : State S Q A ε P → Event R P → Prop}
    [∀ σ e, Decidable (guard σ e)] {es : List (Event R P)}
    (hl : ((interleavings exec program P).restrict guard).Leads σ₀ σ)
    (hrun : σ.run exec program guard es = some σ') :
    ((interleavings exec program P).restrict guard).Leads σ₀ σ' := by
  induction es generalizing σ with
  | nil =>
      cases hrun
      exact hl
  | cons e es ih =>
      unfold State.run at hrun
      split at hrun
      · next hguard =>
        obtain ⟨σ₁, hnext, hrest⟩ := Option.bind_eq_some_iff.mp hrun
        exact ih (hl.step ⟨hguard, hnext⟩) hrest
      · cases hrun

end Interleavings

end Autocommit

end Concurrency
