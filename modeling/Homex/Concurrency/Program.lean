import Mathlib.Logic.Function.Basic

/-!
# Programs of database statements

A `Program` is the code of one request as the database sees it: a tree of
statements, each of which waits for its answer before the next is sent. A
statement is answered from a store `S`, and locks rows by their keys `K`. Code
between two statements is in the functions that take the answers.

`read`, `query` and `lock` are `SELECT` statements: of one row, of anything else,
and `SELECT … FOR UPDATE` of one row, which locks it when it is found. `update`
and `insert` write one row.
`start` and `commit` enclose a transaction; outside one every statement commits
by itself. A program that ends inside its transaction leaves it uncommitted.
-/

namespace Concurrency

universe u

/-- The statements a request still has to send. -/
inductive Program (S K ε α : Type u) : Type u
  | done (result : Except ε α)
  | read (key : K) (next : S → Program S K ε α)
  | query (next : S → Program S K ε α)
  | lock (key : K) (found : S → Bool) (next : S → Program S K ε α)
  | update (key : K) (f : S → S) (next : Program S K ε α)
  | insert (key : K) (f : S → Option S) (e : ε) (next : Program S K ε α)
  | start (next : Program S K ε α)
  | commit (next : Program S K ε α)

namespace Program

variable {S K ε α β : Type u}

/-- Run `f` on the result. An error ends the program. -/
def bind : Program S K ε α → (α → Program S K ε β) → Program S K ε β
  | .done (.ok a), f => f a
  | .done (.error e), _ => .done (.error e)
  | .read key next, f => .read key fun s => (next s).bind f
  | .query next, f => .query fun s => (next s).bind f
  | .lock key found next, f => .lock key found fun s => (next s).bind f
  | .update key g next, f => .update key g (next.bind f)
  | .insert key g e next, f => .insert key g e (next.bind f)
  | .start next, f => .start (next.bind f)
  | .commit next, f => .commit (next.bind f)

instance : Monad (Program S K ε) where
  pure a := .done (.ok a)
  bind := bind

/-- Fail. -/
def raise (e : ε) : Program S K ε α := .done (.error e)

/-- Go on only when the condition holds. -/
def require (c : Prop) [Decidable c] (e : ε) : Program S K ε PUnit :=
  if c then pure ⟨⟩ else raise e

/-- The value found in an answer, or an error when there is none. -/
def found (e : ε) : Option α → Program S K ε α
  | some a => pure a
  | none => raise e

/-- `SELECT` of the row `key`. -/
def fetch (key : K) (row : S → Option α) (e : ε) : Program S K ε α :=
  .read key fun s => found e (row s)

/-- `SELECT … FOR UPDATE` of the row `key`. -/
def fetchForUpdate (key : K) (row : S → Option α) (e : ε) : Program S K ε α :=
  .lock key (fun s => (row s).isSome) fun s => found e (row s)

/-- `UPDATE` of the row `key`. -/
def write (key : K) (f : S → S) : Program S K ε PUnit := .update key f (pure ⟨⟩)

/-- `INSERT` of the row `key`, which fails when `f` does. -/
def create (key : K) (f : S → Option S) (e : ε) : Program S K ε PUnit :=
  .insert key f e (pure ⟨⟩)

/-- A transaction, committed when its body succeeds. -/
def atomic (body : Program S K ε α) : Program S K ε α :=
  .start (body.bind fun a => .commit (pure a))

end Program

end Concurrency
