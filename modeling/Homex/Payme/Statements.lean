import Homex.System.Runs

/-!
# The statement and its own timestamps

`GetStatement` selects the rows by their instant in microseconds, between two
bounds that come in milliseconds, and answers with the milliseconds of each row.
A row that was created inside the last millisecond of the range is reported with
that millisecond, and is not selected.
-/

namespace Homex

namespace Payme

open Relational Action PaymeWebHookAPIView

variable {cfg : Settings} {ctx : Context} {params : Params} {db : DB} {first last : Int}
  {tx : PaymeTransaction}

/-- The answer has the lines whose own time of creation is in the range, each once. -/
def ListsReported (db : DB) (first last : Int) (answer : Except Error Response) : Prop :=
  ∃ lines, answer = .ok (.payme (.statement lines)) ∧
    lines.Perm ((db.payme.rows.map statementOf).filter fun line =>
      first ≤ line.createTime ∧ line.createTime ≤ last)

/-- The row was created inside the millisecond at the end of the range, or at its
start when instants are rounded up: before the epoch. -/
def OnEdge (first last : Int) (tx : PaymeTransaction) : Prop :=
  tx.createdAt % 1000 ≠ 0 ∧
    timeToPayme (some tx.createdAt) = if 0 ≤ tx.createdAt then last else first

/-- The row passes the filter of the database. -/
def Selected (first last : Int) (tx : PaymeTransaction) : Prop :=
  timeToService first ≤ tx.createdAt ∧ tx.createdAt ≤ timeToService last

/-- The time that the row is reported with is in the range. -/
def Reported (first last : Int) (tx : PaymeTransaction) : Prop :=
  first ≤ timeToPayme (some tx.createdAt) ∧ timeToPayme (some tx.createdAt) ≤ last

instance : DecidablePred (Selected first last) := fun _ => inferInstanceAs (Decidable (_ ∧ _))

instance : DecidablePred (Reported first last) := fun _ => inferInstanceAs (Decidable (_ ∧ _))

theorem timeToPayme_of_nonneg {t : Int} (h : 0 ≤ t) : timeToPayme (some t) = t / 1000 :=
  Int.tdiv_eq_ediv_of_nonneg h

theorem timeToPayme_of_neg {t : Int} (h : t < 0) : timeToPayme (some t) = -(-t / 1000) := by
  have hneg : timeToPayme (some (-t)) = -t / 1000 := timeToPayme_of_nonneg (by omega)
  rw [← hneg]
  change t.tdiv 1000 = -(-t).tdiv 1000
  rw [Int.neg_tdiv, neg_neg]

theorem Selected.reported (h : Selected first last tx) : Reported first last tx := by
  unfold Selected timeToService at h
  unfold Reported
  rcases le_or_gt 0 tx.createdAt with hpos | hneg
  · rw [timeToPayme_of_nonneg hpos]
    omega
  · rw [timeToPayme_of_neg hneg]
    omega

/-- A row is reported in the range and not selected when it is on the edge. -/
theorem onEdge_iff (hle : first ≤ last) :
    OnEdge first last tx ↔ Reported first last tx ∧ ¬Selected first last tx := by
  unfold OnEdge Reported Selected timeToService
  rcases le_or_gt 0 tx.createdAt with hpos | hneg
  · rw [if_pos hpos, timeToPayme_of_nonneg hpos]
    omega
  · rw [if_neg (not_le.mpr hneg), timeToPayme_of_neg hneg]
    omega

theorem getStatement_answer (hfrom : params.fromTime = some first)
    (hto : params.toTime = some last) :
    (handle cfg ctx (.paymeStatement params) db).1 =
      .ok (.payme (.statement
        ((db.payme.rows.filter (Selected first last)).reverse.map statementOf))) := by
  have hview : view cfg ctx (.paymeStatement params) db =
      (.ok (.payme (.statement
        ((db.payme.rows.filter (Selected first last)).reverse.map statementOf))), db) := by
    simp only [view, getStatement, requireKey, hfrom, hto]
    rfl
  rw [handle_of_ok hview]

/-- A filter that a weaker one agrees with in length agrees with it on every element. -/
theorem length_filter_eq_iff {α : Type} {p q : α → Prop} [DecidablePred p] [DecidablePred q]
    (hpq : ∀ x, p x → q x) (l : List α) :
    (l.filter p).length = (l.filter q).length ↔ ∀ x ∈ l, q x → p x := by
  have hsub : (l.filter p).Sublist (l.filter q) :=
    List.monotone_filter_right l fun x hx => by simpa using hpq x (by simpa using hx)
  constructor
  · intro hlen x hx hq
    have hmem : x ∈ l.filter q := List.mem_filter.mpr ⟨hx, by simpa using hq⟩
    rw [← hsub.eq_of_length hlen] at hmem
    simpa using (List.mem_filter.mp hmem).2
  · intro h
    refine congrArg List.length (List.filter_congr fun x hx => ?_)
    simpa using ⟨hpq x, h x hx⟩

/-- The statement lists what it reports when it selects all of that. -/
theorem listsReported_iff (cfg : Settings) (ctx : Context) (db : DB) {params : Params}
    (hfrom : params.fromTime = some first) (hto : params.toTime = some last) :
    ListsReported db first last (handle cfg ctx (.paymeStatement params) db).1 ↔
      ∀ tx ∈ db.payme.rows, Reported first last tx → Selected first last tx := by
  have hrows : ((db.payme.rows.map statementOf).filter fun line =>
      first ≤ line.createTime ∧ line.createTime ≤ last) =
        (db.payme.rows.filter (Reported first last)).map statementOf := by
    rw [List.filter_map]
    rfl
  rw [getStatement_answer hfrom hto,
    ← length_filter_eq_iff (fun _ h => h.reported) db.payme.rows]
  unfold ListsReported
  rw [hrows]
  constructor
  · rintro ⟨lines, heq, hperm⟩
    simp only [Except.ok.injEq, Response.payme.injEq, Result.statement.injEq] at heq
    subst heq
    simpa using hperm.length_eq
  · intro hlen
    refine ⟨_, rfl, ?_⟩
    have hsame : db.payme.rows.filter (Selected first last) =
        db.payme.rows.filter (Reported first last) := by
      refine List.filter_congr fun tx htx => ?_
      have hback := (length_filter_eq_iff (fun _ h => h.reported) db.payme.rows).mp hlen tx htx
      simpa using ⟨fun h => h.reported, hback⟩
    rw [hsame]
    exact (List.reverse_perm _).map _

/-- The statement is exact on its own timestamps when no row is on the edge. -/
theorem statement_exact (cfg : Settings) (ctx : Context) (db : DB) {params : Params}
    (hfrom : params.fromTime = some first) (hto : params.toTime = some last) (hle : first ≤ last) :
    ListsReported db first last (handle cfg ctx (.paymeStatement params) db).1 ↔
      ∀ tx ∈ db.payme.rows, ¬OnEdge first last tx := by
  rw [listsReported_iff cfg ctx db hfrom hto]
  refine forall₂_congr fun tx _ => ?_
  rw [onEdge_iff hle, not_and, not_not]

/-- A row that was created at the start of a millisecond. -/
theorem statement_exact_sample :
    ListsReported (Sample.world.run {} (Sample.awaiting ++
      [(Sample.at_ 2000, Sample.paymeCreate)])).db 1 2
        (handle {} (Sample.at_ 3000) (.paymeStatement { fromTime := some 1, toTime := some 2 })
          (Sample.world.run {} (Sample.awaiting ++
            [(Sample.at_ 2000, Sample.paymeCreate)])).db).1 := by
  refine (statement_exact {} (Sample.at_ 3000) _ rfl rfl (by decide)).mpr ?_
  unfold OnEdge
  decide

/-- A row that was created 500 microseconds after the start of the last millisecond. -/
theorem statement_omits_its_end :
    ¬∀ (cfg : Settings) (ctx : Context) (w : World) (params : Params) (first last : Int),
      (backend cfg).Reachable w → params.fromTime = some first → params.toTime = some last →
        first ≤ last →
          ListsReported w.db first last (handle cfg ctx (.paymeStatement params) w.db).1 := by
  intro h
  have hreach : (backend {}).Reachable (Sample.world.run {}
      (Sample.awaiting ++ [(Sample.at_ 2500, Sample.paymeCreate)])) :=
    reachable_run Sample.reachable (by decide)
  have hedge : ∃ tx ∈ (Sample.world.run {}
      (Sample.awaiting ++ [(Sample.at_ 2500, Sample.paymeCreate)])).db.payme.rows,
        OnEdge 1 2 tx := by
    unfold OnEdge
    decide
  obtain ⟨tx, htx, hon⟩ := hedge
  have hlists := h {} (Sample.at_ 3000) _ { fromTime := some 1, toTime := some 2 } 1 2 hreach rfl
    rfl (by decide)
  obtain ⟨hreported, hnot⟩ := (onEdge_iff (by decide)).mp hon
  exact hnot ((listsReported_iff {} (Sample.at_ 3000) _ rfl rfl).mp hlists tx htx hreported)

end Payme

end Homex
