import Mathlib.Algebra.Order.Group.Defs
import Mathlib.Data.Option.Basic

/-!
# Credentials that renew each other

A grant hands out credentials at an instant, against some evidence of who asks or
against an earlier credential. A ledger of grants, the newest first, is sound when
every renewal shows a credential that an earlier grant made and that has not
expired, for the same owner, and when nothing lives longer than a bound. Then
every credential descends from a grant that was made against evidence, and a gap
in the renewals of an owner that is as long as the bound cuts all earlier
credentials off.
-/

namespace Transition

/-- What was handed out at an instant, and against what. -/
structure Grant (C E T : Type*) where
  instant : T
  source : C ⊕ E
  made : List C

namespace Grant

variable {C E K T : Type*}

/-- A grant of the ledger made the credential. -/
def Issued (ledger : List (Grant C E T)) (c : C) : Prop := ∃ g ∈ ledger, c ∈ g.made

/-- The credential comes from a grant that was made against evidence, by renewals. -/
inductive Descends (ledger : List (Grant C E T)) : C → Grant C E T → E → Prop
  | first {g : Grant C E T} {e : E} {c : C} :
      g ∈ ledger → g.source = .inr e → c ∈ g.made → Descends ledger c g e
  | renewed {g root : Grant C E T} {p : C} {e : E} {c : C} :
      g ∈ ledger → g.source = .inl p → c ∈ g.made → Descends ledger p root e →
        Descends ledger c root e

theorem Issued.mono {ledger ledger' : List (Grant C E T)} {c : C}
    (hsub : ∀ g ∈ ledger, g ∈ ledger') (h : Issued ledger c) : Issued ledger' c := by
  obtain ⟨g, hg, hc⟩ := h
  exact ⟨g, hsub g hg, hc⟩

theorem Descends.mono {ledger ledger' : List (Grant C E T)} {c : C} {root : Grant C E T} {e : E}
    (hsub : ∀ g ∈ ledger, g ∈ ledger') (h : Descends ledger c root e) :
    Descends ledger' c root e := by
  induction h with
  | first hg hsource hc => exact .first (hsub _ hg) hsource hc
  | renewed hg hsource hc _ ih => exact .renewed (hsub _ hg) hsource hc ih

section Sound

variable [AddCommGroup T] [LinearOrder T]
  (owner : C → K) (exp : C → T) (lifetime : T) (proves : E → K → Prop)

/-- The grant may follow the ledger. -/
structure Fits (ledger : List (Grant C E T)) (g : Grant C E T) : Prop where
  renewal : ∀ p, g.source = .inl p →
    Issued ledger p ∧ g.instant < exp p ∧ ∀ c ∈ g.made, owner c = owner p
  evidence : ∀ e, g.source = .inr e → ∀ c ∈ g.made, proves e (owner c)
  lifetime : ∀ c ∈ g.made, exp c ≤ g.instant + lifetime

/-- Every grant fits what was granted before it. -/
inductive Sound : List (Grant C E T) → Prop
  | nil : Sound []
  | cons {g : Grant C E T} {ledger : List (Grant C E T)} :
      Sound ledger → Fits owner exp lifetime proves ledger g → Sound (g :: ledger)

variable {owner exp lifetime proves}

theorem Sound.fits {ledger : List (Grant C E T)} {g : Grant C E T}
    (h : Sound owner exp lifetime proves ledger) (hg : g ∈ ledger) :
    Fits owner exp lifetime proves ledger g := by
  induction h with
  | nil => cases hg
  | @cons g' ledger _ hfits ih =>
      have hfits' : Fits owner exp lifetime proves ledger g := by
        rcases List.mem_cons.mp hg with rfl | hg
        · exact hfits
        · exact ih hg
      refine ⟨fun p hp => ?_, hfits'.evidence, hfits'.lifetime⟩
      obtain ⟨hissued, hrest⟩ := hfits'.renewal p hp
      exact ⟨hissued.mono fun g hg => List.mem_cons_of_mem g' hg, hrest⟩

/-- Every credential descends from evidence about its owner. The induction is on the
ledger: the credential of a renewal is in what was granted before. -/
theorem Sound.descends {ledger : List (Grant C E T)}
    (h : Sound owner exp lifetime proves ledger) {c : C} (hc : Issued ledger c) :
    ∃ root e, Descends ledger c root e ∧ proves e (owner c) := by
  induction h generalizing c with
  | nil =>
      obtain ⟨g, hg, -⟩ := hc
      cases hg
  | @cons g ledger hsound hfits ih =>
      have hsub : ∀ g' ∈ ledger, g' ∈ g :: ledger := fun g' hg' => List.mem_cons_of_mem g hg'
      obtain ⟨g', hg', hmade⟩ := hc
      rcases List.mem_cons.mp hg' with rfl | hg'
      · cases hsource : g'.source with
        | inl p =>
            obtain ⟨hissued, -, howner⟩ := hfits.renewal p hsource
            obtain ⟨root, e, hdescends, hproves⟩ := ih hissued
            refine ⟨root, e, .renewed List.mem_cons_self hsource hmade (hdescends.mono hsub), ?_⟩
            rw [howner c hmade]
            exact hproves
        | inr e =>
            exact ⟨g', e, .first List.mem_cons_self hsource hmade,
              hfits.evidence e hsource c hmade⟩
      · obtain ⟨root, e, hdescends, hproves⟩ := ih ⟨g', hg', hmade⟩
        exact ⟨root, e, hdescends.mono hsub, hproves⟩

/-- A descent stays with one owner. -/
theorem Descends.owner_eq {ledger : List (Grant C E T)}
    (h : Sound owner exp lifetime proves ledger) {c : C} {root : Grant C E T} {e : E}
    (hdescends : Descends ledger c root e) : ∃ c₀ ∈ root.made, owner c₀ = owner c := by
  induction hdescends with
  | @first g e c _ _ hmade => exact ⟨c, hmade, rfl⟩
  | @renewed g root p e c hg hsource hmade _ ih =>
      obtain ⟨c₀, hc₀, howner⟩ := ih
      exact ⟨c₀, hc₀, howner.trans (((h.fits hg).renewal p hsource).2.2 c hmade).symm⟩

/-- A gap in the renewals of an owner. Nothing is renewed for the owner in the middle of
the ledger; what is older was granted by `start`, what is newer from `stop` on, and no
credential lives as long as the gap. A credential of the owner that lives after the gap
descends from a grant that is not in the old part. -/
theorem Descends.after_gap [IsOrderedAddMonoid T] {recent middle old : List (Grant C E T)}
    (h : Sound owner exp lifetime proves (recent ++ middle ++ old)) {start stop : T}
    (hold : ∀ g ∈ old, g.instant ≤ start) (hgap : start + lifetime ≤ stop)
    (hrecent : ∀ g ∈ recent, stop ≤ g.instant) {c : C} {root : Grant C E T} {e : E}
    (hmiddle : ∀ g ∈ middle, ∀ p, g.source = .inl p → owner p ≠ owner c)
    (hdescends : Descends (recent ++ middle ++ old) c root e) {t : T} (hstop : stop ≤ t)
    (hlive : t < exp c) : root ∈ recent ++ middle := by
  have hdead : ∀ g ∈ old, ∀ c ∈ g.made, ¬stop < exp c := by
    intro g hg c hc
    have hexp := (h.fits (List.mem_append_right _ hg)).lifetime c hc
    exact not_lt_of_ge (hexp.trans ((add_le_add_left (hold g hg) lifetime).trans hgap))
  induction hdescends generalizing t with
  | @first g e c hg _ hmade =>
      rcases List.mem_append.mp hg with hg | hg
      · exact hg
      · exact absurd (hstop.trans_lt hlive) (hdead g hg c hmade)
  | @renewed g root p e c hg hsource hmade _ ih =>
      obtain ⟨-, hlivep, howner⟩ := (h.fits hg).renewal p hsource
      rw [howner c hmade] at hmiddle
      rcases List.mem_append.mp hg with hg | hg
      · rcases List.mem_append.mp hg with hg | hg
        · exact ih hmiddle (hrecent g hg) hlivep
        · exact absurd rfl (hmiddle g hg p hsource)
      · exact absurd (hstop.trans_lt hlive) (hdead g hg c hmade)

end Sound

end Grant

end Transition
