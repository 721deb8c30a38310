import Homex.Accounts.Codes

/-!
# The limit of wrong guesses, statement by statement

The attempts of a code are a number in its cache entry: a verify reads the entry,
compares, and writes the entry back with one more attempt. `Phase` is a verify
between two statements, so any number of verifies can be interleaved. Two that
read the same number write the same number, and a guess after the last one may be
compared before the block key is set: then more guesses are compared than the
limit allows. `oneAtATime` is the condition that a wrong guess reads the attempts
only while no other wrong guess is between its own read and its write.
-/

namespace Homex

namespace Accounts

open Relational Action Timed

/-- Where a verify is: what it has read, and what it does next. -/
inductive Phase
  | arrived
  | unblocked
  | loaded (payload : Option OtpPayload)
  | fetched (payload : OtpPayload) (record : OTPRecord)
  | wrong (payload : OtpPayload) (record : OTPRecord)
  | counted (attempts : Nat) (record : OTPRecord)
  | saved (attempts : Nat)
  | matched (record : OTPRecord)
  | done (result : Except Error Unit)
  deriving DecidableEq

/-- The next statement of `VerifyOTPSerializer`, at the instant `now`. The comparison is a
step of its own, and `create` goes up to the record it marks as used. -/
def Phase.next (now : Int) (phone otpCode : String) (store : OtpStore) : Phase → Phase × OtpStore
  | .arrived =>
      if otpCode.length < 6 then
        (.done (.error (.validation "otp_code" "Ensure this field has at least 6 characters.")),
          store)
      else if 6 < otpCode.length then
        (.done (.error (.validation "otp_code" "Ensure this field has no more than 6 characters.")),
          store)
      else if store.blocks.get now phone ≠ none then
        (.done (.error (.validation none "Ko'p noto'g'ri urinish. 15 daqiqa kuting")), store)
      else (.unblocked, store)
  | .unblocked => (.loaded (store.codes.get now phone), store)
  | .loaded payload =>
      match payload, store.unusedRecord phone with
      | some payload, some record =>
          if record.expiresAt < now then
            (.done (.error (.validation none "OTP muddati tugagan")), store)
          else (.fetched payload record, store)
      | _, _ => (.done (.error (.validation none "OTP muddati tugagan")), store)
  | .fetched payload record =>
      if payload.code ≠ otpCode then (.wrong payload record, store) else (.matched record, store)
  | .wrong payload record =>
      (.counted (payload.attempts + 1) record,
        { store with
            codes := store.codes.set now phone { payload with attempts := payload.attempts + 1 }
              otpTtl })
  | .counted attempts record =>
      (.saved attempts,
        { store with records := store.records.update record.id fun r => { r with attempts } })
  | .saved attempts =>
      (.done (.error wrongCode),
        if otpMaxAttempts ≤ attempts then
          { store with blocks := store.blocks.set now phone () otpBlock }
        else store)
  | .matched record =>
      (.done (.ok ()),
        { store with records := store.records.update record.id fun r => { r with isUsed := true } })
  | .done result => (.done result, store)

/-- The step compares a wrong guess. -/
def Phase.ComparesWrong (otpCode : String) : Phase → Prop
  | .fetched payload _ => payload.code ≠ otpCode
  | _ => False

instance (otpCode : String) (phase : Phase) : Decidable (phase.ComparesWrong otpCode) := by
  cases phase <;> unfold Phase.ComparesWrong <;> infer_instance

/-- The step sets the block key. -/
def Phase.SetsBlock : Phase → Prop
  | .saved attempts => otpMaxAttempts ≤ attempts
  | _ => False

instance (phase : Phase) : Decidable phase.SetsBlock := by
  cases phase <;> unfold Phase.SetsBlock <;> infer_instance

/-- The stores, and the verifies of one phone, each with its guess. Two history variables:
how many wrong guesses were compared before the block key was set, and whether it was. -/
structure Guessing (P : Type) where
  store : OtpStore
  clock : Int
  verify : P → Option (String × Phase) := fun _ => none
  wrongs : Nat := 0
  blocked : Bool := false

/-- A request arrives, or one goes on by a statement. -/
inductive GuessStep (P : Type)
  | request (p : P) (otpCode : String)
  | statement (p : P)

variable {P : Type} [DecidableEq P]

/-- The state after a step at the instant `now`. -/
def Guessing.next (phone : String) (now : Int) (σ : Guessing P) : GuessStep P → Guessing P
  | .request p otpCode =>
      { σ with clock := now, verify := Function.update σ.verify p (some (otpCode, .arrived)) }
  | .statement p =>
      match σ.verify p with
      | none => { σ with clock := now }
      | some (otpCode, phase) =>
          { store := (phase.next now phone otpCode σ.store).2
            clock := now
            verify := Function.update σ.verify p
              (some (otpCode, (phase.next now phone otpCode σ.store).1))
            wrongs :=
              if phase.ComparesWrong otpCode ∧ σ.blocked = false then σ.wrongs + 1 else σ.wrongs
            blocked := σ.blocked || decide phase.SetsBlock }

/-- Some statements of one verify in a row, at one instant. -/
def Phase.alone (now : Int) (phone otpCode : String) : Nat → Phase → OtpStore → Phase × OtpStore
  | 0, phase, store => (phase, store)
  | n + 1, phase, store =>
      Phase.alone now phone otpCode n (phase.next now phone otpCode store).1
        (phase.next now phone otpCode store).2

theorem Phase.alone_done {now : Int} {phone otpCode : String} (n : Nat)
    (result : Except Error Unit) (store : OtpStore) :
    Phase.alone now phone otpCode n (.done result) store = (.done result, store) := by
  induction n with
  | zero => rfl
  | succ n ih => exact ih

theorem Phase.alone_succ {now : Int} {phone otpCode : String} {n : Nat} {phase phase' : Phase}
    {store store' : OtpStore} (h : phase.next now phone otpCode store = (phase', store')) :
    Phase.alone now phone otpCode (n + 1) phase store =
      Phase.alone now phone otpCode n phase' store' := by
  rw [Phase.alone, h]

theorem update_record {t : Table OTPRecord} {record : OTPRecord} (hmem : record ∈ t.rows)
    (set : OTPRecord → OTPRecord) : t.update record.id set = t.save (set record) :=
  Table.update_of_find? (Table.find?_of_mem hmem) set

/-- The store after the record of a verify that succeeded is marked as used. -/
def OtpStore.used (store : OtpStore) : Except Error (Option OTPRecord) → OtpStore
  | .ok (some record) =>
      { store with records := store.records.save { record with isUsed := true } }
  | _ => store

/-- The statements of a verify after its checks, when no other interrupts it. -/
theorem alone_of_live {ctx : OtpContext} {phone otpCode : String} {store : OtpStore}
    {payload : OtpPayload} {record : OTPRecord} (hrecord : store.unusedRecord phone = some record)
    (hexpires : ctx.now ≤ record.expiresAt) :
    Phase.alone ctx.now phone otpCode 5 (.loaded (some payload)) store =
      if payload.code ≠ otpCode then
        (.done (.error wrongCode),
          (store.counted ctx phone payload record).blockedAfter ctx phone (payload.attempts + 1))
      else
        (.done (.ok ()), store.used (.ok (some record))) := by
  have hmem := (unusedRecord_eq_some hrecord).1
  have hloaded : (Phase.loaded (some payload)).next ctx.now phone otpCode store =
      (.fetched payload record, store) := by
    simp only [Phase.next, hrecord, if_neg (not_lt.mpr hexpires)]
  rw [Phase.alone_succ hloaded]
  by_cases hcode : payload.code ≠ otpCode
  · have hwrong : (Phase.fetched payload record).next ctx.now phone otpCode store =
        (.wrong payload record, store) := if_pos hcode
    rw [if_pos hcode, Phase.alone_succ hwrong]
    simp only [Phase.alone, Phase.next, update_record hmem]
    rfl
  · have hmatched : (Phase.fetched payload record).next ctx.now phone otpCode store =
        (.matched record, store) := if_neg hcode
    rw [if_neg hcode, Phase.alone_succ hmatched]
    simp only [Phase.alone, Phase.next, update_record hmem]
    rfl

theorem expired_of_liveCode {ctx : OtpContext} {phone : String} {store store' : OtpStore}
    {e : Error} (h : liveCode ctx phone store = (.error e, store')) (p : OtpPayload)
    (record : OTPRecord) (hpayload : store.codes.get ctx.now phone = some p)
    (hrecord : store.unusedRecord phone = some record) : record.expiresAt < ctx.now := by
  unfold liveCode at h
  rw [run_bind_ok run_get] at h
  simp only [hpayload, hrecord] at h
  by_contra hlive
  rw [run_bind_ok (run_require (not_lt.mp hlive))] at h
  cases h

/-- A verify ends when there is no live cache entry and record. -/
theorem alone_of_expired {now : Int} {phone otpCode : String} {store : OtpStore}
    {payload : Option OtpPayload} (h : ∀ p record, payload = some p →
      store.unusedRecord phone = some record → record.expiresAt < now) :
    Phase.alone now phone otpCode 5 (.loaded payload) store =
      (.done (.error (.validation none "OTP muddati tugagan")), store) := by
  have hloaded : (Phase.loaded payload).next now phone otpCode store =
      (.done (.error (.validation none "OTP muddati tugagan")), store) := by
    cases payload with
    | none => rfl
    | some p =>
        cases hrecord : store.unusedRecord phone with
        | none => simp only [Phase.next, hrecord]
        | some record => simp only [Phase.next, hrecord, if_pos (h p record rfl hrecord)]
  rw [Phase.alone_succ hloaded, Phase.alone_done]

/-- A verify that no other interrupts is the sequential one. -/
theorem alone_eq_validate {cfg : OtpSettings} {ctx : OtpContext} {phone otpCode : String}
    {store : OtpStore} (htest : ¬cfg.IsTestPhone phone) :
    Phase.alone ctx.now phone otpCode 7 .arrived store =
      (.done ((VerifyOTPSerializer.validate cfg ctx phone otpCode store).1.map fun _ => ()),
        (VerifyOTPSerializer.validate cfg ctx phone otpCode store).2.used
          (VerifyOTPSerializer.validate cfg ctx phone otpCode store).1) := by
  unfold VerifyOTPSerializer.validate
  by_cases hmin : 6 ≤ otpCode.length
  case neg =>
    have harrived : Phase.arrived.next ctx.now phone otpCode store = (.done (.error
        (.validation "otp_code" "Ensure this field has at least 6 characters.")), store) :=
      if_pos (not_le.mp hmin)
    rw [run_bind_error (run_require_not hmin), Phase.alone_succ harrived, Phase.alone_done]
    rfl
  rw [run_bind_ok (run_require hmin)]
  by_cases hmax : otpCode.length ≤ 6
  case neg =>
    have harrived : Phase.arrived.next ctx.now phone otpCode store = (.done (.error
        (.validation "otp_code" "Ensure this field has no more than 6 characters.")), store) :=
      (if_neg (not_lt.mpr hmin)).trans (if_pos (not_le.mp hmax))
    rw [run_bind_error (run_require_not hmax), Phase.alone_succ harrived, Phase.alone_done]
    rfl
  rw [run_bind_ok (run_require hmax), if_neg htest, run_bind_ok run_get]
  have harrived : Phase.arrived.next ctx.now phone otpCode store =
      if store.blocks.get ctx.now phone ≠ none then
        (.done (.error (.validation none "Ko'p noto'g'ri urinish. 15 daqiqa kuting")), store)
      else (.unblocked, store) :=
    (if_neg (not_lt.mpr hmin)).trans (if_neg (not_lt.mpr hmax))
  by_cases hblock : store.blocks.get ctx.now phone = none
  case neg =>
    rw [if_pos hblock] at harrived
    rw [run_bind_error (run_require_not hblock), Phase.alone_succ harrived, Phase.alone_done]
    rfl
  rw [if_neg (not_not.mpr hblock)] at harrived
  have hunblocked : Phase.unblocked.next ctx.now phone otpCode store =
      (.loaded (store.codes.get ctx.now phone), store) := rfl
  rw [run_bind_ok (run_require hblock), Phase.alone_succ harrived, Phase.alone_succ hunblocked]
  rcases hlive : liveCode ctx phone store with ⟨r, store₁⟩
  obtain ⟨rfl, rfl | ⟨payload, record, rfl, hl, hrecord⟩⟩ := liveCode_cases hlive hblock
  · rw [run_bind_error hlive, alone_of_expired (expired_of_liveCode hlive)]
    rfl
  · rw [run_bind_ok hlive, hl.payload, alone_of_live hrecord hl.expires]
    dsimp only
    by_cases hcode : payload.code = otpCode
    · rw [if_neg (not_not.mpr hcode), if_neg (not_not.mpr hcode)]
      rfl
    · rw [if_pos hcode, if_pos hcode, run_bind_ok (run_countAttempt payload record)]
      rfl

/-- The verify has answered. -/
def Phase.isDone : Phase → Bool
  | .done _ => true
  | _ => false

/-- The connection has no request under way. -/
def Guessing.Idle (σ : Guessing P) (p : P) : Prop :=
  ((σ.verify p).all fun v => v.2.isDone) = true

instance (σ : Guessing P) (p : P) : Decidable (σ.Idle p) :=
  inferInstanceAs (Decidable (_ = true))

/-- A code was issued to the phone, and no verify has begun. -/
def Guessing.Issued (phone : String) (σ : Guessing P) : Prop :=
  (∃ code expiry, σ.store.codes phone = some ({ code := code }, expiry)) ∧
    (∀ p, σ.verify p = none) ∧ σ.wrongs = 0 ∧ σ.blocked = false

/-- Any interleaving of the statements of any number of verifies of one phone, from the
moment a code is issued to it. -/
def guesses (P : Type) [DecidableEq P] (phone : String) :
    Transition.System (Guessing P) (Int × GuessStep P) where
  init := Guessing.Issued phone
  step σ l σ' :=
    σ.clock ≤ l.1 ∧ (∀ p otpCode, l.2 = .request p otpCode → σ.Idle p) ∧
      σ' = σ.next phone l.1 l.2

/-- What a verify has to do with the attempts: nothing, it has read them for a wrong guess,
it has compared the guess, or it has written the last attempt and has not blocked yet. -/
inductive Stage
  | calm
  | reading (payload : OtpPayload)
  | guessed (payload : OtpPayload)
  | last
  deriving DecidableEq

/-- The stage of a verify of a guess. -/
def Phase.stage (otpCode : String) : Phase → Stage
  | .loaded (some payload) => if payload.code = otpCode then .calm else .reading payload
  | .fetched payload _ => if payload.code = otpCode then .calm else .reading payload
  | .wrong payload _ => .guessed payload
  | .counted attempts _ => if otpMaxAttempts ≤ attempts then .last else .calm
  | .saved attempts => if otpMaxAttempts ≤ attempts then .last else .calm
  | _ => .calm

/-- The stage of the verify of a connection. -/
def Guessing.stage (σ : Guessing P) (p : P) : Stage :=
  (σ.verify p).elim .calm fun v => v.2.stage v.1

/-- A verify that reads the attempts for a wrong guess finds every other verify calm. -/
def oneAtATime (phone : String) (σ : Guessing P) (l : Int × GuessStep P) : Prop :=
  ∀ p otpCode payload, l.2 = .statement p → σ.verify p = some (otpCode, .unblocked) →
    σ.store.codes.get l.1 phone = some payload → payload.code ≠ otpCode →
      ∀ q, σ.stage q = .calm

/-- What the attempts `n` of the cache entry and the wrong guesses compared so far have to
be, at the stage of the one verify at work. -/
def Stage.Fits (code : String) (n wrongs : Nat) : Stage → Prop
  | .calm => wrongs = n ∧ n < otpMaxAttempts
  | .reading payload => payload = { code, attempts := n } ∧ wrongs = n ∧ n < otpMaxAttempts
  | .guessed payload => payload = { code, attempts := n } ∧ wrongs = n + 1 ∧ n < otpMaxAttempts
  | .last => wrongs = n ∧ n ≤ otpMaxAttempts

theorem Stage.Fits.le {code : String} {n wrongs : Nat} {stage : Stage}
    (h : stage.Fits code n wrongs) : wrongs ≤ otpMaxAttempts := by
  cases stage with
  | calm => exact h.1.trans_le h.2.le
  | reading payload => exact h.2.1.trans_le h.2.2.le
  | guessed payload => exact h.2.1.trans_le h.2.2
  | last => exact h.1.trans_le h.2

/-- Until the block key is set, at most one verify is at work, and the wrong guesses are
what its stage and the cache entry say. -/
structure Limited (phone : String) (σ : Guessing P) : Prop where
  bound : σ.wrongs ≤ otpMaxAttempts
  counts : σ.blocked = false → ∃ code n expiry,
    σ.store.codes phone = some ({ code, attempts := n }, expiry) ∧
      ∃ a : Option P, (∀ p, some p ≠ a → σ.stage p = .calm) ∧
        (a.elim Stage.calm σ.stage).Fits code n σ.wrongs

section Statement

variable {now : Int} {phone otpCode code : String} {store : OtpStore} {phase : Phase}
  {n wrongs : Nat} {expiry : Int}

/-- A calm verify stays calm, unless it reads the attempts for a wrong guess. -/
theorem stage_next_of_calm (h : phase.stage otpCode = .calm)
    (hread : phase = .unblocked → ∀ payload, store.codes.get now phone = some payload →
      payload.code = otpCode) :
    (phase.next now phone otpCode store).1.stage otpCode = .calm ∧
      (phase.next now phone otpCode store).2.codes = store.codes ∧
      ¬phase.ComparesWrong otpCode ∧ ¬phase.SetsBlock := by
  cases phase with
  | arrived =>
      unfold Phase.next
      refine ⟨?_, ?_, id, id⟩
      · split_ifs <;> rfl
      · split_ifs <;> rfl
  | unblocked =>
      refine ⟨?_, rfl, id, id⟩
      change (Phase.loaded (store.codes.get now phone)).stage otpCode = .calm
      cases hget : store.codes.get now phone with
      | none => rfl
      | some payload => exact if_pos (hread rfl payload hget)
  | loaded payload =>
      cases payload with
      | none => exact ⟨rfl, rfl, id, id⟩
      | some payload =>
          cases hrecord : store.unusedRecord phone with
          | none => simp [Phase.next, hrecord, Phase.stage, Phase.ComparesWrong, Phase.SetsBlock]
          | some record =>
              simp only [Phase.next, hrecord, Phase.ComparesWrong, Phase.SetsBlock]
              split_ifs
              · exact ⟨rfl, rfl, id, id⟩
              · exact ⟨h, rfl, id, id⟩
  | fetched payload record =>
      have hcode : payload.code = otpCode := by
        by_contra hne
        rw [Phase.stage, if_neg hne] at h
        cases h
      simp [Phase.next, hcode, Phase.stage, Phase.ComparesWrong, Phase.SetsBlock]
  | wrong payload record => cases h
  | counted attempts record => exact ⟨h, rfl, id, id⟩
  | saved attempts =>
      have hmax : ¬otpMaxAttempts ≤ attempts := by
        intro hmax
        rw [Phase.stage, if_pos hmax] at h
        cases h
      simp [Phase.next, hmax, Phase.stage, Phase.ComparesWrong, Phase.SetsBlock]
  | matched record => exact ⟨rfl, rfl, id, id⟩
  | done result => exact ⟨rfl, rfl, id, id⟩

/-- The verify at work: the attempts and the wrong guesses move together. -/
theorem fits_next (h : (phase.stage otpCode).Fits code n wrongs)
    (hwork : phase.stage otpCode ≠ .calm)
    (hentry : store.codes phone = some ({ code, attempts := n }, expiry))
    (hblock : ¬phase.SetsBlock) :
    ∃ n' expiry', (phase.next now phone otpCode store).2.codes phone =
        some ({ code, attempts := n' }, expiry') ∧
      ((phase.next now phone otpCode store).1.stage otpCode).Fits code n'
        (if phase.ComparesWrong otpCode then wrongs + 1 else wrongs) := by
  cases phase with
  | loaded payload =>
      cases payload with
      | none => exact absurd rfl hwork
      | some payload =>
          have hcode : payload.code ≠ otpCode := fun hcode => hwork (if_pos hcode)
          rw [Phase.stage, if_neg hcode] at h
          obtain ⟨hpayload, hwrongs, hlt⟩ := h
          rw [if_neg (show ¬(Phase.loaded (some payload)).ComparesWrong otpCode from id)]
          cases hrecord : store.unusedRecord phone with
          | none =>
              simp only [Phase.next, hrecord]
              exact ⟨n, expiry, hentry, hwrongs, hlt⟩
          | some record =>
              simp only [Phase.next, hrecord]
              split_ifs
              · exact ⟨n, expiry, hentry, hwrongs, hlt⟩
              · refine ⟨n, expiry, hentry, ?_⟩
                rw [Phase.stage, if_neg hcode]
                exact ⟨hpayload, hwrongs, hlt⟩
  | fetched payload record =>
      have hcode : payload.code ≠ otpCode := fun hcode => hwork (if_pos hcode)
      rw [Phase.stage, if_neg hcode] at h
      obtain ⟨hpayload, hwrongs, hlt⟩ := h
      rw [if_pos (show (Phase.fetched payload record).ComparesWrong otpCode from hcode)]
      simp only [Phase.next, if_pos hcode]
      exact ⟨n, expiry, hentry, hpayload, congrArg (· + 1) hwrongs, hlt⟩
  | wrong payload record =>
      obtain ⟨rfl, rfl, hlt⟩ := h
      refine ⟨n + 1, _, Cache.set_self _ _ _ _ _, ?_⟩
      rw [if_neg (show ¬(Phase.wrong _ record).ComparesWrong otpCode from id)]
      change ((Phase.counted (n + 1) record).stage otpCode).Fits code (n + 1) (n + 1)
      rw [Phase.stage]
      split_ifs with hmax
      · exact ⟨rfl, hlt⟩
      · exact ⟨rfl, not_le.mp hmax⟩
  | counted attempts record => exact ⟨n, expiry, hentry, h⟩
  | saved attempts => exact absurd (if_neg hblock) hwork
  | arrived => exact absurd rfl hwork
  | unblocked => exact absurd rfl hwork
  | matched record => exact absurd rfl hwork
  | done result => exact absurd rfl hwork

/-- A verify that reads the attempts for a wrong guess is at work on what it has read. -/
theorem fits_read (hidle : wrongs = n ∧ n < otpMaxAttempts) {payload : OtpPayload}
    (hentry : store.codes phone = some ({ code, attempts := n }, expiry))
    (hget : store.codes.get now phone = some payload) :
    (((Phase.unblocked).next now phone otpCode store).1.stage otpCode).Fits code n wrongs := by
  obtain ⟨expiry', hentry', -⟩ := Cache.get_eq_some_iff.mp hget
  rw [hentry] at hentry'
  obtain rfl : ({ code, attempts := n } : OtpPayload) = payload :=
    congrArg Prod.fst (Option.some.inj hentry')
  change ((Phase.loaded (store.codes.get now phone)).stage otpCode).Fits code n wrongs
  rw [hget, Phase.stage]
  split_ifs with hcode
  · exact hidle
  · exact ⟨rfl, hidle⟩

end Statement

section Steps

variable {phone : String} {σ : Guessing P} {now : Int}

omit [DecidableEq P] in
theorem stage_of_verify {p : P} {otpCode : String} {phase : Phase}
    (h : σ.verify p = some (otpCode, phase)) : σ.stage p = phase.stage otpCode := by
  rw [Guessing.stage, h]
  rfl

omit [DecidableEq P] in
theorem stage_of_idle {p : P} (h : σ.Idle p) : σ.stage p = .calm := by
  cases hv : σ.verify p with
  | none =>
      rw [Guessing.stage, hv]
      rfl
  | some v =>
      obtain ⟨otpCode, phase⟩ := v
      rw [stage_of_verify hv]
      rw [Guessing.Idle, hv] at h
      cases phase with
      | done result => rfl
      | _ => cases h

omit [DecidableEq P] in
theorem Limited.init (h : σ.Issued phone) : Limited phone σ := by
  obtain ⟨⟨code, expiry, hentry⟩, hverify, hwrongs, -⟩ := h
  refine ⟨?_, fun _ => ⟨code, 0, expiry, hentry, none, fun p _ => ?_, ?_⟩⟩
  · rw [hwrongs]
    exact Nat.zero_le _
  · rw [Guessing.stage, hverify p]
    rfl
  · exact ⟨hwrongs, by decide⟩

/-- A request arrives at an idle connection. -/
theorem Limited.request (h : Limited phone σ) {p : P} (hidle : σ.Idle p) (otpCode : String) :
    Limited phone (σ.next phone now (.request p otpCode)) := by
  have hstage : (σ.next phone now (.request p otpCode)).stage = σ.stage := by
    funext q
    by_cases hq : q = p
    · subst hq
      rw [stage_of_idle hidle, stage_of_verify (Function.update_self q _ σ.verify)]
      rfl
    · unfold Guessing.stage
      rw [show (σ.next phone now (.request p otpCode)).verify q = σ.verify q from
        Function.update_of_ne hq _ _]
  refine ⟨h.bound, fun hblocked => ?_⟩
  rw [hstage]
  exact h.counts hblocked

/-- A statement is sent: the stages of the other verifies stay. -/
theorem stage_statement {p : P} {otpCode : String} {phase : Phase}
    (h : σ.verify p = some (otpCode, phase)) (q : P) :
    (σ.next phone now (.statement p)).stage q =
      if q = p then (phase.next now phone otpCode σ.store).1.stage otpCode else σ.stage q := by
  unfold Guessing.stage
  simp only [Guessing.next, h]
  by_cases hq : q = p
  · subst hq
    rw [Function.update_self, if_pos rfl]
    rfl
  · rw [Function.update_of_ne hq, if_neg hq]

/-- What the counts become when a verify under way sends a statement. -/
theorem Limited.counts_statement (h : Limited phone σ) {p : P} {otpCode : String} {phase : Phase}
    (hguard : oneAtATime phone σ (now, .statement p)) (hv : σ.verify p = some (otpCode, phase))
    (hblocked : σ.blocked = false) (hsets : ¬phase.SetsBlock) :
    ∃ code n expiry, (phase.next now phone otpCode σ.store).2.codes phone =
        some ({ code, attempts := n }, expiry) ∧
      ∃ a : Option P,
        (∀ q, some q ≠ a → (σ.next phone now (.statement p)).stage q = .calm) ∧
        (a.elim Stage.calm (σ.next phone now (.statement p)).stage).Fits code n
          (if phase.ComparesWrong otpCode then σ.wrongs + 1 else σ.wrongs) := by
  obtain ⟨code, n, expiry, hentry, a, hothers, hfits⟩ := h.counts hblocked
  have hstage := stage_of_verify hv
  by_cases hcalm : phase.stage otpCode = .calm
  · by_cases hread : phase = .unblocked ∧
        ∃ payload, σ.store.codes.get now phone = some payload ∧ payload.code ≠ otpCode
    · -- the attempts are read for a wrong guess: every verify is calm, and this one starts work
      obtain ⟨rfl, payload, hget, hcode⟩ := hread
      have hall := hguard p otpCode payload rfl hv hget hcode
      have hidle : σ.wrongs = n ∧ n < otpMaxAttempts := by
        cases a with
        | none => exact hfits
        | some q =>
            rw [Option.elim_some, hall q] at hfits
            exact hfits
      refine ⟨code, n, expiry, hentry, some p, fun q hq => ?_, ?_⟩
      · rw [stage_statement hv, if_neg fun hqp => hq (congrArg some hqp)]
        exact hall q
      · rw [Option.elim_some, stage_statement hv, if_pos rfl]
        exact fits_read hidle hentry hget
    · have hmatch : phase = .unblocked → ∀ payload, σ.store.codes.get now phone = some payload →
          payload.code = otpCode := fun hphase payload hget => by
        by_contra hcode
        exact hread ⟨hphase, payload, hget, hcode⟩
      obtain ⟨hnext, hcodes, hcompares, -⟩ := stage_next_of_calm hcalm hmatch
      have hsame : (σ.next phone now (.statement p)).stage = σ.stage := by
        funext q
        rw [stage_statement hv]
        split
        · next hq => rw [hq, hnext, hstage, hcalm]
        · rfl
      rw [hcodes, hsame, if_neg hcompares]
      exact ⟨code, n, expiry, hentry, a, hothers, hfits⟩
  · -- the verify is at work, so it is the one that is
    have ha : some p = a := by
      by_contra hne
      exact hcalm (hstage.symm.trans (hothers p hne))
    subst ha
    rw [Option.elim_some, hstage] at hfits
    obtain ⟨n', expiry', hentry', hfits'⟩ := fits_next hfits hcalm hentry hsets
    refine ⟨code, n', expiry', hentry', some p, fun q hq => ?_, ?_⟩
    · rw [stage_statement hv, if_neg fun hqp => hq (congrArg some hqp)]
      exact hothers q hq
    · rw [Option.elim_some, stage_statement hv, if_pos rfl]
      exact hfits'

theorem not_comparesWrong_of_setsBlock {phase : Phase} (h : phase.SetsBlock) (otpCode : String) :
    ¬phase.ComparesWrong otpCode := by
  cases phase with
  | saved attempts => exact id
  | _ => exact absurd h id

theorem Limited.statement (h : Limited phone σ) {p : P}
    (hguard : oneAtATime phone σ (now, .statement p)) :
    Limited phone (σ.next phone now (.statement p)) := by
  cases hv : σ.verify p with
  | none =>
      have hnext : σ.next phone now (.statement p) = { σ with clock := now } := by
        simp only [Guessing.next, hv]
      rw [hnext]
      exact ⟨h.bound, h.counts⟩
  | some v =>
      obtain ⟨otpCode, phase⟩ := v
      have hwrongs : (σ.next phone now (.statement p)).wrongs =
          if phase.ComparesWrong otpCode ∧ σ.blocked = false then σ.wrongs + 1 else σ.wrongs := by
        simp only [Guessing.next, hv]
      have hblock : (σ.next phone now (.statement p)).blocked =
          (σ.blocked || decide phase.SetsBlock) := by
        simp only [Guessing.next, hv]
      have hstore : (σ.next phone now (.statement p)).store =
          (phase.next now phone otpCode σ.store).2 := by
        simp only [Guessing.next, hv]
      by_cases hopen : σ.blocked = false ∧ ¬phase.SetsBlock
      · have hcounts := h.counts_statement hguard hv hopen.1 hopen.2
        simp only [hopen.1, and_true] at hwrongs
        rw [← hstore, ← hwrongs] at hcounts
        obtain ⟨code, n, expiry, hentry, a, hothers, hfits⟩ := hcounts
        exact ⟨hfits.le, fun _ => ⟨code, n, expiry, hentry, a, hothers, hfits⟩⟩
      · have hquiet : ¬(phase.ComparesWrong otpCode ∧ σ.blocked = false) := fun hboth =>
          hopen ⟨hboth.2, fun hsets => not_comparesWrong_of_setsBlock hsets otpCode hboth.1⟩
        rw [if_neg hquiet] at hwrongs
        refine ⟨hwrongs.trans_le h.bound, fun hblocked => absurd ?_ hopen⟩
        rw [hblock] at hblocked
        simpa using hblocked

end Steps

/-- While a wrong guess reads the attempts only when no other is at work, at most
`OTP_MAX_ATTEMPTS` wrong guesses are compared before the block key is set. -/
theorem wrong_guesses_limited (phone : String) {σ : Guessing P}
    (h : ((guesses P phone).restrict (oneAtATime phone)).Reachable σ) :
    σ.wrongs ≤ otpMaxAttempts := by
  have hlimited : Limited phone σ := by
    refine h.invariant_of_guard (fun s hs => ?_) fun s l s' _ hi hguard hstep => ?_
    · exact Limited.init hs
    · obtain ⟨-, hidle, rfl⟩ := hstep
      obtain ⟨now, step⟩ := l
      cases step with
      | request p otpCode => exact hi.request (hidle p otpCode rfl) otpCode
      | statement p => exact hi.statement hguard
  exact hlimited.bound

/-- The steps of a list, all at one instant. -/
def Guessing.run (phone : String) (now : Int) (σ : Guessing P) : List (GuessStep P) → Guessing P
  | [] => σ
  | step :: steps => (σ.next phone now step).run phone now steps

/-- A request arrives at an idle connection. -/
def Guessing.Free (σ : Guessing P) : GuessStep P → Prop
  | .request p _ => σ.Idle p
  | .statement _ => True

instance (σ : Guessing P) (step : GuessStep P) : Decidable (σ.Free step) := by
  cases step <;> unfold Guessing.Free <;> infer_instance

/-- The steps of a list may be taken, and each meets the guard in its state. -/
def Guessing.Guarded (guard : Guessing P → Int × GuessStep P → Prop) (phone : String) (now : Int)
    (σ : Guessing P) : List (GuessStep P) → Prop
  | [] => True
  | step :: steps =>
      (σ.Free step ∧ guard σ (now, step)) ∧ (σ.next phone now step).Guarded guard phone now steps

instance Guessing.decidableGuarded (guard : Guessing P → Int × GuessStep P → Prop)
    [∀ σ l, Decidable (guard σ l)] (phone : String) (now : Int) (σ : Guessing P)
    (steps : List (GuessStep P)) : Decidable (σ.Guarded guard phone now steps) :=
  match steps with
  | [] => isTrue trivial
  | step :: steps =>
      haveI := Guessing.decidableGuarded guard phone now (σ.next phone now step) steps
      inferInstanceAs (Decidable ((σ.Free step ∧ guard σ (now, step)) ∧
        (σ.next phone now step).Guarded guard phone now steps))

theorem clock_next (phone : String) (now : Int) (σ : Guessing P) (step : GuessStep P) :
    (σ.next phone now step).clock = now := by
  cases step with
  | request p otpCode => rfl
  | statement p =>
      cases hv : σ.verify p with
      | none => simp only [Guessing.next, hv]
      | some v => simp only [Guessing.next, hv]

theorem reachable_run {phone : String} {now : Int} {σ : Guessing P}
    {guard : Guessing P → Int × GuessStep P → Prop} (steps : List (GuessStep P))
    (h : ((guesses P phone).restrict guard).Reachable σ) (hclock : σ.clock ≤ now)
    (hsteps : σ.Guarded guard phone now steps) :
    ((guesses P phone).restrict guard).Reachable (σ.run phone now steps) := by
  induction steps generalizing σ with
  | nil => exact h
  | cons step steps ih =>
      obtain ⟨⟨hfree, hguard⟩, hrest⟩ := hsteps
      refine ih (h.step (l := (now, step)) ⟨hguard, hclock, ?_, rfl⟩)
        (clock_next phone now σ step).le hrest
      rintro p otpCode rfl
      exact hfree

/-- The step reads the attempts for a wrong guess. -/
def Guessing.readsWrong (phone : String) (σ : Guessing P) (l : Int × GuessStep P) : Bool :=
  match l.2 with
  | .request _ _ => false
  | .statement p =>
      match σ.verify p, σ.store.codes.get l.1 phone with
      | some (otpCode, .unblocked), some payload => decide (payload.code ≠ otpCode)
      | _, _ => false

omit [DecidableEq P] in
theorem oneAtATime_of_readsWrong {phone : String} {σ : Guessing P} {l : Int × GuessStep P}
    (h : σ.readsWrong phone l = true → ∀ q, σ.stage q = .calm) : oneAtATime phone σ l := by
  intro p otpCode payload hl hv hget hcode
  refine h ?_
  simp only [Guessing.readsWrong, hl, hv, hget]
  exact decide_eq_true hcode

namespace Sample

/-- The stores after a code is issued. -/
def otpStore : OtpStore where
  records :=
    ⟨[{ id := 1, createdAt := 0, phone := "+1", code := "000042", expiresAt := otpTtl }],
      by decide⟩
  codes := Cache.empty.set 0 "+1" { code := "000042" } otpTtl

theorem issued (P : Type) : Guessing.Issued "+1" (⟨otpStore, 0, fun _ => none, 0, false⟩ :
    Guessing P) := by
  refine ⟨⟨"000042", 0 + otpTtl, ?_⟩, fun _ => rfl, rfl, rfl⟩
  exact Cache.set_self Cache.empty 0 "+1" _ otpTtl

/-- Requests of six connections, then four statements of each: the sixth guess is compared
before the first is counted. -/
def sixGuesses : List (GuessStep (Fin 6)) :=
  (List.finRange 6).map (GuessStep.request · "000000") ++
    (List.replicate 4 (List.finRange 6)).flatten.map GuessStep.statement

/-- Requests of six connections that all find the phone unblocked; then each reads the
attempts after the one before it has finished, and the first one guesses again. -/
def guessesInTurn : List (GuessStep (Fin 6)) :=
  (List.finRange 6).map (GuessStep.request · "000000") ++
    (List.finRange 6).map GuessStep.statement ++
    (List.finRange 6).flatMap (fun p => List.replicate 6 (.statement p)) ++
    [.request 0 "000000", .statement 0]

end Sample

/-- Five wrong guesses are compared and the phone is blocked; the next request is refused. -/
theorem wrong_guesses_limited_sample :
    ∃ σ : Guessing (Fin 6), ((guesses (Fin 6) "+1").restrict (oneAtATime "+1")).Reachable σ ∧
      σ.wrongs ≤ otpMaxAttempts ∧ σ.wrongs = 5 ∧ σ.blocked = true ∧
      σ.verify 0 = some ("000000",
        .done (.error (.validation none "Ko'p noto'g'ri urinish. 15 daqiqa kuting"))) := by
  have hguarded : Guessing.Guarded
      (fun σ l => σ.readsWrong "+1" l = true → ∀ q, σ.stage q = .calm) "+1" 1
      (⟨Sample.otpStore, 0, fun _ => none, 0, false⟩ : Guessing (Fin 6))
      Sample.guessesInTurn := by decide
  have hrun := reachable_run Sample.guessesInTurn (.init (Sample.issued (Fin 6))) (by decide)
    hguarded
  have honce := hrun.restrict_mono fun _ _ => oneAtATime_of_readsWrong
  exact ⟨_, honce, wrong_guesses_limited "+1" honce, by decide, by decide, by decide⟩

/-- Six wrong guesses are compared, and the phone is not blocked. -/
theorem sixth_guess_compared :
    ∃ σ : Guessing (Fin 6), (guesses (Fin 6) "+1").Reachable σ ∧ ¬σ.wrongs ≤ otpMaxAttempts := by
  have hguarded : Guessing.Guarded (fun _ _ => True) "+1" 1
      (⟨Sample.otpStore, 0, fun _ => none, 0, false⟩ : Guessing (Fin 6))
      Sample.sixGuesses := by decide
  have hrun := reachable_run Sample.sixGuesses (.init (Sample.issued (Fin 6))) (by decide) hguarded
  exact ⟨_, hrun.of_restrict, by decide⟩

end Accounts

end Homex
