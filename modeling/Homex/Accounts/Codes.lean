import Homex.Accounts.Otp

/-!
# One-time codes are one-time

What a phone may do with its code is a matter of its history: which code was
issued last, whether a verify has succeeded since, and how many guesses were
wrong. `Status` is that abstract account, and `Permits` says when it lets a
verify succeed. `Tracks` relates it to the two stores: the cache entry holds the
last code and its wrong guesses, and every record of the phone but the last one
expired before the last code was issued, because the cooldown outlasts a code.
-/

namespace Homex

namespace Accounts

open Relational Action Timed

/-- What is seen of a request from outside. -/
inductive OtpEvent
  | issued (phone code : String) (at_ : Int)
  | wrong (phone : String) (at_ : Int)
  | verified (phone code : String) (at_ : Int)
  deriving DecidableEq, Repr

/-- A code that was issued. -/
structure Issue where
  code : String
  issuedAt : Int
  deriving DecidableEq, Repr

/-- The account of one phone: the last code, whether a verify has succeeded with it, the
wrong guesses since, and the last guess that blocked the phone. -/
structure Status where
  issue : Option Issue := none
  used : Bool := false
  wrongs : Nat := 0
  blockedAt : Option Int := none
  deriving DecidableEq, Repr

/-- The account after an event. -/
def Status.after (phone : String) (s : Status) : OtpEvent → Status
  | .issued p code at_ =>
      if p = phone then
        { issue := some ⟨code, at_⟩, blockedAt := s.blockedAt }
      else s
  | .wrong p at_ =>
      if p = phone then
        { s with
            wrongs := s.wrongs + 1
            blockedAt := if otpMaxAttempts ≤ s.wrongs + 1 then some at_ else s.blockedAt }
      else s
  | .verified p _ _ => if p = phone then { s with used := true } else s

/-- The phone an event is about. -/
def OtpEvent.phone : OtpEvent → String
  | .issued phone _ _ => phone
  | .wrong phone _ => phone
  | .verified phone _ _ => phone

theorem Status.after_of_ne {phone : String} {e : OtpEvent} (h : e.phone ≠ phone) (s : Status) :
    s.after phone e = s := by
  cases e with
  | issued p code at_ => exact if_neg h
  | wrong p at_ => exact if_neg h
  | verified p code at_ => exact if_neg h

theorem Status.after_issued (phone : String) (s : Status) (code : String) (at_ : Int) :
    s.after phone (.issued phone code at_) =
      { issue := some ⟨code, at_⟩, blockedAt := s.blockedAt } :=
  if_pos rfl

theorem Status.after_verified (phone : String) (s : Status) (code : String) (at_ : Int) :
    s.after phone (.verified phone code at_) = { s with used := true } :=
  if_pos rfl

theorem Status.after_wrong (phone : String) (s : Status) (at_ : Int) :
    s.after phone (.wrong phone at_) =
      { s with
          wrongs := s.wrongs + 1
          blockedAt := if otpMaxAttempts ≤ s.wrongs + 1 then some at_ else s.blockedAt } :=
  if_pos rfl

/-- The account of a phone after a history, newest event first. -/
def status (phone : String) : List OtpEvent → Status
  | [] => {}
  | e :: history => (status phone history).after phone e

/-- The verify may succeed: the code is the last one issued, it has not expired and no
verify has succeeded with it, and the phone is not blocked. -/
structure Permits (s : Status) (code : String) (now : Int) : Prop where
  issue : ∃ i, s.issue = some i ∧ i.code = code ∧ now ≤ i.issuedAt + otpTtl
  unused : s.used = false
  unblocked : ∀ b, s.blockedAt = some b → b + otpBlock ≤ now

/-- A request to one of the endpoints, for a phone as the user wrote it. -/
inductive OtpRequest
  | send (phone : String)
  | verify (phone otpCode : String)
  deriving DecidableEq, Repr

/-- The answer to a request, and the store after it. -/
def OtpRequest.handle (cfg : OtpSettings) (ctx : OtpContext) :
    OtpRequest → OtpStore → Except Error Unit × OtpStore
  | .send phone, store => SendOTPView.post cfg ctx phone store
  | .verify phone otpCode, store =>
      ((fun _ => ()) <$> VerifyOTPView.post cfg ctx phone otpCode : OtpCode Unit) store

/-- What is seen of a request and its answer. -/
def OtpRequest.event (cfg : OtpSettings) (ctx : OtpContext) :
    OtpRequest → Except Error Unit → Option OtpEvent
  | .send phone, .ok _ =>
      if cfg.IsTestPhone (normalizePhone phone) then none
      else some (.issued (normalizePhone phone) (sixDigits ctx.randint) ctx.now)
  | .send _, .error _ => none
  | .verify phone otpCode, .ok _ => some (.verified (normalizePhone phone) otpCode ctx.now)
  | .verify phone _, .error e =>
      if e = wrongCode then some (.wrong (normalizePhone phone) ctx.now) else none

/-- The stores, the clock, and what was seen, newest first. -/
structure OtpWorld where
  store : OtpStore
  clock : Int
  history : List OtpEvent := []

/-- The world after a request. -/
def OtpWorld.next (cfg : OtpSettings) (w : OtpWorld) (l : OtpContext × OtpRequest) : OtpWorld where
  store := (l.2.handle cfg l.1 w.store).2
  clock := l.1.now
  history := (l.2.event cfg l.1 (l.2.handle cfg l.1 w.store).1).toList ++ w.history

/-- Timed runs from empty caches and no record, one request after the other. -/
def oneTimeCodes (cfg : OtpSettings) : Transition.System OtpWorld (OtpContext × OtpRequest) where
  init w := w.store = { clients := w.store.clients } ∧ w.history = []
  step w l w' := w.clock ≤ l.1.now ∧ w' = w.next cfg l

/-- The stores follow the account of a phone. -/
structure Tracks (store : OtpStore) (clock : Int) (phone : String) (s : Status) : Prop where
  block : store.blocks phone = s.blockedAt.map fun b => ((), b + otpBlock)
  cooldown : store.cooldowns phone = s.issue.map fun i => ((), i.issuedAt + otpSendCooldown)
  past : ∀ i, s.issue = some i → i.issuedAt ≤ clock
  code_none : s.issue = none → store.codes phone = none
  code : ∀ i, s.issue = some i →
    ∃ expiry, store.codes phone = some ({ code := i.code, attempts := s.wrongs }, expiry)
  records_none : s.issue = none → ∀ r ∈ store.records.rows, r.phone ≠ phone
  /-- The last record is the one of the last code, and the others have expired. -/
  records : ∀ i, s.issue = some i → ∃ last ∈ store.records.rows, last.phone = phone ∧
    last.expiresAt = i.issuedAt + otpTtl ∧ (s.used = true → last.isUsed = true) ∧
    ∀ r ∈ store.records.rows, r.phone = phone → r ≠ last → r.expiresAt < i.issuedAt

namespace Tracks

variable {store store' : OtpStore} {clock now : Int} {phone : String} {s : Status}

theorem init (clients : Table Client) : Tracks { clients } clock phone {} where
  block := rfl
  cooldown := rfl
  past _ h := by cases h
  code_none _ := rfl
  code _ h := by cases h
  records_none _ _ hr := absurd hr List.not_mem_nil
  records _ h := by cases h

/-- Nothing of the phone has changed, and time has passed. -/
theorem mono (h : Tracks store clock phone s) (hclock : clock ≤ now)
    (hblock : store'.blocks phone = store.blocks phone)
    (hcooldown : store'.cooldowns phone = store.cooldowns phone)
    (hcode : store'.codes phone = store.codes phone)
    (hrecords : ∀ r, r.phone = phone → (r ∈ store'.records.rows ↔ r ∈ store.records.rows)) :
    Tracks store' now phone s where
  block := hblock.trans h.block
  cooldown := hcooldown.trans h.cooldown
  past i hi := (h.past i hi).trans hclock
  code_none hi := hcode.trans (h.code_none hi)
  code i hi := by
    rw [hcode]
    exact h.code i hi
  records_none hi r hr hphone :=
    h.records_none hi r ((hrecords r hphone).mp hr) hphone
  records i hi := by
    obtain ⟨last, hlast, hphone, hexpires, hused, hrest⟩ := h.records i hi
    refine ⟨last, (hrecords last hphone).mpr hlast, hphone, hexpires, hused, fun r hr hrp hne => ?_⟩
    exact hrest r ((hrecords r hrp).mp hr) hrp hne

/-- A record that has not expired is the one of the last code. -/
theorem last_of_live (h : Tracks store clock phone s) (hclock : clock ≤ now) {record : OTPRecord}
    (hmem : record ∈ store.records.rows) (hphone : record.phone = phone)
    (hlive : now ≤ record.expiresAt) :
    ∃ i, s.issue = some i ∧ record.expiresAt = i.issuedAt + otpTtl ∧
      (s.used = true → record.isUsed = true) ∧
      ∀ r ∈ store.records.rows, r.phone = phone → r ≠ record → r.expiresAt < i.issuedAt := by
  cases hi : s.issue with
  | none => exact absurd hphone (h.records_none hi record hmem)
  | some i =>
      obtain ⟨last, hlast, hlphone, hexpires, hused, hrest⟩ := h.records i hi
      have hrecord : record = last := by
        by_contra hne
        have hold := hrest record hmem hphone hne
        have hpast := h.past i hi
        omega
      subst hrecord
      exact ⟨i, rfl, hexpires, hused, hrest⟩

/-- A phone without a live block key is not blocked. -/
theorem unblocked (h : Tracks store clock phone s) (hget : store.blocks.get now phone = none) :
    ∀ b, s.blockedAt = some b → b + otpBlock ≤ now := by
  intro b hb
  have hentry := h.block
  rw [hb] at hentry
  exact Cache.get_eq_none_iff.mp hget () _ hentry

/-- The cache entry of a phone is the last code, with the wrong guesses. -/
theorem payload_eq (h : Tracks store clock phone s) {payload : OtpPayload} {i : Issue}
    (hi : s.issue = some i) (hget : store.codes.get now phone = some payload) :
    payload = { code := i.code, attempts := s.wrongs } := by
  obtain ⟨expiry, hentry⟩ := h.code i hi
  obtain ⟨expiry', hentry', -⟩ := Cache.get_eq_some_iff.mp hget
  rw [hentry] at hentry'
  cases hentry'
  rfl

end Tracks

/-- The checks a verify has passed when it compares the code. -/
structure Live (ctx : OtpContext) (store : OtpStore) (phone : String) (payload : OtpPayload)
    (record : OTPRecord) : Prop where
  block : store.blocks.get ctx.now phone = none
  payload : store.codes.get ctx.now phone = some payload
  mem : record ∈ store.records.rows
  phone_eq : record.phone = phone
  unused : record.isUsed = false
  expires : ctx.now ≤ record.expiresAt

section Runs

variable {cfg : OtpSettings} {ctx : OtpContext} {store store' : OtpStore} {phone otp : String}

theorem unusedRecord_eq_some {record : OTPRecord} (h : store.unusedRecord phone = some record) :
    record ∈ store.records.rows ∧ record.phone = phone ∧ record.isUsed = false := by
  have hmem := List.mem_filter.mp (List.maxOn?_mem h)
  simpa using hmem

theorem liveCode_cases {r : Except Error (OtpPayload × OTPRecord)}
    (h : liveCode ctx phone store = (r, store')) (hblock : store.blocks.get ctx.now phone = none) :
    store' = store ∧ (r = .error (.validation none "OTP muddati tugagan") ∨
      ∃ payload record, r = .ok (payload, record) ∧ Live ctx store phone payload record ∧
        store.unusedRecord phone = some record) := by
  unfold liveCode at h
  rw [run_bind_ok run_get] at h
  cases hpayload : store.codes.get ctx.now phone with
  | none =>
      simp only [hpayload] at h
      cases h
      exact ⟨rfl, Or.inl rfl⟩
  | some payload =>
      cases hrecord : store.unusedRecord phone with
      | none =>
          simp only [hpayload, hrecord] at h
          cases h
          exact ⟨rfl, Or.inl rfl⟩
      | some record =>
          simp only [hpayload, hrecord] at h
          by_cases hlive : ctx.now ≤ record.expiresAt
          · rw [run_bind_ok (run_require hlive)] at h
            cases h
            obtain ⟨hmem, hphone, hunused⟩ := unusedRecord_eq_some hrecord
            exact ⟨rfl, Or.inr ⟨payload, record, rfl,
              ⟨hblock, hpayload, hmem, hphone, hunused, hlive⟩, rfl⟩⟩
          · rw [run_bind_error (run_require_not hlive)] at h
            cases h
            exact ⟨rfl, Or.inl rfl⟩

/-- The store after a wrong guess, before the block. -/
def OtpStore.counted (store : OtpStore) (ctx : OtpContext) (phone : String) (payload : OtpPayload)
    (record : OTPRecord) : OtpStore where
  records := store.records.save { record with attempts := payload.attempts + 1 }
  clients := store.clients
  codes := store.codes.set ctx.now phone { payload with attempts := payload.attempts + 1 } otpTtl
  cooldowns := store.cooldowns
  blocks := store.blocks

/-- The store after a wrong guess that may be the last. -/
def OtpStore.blockedAfter (store : OtpStore) (ctx : OtpContext) (phone : String)
    (attempts : Nat) : OtpStore :=
  if otpMaxAttempts ≤ attempts then
    { store with blocks := store.blocks.set ctx.now phone () otpBlock }
  else
    store

theorem run_countAttempt (payload : OtpPayload) (record : OTPRecord) :
    countAttempt ctx phone payload record store =
      (.ok (), (store.counted ctx phone payload record).blockedAfter ctx phone
        (payload.attempts + 1)) :=
  rfl

/-- What the checks of a verify come to. -/
inductive Checked (cfg : OtpSettings) (ctx : OtpContext) (store : OtpStore)
    (phone otp : String) : Except Error (Option OTPRecord) → OtpStore → Prop
  | refused {e : Error} (he : e ≠ wrongCode) : Checked cfg ctx store phone otp (.error e) store
  | testPhone {r : Except Error (Option OTPRecord)} (htest : cfg.IsTestPhone phone)
      (hr : ∀ record, r ≠ .ok (some record)) : Checked cfg ctx store phone otp r store
  | wrong {payload : OtpPayload} {record : OTPRecord}
      (hlive : Live ctx store phone payload record) (hcode : payload.code ≠ otp) :
      Checked cfg ctx store phone otp (.error wrongCode)
        ((store.counted ctx phone payload record).blockedAfter ctx phone (payload.attempts + 1))
  | matched {payload : OtpPayload} {record : OTPRecord}
      (hlive : Live ctx store phone payload record) (hcode : payload.code = otp) :
      Checked cfg ctx store phone otp (.ok (some record)) store

theorem checked_validate {r : Except Error (Option OTPRecord)}
    (h : VerifyOTPSerializer.validate cfg ctx phone otp store = (r, store')) :
    Checked cfg ctx store phone otp r store' := by
  unfold VerifyOTPSerializer.validate at h
  by_cases hmin : 6 ≤ otp.length
  case neg =>
    rw [run_bind_error (run_require_not hmin)] at h
    cases h
    exact .refused (by decide)
  rw [run_bind_ok (run_require hmin)] at h
  by_cases hmax : otp.length ≤ 6
  case neg =>
    rw [run_bind_error (run_require_not hmax)] at h
    cases h
    exact .refused (by decide)
  rw [run_bind_ok (run_require hmax)] at h
  by_cases htest : cfg.IsTestPhone phone
  case pos =>
    rw [if_pos htest] at h
    by_cases hotp : otp = cfg.playmarketTestOtp
    · rw [run_bind_ok (run_require hotp)] at h
      cases h
      exact .testPhone htest (by simp)
    · rw [run_bind_error (run_require_not hotp)] at h
      cases h
      exact .testPhone htest (by simp)
  rw [if_neg htest, run_bind_ok run_get] at h
  by_cases hblock : store.blocks.get ctx.now phone = none
  case neg =>
    rw [run_bind_error (run_require_not hblock)] at h
    cases h
    exact .refused (by decide)
  rw [run_bind_ok (run_require hblock)] at h
  rcases hlive : liveCode ctx phone store with ⟨r', store₁⟩
  obtain ⟨rfl, rfl | ⟨payload, record, rfl, hl, -⟩⟩ := liveCode_cases hlive hblock
  · rw [run_bind_error hlive] at h
    cases h
    exact .refused (by decide)
  · rw [run_bind_ok hlive] at h
    dsimp only at h
    by_cases hcode : payload.code = otp
    · rw [if_neg (not_not.mpr hcode)] at h
      cases h
      exact .matched hl hcode
    · rw [if_pos hcode, run_bind_ok (run_countAttempt payload record)] at h
      cases h
      exact .wrong hl hcode

/-- The client of a phone is found or created; nothing else changes. -/
theorem getOrCreateClient_cases {r : Except Error Client}
    (h : getOrCreateClient ctx phone store = (r, store')) :
    (∃ clients, store' = { store with clients }) ∧ r ≠ .error wrongCode := by
  unfold getOrCreateClient at h
  rw [run_bind_ok run_get] at h
  cases hfind : store.clients.rows.find? fun c => c.phone = phone with
  | some client =>
      simp only [hfind] at h
      cases h
      exact ⟨⟨_, rfl⟩, by simp⟩
  | none =>
      simp only [hfind] at h
      cases hins : store.clients.insert? { id := ctx.client, phone } with
      | none =>
          rw [run_bind_error (run_write_none (by rw [hins, Option.map_none]))] at h
          cases h
          exact ⟨⟨_, rfl⟩, by decide⟩
      | some t =>
          rw [run_bind_ok (run_write (by rw [hins, Option.map_some]))] at h
          cases h
          exact ⟨⟨_, rfl⟩, by simp⟩

/-- What a request does: what is seen of it, and the store after it. -/
inductive Moved (cfg : OtpSettings) (ctx : OtpContext) (store : OtpStore) :
    Option OtpEvent → OtpStore → Prop
  | quiet (clients : Table Client) : Moved cfg ctx store none { store with clients }
  | wrongTest {p : String} (htest : cfg.IsTestPhone p) :
      Moved cfg ctx store (some (.wrong p ctx.now)) store
  | verifiedTest {p code : String} (htest : cfg.IsTestPhone p) (clients : Table Client) :
      Moved cfg ctx store (some (.verified p code ctx.now)) { store with clients }
  | issued {p : String} {t : Table OTPRecord}
      (hcooldown : store.cooldowns.get ctx.now p = none)
      (hins : store.records.insert? (newRecord ctx p) = some t) :
      Moved cfg ctx store (some (.issued p (sixDigits ctx.randint) ctx.now))
        { store with
            records := t
            codes := store.codes.set ctx.now p { code := sixDigits ctx.randint } otpTtl
            cooldowns := store.cooldowns.set ctx.now p () otpSendCooldown }
  | wrong {p : String} {payload : OtpPayload} {record : OTPRecord}
      (hlive : Live ctx store p payload record) :
      Moved cfg ctx store (some (.wrong p ctx.now))
        ((store.counted ctx p payload record).blockedAfter ctx p (payload.attempts + 1))
  | verified {p : String} {payload : OtpPayload} {record : OTPRecord}
      (hlive : Live ctx store p payload record) (clients : Table Client) :
      Moved cfg ctx store (some (.verified p payload.code ctx.now))
        { store with records := store.records.save { record with isUsed := true }, clients }
  /-- The record was used, and the client could not be created. -/
  | spent {p : String} {payload : OtpPayload} {record : OTPRecord}
      (hlive : Live ctx store p payload record) (clients : Table Client) :
      Moved cfg ctx store none
        { store with records := store.records.save { record with isUsed := true }, clients }

theorem clean_send (raw : String) : Clean Eq (SendOTPView.post cfg ctx raw) := by
  refine Clean.bind (within_get.bind fun _ => within_require) fun _ => clean_ite total_pure.clean ?_
  exact .bind_total clean_write fun _ => total_modify.bind fun _ => total_modify

theorem moved_send {raw : String} {r : Except Error Unit}
    (h : SendOTPView.post cfg ctx raw store = (r, store')) :
    Moved cfg ctx store ((OtpRequest.send raw).event cfg ctx r) store' := by
  cases r with
  | error e =>
      rw [← clean_send raw store e store' h]
      exact .quiet store.clients
  | ok u =>
      simp only [SendOTPView.post, SendOTPSerializer.validatePhone, SendOTPSerializer.create,
        bind_eq_ok, get_eq_ok, require_eq_ok, ite_eq_ok, pure_eq_ok, write_eq_ok,
        modify_eq_ok] at h
      obtain ⟨_, _, ⟨_, _, ⟨rfl, rfl⟩, hcooldown, rfl⟩,
        ⟨htest, -, rfl⟩ | ⟨htest, _, _, hins, _, _, rfl, rfl⟩⟩ := h
      · simp only [OtpRequest.event, if_pos htest]
        exact .quiet store.clients
      · obtain ⟨t, ht, rfl⟩ := Option.map_eq_some_iff.mp hins
        simp only [OtpRequest.event, if_neg htest]
        exact .issued (hcooldown.resolve_left htest) ht

theorem moved_verify {raw : String} {r : Except Error Client}
    (h : VerifyOTPView.post cfg ctx raw otp store = (r, store')) :
    Moved cfg ctx store ((OtpRequest.verify raw otp).event cfg ctx (r.map fun _ => ())) store' := by
  unfold VerifyOTPView.post at h
  rcases hv : VerifyOTPSerializer.validate cfg ctx (normalizePhone raw) otp store with ⟨rv, store₁⟩
  cases checked_validate hv with
  | refused he =>
      rw [run_bind_error hv] at h
      cases h
      simp only [Except.map, OtpRequest.event, if_neg he]
      exact .quiet _
  | testPhone htest hr =>
      cases rv with
      | error e =>
          rw [run_bind_error hv] at h
          cases h
          simp only [Except.map, OtpRequest.event]
          split
          · exact .wrongTest htest
          · exact .quiet _
      | ok record =>
          rw [run_bind_ok hv] at h
          cases record with
          | some record => exact absurd rfl (hr record)
          | none =>
              obtain ⟨⟨clients, rfl⟩, hne⟩ := getOrCreateClient_cases h
              cases r with
              | error e =>
                  simp only [Except.map, OtpRequest.event]
                  rw [if_neg fun he : e = wrongCode => hne (congrArg Except.error he)]
                  exact .quiet clients
              | ok client => exact .verifiedTest htest clients
  | wrong hlive hcode =>
      rw [run_bind_error hv] at h
      cases h
      simp only [Except.map, OtpRequest.event, if_pos]
      exact .wrong hlive
  | @matched payload record hlive hcode =>
      subst hcode
      rw [run_bind_ok hv] at h
      have hcreate : getOrCreateClient ctx (normalizePhone raw)
          { store with records := store.records.save { record with isUsed := true } } =
          (r, store') := h
      obtain ⟨⟨clients, rfl⟩, hne⟩ := getOrCreateClient_cases hcreate
      cases r with
      | error e =>
          simp only [Except.map, OtpRequest.event]
          rw [if_neg fun he : e = wrongCode => hne (congrArg Except.error he)]
          exact .spent hlive clients
      | ok client => exact .verified hlive clients

theorem moved_handle (request : OtpRequest) :
    Moved cfg ctx store (request.event cfg ctx (request.handle cfg ctx store).1)
      (request.handle cfg ctx store).2 := by
  cases request with
  | send phone => exact moved_send rfl
  | verify phone otpCode =>
      rcases hrun : VerifyOTPView.post cfg ctx phone otpCode store with ⟨r, store'⟩
      have hmoved := moved_verify hrun
      have hhandle : (OtpRequest.verify phone otpCode).handle cfg ctx store =
          (r.map fun _ => (), store') := by
        cases r with
        | error e => exact run_map_error hrun
        | ok client => exact run_map_ok hrun
      rw [hhandle]
      exact hmoved

end Runs

/-- A code expires before the cooldown of its phone ends. -/
theorem otpTtl_lt_cooldown : otpTtl < otpSendCooldown := by decide

section Records

variable {t : Table OTPRecord} {record new : OTPRecord} {phone : String}

/-- Saving the record of one phone leaves the records of the others. -/
theorem mem_save_of_phone_ne (new : OTPRecord) (hmem : record ∈ t.rows) (hid : new.id = record.id)
    (hphone : new.phone = record.phone) (hne : record.phone ≠ phone) (r : OTPRecord)
    (hr : r.phone = phone) : r ∈ (t.save new).rows ↔ r ∈ t.rows := by
  rw [Table.mem_save]
  constructor
  · rintro (⟨hrow, -⟩ | ⟨rfl, -⟩)
    · exact hrow
    · exact absurd (hphone.symm.trans hr) hne
  · intro hrow
    refine Or.inl ⟨hrow, fun hkey => hne ?_⟩
    have hsame : record = r := by
      have hr' := Table.find?_of_mem hrow
      rw [hkey, key_record, hid] at hr'
      exact Option.some.inj ((Table.find?_of_mem hmem).symm.trans hr')
    rw [hsame, hr]

/-- The other records of a phone, when one of its records is saved. -/
theorem expired_of_mem_save {bound : Int}
    (hrest : ∀ r ∈ t.rows, r.phone = phone → r ≠ record → r.expiresAt < bound)
    (hid : new.id = record.id) :
    ∀ r ∈ (t.save new).rows, r.phone = phone → r ≠ new → r.expiresAt < bound := by
  intro r hr hphone hne
  rcases Table.mem_save.mp hr with ⟨hrow, hkey⟩ | ⟨rfl, -⟩
  · refine hrest r hrow hphone fun hsame => hkey ?_
    rw [hsame, key_record, key_record, hid]
  · exact absurd rfl hne

theorem mem_save_new (hmem : record ∈ t.rows) (hid : new.id = record.id) :
    new ∈ (t.save new).rows :=
  Table.mem_save.mpr (Or.inr ⟨rfl, record, hmem, hid.symm⟩)

end Records

namespace Tracks

variable {cfg : OtpSettings} {ctx : OtpContext} {store store' : OtpStore} {clock : Int}
  {phone : String} {s : Status}

/-- A code is issued: every older record of the phone has expired. -/
theorem issued {t : Table OTPRecord} (h : Tracks store clock phone s) (hclock : clock ≤ ctx.now)
    (hcooldown : store.cooldowns.get ctx.now phone = none)
    (hins : store.records.insert? (newRecord ctx phone) = some t) :
    Tracks { store with
      records := t
      codes := store.codes.set ctx.now phone { code := sixDigits ctx.randint } otpTtl
      cooldowns := store.cooldowns.set ctx.now phone () otpSendCooldown } ctx.now phone
      { issue := some ⟨sixDigits ctx.randint, ctx.now⟩, blockedAt := s.blockedAt } where
  block := h.block
  cooldown := Cache.set_self _ _ _ _ _
  past i hi := by
    cases hi
    exact le_refl _
  code_none hi := by cases hi
  code i hi := by
    cases hi
    exact ⟨_, Cache.set_self _ _ _ _ _⟩
  records_none hi := by cases hi
  records i hi := by
    cases hi
    refine ⟨newRecord ctx phone, (Table.mem_insert? hins).mpr (Or.inr rfl), rfl, rfl, by simp, ?_⟩
    intro r hr hphone hne
    have hrow : r ∈ store.records.rows := ((Table.mem_insert? hins).mp hr).resolve_right hne
    change r.expiresAt < ctx.now
    cases hissue : s.issue with
    | none => exact absurd hphone (h.records_none hissue r hrow)
    | some i =>
        have hentry := h.cooldown
        rw [hissue] at hentry
        have hover : i.issuedAt + otpSendCooldown ≤ ctx.now :=
          Cache.get_eq_none_iff.mp hcooldown () _ hentry
        have hpast := h.past i hissue
        have hlt := otpTtl_lt_cooldown
        obtain ⟨last, -, -, hexpires, -, hrest⟩ := h.records i hissue
        by_cases hlast : r = last
        · rw [hlast, hexpires]
          omega
        · have hold := hrest r hrow hphone hlast
          omega

/-- A wrong guess is counted, and the last one blocks. -/
theorem wrong {payload : OtpPayload} {record : OTPRecord} (h : Tracks store clock phone s)
    (hclock : clock ≤ ctx.now) (hlive : Live ctx store phone payload record) :
    Tracks ((store.counted ctx phone payload record).blockedAfter ctx phone
      (payload.attempts + 1)) ctx.now phone (s.after phone (.wrong phone ctx.now)) := by
  obtain ⟨i, hi, hexpires, hused, hrest⟩ :=
    h.last_of_live hclock hlive.mem hlive.phone_eq hlive.expires
  obtain rfl := h.payload_eq hi hlive.payload
  have hcounted : Tracks (store.counted ctx phone { code := i.code, attempts := s.wrongs } record)
      ctx.now phone { s with wrongs := s.wrongs + 1 } := by
    refine ⟨h.block, h.cooldown, fun j hj => (h.past j hj).trans hclock, fun hj => ?_,
      fun j hj => ?_, fun hj => ?_, fun j hj => ?_⟩
    · cases hi.symm.trans hj
    · obtain rfl : i = j := Option.some.inj (hi.symm.trans hj)
      exact ⟨_, Cache.set_self _ _ _ _ _⟩
    · cases hi.symm.trans hj
    · obtain rfl : i = j := Option.some.inj (hi.symm.trans hj)
      exact ⟨{ record with attempts := s.wrongs + 1 }, mem_save_new hlive.mem rfl, hlive.phone_eq,
        hexpires, hused, expired_of_mem_save hrest rfl⟩
  rw [Status.after_wrong]
  unfold OtpStore.blockedAfter
  by_cases hmax : otpMaxAttempts ≤ s.wrongs + 1
  · rw [if_pos hmax, if_pos hmax]
    exact { hcounted with block := Cache.set_self _ _ _ _ _ }
  · rw [if_neg hmax, if_neg hmax]
    exact hcounted

/-- The record of the last code is used. -/
theorem spent {payload : OtpPayload} {record : OTPRecord}
    (h : Tracks store clock phone s) (used : Bool) (hclock : clock ≤ ctx.now)
    (hlive : Live ctx store phone payload record) (clients : Table Client) :
    Tracks { store with records := store.records.save { record with isUsed := true }, clients }
      ctx.now phone { s with used := used } := by
  obtain ⟨i, hi, hexpires, -, hrest⟩ :=
    h.last_of_live hclock hlive.mem hlive.phone_eq hlive.expires
  refine ⟨h.block, h.cooldown, fun j hj => (h.past j hj).trans hclock, h.code_none, h.code,
    fun hj => ?_, fun j hj => ?_⟩
  · cases hi.symm.trans hj
  · obtain rfl : i = j := Option.some.inj (hi.symm.trans hj)
    exact ⟨{ record with isUsed := true }, mem_save_new hlive.mem rfl, hlive.phone_eq, hexpires,
      fun _ => rfl, expired_of_mem_save hrest rfl⟩

/-- A verify that succeeds was permitted. -/
theorem permits {payload : OtpPayload} {record : OTPRecord} (h : Tracks store clock phone s)
    (hclock : clock ≤ ctx.now) (hlive : Live ctx store phone payload record) :
    Permits s payload.code ctx.now := by
  obtain ⟨i, hi, hexpires, hused, -⟩ :=
    h.last_of_live hclock hlive.mem hlive.phone_eq hlive.expires
  refine ⟨⟨i, hi, ?_, ?_⟩, ?_, h.unblocked hlive.block⟩
  · rw [h.payload_eq hi hlive.payload]
  · rw [← hexpires]
    exact hlive.expires
  · by_contra hne
    have hspent := hused (Bool.eq_true_of_not_eq_false hne)
    rw [hlive.unused] at hspent
    cases hspent

/-- The request is about another phone. -/
theorem moved_of_ne {e : OtpEvent} (h : Tracks store clock phone s) (hclock : clock ≤ ctx.now)
    (hm : Moved cfg ctx store (some e) store') (hne : e.phone ≠ phone) :
    Tracks store' ctx.now phone s := by
  have hself : phone ≠ e.phone := Ne.symm hne
  cases hm with
  | wrongTest htest => exact h.mono hclock rfl rfl rfl fun _ _ => Iff.rfl
  | verifiedTest htest clients => exact h.mono hclock rfl rfl rfl fun _ _ => Iff.rfl
  | issued hcooldown hins =>
      refine h.mono hclock rfl (Cache.set_of_ne hself _ _ _ _) (Cache.set_of_ne hself _ _ _ _) ?_
      intro r hr
      refine (Table.mem_insert? hins).trans ⟨fun hrow => hrow.resolve_right fun hnew => ?_, Or.inl⟩
      rw [hnew] at hr
      exact hne hr
  | @wrong p payload record hlive =>
      have hrecords := mem_save_of_phone_ne { record with attempts := payload.attempts + 1 }
        hlive.mem rfl rfl (hlive.phone_eq ▸ hne)
      have hcode := Cache.set_of_ne hself store.codes ctx.now
        { payload with attempts := payload.attempts + 1 } otpTtl
      by_cases hmax : otpMaxAttempts ≤ payload.attempts + 1
      · rw [OtpStore.blockedAfter, if_pos hmax]
        exact h.mono hclock (Cache.set_of_ne hself _ _ _ _) rfl hcode hrecords
      · rw [OtpStore.blockedAfter, if_neg hmax]
        exact h.mono hclock rfl rfl hcode hrecords
  | @verified p payload record hlive clients =>
      exact h.mono hclock rfl rfl rfl (mem_save_of_phone_ne { record with isUsed := true }
        hlive.mem rfl rfl (hlive.phone_eq ▸ hne))

/-- What one request does to the account of any phone but the test phone. -/
theorem moved {e : Option OtpEvent} (h : Tracks store clock phone s) (hclock : clock ≤ ctx.now)
    (htest : ¬cfg.IsTestPhone phone) (hm : Moved cfg ctx store e store') :
    Tracks store' ctx.now phone (e.elim s (s.after phone)) := by
  cases e with
  | none =>
      cases hm with
      | quiet clients => exact h.mono hclock rfl rfl rfl fun _ _ => Iff.rfl
      | @spent p payload record hlive clients =>
          by_cases hp : p = phone
          · subst hp
            exact h.spent s.used hclock hlive clients
          · exact h.mono hclock rfl rfl rfl (mem_save_of_phone_ne { record with isUsed := true }
              hlive.mem rfl rfl (hlive.phone_eq ▸ hp))
  | some e =>
      by_cases hp : e.phone = phone
      · subst hp
        cases hm with
        | wrongTest h' => exact absurd h' htest
        | verifiedTest h' clients => exact absurd h' htest
        | @issued p t hcooldown hins =>
            change Tracks _ _ p (s.after p (.issued p _ _))
            rw [Status.after_issued]
            exact h.issued hclock hcooldown hins
        | wrong hlive => exact h.wrong hclock hlive
        | @verified p payload record hlive clients =>
            change Tracks _ _ p (s.after p (.verified p payload.code ctx.now))
            rw [Status.after_verified]
            exact h.spent true hclock hlive clients
      · have hother := h.moved_of_ne hclock hm hp
        rw [Option.elim_some, Status.after_of_ne hp]
        exact hother

end Tracks

/-- Every verify that succeeded, for a phone other than the test phone, was permitted by
what had happened before it. -/
def OneTime (cfg : OtpSettings) (history : List OtpEvent) : Prop :=
  ∀ later earlier phone code at_, history = later ++ .verified phone code at_ :: earlier →
    ¬cfg.IsTestPhone phone → Permits (status phone earlier) code at_

theorem OneTime.cons {cfg : OtpSettings} {history : List OtpEvent} {e : OtpEvent}
    (h : OneTime cfg history)
    (he : ∀ phone code at_, e = .verified phone code at_ → ¬cfg.IsTestPhone phone →
      Permits (status phone history) code at_) : OneTime cfg (e :: history) := by
  intro later earlier phone code at_ heq htest
  cases later with
  | nil =>
      obtain ⟨rfl, rfl⟩ := List.cons.inj heq
      exact he phone code at_ rfl htest
  | cons e' later => exact h later earlier phone code at_ (List.cons.inj heq).2 htest

/-- The invariant of a run. -/
structure Followed (cfg : OtpSettings) (w : OtpWorld) : Prop where
  tracks : ∀ phone, ¬cfg.IsTestPhone phone →
    Tracks w.store w.clock phone (status phone w.history)
  oneTime : OneTime cfg w.history

theorem Followed.next {cfg : OtpSettings} {w : OtpWorld} {l : OtpContext × OtpRequest}
    (h : Followed cfg w) (hclock : w.clock ≤ l.1.now) : Followed cfg (w.next cfg l) := by
  obtain ⟨ctx, request⟩ := l
  have hmoved : Moved cfg ctx w.store (request.event cfg ctx (request.handle cfg ctx w.store).1)
      (request.handle cfg ctx w.store).2 := moved_handle request
  unfold OtpWorld.next
  generalize request.event cfg ctx (request.handle cfg ctx w.store).1 = e at hmoved ⊢
  generalize (request.handle cfg ctx w.store).2 = store' at hmoved ⊢
  refine ⟨fun phone htest => ?_, ?_⟩
  · have hstep := (h.tracks phone htest).moved hclock htest hmoved
    cases e with
    | none => exact hstep
    | some e => exact hstep
  · cases e with
    | none => exact h.oneTime
    | some e =>
        refine h.oneTime.cons fun phone code at_ he htest => ?_
        subst he
        cases hmoved with
        | verifiedTest h' => exact absurd h' htest
        | verified hlive clients => exact (h.tracks phone htest).permits hclock hlive

/-- In every timed run a verify succeeds only with the last code issued to the phone, before
it expires, when the phone is not blocked, and at most once for each code. -/
theorem one_time_codes (cfg : OtpSettings) {w : OtpWorld}
    (h : (oneTimeCodes cfg).Reachable w) : OneTime cfg w.history := by
  have hfollowed : Followed cfg w := by
    refine h.invariant (fun w hw => ?_) fun w l w' _ hi hstep => ?_
    · obtain ⟨hstore, hhistory⟩ := hw
      refine ⟨fun phone _ => ?_, fun later earlier phone code at_ heq => ?_⟩
      · rw [hstore, hhistory]
        exact Tracks.init _
      · rw [hhistory] at heq
        simp at heq
    · obtain ⟨hclock, rfl⟩ := hstep
      exact hi.next hclock
  exact hfollowed.oneTime

namespace Sample

/-- The surroundings of a request at a second; the number drawn is 42. -/
def otpAt (second : Nat) : OtpContext where
  now := seconds second
  record := second
  client := second
  randint := 42

/-- A code is sent, and verified under another form of the phone. -/
def verifiedCode : OtpWorld :=
  (OtpWorld.next {} (OtpWorld.next {} ⟨{}, 0, []⟩ (otpAt 1, .send "998 90 111-22-33"))
    (otpAt 61, .verify "+998901112233" "000042"))

theorem reachable_verifiedCode : (oneTimeCodes {}).Reachable verifiedCode := by
  have hinit : (oneTimeCodes {}).Reachable ⟨{}, 0, []⟩ := .init ⟨rfl, rfl⟩
  have hsent := hinit.step (l := (otpAt 1, .send "998 90 111-22-33")) ⟨by decide, rfl⟩
  exact hsent.step (l := (otpAt 61, .verify "+998901112233" "000042")) ⟨by decide, rfl⟩

end Sample

theorem one_time_codes_sample :
    Permits (status "+998901112233" [.issued "+998901112233" "000042" (seconds 1)]) "000042"
      (seconds 61) := by
  have hhistory : Sample.verifiedCode.history =
      [] ++ .verified "+998901112233" "000042" (seconds 61) ::
        [.issued "+998901112233" "000042" (seconds 1)] := by decide
  exact one_time_codes {} Sample.reachable_verifiedCode _ _ _ _ _ hhistory (by decide)

end Accounts

end Homex
