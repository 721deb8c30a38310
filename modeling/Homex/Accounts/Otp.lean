import Homex.Accounts.Models
import Homex.Timed.Cache
import Homex.Transition.Run

/-!
# One-time codes

`SendOTPSerializer` issues a code and `VerifyOTPSerializer` checks one. A code is
kept twice: in a cache entry, with the number of wrong attempts, and in a row of
`OTPRecord`, with the time it expires and whether it was used. Two more cache
entries hold the cooldown of a phone and its block. The three kinds of key are
kept apart by their prefixes, so each kind is a cache of its own here.

A request runs at one instant. The throttles of the send endpoint only refuse
requests, and the message itself goes out off the request.
-/

namespace Homex

namespace Accounts

open Relational Action Timed

/-- The characters `str.isdigit` accepts, as ranges of Unicode 15. -/
def digitRanges : List (Nat × Nat) :=
    [(48, 57), (178, 179), (185, 185), (1632, 1641), (1776, 1785), (1984, 1993), (2406, 2415),
     (2534, 2543), (2662, 2671), (2790, 2799), (2918, 2927), (3046, 3055), (3174, 3183),
     (3302, 3311), (3430, 3439), (3558, 3567), (3664, 3673), (3792, 3801), (3872, 3881),
     (4160, 4169), (4240, 4249), (4969, 4977), (6112, 6121), (6160, 6169), (6470, 6479),
     (6608, 6618), (6784, 6793), (6800, 6809), (6992, 7001), (7088, 7097), (7232, 7241),
     (7248, 7257), (8304, 8304), (8308, 8313), (8320, 8329), (9312, 9320), (9332, 9340),
     (9352, 9360), (9450, 9450), (9461, 9469), (9471, 9471), (10102, 10110), (10112, 10120),
     (10122, 10130), (42528, 42537), (43216, 43225), (43264, 43273), (43472, 43481),
     (43504, 43513), (43600, 43609), (44016, 44025), (65296, 65305), (66720, 66729),
     (68160, 68163), (68912, 68921), (69216, 69224), (69714, 69722), (69734, 69743),
     (69872, 69881), (69942, 69951), (70096, 70105), (70384, 70393), (70736, 70745),
     (70864, 70873), (71248, 71257), (71360, 71369), (71472, 71481), (71904, 71913),
     (72016, 72025), (72784, 72793), (73040, 73049), (73120, 73129), (73552, 73561),
     (92768, 92777), (92864, 92873), (93008, 93017), (120782, 120831), (123200, 123209),
     (123632, 123641), (124144, 124153), (125264, 125273), (127232, 127242), (130032, 130041)]

/-- `str.isdigit` of one character. -/
def isDigit (c : Char) : Bool :=
  digitRanges.any fun range => range.1 ≤ c.toNat ∧ c.toNat ≤ range.2

/-- `normalize_phone`. -/
def normalizePhone (value : String) : String :=
  match value.toList.filter isDigit with
  | [] => ""
  | digits => .ofList ('+' :: digits)

/-- A normalized phone is empty or starts with a plus, so it does not continue the prefix
of another kind of cache key. -/
theorem append_normalizePhone_ne {c : Char} (hc : c ≠ '+') (value : String) (rest : List Char) :
    (normalizePhone value).toList ≠ c :: rest := by
  unfold normalizePhone
  split
  · simp
  · simpa using fun h : '+' = c => absurd h.symm hc

/-- The key of a code is not the key of a cooldown or of a block. -/
theorem codeKey_ne (p q : String) :
    "otp:" ++ normalizePhone p ≠ "otp:cooldown:" ++ q ∧
      "otp:" ++ normalizePhone p ≠ "otp:block:" ++ q := by
  constructor
  · intro h
    have hlist := congrArg String.toList h
    rw [String.toList_append, String.toList_append] at hlist
    exact append_normalizePhone_ne (c := 'c') (by decide) p _
      (List.append_cancel_left hlist)
  · intro h
    have hlist := congrArg String.toList h
    rw [String.toList_append, String.toList_append] at hlist
    exact append_normalizePhone_ne (c := 'b') (by decide) p _
      (List.append_cancel_left hlist)

/-- An instant counts microseconds. -/
def seconds (n : Int) : Int := n * 1000000

/-- `OTP_TTL_SECONDS`. -/
def otpTtl : Int := seconds 120

/-- `OTP_SEND_COOLDOWN_SECONDS`. -/
def otpSendCooldown : Int := seconds 180

/-- `OTP_MAX_ATTEMPTS`. -/
def otpMaxAttempts : Nat := 5

/-- `OTP_BLOCK_SECONDS`. -/
def otpBlock : Int := seconds 900

/-- `PLAYMARKET_TEST_PHONE` and `PLAYMARKET_TEST_OTP`. -/
structure OtpSettings where
  playmarketTestPhone : String := ""
  playmarketTestOtp : String := ""

/-- `_is_playmarket_test_phone`. -/
def OtpSettings.IsTestPhone (cfg : OtpSettings) (phone : String) : Prop :=
  normalizePhone cfg.playmarketTestPhone ≠ "" ∧ cfg.playmarketTestOtp ≠ "" ∧
    phone = normalizePhone cfg.playmarketTestPhone

instance (cfg : OtpSettings) (phone : String) : Decidable (cfg.IsTestPhone phone) :=
  inferInstanceAs (Decidable (_ ∧ _ ∧ _))

/-- `accounts.OTPRecord`. -/
structure OTPRecord where
  id : Uuid
  createdAt : Int
  phone : String
  code : String
  isUsed : Bool := false
  attempts : Nat := 0
  expiresAt : Int
  deriving DecidableEq, Repr

instance : Keyed OTPRecord Uuid := ⟨OTPRecord.id⟩

@[simp] theorem key_record (r : OTPRecord) : key r = r.id := rfl

/-- The cache entry of a code. -/
structure OtpPayload where
  code : String
  attempts : Nat := 0
  deriving DecidableEq, Repr

/-- The tables, and the cache entries `otp:…`, `otp:cooldown:…` and `otp:block:…`. -/
structure OtpStore where
  records : Table OTPRecord := .empty
  clients : Table Client := .empty
  codes : Cache String OtpPayload := .empty
  cooldowns : Cache String Unit := .empty
  blocks : Cache String Unit := .empty

/-- Request code of the one-time codes. -/
abbrev OtpCode (α : Type) := Action OtpStore Error α

/-- The surroundings of a request: the clock, the ids of a new record and of a new client,
and the number `randint` draws. -/
structure OtpContext where
  now : Int
  record : Uuid
  client : Uuid
  randint : Fin 1000000

/-- `f"{n:06d}"`. -/
def sixDigits (n : Fin 1000000) : String :=
  .ofList ((List.range 6).reverse.map fun i => Char.ofNat (48 + n.val / 10 ^ i % 10))

/-- `SendOTPSerializer.validate_phone`. -/
def SendOTPSerializer.validatePhone (cfg : OtpSettings) (ctx : OtpContext) (phone : String) :
    OtpCode Unit := do
  let store ← get
  require (cfg.IsTestPhone phone ∨ store.cooldowns.get ctx.now phone = none)
    (.validation "phone" "OTP so'rovi uchun 3 daqiqa kuting")

/-- The record of a code that is issued now. -/
def newRecord (ctx : OtpContext) (phone : String) : OTPRecord where
  id := ctx.record
  createdAt := ctx.now
  phone := phone
  code := sixDigits ctx.randint
  expiresAt := ctx.now + otpTtl

/-- `SendOTPSerializer.create`. -/
def SendOTPSerializer.create (cfg : OtpSettings) (ctx : OtpContext) (phone : String) :
    OtpCode Unit :=
  if cfg.IsTestPhone phone then
    pure ()
  else do
    write (fun store => (store.records.insert? (newRecord ctx phone)).map fun t =>
      { store with records := t }) Code.integrityError
    modify fun store =>
      { store with
          codes := store.codes.set ctx.now phone { code := sixDigits ctx.randint } otpTtl }
    modify fun store =>
      { store with cooldowns := store.cooldowns.set ctx.now phone () otpSendCooldown }

def SendOTPView.post (cfg : OtpSettings) (ctx : OtpContext) (phone : String) :
    OtpCode Unit := do
  SendOTPSerializer.validatePhone cfg ctx (normalizePhone phone)
  SendOTPSerializer.create cfg ctx (normalizePhone phone)

/-- `filter(phone=…, is_used=False).order_by("-created_at").first()`. -/
def OtpStore.unusedRecord (store : OtpStore) (phone : String) : Option OTPRecord :=
  (store.records.rows.filter fun r => r.phone = phone ∧ ¬r.isUsed).maxOn? fun r => r.createdAt

/-- The live cache entry and record of a phone. -/
def liveCode (ctx : OtpContext) (phone : String) : OtpCode (OtpPayload × OTPRecord) := do
  let store ← get
  match store.codes.get ctx.now phone, store.unusedRecord phone with
  | some payload, some record =>
      require (ctx.now ≤ record.expiresAt) (.validation none "OTP muddati tugagan")
      pure (payload, record)
  | _, _ => raise (.validation none "OTP muddati tugagan")

def saveRecord (record : OTPRecord) : OtpCode Unit :=
  modify fun store => { store with records := store.records.save record }

/-- A wrong guess: counted in the cache entry and in the record, and the last one allowed
blocks the phone. -/
def countAttempt (ctx : OtpContext) (phone : String) (payload : OtpPayload)
    (record : OTPRecord) : OtpCode Unit := do
  let attempts := payload.attempts + 1
  modify fun store =>
    { store with codes := store.codes.set ctx.now phone { payload with attempts } otpTtl }
  saveRecord { record with attempts }
  modify fun store =>
    if otpMaxAttempts ≤ attempts then
      { store with blocks := store.blocks.set ctx.now phone () otpBlock }
    else
      store

/-- The error of a wrong guess. -/
def wrongCode : Error := .validation none "OTP kodi noto'g'ri"

/-- `VerifyOTPSerializer.validate`: the record of the code, none for the test phone. -/
def VerifyOTPSerializer.validate (cfg : OtpSettings) (ctx : OtpContext) (phone otpCode : String) :
    OtpCode (Option OTPRecord) := do
  require (6 ≤ otpCode.length)
    (.validation "otp_code" "Ensure this field has at least 6 characters.")
  require (otpCode.length ≤ 6)
    (.validation "otp_code" "Ensure this field has no more than 6 characters.")
  if cfg.IsTestPhone phone then
    require (otpCode = cfg.playmarketTestOtp) wrongCode
    pure none
  else
    let store ← get
    require (store.blocks.get ctx.now phone = none)
      (.validation none "Ko'p noto'g'ri urinish. 15 daqiqa kuting")
    let (payload, record) ← liveCode ctx phone
    if payload.code ≠ otpCode then
      countAttempt ctx phone payload record
      raise wrongCode
    else
      pure (some record)

/-- `Client.objects.get_or_create(phone=…)`. -/
def getOrCreateClient (ctx : OtpContext) (phone : String) : OtpCode Client := do
  let store ← get
  match store.clients.rows.find? fun c => c.phone = phone with
  | some client => pure client
  | none =>
      let client : Client := { id := ctx.client, phone }
      write (fun store => (store.clients.insert? client).map fun t =>
        { store with clients := t }) Code.integrityError
      pure client

/-- `VerifyOTPSerializer.create`, up to the tokens it issues to the client. -/
def VerifyOTPSerializer.create (ctx : OtpContext) (phone : String) (record : Option OTPRecord) :
    OtpCode Client := do
  match record with
  | none => pure ()
  | some record => saveRecord { record with isUsed := true }
  getOrCreateClient ctx phone

def VerifyOTPView.post (cfg : OtpSettings) (ctx : OtpContext) (phone otpCode : String) :
    OtpCode Client := do
  let record ← VerifyOTPSerializer.validate cfg ctx (normalizePhone phone) otpCode
  VerifyOTPSerializer.create ctx (normalizePhone phone) record

end Accounts

end Homex
