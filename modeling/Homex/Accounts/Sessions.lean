import Homex.Accounts.Authentication
import Homex.Accounts.Otp
import Homex.Transition.Grants
import Homex.Transition.Run

/-!
# Sessions

A login hands out an access token and a refresh token, and a refresh token buys a
new pair. Nothing but the blacklist of the dashboard takes a token back before it
expires, and no refresh uses its token up. What keeps the tokens in order is that
every pair names the subject of the login or of the token it was bought with, and
that the backend looks the subject up again for every pair and every request.

The token library, the password checks of Django and the hasher are parameters.
The grants of the state are a history variable: no code reads them.
-/

namespace Homex

namespace Accounts

open Relational Transition

/-- The claim `token_type`. -/
inductive TokenType
  | access
  | refresh
  deriving DecidableEq, Repr

/-- The claims of a token. -/
structure Claims extends Token where
  tokenType : TokenType
  exp : Int
  jti : Uuid
  deriving DecidableEq, Repr

/-- The subject a token names. -/
def Claims.owner (c : Claims) : Option String × Option Uuid := (c.role, c.sub)

/-- `AccessToken(raw)` and `RefreshToken(raw)`, with the clock and the blacklist they read,
`django.contrib.auth.authenticate` and the password hasher. A token that is accepted has
the type that was asked for and has not expired, and a refresh token is not in the
blacklist. `authenticate` answers a row of the table. -/
structure Libraries where
  accessToken : Int → String → Option Claims
  refreshToken : Int → List Uuid → String → Except String Claims
  authenticate : AccountTables → String → String → Option AdminUser
  checkPassword : String → String → Bool
  otp : OtpSettings := {}
  access : ∀ {now raw c}, accessToken now raw = some c → c.tokenType = .access ∧ now < c.exp
  refresh : ∀ {now blacklist raw c}, refreshToken now blacklist raw = .ok c →
    c.tokenType = .refresh ∧ now < c.exp ∧ c.jti ∉ blacklist
  row : ∀ {db username password user}, authenticate db username password = some user →
    db.admins.find? user.id = some user

/-! ### Issuing tokens -/

/-- `timedelta(days=…)`, in microseconds. -/
def days (n : Int) : Int := seconds (n * 24 * 60 * 60)

/-- `ACCESS_TOKEN_DAYS`. -/
def accessTokenDays : Int := 3

/-- `REFRESH_TOKEN_DAYS`. -/
def refreshTokenDays : Int := 15

/-- `MASTER_ACCESS_DAYS`. -/
def masterAccessDays : Int := accessTokenDays

/-- `MASTER_REFRESH_DAYS`. -/
def masterRefreshDays : Int := refreshTokenDays

/-- `CLIENT_ACCESS_DAYS`. -/
def clientAccessDays : Int := accessTokenDays

/-- `CLIENT_REFRESH_DAYS`. -/
def clientRefreshDays : Int := refreshTokenDays

/-- `DASHBOARD_ROLE`. -/
def dashboardRole : String := "admin"

/-- `set_exp`; the claim counts whole seconds. -/
def setExp (fromTime lifetime : Int) : Int := (fromTime + lifetime) / 1000000 * 1000000

theorem setExp_le (fromTime lifetime : Int) : setExp fromTime lifetime ≤ fromTime + lifetime :=
  Int.ediv_mul_le _ (by decide)

/-- The tokens of a response. -/
structure RoleTokens where
  accessToken : Claims
  refreshToken : Claims
  expiresIn : Int
  deriving DecidableEq, Repr

/-- A pair of tokens for a subject, with these lifetimes. -/
def issueTokens (now : Int) (jtis : Uuid × Uuid) (sub : Uuid) (role : String)
    (accessDays refreshDays : Int) : RoleTokens where
  accessToken :=
    { role, sub, tokenType := .access, exp := setExp now (days accessDays), jti := jtis.1 }
  refreshToken :=
    { role, sub, tokenType := .refresh, exp := setExp now (days refreshDays), jti := jtis.2 }
  expiresIn := accessDays * 24 * 60 * 60

/-- `issue_role_tokens`. -/
def issueRoleTokens (now : Int) (jtis : Uuid × Uuid) (sub : Uuid) (role : String) : RoleTokens :=
  issueTokens now jtis sub role
    (if role = "master" then masterAccessDays else clientAccessDays)
    (if role = "master" then masterRefreshDays else clientRefreshDays)

/-- `issue_dashboard_tokens`. -/
def issueDashboardTokens (now : Int) (jtis : Uuid × Uuid) (user : AdminUser) : RoleTokens :=
  issueTokens now jtis user.id dashboardRole accessTokenDays refreshTokenDays

def RoleTokens.made (tokens : RoleTokens) : List Claims :=
  [tokens.accessToken, tokens.refreshToken]

theorem issueRoleTokens_eq (now : Int) (jtis : Uuid × Uuid) (sub : Uuid) (role : String) :
    issueRoleTokens now jtis sub role =
      issueTokens now jtis sub role accessTokenDays refreshTokenDays := by
  unfold issueRoleTokens
  split <;> rfl

/-- No token outlives a refresh token. -/
def lifetime : Int := days refreshTokenDays

theorem made_issueTokens {now : Int} {jtis : Uuid × Uuid} {sub : Uuid} {role : String} :
    ∀ c ∈ (issueTokens now jtis sub role accessTokenDays refreshTokenDays).made,
      c.owner = (some role, some sub) ∧ c.exp ≤ now + lifetime := by
  intro c hc
  rcases List.mem_pair.mp hc with rfl | rfl
  · refine ⟨rfl, (setExp_le now (days accessTokenDays)).trans ?_⟩
    exact Int.add_le_add_left (by decide) now
  · exact ⟨rfl, setExp_le now (days refreshTokenDays)⟩

/-! ### Who is let in -/

def Subject.role : Subject → String
  | .admin _ => dashboardRole
  | .master _ => "master"
  | .client _ => "client"

def Subject.id : Subject → Uuid
  | .admin u => u.id
  | .master m => m.id
  | .client c => c.id

/-- The claims that name the subject. -/
def Subject.owner (subject : Subject) : Option String × Option Uuid :=
  (some subject.role, some subject.id)

/-- `get_role_user`, the user of a socket. -/
def getRoleUser (decode : String → Option Token) (raw : String) (db : AccountTables) :
    Option Subject :=
  match decode raw with
  | none => none
  | some token =>
      if token.role = some "admin" then
        (token.sub.bind db.activeAdmin).map .admin
      else if token.role = some "master" then
        (token.sub.bind db.activeMaster).map .master
      else if token.role = some "client" then
        (token.sub.bind db.activeClient).map .client
      else
        none

/-- `DashboardLoginSerializer.validate`. -/
def DashboardLoginSerializer.validate
    (authenticate : AccountTables → String → String → Option AdminUser)
    (username password : String) (db : AccountTables) : Except String AdminUser :=
  match authenticate db username password with
  | none => .error "Username yoki parol noto'g'ri yoki user staff emas"
  | some user =>
      if ¬user.isActive ∨ ¬user.isStaff then
        .error "Username yoki parol noto'g'ri yoki user staff emas"
      else
        .ok user

/-- `DashboardRefreshSerializer.create`, up to the new tokens it issues to the user. -/
def DashboardRefreshSerializer.create (decode : String → Except String Token) (raw : String)
    (db : AccountTables) : Except Error AdminUser :=
  match decode raw with
  | .error message => .error (.validation "refresh_token" message)
  | .ok token =>
      if token.role ≠ some dashboardRole then
        .error (.validation none "Refresh token dashboard admin uchun emas")
      else
        (token.sub.bind db.activeAdmin).elim
          (.error (.validation none "Admin user topilmadi")) .ok

/-- The tables have an active row for the claims, approved for a master and staff for an
admin. -/
def LetIn (db : AccountTables) (owner : Option String × Option Uuid) : Prop :=
  ∃ sub subject, owner.2 = some sub ∧ lookup db owner.1 sub = .ok subject

section Subjects

variable {db : AccountTables} {role : Option String} {sub : Uuid} {subject : Subject}

theorem found_of_elim {α ε : Type} {found : Option α} {e : ε} {wrap : α → Subject}
    (h : (found.map wrap).elim (.error e) Except.ok = .ok subject) :
    ∃ a, found = some a ∧ subject = wrap a := by
  cases found with
  | none => cases h
  | some a => exact ⟨a, rfl, (Except.ok.inj h).symm⟩

theorem id_of_activeAdmin {user : AdminUser} (h : db.activeAdmin sub = some user) :
    user.id = sub :=
  Table.key_of_find? (Option.filter_eq_some_iff.mp h).1

theorem id_of_activeMaster {master : Master} (h : db.activeMaster sub = some master) :
    master.id = sub :=
  Table.key_of_find? (Option.filter_eq_some_iff.mp h).1

theorem id_of_activeClient {client : Client} (h : db.activeClient sub = some client) :
    client.id = sub :=
  Table.key_of_find? (Option.filter_eq_some_iff.mp h).1

/-- A lookup finds the subject the claims name. -/
theorem owner_of_lookup (h : lookup db role sub = .ok subject) :
    subject.owner = (role, some sub) := by
  unfold lookup at h
  split at h
  · next hrole =>
      obtain ⟨user, hfind, rfl⟩ := found_of_elim h
      rw [hrole, ← id_of_activeAdmin hfind]
      rfl
  split at h
  · next hrole =>
      obtain ⟨master, hfind, rfl⟩ := found_of_elim h
      rw [hrole, ← id_of_activeMaster hfind]
      rfl
  split at h
  · next hrole =>
      obtain ⟨client, hfind, rfl⟩ := found_of_elim h
      rw [hrole, ← id_of_activeClient hfind]
      rfl
  · cases h

end Subjects

/-! ### Events -/

namespace Sessions

/-- How a subject proved who it is: the code it showed or the password, with what the
backend checked it against. -/
inductive Login
  | otp (ctx : OtpContext) (store : OtpStore) (phone otpCode : String)
  | master (db : AccountTables) (phone password : String)
  | dashboard (db : AccountTables) (username password : String)

/-- The check of the login passed, for this subject. -/
def Login.Proves (L : Libraries) : Login → Option String × Option Uuid → Prop
  | .otp ctx store phone otpCode, owner =>
      ∃ client, (VerifyOTPView.post L.otp ctx phone otpCode store).1 = .ok client ∧
        owner = (some "client", some client.id)
  | .master db phone password, owner =>
      ∃ master, MasterLoginSerializer.validate L.checkPassword phone password db = .ok master ∧
        owner = (some "master", some master.id)
  | .dashboard db username password, owner =>
      ∃ user, DashboardLoginSerializer.validate L.authenticate username password db = .ok user ∧
        owner = (some dashboardRole, some user.id)

/-- The tables, the one-time codes, the clock, the blacklist, and every pair of tokens that
was handed out, the newest first. -/
structure State where
  accounts : AccountTables := {}
  otp : OtpStore := {}
  now : Int := 0
  blacklist : List Uuid := []
  grants : List (Grant Claims Login Int) := []

/-- What happens at the endpoints that issue or take back tokens. Time passes between the
requests, and every other request may write the account tables. -/
inductive Event
  | tick (now : Int)
  | write (accounts : AccountTables)
  | sendOtp (ctx : OtpContext) (phone : String)
  | verifyOtp (ctx : OtpContext) (phone otpCode : String) (jtis : Uuid × Uuid)
  | masterLogin (phone password : String) (jtis : Uuid × Uuid)
  | dashboardLogin (username password : String) (jtis : Uuid × Uuid)
  | refresh (raw : String) (jtis : Uuid × Uuid)
  | dashboardRefresh (raw : String) (jtis : Uuid × Uuid)
  | dashboardLogout (parts : List String) (raw : String)

namespace State

/-- The store of the one-time codes, with the clients of the tables. -/
def otpStore (σ : State) : OtpStore := { σ.otp with clients := σ.accounts.clients }

def saveOtp (σ : State) (store : OtpStore) : State :=
  { σ with otp := store, accounts := { σ.accounts with clients := store.clients } }

def grant (σ : State) (source : Claims ⊕ Login) (tokens : RoleTokens) : State :=
  { σ with grants := { instant := σ.now, source, made := tokens.made } :: σ.grants }

/-- The token of a request header or of a socket. -/
def decodeAccess (L : Libraries) (σ : State) (raw : String) : Option Token :=
  (L.accessToken σ.now raw).map Claims.toToken

def decodeRefresh (L : Libraries) (σ : State) (raw : String) : Except String Token :=
  (L.refreshToken σ.now σ.blacklist raw).map Claims.toToken

/-- One event. A request that is refused leaves everything but the counters of the
one-time codes. -/
def handle (L : Libraries) (σ : State) : Event → State
  | .tick now => { σ with now := max σ.now now }
  | .write accounts => { σ with accounts }
  | .sendOtp ctx phone =>
      σ.saveOtp (SendOTPView.post L.otp { ctx with now := σ.now } phone σ.otpStore).2
  | .verifyOtp ctx phone otpCode jtis =>
      let ctx := { ctx with now := σ.now }
      let answer := VerifyOTPView.post L.otp ctx phone otpCode σ.otpStore
      match answer.1 with
      | .ok client =>
          (σ.saveOtp answer.2).grant (.inr (.otp ctx σ.otpStore phone otpCode))
            (issueRoleTokens σ.now jtis client.id "client")
      | .error _ => σ.saveOtp answer.2
  | .masterLogin phone password jtis =>
      match MasterLoginSerializer.validate L.checkPassword phone password σ.accounts with
      | .ok master =>
          σ.grant (.inr (.master σ.accounts phone password))
            (issueRoleTokens σ.now jtis master.id "master")
      | .error _ => σ
  | .dashboardLogin username password jtis =>
      match DashboardLoginSerializer.validate L.authenticate username password σ.accounts with
      | .ok user =>
          σ.grant (.inr (.dashboard σ.accounts username password))
            (issueDashboardTokens σ.now jtis user)
      | .error _ => σ
  | .refresh raw jtis =>
      match L.refreshToken σ.now σ.blacklist raw,
        RefreshSerializer.create (σ.decodeRefresh L) raw σ.accounts with
      | .ok old, .ok subject =>
          σ.grant (.inl old)
            (issueRoleTokens σ.now jtis subject.id subject.role)
      | _, _ => σ
  | .dashboardRefresh raw jtis =>
      match L.refreshToken σ.now σ.blacklist raw,
        DashboardRefreshSerializer.create (σ.decodeRefresh L) raw σ.accounts with
      | .ok old, .ok user => σ.grant (.inl old) (issueDashboardTokens σ.now jtis user)
      | _, _ => σ
  | .dashboardLogout parts raw =>
      match RoleJWTAuthentication.authenticate (σ.decodeAccess L) parts σ.accounts,
        L.refreshToken σ.now σ.blacklist raw with
      | .ok (some (.admin _)), .ok old => { σ with blacklist := old.jti :: σ.blacklist }
      | _, _ => σ

/-- The string carries the claims of a token that was handed out, or is no token: nobody
else can sign one. -/
def Unforged (L : Libraries) (σ : State) (raw : String) : Prop :=
  ∀ c, L.accessToken σ.now raw = some c ∨ L.refreshToken σ.now σ.blacklist raw = .ok c →
    Grant.Issued σ.grants c

/-- The token of a header or of a socket stands for the subject. -/
def Serves (L : Libraries) (σ : State) (raw : String) (subject : Subject) : Prop :=
  RoleJWTAuthentication.authenticate (σ.decodeAccess L) ["Bearer", raw] σ.accounts =
      .ok (some subject) ∨
    getRoleUser (σ.decodeAccess L) raw σ.accounts = some subject

end State

/-- A refresh shows no forged token. -/
def Event.Unforged (L : Libraries) (σ : State) : Event → Prop
  | .refresh raw _ | .dashboardRefresh raw _ => σ.Unforged L raw
  | _ => True

/-- The backend starts without tokens. -/
def sessions (L : Libraries) : System State Event where
  init σ := σ.grants = []
  step σ event σ' := event.Unforged L σ ∧ σ' = σ.handle L event

variable {L : Libraries} {σ σ' : State}

end Sessions

end Accounts

end Homex
