import Homex.Accounts.Sessions

/-!
# Where a session comes from

Every pair of tokens was handed out against a login or against a refresh token of
the same subject, and a refresh looks the subject up. So whoever is served
descends from a login of that subject, and a subject that is not let in for as
long as a refresh token lives loses every session it had: what is served
afterwards descends from a login that came later.
-/

namespace Homex

namespace Accounts

open Relational Transition

variable {db : AccountTables} {subject : Subject} {token : Token}

/-! ### The lookups -/

theorem letIn_admin {user : AdminUser} (h : db.admins.find? user.id = some user)
    (hactive : user.isActive = true) (hstaff : user.isStaff = true) :
    LetIn db (some dashboardRole, some user.id) := by
  refine ⟨user.id, .admin user, rfl, ?_⟩
  simp [lookup, AccountTables.activeAdmin, dashboardRole, Option.filter, h, hactive, hstaff]

theorem letIn_master {master : Master} (h : db.masters.find? master.id = some master)
    (hactive : master.isActive = true) (happroved : master.approvalStatus = .approved) :
    LetIn db (some "master", some master.id) := by
  refine ⟨master.id, .master master, rfl, ?_⟩
  simp [lookup, AccountTables.activeMaster, Option.filter, h, hactive, happroved]

theorem letIn_client {client : Client} (h : db.clients.find? client.id = some client)
    (hactive : client.isActive = true) : LetIn db (some "client", some client.id) := by
  refine ⟨client.id, .client client, rfl, ?_⟩
  simp [lookup, AccountTables.activeClient, Option.filter, h, hactive]

/-- A password login asks for what a lookup asks for. -/
theorem letIn_of_login {checkPassword : String → String → Bool} {phone password : String}
    {master : Master}
    (h : MasterLoginSerializer.validate checkPassword phone password db = .ok master) :
    LetIn db (some "master", some master.id) := by
  unfold MasterLoginSerializer.validate at h
  split at h
  · cases h
  · next m hfind =>
      simp only [ite_eq_iff, reduceCtorEq, and_false, false_or, Except.ok.injEq] at h
      obtain ⟨hpending, hrejected, hactive, -, -, rfl⟩ := h
      refine letIn_master (Table.find?_of_mem (List.mem_of_find?_eq_some hfind))
        (by simpa using hactive) ?_
      cases hstatus : m.approvalStatus with
      | approved => rfl
      | pending => exact absurd hstatus hpending
      | rejected => exact absurd hstatus hrejected

theorem letIn_of_dashboardLogin {L : Libraries} {username password : String}
    {user : AdminUser}
    (h : DashboardLoginSerializer.validate L.authenticate username password db = .ok user) :
    LetIn db (some dashboardRole, some user.id) := by
  unfold DashboardLoginSerializer.validate at h
  split at h
  · cases h
  · next u hauthenticate =>
      split at h
      · cases h
      · next hflags =>
          obtain rfl := Except.ok.inj h
          rw [not_or, not_not, not_not] at hflags
          exact letIn_admin (L.row hauthenticate) hflags.1 hflags.2

/-- A refresh looks the subject of its token up. -/
theorem refresh_cases {decode : String → Except String Token} {raw : String}
    (h : RefreshSerializer.create decode raw db = .ok subject) (htoken : decode raw = .ok token) :
    subject.owner = (token.role, token.sub) ∧ LetIn db subject.owner := by
  unfold RefreshSerializer.create at h
  rw [htoken] at h
  dsimp only at h
  split at h
  · cases h
  · next sub hsub =>
      split at h
      · next hrole =>
          obtain ⟨m, hfind, rfl⟩ := found_of_elim h
          obtain ⟨hrow, hflags⟩ := Option.filter_eq_some_iff.mp hfind
          obtain ⟨hactive, happroved⟩ := of_decide_eq_true hflags
          obtain rfl := id_of_activeMaster hfind
          rw [hrole, hsub]
          exact ⟨rfl, letIn_master hrow hactive happroved⟩
      split at h
      · next hrole =>
          obtain ⟨c, hfind, rfl⟩ := found_of_elim h
          obtain ⟨hrow, hactive⟩ := Option.filter_eq_some_iff.mp hfind
          obtain rfl := id_of_activeClient hfind
          rw [hrole, hsub]
          exact ⟨rfl, letIn_client hrow (by simpa using hactive)⟩
      · cases h

theorem dashboardRefresh_cases {decode : String → Except String Token} {raw : String}
    {user : AdminUser} (h : DashboardRefreshSerializer.create decode raw db = .ok user)
    (htoken : decode raw = .ok token) :
    (some dashboardRole, some user.id) = (token.role, token.sub) ∧
      LetIn db (some dashboardRole, some user.id) := by
  unfold DashboardRefreshSerializer.create at h
  rw [htoken] at h
  dsimp only at h
  split at h
  · cases h
  · next hrole =>
      rw [not_not] at hrole
      cases hsub : token.sub with
      | none =>
          rw [hsub] at h
          cases h
      | some sub =>
          rw [hsub, Option.bind_some] at h
          cases hfind : db.activeAdmin sub with
          | none =>
              rw [hfind] at h
              cases h
          | some u =>
              rw [hfind] at h
              obtain rfl := Except.ok.inj h
              obtain ⟨hrow, hflags⟩ := Option.filter_eq_some_iff.mp hfind
              obtain ⟨hactive, hstaff⟩ := of_decide_eq_true hflags
              obtain rfl := id_of_activeAdmin hfind
              rw [hrole]
              exact ⟨rfl, letIn_admin hrow hactive hstaff⟩

/-- The header stands for the subject its token names. -/
theorem owner_of_authenticate {decode : String → Option Token} {raw : String}
    (h : RoleJWTAuthentication.authenticate decode ["Bearer", raw] db = .ok (some subject)) :
    ∃ token, decode raw = some token ∧ subject.owner = (token.role, token.sub) := by
  unfold RoleJWTAuthentication.authenticate at h
  dsimp only at h
  split at h
  · contradiction
  split at h
  · cases h
  · next token hdecode =>
      split at h
      · cases h
      · next sub hsub =>
          cases hlookup : lookup db token.role sub with
          | error message =>
              rw [hlookup] at h
              cases h
          | ok s =>
              rw [hlookup] at h
              cases h
              refine ⟨token, hdecode, ?_⟩
              rw [hsub]
              exact owner_of_lookup hlookup

/-- So does a socket. -/
theorem owner_of_getRoleUser {decode : String → Option Token} {raw : String}
    (h : getRoleUser decode raw db = some subject) :
    ∃ token, decode raw = some token ∧ subject.owner = (token.role, token.sub) := by
  unfold getRoleUser at h
  split at h
  · cases h
  · next token hdecode =>
      refine ⟨token, hdecode, ?_⟩
      split at h
      · next hrole =>
          obtain ⟨u, hbind, rfl⟩ := Option.map_eq_some_iff.mp h
          obtain ⟨sub, hsub, hfind⟩ := Option.bind_eq_some_iff.mp hbind
          obtain rfl := id_of_activeAdmin hfind
          rw [hrole, hsub]
          rfl
      split at h
      · next hrole =>
          obtain ⟨m, hbind, rfl⟩ := Option.map_eq_some_iff.mp h
          obtain ⟨sub, hsub, hfind⟩ := Option.bind_eq_some_iff.mp hbind
          obtain rfl := id_of_activeMaster hfind
          rw [hrole, hsub]
          rfl
      split at h
      · next hrole =>
          obtain ⟨c, hbind, rfl⟩ := Option.map_eq_some_iff.mp h
          obtain ⟨sub, hsub, hfind⟩ := Option.bind_eq_some_iff.mp hbind
          obtain rfl := id_of_activeClient hfind
          rw [hrole, hsub]
          rfl
      · cases h

namespace Sessions

variable {L : Libraries} {σ σ' : State}

/-- Who is served shows an access token that names the subject. -/
theorem claims_of_serves {raw : String} (h : σ.Serves L raw subject) :
    ∃ c, L.accessToken σ.now raw = some c ∧ subject.owner = c.owner := by
  have hdecoded : ∃ token, σ.decodeAccess L raw = some token ∧
      subject.owner = (token.role, token.sub) :=
    h.elim owner_of_authenticate owner_of_getRoleUser
  obtain ⟨token, htoken, howner⟩ := hdecoded
  obtain ⟨c, hc, rfl⟩ := Option.map_eq_some_iff.mp htoken
  exact ⟨c, hc, howner⟩

/-! ### One event -/

/-- The ledger of the grants is in order. -/
abbrev Sound (L : Libraries) (grants : List (Grant Claims Login Int)) : Prop :=
  Grant.Sound Claims.owner Claims.exp lifetime (Login.Proves L) grants

/-- What a grant says of the state it was made in. A subject that was not let in has only
got its tokens by a code. -/
structure Granted (L : Libraries) (σ : State) (g : Grant Claims Login Int) : Prop where
  instant : g.instant = σ.now
  made_ne_nil : g.made ≠ []
  fits : Grant.Fits Claims.owner Claims.exp lifetime (Login.Proves L) σ.grants g
  letIn : ∀ c ∈ g.made, LetIn σ.accounts c.owner ∨
    (∃ login, g.source = .inr login) ∧ c.role = some "client"

section Granted

variable {jtis : Uuid × Uuid} {sub : Uuid} {role : String}

/-- The new tokens of a login. -/
theorem granted_login {login : Login} (hproves : login.Proves L (some role, some sub))
    (hletIn : LetIn σ.accounts (some role, some sub) ∨ role = "client") :
    Granted L σ ⟨σ.now, .inr login,
      (issueTokens σ.now jtis sub role accessTokenDays refreshTokenDays).made⟩ where
  instant := rfl
  made_ne_nil := List.cons_ne_nil _ _
  fits :=
    { renewal := fun p hp => by cases hp
      evidence := fun e he c hc => by
        obtain rfl := Sum.inr.inj he
        rw [(made_issueTokens c hc).1]
        exact hproves
      lifetime := fun c hc => (made_issueTokens c hc).2 }
  letIn := by
    intro c hc
    have howner := (made_issueTokens c hc).1
    rcases hletIn with hletIn | rfl
    · exact Or.inl (howner ▸ hletIn)
    · exact Or.inr ⟨⟨login, rfl⟩, (Prod.mk.inj howner).1⟩

/-- The new tokens of a refresh. -/
theorem granted_refresh {raw : String} {old : Claims} (hraw : σ.Unforged L raw)
    (hold : L.refreshToken σ.now σ.blacklist raw = .ok old)
    (howner : (some role, some sub) = old.owner)
    (hletIn : LetIn σ.accounts (some role, some sub)) :
    Granted L σ ⟨σ.now, .inl old,
      (issueTokens σ.now jtis sub role accessTokenDays refreshTokenDays).made⟩ where
  instant := rfl
  made_ne_nil := List.cons_ne_nil _ _
  fits :=
    { renewal := fun p hp => by
        obtain rfl := Sum.inl.inj hp
        exact ⟨hraw old (Or.inr hold), (L.refresh hold).2.1,
          fun c hc => (made_issueTokens c hc).1.trans howner⟩
      evidence := fun e he => by cases he
      lifetime := fun c hc => (made_issueTokens c hc).2 }
  letIn := fun c hc => Or.inl ((made_issueTokens c hc).1 ▸ hletIn)

end Granted

/-- What an event does to the clock and to the grants. -/
theorem step_cases {event : Event} (h : (sessions L).step σ event σ') :
    σ.now ≤ σ'.now ∧
      (σ'.grants = σ.grants ∨ ∃ g, Granted L σ g ∧ σ'.grants = g :: σ.grants) := by
  obtain ⟨hraw, rfl⟩ := h
  cases event with
  | tick now => exact ⟨le_max_left _ _, Or.inl rfl⟩
  | write accounts => exact ⟨le_rfl, Or.inl rfl⟩
  | sendOtp ctx phone => exact ⟨le_rfl, Or.inl rfl⟩
  | verifyOtp ctx phone otpCode jtis =>
      unfold State.handle
      dsimp only
      split
      · next client hclient =>
          refine ⟨le_rfl, Or.inr ⟨_, ?_, rfl⟩⟩
          rw [issueRoleTokens_eq]
          exact granted_login ⟨client, hclient, rfl⟩ (Or.inr rfl)
      · exact ⟨le_rfl, Or.inl rfl⟩
  | masterLogin phone password jtis =>
      unfold State.handle
      dsimp only
      split
      · next master hmaster =>
          refine ⟨le_rfl, Or.inr ⟨_, ?_, rfl⟩⟩
          rw [issueRoleTokens_eq]
          exact granted_login ⟨master, hmaster, rfl⟩ (Or.inl (letIn_of_login hmaster))
      · exact ⟨le_rfl, Or.inl rfl⟩
  | dashboardLogin username password jtis =>
      unfold State.handle
      dsimp only
      split
      · next user huser =>
          refine ⟨le_rfl, Or.inr ⟨_, ?_, rfl⟩⟩
          exact granted_login ⟨user, huser, rfl⟩ (Or.inl (letIn_of_dashboardLogin huser))
      · exact ⟨le_rfl, Or.inl rfl⟩
  | refresh raw jtis =>
      unfold State.handle
      dsimp only
      split
      · next old subject hold hsubject =>
          have htoken : σ.decodeRefresh L raw = .ok old.toToken := by
            rw [State.decodeRefresh, hold]
            rfl
          obtain ⟨howner, hletIn⟩ := refresh_cases hsubject htoken
          refine ⟨le_rfl, Or.inr ⟨_, ?_, rfl⟩⟩
          rw [issueRoleTokens_eq]
          exact granted_refresh hraw hold howner hletIn
      · exact ⟨le_rfl, Or.inl rfl⟩
  | dashboardRefresh raw jtis =>
      unfold State.handle
      dsimp only
      split
      · next old user hold huser =>
          have htoken : σ.decodeRefresh L raw = .ok old.toToken := by
            rw [State.decodeRefresh, hold]
            rfl
          obtain ⟨howner, hletIn⟩ := dashboardRefresh_cases huser htoken
          exact ⟨le_rfl, Or.inr ⟨_, granted_refresh hraw hold howner hletIn, rfl⟩⟩
      · exact ⟨le_rfl, Or.inl rfl⟩
  | dashboardLogout parts raw =>
      unfold State.handle
      dsimp only
      split
      · exact ⟨le_rfl, Or.inl rfl⟩
      · exact ⟨le_rfl, Or.inl rfl⟩

/-! ### Runs -/

/-- The ledger is in order, and nothing was granted in the future. -/
theorem sound_of_reachable (h : (sessions L).Reachable σ) :
    Sound L σ.grants ∧ ∀ g ∈ σ.grants, g.instant ≤ σ.now := by
  refine h.invariant (I := fun σ => Sound L σ.grants ∧ ∀ g ∈ σ.grants, g.instant ≤ σ.now)
    (fun σ hinit => ?_) fun σ event σ' _ ⟨hsound, hpast⟩ hstep => ?_
  · rw [show σ.grants = [] from hinit]
    exact ⟨.nil, fun g hg => by cases hg⟩
  · obtain ⟨hclock, hgrants | ⟨g, hg, hgrants⟩⟩ := step_cases hstep
    · rw [hgrants]
      exact ⟨hsound, fun g hg => (hpast g hg).trans hclock⟩
    · rw [hgrants]
      refine ⟨.cons hsound hg.fits, fun g' hg' => ?_⟩
      rcases List.mem_cons.mp hg' with rfl | hg'
      · exact hg.instant.le.trans hclock
      · exact (hpast g' hg').trans hclock

/-- In every order of the events, whoever a token stands for, at the API or on a socket, has
proved to be that subject: the token descends by renewals from a login whose check passed for
the subject it stands for. -/
theorem sessions_descend_from_logins (h : (sessions L).Reachable σ) {raw : String}
    (hraw : σ.Unforged L raw) (hserved : σ.Serves L raw subject) :
    ∃ c root login, L.accessToken σ.now raw = some c ∧
      Grant.Descends σ.grants c root login ∧ login.Proves L subject.owner := by
  obtain ⟨c, hc, howner⟩ := claims_of_serves hserved
  obtain ⟨root, login, hdescends, hproves⟩ :=
    (sound_of_reachable h).1.descends (hraw c (Or.inl hc))
  exact ⟨c, root, login, hc, hdescends, howner ▸ hproves⟩

namespace Sample

/-- The tokens of a master: from a login at the start, from a renewal a day later, and from a
login after fifteen days. -/
def tokens : RoleTokens := issueRoleTokens 0 (1, 2) 7 "master"

def renewedTokens : RoleTokens := issueRoleTokens (days 1) (5, 6) 7 "master"

def laterTokens : RoleTokens := issueRoleTokens lifetime (3, 4) 7 "master"

/-- The claims of an access token that the library knows. -/
def accessClaims (raw : String) : Option Claims :=
  if raw = "access" then some tokens.accessToken
  else if raw = "renewed" then some renewedTokens.accessToken
  else if raw = "later" then some laterTokens.accessToken
  else none

/-- A library that knows these access tokens and the first refresh token. -/
def libraries : Libraries where
  accessToken now raw := (accessClaims raw).filter fun c => now < c.exp
  refreshToken now blacklist raw :=
    if raw = "renew" ∧ now < tokens.refreshToken.exp ∧ tokens.refreshToken.jti ∉ blacklist then
      .ok tokens.refreshToken
    else .error "Token is invalid"
  authenticate _ _ _ := none
  checkPassword raw password := raw = password
  access := by
    intro now raw c h
    obtain ⟨hclaims, hvalid⟩ := Option.filter_eq_some_iff.mp h
    refine ⟨?_, of_decide_eq_true hvalid⟩
    unfold accessClaims at hclaims
    split_ifs at hclaims
    all_goals
      obtain rfl := Option.some.inj hclaims
      rfl
  refresh := by
    intro now blacklist raw c h
    split at h
    · next hvalid =>
        obtain rfl := Except.ok.inj h
        exact ⟨rfl, hvalid.2⟩
    · cases h
  row h := by cases h

def master : Master := { id := 7, phone := "+998", firstName := "Ali", password := "secret" }

def accounts (isActive : Bool) : AccountTables where
  masters := ⟨[{ master with isActive }], by simp⟩

def start : State := { accounts := accounts true }

def login : Event := .masterLogin "+998" "secret" (1, 2)

/-- A day after the login the master renews the tokens. -/
def loggedIn : State := (start.handle libraries login).handle libraries (.tick (days 1))

def renewal : Event := .refresh "renew" (5, 6)

def renewed : State := loggedIn.handle libraries renewal

theorem reachable_start : (sessions libraries).Reachable start := .init rfl

theorem reachable_loggedIn : (sessions libraries).Reachable loggedIn :=
  .step (l := .tick (days 1)) (.step (l := login) reachable_start ⟨trivial, rfl⟩) ⟨trivial, rfl⟩

theorem unforged_renew : loggedIn.Unforged libraries "renew" := by
  have hmade : tokens.refreshToken ∈ tokens.made := by decide
  rintro c (hc | hc)
  · cases hc
  · obtain rfl := Except.ok.inj hc
    exact ⟨_, List.mem_cons_self, hmade⟩

theorem unforged_renewed : renewed.Unforged libraries "renewed" := by
  have hmade : renewedTokens.accessToken ∈ renewedTokens.made := by decide
  rintro c (hc | hc)
  · obtain rfl := Option.some.inj hc
    exact ⟨_, List.mem_cons_self, hmade⟩
  · cases hc

end Sample

theorem sessions_descend_from_logins_sample :
    Sample.renewed.grants.length = 2 ∧
      ∃ c root login, Sample.libraries.accessToken (days 1) "renewed" = some c ∧
        Grant.Descends Sample.renewed.grants c root login ∧
          login.Proves Sample.libraries (some "master", some 7) := by
  have hreach : (sessions Sample.libraries).Reachable Sample.renewed :=
    .step (l := Sample.renewal) Sample.reachable_loggedIn ⟨Sample.unforged_renew, rfl⟩
  have hserved : Sample.renewed.Serves Sample.libraries "renewed" (.master Sample.master) :=
    Or.inl (by decide)
  exact ⟨by decide, sessions_descend_from_logins hreach Sample.unforged_renewed hserved⟩

/-- What a run has granted, each grant with `P`, and that the clock goes on. -/
theorem grants_of_leads {guard : State → Event → Prop} {P : Grant Claims Login Int → Prop}
    (hstep : ∀ τ event g, guard τ event → Granted L τ g → P g)
    (h : ((sessions L).restrict guard).Leads σ σ') :
    σ.now ≤ σ'.now ∧ ∃ new, σ'.grants = new ++ σ.grants ∧
      ∀ g ∈ new, σ.now ≤ g.instant ∧ P g := by
  induction h with
  | refl => exact ⟨le_rfl, [], rfl, fun g hg => by cases hg⟩
  | @step τ τ' event _ hlast ih =>
      obtain ⟨hclock, new, hnew, hall⟩ := ih
      obtain ⟨hguard, hlast⟩ := hlast
      obtain ⟨hclock', hgrants | ⟨g, hg, hgrants⟩⟩ := step_cases hlast
      · exact ⟨hclock.trans hclock', new, hgrants.trans hnew, hall⟩
      · refine ⟨hclock.trans hclock', g :: new, by rw [hgrants, hnew, List.cons_append], ?_⟩
        intro g' hg'
        rcases List.mem_cons.mp hg' with rfl | hg'
        · exact ⟨hclock.trans hg.instant.ge, hstep τ event g' hguard hg⟩
        · exact hall g' hg'

/-- A subject that is not let in renews nothing, and has no new tokens unless it is a client
who shows a code. -/
theorem shut_of_granted {owner : Option String × Option Uuid} {g : Grant Claims Login Int}
    (hshut : ¬LetIn σ.accounts owner) (hg : Granted L σ g) :
    (∀ old, g.source = .inl old → old.owner ≠ owner) ∧
      ∀ c ∈ g.made, c.owner = owner → owner.1 = some "client" := by
  constructor
  · intro old hold heq
    obtain ⟨-, -, howner⟩ := hg.fits.renewal old hold
    cases hmade : g.made with
    | nil => exact hg.made_ne_nil hmade
    | cons c rest =>
        have hc : c ∈ g.made := hmade ▸ List.mem_cons_self
        rcases hg.letIn c hc with hletIn | ⟨⟨login, hlogin⟩, -⟩
        · exact hshut (heq ▸ howner c hc ▸ hletIn)
        · rw [hold] at hlogin
          cases hlogin
  · rintro c hc rfl
    rcases hg.letIn c hc with hletIn | ⟨-, hrole⟩
    · exact absurd hletIn hshut
    · exact hrole

/-- A subject that was not let in for as long as a refresh token lives has lost its sessions.
In every later state, whoever a token stands for descends from a login made since the
subject was shut out, and, unless the subject is a client, since it is let in again. -/
theorem suspension_ends_sessions {σ₁ σ₂ σ₃ : State} (h : (sessions L).Reachable σ₁)
    (hsuspended : ((sessions L).restrict fun τ _ => ¬LetIn τ.accounts subject.owner).Leads σ₁ σ₂)
    (hlong : σ₁.now + lifetime ≤ σ₂.now) (hlater : (sessions L).Leads σ₂ σ₃) {raw : String}
    (hraw : σ₃.Unforged L raw) (hserved : σ₃.Serves L raw subject) :
    ∃ c root login, L.accessToken σ₃.now raw = some c ∧
      Grant.Descends σ₃.grants c root login ∧ login.Proves L subject.owner ∧
        σ₁.now ≤ root.instant ∧ (subject.role ≠ "client" → σ₂.now ≤ root.instant) := by
  have hreach : (sessions L).Reachable σ₃ := (h.leads hsuspended.of_restrict).leads hlater
  obtain ⟨c, root, login, hc, hdescends, hproves⟩ :=
    sessions_descend_from_logins hreach hraw hserved
  obtain ⟨c', hc', howner⟩ := claims_of_serves hserved
  obtain rfl := Option.some.inj (hc.symm.trans hc')
  obtain ⟨hclock, middle, hmiddle, hshut⟩ := grants_of_leads (P := fun g =>
      (∀ old, g.source = .inl old → old.owner ≠ subject.owner) ∧
        ∀ c ∈ g.made, c.owner = subject.owner → subject.owner.1 = some "client")
    (fun τ event g hguard hg => shut_of_granted hguard hg) hsuspended
  obtain ⟨hclock', recent, hrecent, hlate⟩ := grants_of_leads (P := fun _ => True)
    (fun τ event g _ _ => trivial) hlater.restrict_true
  rw [hmiddle, ← List.append_assoc] at hrecent
  have hsound : Sound L (recent ++ middle ++ σ₁.grants) := hrecent ▸ (sound_of_reachable hreach).1
  have hdescends' := hdescends
  rw [hrecent] at hdescends'
  have hmem : root ∈ recent ++ middle :=
    hdescends'.after_gap hsound (sound_of_reachable h).2 hlong (fun g hg => (hlate g hg).1)
      (fun g hg old hold => howner ▸ (hshut g hg).2.1 old hold) hclock' (L.access hc).2
  refine ⟨c, root, login, hc, hdescends, hproves, ?_, fun hrole => ?_⟩
  · rcases List.mem_append.mp hmem with hroot | hroot
    · exact hclock.trans (hlate root hroot).1
    · exact (hshut root hroot).1
  · rcases List.mem_append.mp hmem with hroot | hroot
    · exact (hlate root hroot).1
    · obtain ⟨c₀, hc₀, hsame⟩ := hdescends'.owner_eq hsound
      have hclient := (hshut root hroot).2.2 c₀ hc₀ (hsame.trans howner.symm)
      exact absurd (Option.some.inj hclient) hrole

namespace Sample

/-- The master is shut out for fifteen days, is let in again and logs in again. -/
def shut : State := (start.handle libraries login).handle libraries (.write (accounts false))

def reopened : State :=
  (shut.handle libraries (.tick lifetime)).handle libraries (.write (accounts true))

def again : State := reopened.handle libraries (.masterLogin "+998" "secret" (3, 4))

theorem not_letIn : ¬LetIn (accounts false) (some "master", some 7) := by
  rintro ⟨sub, subject, hsub, hlookup⟩
  obtain rfl := Option.some.inj hsub
  cases hlookup

end Sample

theorem suspension_ends_sessions_sample :
    ∃ c root login, Sample.libraries.accessToken Sample.again.now "later" = some c ∧
      Grant.Descends Sample.again.grants c root login ∧
        login.Proves Sample.libraries (some "master", some 7) ∧
          Sample.shut.now ≤ root.instant ∧
            ("master" ≠ "client" → Sample.reopened.now ≤ root.instant) := by
  have hreach : (sessions Sample.libraries).Reachable Sample.shut :=
    .step (l := .write (Sample.accounts false))
      (.step (l := Sample.login) Sample.reachable_start ⟨trivial, rfl⟩) ⟨trivial, rfl⟩
  have hsuspended : ((sessions Sample.libraries).restrict fun τ _ =>
      ¬LetIn τ.accounts (Subject.master Sample.master).owner).Leads Sample.shut Sample.reopened :=
    .step (l := .write (Sample.accounts true))
      (.step (l := .tick lifetime) .refl ⟨Sample.not_letIn, trivial, rfl⟩)
      ⟨Sample.not_letIn, trivial, rfl⟩
  have hlater : (sessions Sample.libraries).Leads Sample.reopened Sample.again :=
    .step (l := .masterLogin "+998" "secret" (3, 4)) .refl ⟨trivial, rfl⟩
  have hunforged : Sample.again.Unforged Sample.libraries "later" := by
    rintro c (hc | hc)
    · have hmade : Sample.laterTokens.accessToken ∈ Sample.laterTokens.made := by decide
      obtain rfl := Option.some.inj hc
      exact ⟨_, List.mem_cons_self, hmade⟩
    · cases hc
  have hserved : Sample.again.Serves Sample.libraries "later" (.master Sample.master) :=
    Or.inl (by decide)
  exact suspension_ends_sessions hreach hsuspended (by decide) hlater hunforged hserved

end Sessions

end Accounts

end Homex
