import Homex.Accounts.Authentication
import Homex.Accounts.Masters

/-!
# A blocked master has no access

`block` records the block in `is_blocked` and enforces it through `is_active`,
the flag the logins read. Other writers set `is_active` without a look at
`is_blocked`: the status endpoint of the dashboard, the generic create and updates
and the approval action. `keepsOut` is the condition that none of them opens a
blocked master; under it every blocked master is inactive, and is refused everywhere.
-/

namespace Homex

namespace Accounts

open Relational Action

/-- A master who is blocked is not active. -/
def Master.KeptOut (master : Master) : Prop := master.isBlocked = true → master.isActive = false

/-- Every blocked master is kept out. -/
def KeepsOut (db : AccountTables) : Prop := ∀ m ∈ db.masters.rows, m.KeptOut

/-- The master is let in neither by a token, nor by a password, nor by a refresh token. -/
structure Refused (db : AccountTables) (master : Master) : Prop where
  inactive : master.isActive = false
  authenticate : ∀ decode parts,
    RoleJWTAuthentication.authenticate decode parts db ≠ .ok (some (.master master))
  login : ∀ checkPassword phone password,
    MasterLoginSerializer.validate checkPassword phone password db ≠ .ok master
  refresh : ∀ decode raw, RefreshSerializer.create decode raw db ≠ .ok (.master master)

section Authentication

variable {db : AccountTables} {master : Master}

theorem isActive_of_activeMaster {sub : Uuid} (h : db.activeMaster sub = some master) :
    master.isActive = true := by
  obtain ⟨-, hactive⟩ := Option.filter_eq_some_iff.mp h
  exact (of_decide_eq_true hactive).1

/-- A lookup that ends with a master has found that master. -/
theorem eq_of_elim_master {ε : Type} {e : ε} {found : Option Master}
    (h : (found.map Subject.master).elim (.error e) Except.ok = .ok (.master master)) :
    found = some master := by
  cases found with
  | none => cases h
  | some m =>
      cases h
      rfl

/-- A lookup among the other subjects does not end with a master. -/
theorem not_master_of_elim {ε α : Type} {e : ε} {found : Option α} {subject : α → Subject}
    (hne : ∀ a, subject a ≠ .master master) :
    (found.map subject).elim (.error e) Except.ok ≠ .ok (.master master) := by
  cases found with
  | none => simp
  | some a => simpa using hne a

theorem isActive_of_lookup {role : Option String} {sub : Uuid}
    (h : lookup db role sub = .ok (.master master)) : master.isActive = true := by
  unfold lookup at h
  split at h
  · exact absurd h (not_master_of_elim (by simp))
  split at h
  · exact isActive_of_activeMaster (eq_of_elim_master h)
  split at h
  · exact absurd h (not_master_of_elim (by simp))
  · cases h

theorem isActive_of_authenticate {decode : String → Option Token} {parts : List String}
    (h : RoleJWTAuthentication.authenticate decode parts db = .ok (some (.master master))) :
    master.isActive = true := by
  unfold RoleJWTAuthentication.authenticate at h
  split at h
  · split at h
    · cases h
    split at h
    · cases h
    split at h
    · cases h
    · next sub _ =>
      cases hl : lookup db _ sub with
      | error message =>
          rw [hl] at h
          cases h
      | ok subject =>
          rw [hl] at h
          cases h
          exact isActive_of_lookup hl
  · cases h

theorem isActive_of_login {checkPassword : String → String → Bool} {phone password : String}
    (h : MasterLoginSerializer.validate checkPassword phone password db = .ok master) :
    master.isActive = true := by
  unfold MasterLoginSerializer.validate at h
  split at h
  · cases h
  · simp only [ite_eq_iff, reduceCtorEq, and_false, false_or, Except.ok.injEq] at h
    obtain ⟨-, -, hactive, -, -, rfl⟩ := h
    simpa using hactive

theorem isActive_of_refresh {decode : String → Except String Token} {raw : String}
    (h : RefreshSerializer.create decode raw db = .ok (.master master)) :
    master.isActive = true := by
  unfold RefreshSerializer.create at h
  split at h
  · cases h
  split at h
  · cases h
  split at h
  · exact isActive_of_activeMaster (eq_of_elim_master h)
  split at h
  · exact absurd h (not_master_of_elim (by simp))
  · cases h

/-- Every way in asks for the active flag. -/
theorem refused_of_inactive (h : master.isActive = false) : Refused db master where
  inactive := h
  authenticate _ _ hin := by simp [isActive_of_authenticate hin] at h
  login _ _ _ hin := by simp [isActive_of_login hin] at h
  refresh _ _ hin := by simp [isActive_of_refresh hin] at h

end Authentication

/-- The update makes the master active. -/
def MasterPayload.Opens (data : MasterPayload) : Prop :=
  data.isActive = some true ∨ data.isActive = none ∧ data.approvalStatus = some .approved

/-- The update makes the master inactive. -/
def MasterPayload.Closes (data : MasterPayload) : Prop :=
  data.isActive = some false ∨ data.isActive = none ∧ data.approvalStatus = some .rejected

/-- What a request has to leave alone on a master: it does not open one that is blocked,
and a generic update that sets the blocked flag closes the master too. -/
def MasterRequest.Respects (master : Master) : MasterRequest → Prop
  | .dashboardStatus pk status =>
      master.id = pk → master.isBlocked = true → status = .blocked
  | .dashboardUpdate pk data =>
      master.id = pk → data.isBlocked.getD master.isBlocked = true →
        ¬data.Opens ∧ (master.isActive = true → data.Closes)
  | .internalUpdate pk data =>
      master.id = pk → master.isBlocked = true → data.isActive = some true →
        data.status ≠ none
  | .adminApprove pks => master.id ∈ pks → master.isBlocked = false
  | _ => True

/-- A master that the dashboard creates blocked is created inactive. -/
def MasterRequest.CreatesKeptOut : MasterRequest → Prop
  | .dashboardCreate data => data.isBlocked = some true → data.isActive = some false
  | _ => True

/-- The request opens no blocked master, and creates none who is active. -/
def keepsOut (db : AccountTables) (l : AccountContext × MasterRequest) : Prop :=
  (∀ m ∈ db.masters.rows, l.2.Respects m) ∧ l.2.CreatesKeptOut

/-- The requests, from any masters none of whom is blocked and active. -/
def masterAccounts : Transition.System AccountTables (AccountContext × MasterRequest) where
  init := KeepsOut
  step db l db' := db' = (l.2.view l.1 db).2

section Steps

variable {ctx : AccountContext} {db db' : AccountTables} {master : Master} {pk : Uuid}
  {r : Except Error Unit}

theorem keptOut_of_inactive (h : master.isActive = false) : master.KeptOut := fun _ => h

theorem keptOut_of_unblocked (h : master.isBlocked = false) : master.KeptOut := by
  intro hblocked
  rw [h] at hblocked
  cases hblocked

@[simp] theorem keptOut_hashed : (master.hashed ctx).KeptOut ↔ master.KeptOut := by
  simp [Master.KeptOut]

theorem keptOut_applyMasterStatus (now : Int) (master : Master) (status : MasterStatus) :
    (applyMasterStatus now master status).KeptOut := by
  cases status with
  | blocked => exact keptOut_of_inactive rfl
  | busy => exact keptOut_of_unblocked rfl
  | active => exact keptOut_of_unblocked rfl
  | inactive => exact keptOut_of_unblocked rfl

theorem KeepsOut.saved (h : KeepsOut db) (hnew : master.KeptOut)
    (hrun : saveFields master db = (r, db')) : KeepsOut db' := by
  cases hrun
  exact Table.forall_save h hnew

theorem KeepsOut.created (h : KeepsOut db) (hnew : master.KeptOut)
    (hrun : createMaster ctx master db = (r, db')) : KeepsOut db' := by
  cases r with
  | error e => exact clean_write (R := Eq) _ _ _ hrun ▸ h
  | ok u =>
      simp only [createMaster, write_eq_ok] at hrun
      obtain ⟨t, hins, rfl⟩ := Option.map_eq_some_iff.mp hrun
      exact Table.forall_insert? h hins (keptOut_hashed.mpr hnew)

/-- A run that begins with a reader: it stops there, or the rest has to be looked at. -/
theorem KeepsOut.reads {α : Type} {x : AccountCode α} {f : α → AccountCode Unit}
    (h : KeepsOut db) (hx : Within Eq x) (hrun : (x >>= f) db = (r, db'))
    (hf : ∀ a, x db = (.ok a, db) → f a db = (r, db') → KeepsOut db') : KeepsOut db' := by
  rcases bind_of_reads hx hrun with rfl | ⟨a, ha, hfa⟩
  · exact h
  · exact hf a ha hfa

theorem within_getMaster : Within Eq (getMaster pk) := within_fetch

theorem getMaster_eq_ok (h : getMaster pk db = (.ok master, db)) :
    db.masters.find? pk = some master :=
  (fetch_eq_ok.mp h).1

theorem within_uniquePhone (self : Option Uuid) (phone : String) :
    Within Eq (uniquePhone self phone) :=
  within_get.bind fun _ => within_require

theorem within_checkPhone (pk : Uuid) (phone : Option String) :
    Within Eq (checkPhone pk phone) := by
  cases phone with
  | none => exact within_pure
  | some phone => exact within_uniquePhone _ _

/-- One master, read and saved again. -/
theorem KeepsOut.edited {f : Master → Master} (h : KeepsOut db)
    (hf : ∀ m, db.masters.find? pk = some m → (f m).KeptOut)
    (hrun : (getMaster pk >>= fun m => saveFields (f m)) db = (r, db')) : KeepsOut db' :=
  h.reads within_getMaster hrun fun m hm hsave => h.saved (hf m (getMaster_eq_ok hm)) hsave

/-- The same, with a check of the phone in between. -/
theorem KeepsOut.checkedAndEdited {f : Master → Master} {phone : Option String}
    (h : KeepsOut db) (hf : ∀ m, db.masters.find? pk = some m → (f m).KeptOut)
    (hrun : (getMaster pk >>= fun m => checkPhone pk phone >>= fun _ => saveFields (f m)) db =
      (r, db')) : KeepsOut db' :=
  h.reads within_getMaster hrun fun m hm hrest =>
    h.reads (within_checkPhone pk phone) hrest fun _ _ hsave =>
      h.saved (hf m (getMaster_eq_ok hm)) hsave

/-- A new master, after the checks of the required fields. -/
theorem KeepsOut.checkedAndCreated {phone? firstName? : Option String} {e e' : Error}
    {f : String → String → Master} (h : KeepsOut db)
    (hf : ∀ phone firstName, (f phone firstName).KeptOut)
    (hrun : (fetch (fun _ => phone?) e >>= fun phone => uniquePhone none phone >>= fun _ =>
      fetch (fun _ => firstName?) e' >>= fun firstName =>
        createMaster ctx (f phone firstName)) db = (r, db')) : KeepsOut db' :=
  h.reads within_fetch hrun fun phone _ hrest =>
    h.reads (within_uniquePhone _ _) hrest fun _ _ hrest =>
      h.reads within_fetch hrest fun firstName _ hcreate => h.created (hf phone firstName) hcreate

theorem KeepsOut.selected {set : Master → Master} (pks : List Uuid) (h : KeepsOut db)
    (hset : ∀ m, (set m).KeptOut) (hrun : onSelected pks set db = (r, db')) : KeepsOut db' := by
  cases hrun
  exact Table.forall_updates h pks fun m _ _ => hset m

theorem isBlocked_withPassword (password : Option String) :
    (withPassword ctx password master).isBlocked = master.isBlocked := by
  unfold withPassword
  split
  · rfl
  · split <;> rfl

theorem isActive_withPassword (password : Option String) :
    (withPassword ctx password master).isActive = master.isActive := by
  unfold withPassword
  split
  · rfl
  · split <;> rfl

theorem isBlocked_approve (now : Int) (status : Option MasterApprovalStatus) :
    (approve now status master).isBlocked = master.isBlocked := by
  unfold approve
  split <;> rfl

theorem isBlocked_update (data : MasterPayload) :
    (data.update ctx master).isBlocked = data.isBlocked.getD master.isBlocked := by
  change data.isBlocked.getD (withPassword ctx _ (approve ctx.now _ master)).isBlocked = _
  rw [isBlocked_withPassword, isBlocked_approve]

theorem isActive_update (data : MasterPayload) :
    (data.update ctx master).isActive =
      data.isActive.getD (approve ctx.now data.approvalStatus master).isActive := by
  change data.isActive.getD (withPassword ctx _ (approve ctx.now _ master)).isActive = _
  rw [isActive_withPassword]

/-- The generic update of the dashboard leaves a blocked master inactive when it
respects the block. -/
theorem keptOut_update {data : MasterPayload}
    (hr : (MasterRequest.dashboardUpdate master.id data).Respects master) :
    (data.update ctx master).KeptOut := by
  intro hblocked
  rw [isBlocked_update] at hblocked
  obtain ⟨hopens, hcloses⟩ := hr rfl hblocked
  rw [isActive_update]
  unfold MasterPayload.Opens at hopens
  unfold MasterPayload.Closes at hcloses
  cases hactive : data.isActive with
  | some active => cases active <;> simp_all
  | none =>
      cases hstatus : data.approvalStatus with
      | none => simpa [approve, hactive, hstatus] using hcloses
      | some status =>
          cases status with
          | pending => simpa [approve, hactive, hstatus] using hcloses
          | approved => simp [hactive, hstatus] at hopens
          | rejected => rfl

/-- The generic update of the internal API: a status decides, else the fields do. -/
theorem keptOut_write {data : InternalPayload} (h : master.KeptOut)
    (hr : (MasterRequest.internalUpdate master.id data).Respects master) :
    (data.write ctx master).KeptOut := by
  unfold InternalPayload.write
  cases hstatus : data.status with
  | some status => exact keptOut_applyMasterStatus _ _ _
  | none =>
      intro hblocked
      change (withPassword ctx data.password (data.apply master)).isBlocked = true at hblocked
      change (withPassword ctx data.password (data.apply master)).isActive = false
      rw [isBlocked_withPassword] at hblocked
      rw [isActive_withPassword]
      change data.isActive.getD master.isActive = false
      cases hactive : data.isActive with
      | none => exact h hblocked
      | some active =>
          cases active with
          | false => rfl
          | true => exact absurd hstatus (hr rfl hblocked hactive)

/-- A new row of the dashboard has the flags of the payload, or the defaults. -/
theorem keptOut_apply {data : MasterPayload} (h : master.isBlocked = false)
    (hr : (MasterRequest.dashboardCreate data).CreatesKeptOut) : (data.apply master).KeptOut := by
  intro hblocked
  change data.isBlocked.getD master.isBlocked = true at hblocked
  change data.isActive.getD master.isActive = false
  cases hflag : data.isBlocked with
  | none =>
      rw [hflag, Option.getD_none, h] at hblocked
      cases hblocked
  | some isBlocked =>
      rw [hflag, Option.getD_some] at hblocked
      rw [hr (hflag.trans (congrArg some hblocked)), Option.getD_some]

/-- A new row of the internal API is not blocked, or its status has closed it. -/
theorem keptOut_new {data : InternalPayload} (h : master.isBlocked = false) :
    (data.write ctx master).KeptOut := by
  unfold InternalPayload.write
  cases data.status with
  | some status => exact keptOut_applyMasterStatus _ _ _
  | none =>
      apply keptOut_of_unblocked
      change (withPassword ctx data.password (data.apply master)).isBlocked = false
      rw [isBlocked_withPassword]
      exact h

/-- The status endpoint of the dashboard respects a block only with `blocked`. -/
theorem keptOut_status {status : MasterStatus}
    (hr : (MasterRequest.dashboardStatus master.id status).Respects master) :
    (status.set master).KeptOut := by
  intro hblocked
  have hrow : master.isBlocked = true := by
    cases status <;> exact hblocked
  rw [hr rfl hrow]
  rfl

theorem KeepsOut.registered {data : RegisterPayload} (h : KeepsOut db)
    (hrun : MasterRegisterView.post ctx data db = (r, db')) : KeepsOut db' := by
  have hcheck : Within Eq (MasterRegisterSerializer.validatePhone data.phone) :=
    (within_uniquePhone _ _).bind fun _ => within_get.bind fun _ => within_require
  refine h.reads hcheck hrun fun _ _ hcreate => ?_
  refine h.reads within_get hcreate fun db₁ _ hwrite => ?_
  cases hfind : db₁.masters.rows.find? fun m => m.phone = data.phone with
  | some master =>
      simp only [hfind] at hwrite
      exact h.saved (keptOut_of_inactive rfl) hwrite
  | none =>
      simp only [hfind] at hwrite
      exact h.created (keptOut_of_inactive rfl) hwrite

/-- A request that respects every block keeps every blocked master out. -/
theorem KeepsOut.step {l : AccountContext × MasterRequest} (h : KeepsOut db)
    (hguard : keepsOut db l) (hrun : l.2.view l.1 db = (r, db')) : KeepsOut db' := by
  obtain ⟨ctx, request⟩ := l
  have hrespects : ∀ {pk m}, db.masters.find? pk = some m → request.Respects m ∧ m.KeptOut := by
    intro pk m hm
    exact ⟨hguard.1 m (Table.mem_of_find? hm), h m (Table.mem_of_find? hm)⟩
  cases request with
  | dashboardBlock pk isBlocked reason =>
      refine h.edited (fun m _ => ?_) hrun
      rw [keptOut_hashed]
      cases isBlocked with
      | true => exact keptOut_of_inactive rfl
      | false => exact keptOut_of_unblocked rfl
  | dashboardStatus pk status =>
      refine h.edited (fun m hm => ?_) hrun
      obtain rfl := Table.key_of_find? hm
      exact keptOut_status (hrespects hm).1
  | dashboardCreate data =>
      exact h.checkedAndCreated (fun _ _ => keptOut_apply rfl hguard.2) hrun
  | dashboardUpdate pk data =>
      refine h.checkedAndEdited (fun m hm => ?_) hrun
      obtain rfl := Table.key_of_find? hm
      exact keptOut_hashed.mpr (keptOut_update (hrespects hm).1)
  | internalStatus pk status =>
      refine h.edited (fun m _ => ?_) hrun
      exact keptOut_hashed.mpr (keptOut_applyMasterStatus _ _ _)
  | internalCreate data =>
      exact h.checkedAndCreated (fun _ _ => keptOut_new rfl) hrun
  | internalUpdate pk data =>
      refine h.checkedAndEdited (fun m hm => ?_) hrun
      obtain rfl := Table.key_of_find? hm
      exact keptOut_hashed.mpr (keptOut_write (hrespects hm).2 (hrespects hm).1)
  | adminApprove pks =>
      cases hrun
      -- the selected masters are not blocked before the action, nor after it
      have hrows : ∀ m ∈ db.masters.rows, m.KeptOut ∧ (m.id ∈ pks → m.isBlocked = false) :=
        fun m hm => ⟨h m hm, hguard.1 m hm⟩
      have hafter := @Table.forall_updates _ _ _ _ _ _ hrows pks (fun master =>
        { master with
            approvalStatus := .approved
            isActive := true
            rejectedReason := ""
            approvedAt := some ctx.now }) fun m hmem hm =>
          ⟨keptOut_of_unblocked (hm.2 hmem), hm.2⟩
      exact fun m hm => (hafter m hm).1
  | adminReject pks => exact h.selected pks (fun m => keptOut_of_inactive rfl) hrun
  | adminBlock pks => exact h.selected pks (fun m => keptOut_of_inactive rfl) hrun
  | adminUnblock pks => exact h.selected pks (fun m => keptOut_of_unblocked rfl) hrun
  | register data => exact h.registered hrun

end Steps

/-- While no request opens a blocked master, every blocked master is refused. -/
theorem blocked_refused {db : AccountTables}
    (h : (masterAccounts.restrict keepsOut).Reachable db) :
    ∀ m ∈ db.masters.rows, m.isBlocked = true → Refused db m := by
  have hkeeps : KeepsOut db := by
    refine h.invariant_of_guard (fun s hs => hs) fun s l s' _ hi hguard hstep => ?_
    subst hstep
    exact hi.step hguard rfl
  intro m hm hblocked
  exact refused_of_inactive (hkeeps m hm hblocked)

namespace Sample

/-- One master, approved and active, who has not got a password yet. -/
def masters : AccountTables where
  masters := ⟨[{ id := 1, phone := "+998901112233", firstName := "Ali" }], by decide⟩

def ctx (now : Int) : AccountContext where
  now := now
  uuid := 2
  makePassword raw := "pbkdf2_" ++ raw

/-- The dashboard blocks the master. -/
def blocked : AccountTables := (MasterRequest.view (ctx 1) (.dashboardBlock 1 true "") masters).2

/-- The dashboard sets the status of the master. -/
def withStatus (status : MasterStatus) : AccountTables :=
  (MasterRequest.view (ctx 2) (.dashboardStatus 1 status) blocked).2

theorem reachable_blocked : (masterAccounts.restrict keepsOut).Reachable blocked := by
  have hinit : (masterAccounts.restrict keepsOut).Reachable masters := by
    refine .init fun m hm => ?_
    obtain rfl := List.mem_singleton.mp hm
    exact keptOut_of_unblocked rfl
  exact hinit.step (l := (ctx 1, .dashboardBlock 1 true ""))
    ⟨⟨fun _ _ => trivial, trivial⟩, rfl⟩

end Sample

theorem blocked_refused_sample :
    ∃ m ∈ (Sample.withStatus .blocked).masters.rows, m.isBlocked = true ∧
      Refused (Sample.withStatus .blocked) m := by
  have hblocked : ∃ m ∈ (Sample.withStatus .blocked).masters.rows, m.isBlocked = true := by decide
  obtain ⟨m, hm, hmblocked⟩ := hblocked
  have hreach : (masterAccounts.restrict keepsOut).Reachable (Sample.withStatus .blocked) :=
    Sample.reachable_blocked.step (l := (Sample.ctx 2, .dashboardStatus 1 .blocked))
      ⟨⟨fun _ _ _ _ => rfl, trivial⟩, rfl⟩
  exact ⟨m, hm, hmblocked, blocked_refused hreach m hm hmblocked⟩

/-- The dashboard sets a blocked master to active: the master is blocked, and let in. -/
theorem blocked_master_let_in :
    masterAccounts.Reachable (Sample.withStatus .active) ∧
      ¬∀ m ∈ (Sample.withStatus .active).masters.rows, m.isBlocked = true →
        Refused (Sample.withStatus .active) m := by
  refine ⟨Sample.reachable_blocked.of_restrict.step
    (l := (Sample.ctx 2, .dashboardStatus 1 .active)) rfl, fun h => ?_⟩
  have hrow : ∃ m ∈ (Sample.withStatus .active).masters.rows, m.isBlocked = true ∧
      RoleJWTAuthentication.authenticate (fun _ => some { role := some "master", sub := some 1 })
        ["Bearer", "token"] (Sample.withStatus .active) = .ok (some (.master m)) := by decide
  obtain ⟨m, hm, hblocked, hin⟩ := hrow
  exact (h m hm hblocked).authenticate _ _ hin

end Accounts

end Homex
