import Homex.Realtime.Sockets
import Homex.Relational.Part
import Homex.Transition.Run

/-!
# Push messages

A phone registers its token for the user who is logged in. `update_or_create` finds
the row by the token alone, so a phone that changes hands moves to its new user.
`send_push_notification` reads the tokens of the user it notifies, and leaves the
sending to the commit of the transaction it runs in.

`holder` and `switches` are the abstract account: what the registrations, the
deletions and the settings say of a phone and of a user. The tables refine it, so a
push goes to the phones the user holds when it is made, and to no other.
-/

namespace Homex

namespace Realtime

open Relational Support Transition

/-- A client or a master. -/
structure Owner where
  role : ParticipantRole
  id : Uuid
  deriving DecidableEq, Repr

/-- The columns of a client or of a master that a push reads, and the token the user
registered last. -/
structure PushUser where
  id : Uuid
  notificationsEnabled : Bool := true
  pushEnabled : Bool := true
  fcmToken : String := ""
  deriving DecidableEq, Repr

instance : Keyed PushUser Uuid := ⟨PushUser.id⟩

/-- The two switches. -/
def PushUser.switches (user : PushUser) : Bool × Bool :=
  (user.notificationsEnabled, user.pushEnabled)

/-- `accounts.FCMDevice`, by its unique token. -/
structure FCMDevice where
  id : Uuid
  token : String
  role : ParticipantRole
  client : Option Uuid
  master : Option Uuid
  platform : String := ""
  isActive : Bool := true
  deriving DecidableEq, Repr

instance : Keyed FCMDevice String := ⟨FCMDevice.token⟩

@[simp] theorem key_pushUser (u : PushUser) : key u = u.id := rfl

@[simp] theorem key_fcmDevice (d : FCMDevice) : key d = d.token := rfl

/-- The tables. -/
structure PushTables where
  clients : Table PushUser := .empty
  masters : Table PushUser := .empty
  devices : Table FCMDevice := .empty

namespace PushTables

/-- The table of a role. -/
def users (t : PushTables) : ParticipantRole → Table PushUser
  | .client => t.clients
  | .master => t.masters

def setUsers (t : PushTables) (role : ParticipantRole) (users : Table PushUser) : PushTables :=
  match role with
  | .client => { t with clients := users }
  | .master => { t with masters := users }

/-- The row of a user. -/
def user? (t : PushTables) (owner : Owner) : Option PushUser :=
  (t.users owner.role).find? owner.id

@[simp] theorem users_setUsers (t : PushTables) (role role' : ParticipantRole)
    (users : Table PushUser) :
    (t.setUsers role users).users role' = if role = role' then users else t.users role' := by
  cases role <;> cases role' <;> rfl

@[simp] theorem devices_setUsers (t : PushTables) (role : ParticipantRole)
    (users : Table PushUser) : (t.setUsers role users).devices = t.devices := by
  cases role <;> rfl

end PushTables

/-! ### Requests -/

/-- The row that `update_or_create` leaves: the old id, or a new one. -/
def FCMDevice.registered (old : Option FCMDevice) (id : Uuid) (token platform : String)
    (owner : Owner) : FCMDevice where
  id := old.elim id FCMDevice.id
  token := token
  role := owner.role
  client := if owner.role = .client then some owner.id else none
  master := if owner.role = .master then some owner.id else none
  platform := platform

/-- The registration of a phone by the user of the request: the answer and whether the row
is new. -/
def pushRegister (user : PushUser) (role : ParticipantRole) (id : Uuid) (token platform : String)
    (t : PushTables) : (FCMDevice × Bool) × PushTables :=
  let old := t.devices.find? token
  let device := FCMDevice.registered old id token platform ⟨role, user.id⟩
  let t := { t with devices := t.devices.upsert device }
  ((device, old.isNone),
    t.setUsers role ((t.users role).save { user with fcmToken := device.token }))

def MasterPushRegisterView.post (user : PushUser) (id : Uuid) (token platform : String)
    (t : PushTables) : (FCMDevice × Bool) × PushTables :=
  pushRegister user .master id token platform t

def ClientPushRegisterView.post (user : PushUser) (id : Uuid) (token platform : String)
    (t : PushTables) : (FCMDevice × Bool) × PushTables :=
  pushRegister user .client id token platform t

/-- The switches that are in the payload. -/
structure SettingsPatch where
  notificationsEnabled : Option Bool := none
  pushEnabled : Option Bool := none
  deriving DecidableEq, Repr

def SettingsPatch.apply (patch : SettingsPatch) (user : PushUser) : PushUser :=
  { user with
      notificationsEnabled := patch.notificationsEnabled.getD user.notificationsEnabled
      pushEnabled := patch.pushEnabled.getD user.pushEnabled }

def patchSettings (user : PushUser) (role : ParticipantRole) (patch : SettingsPatch)
    (t : PushTables) : PushTables :=
  t.setUsers role ((t.users role).save (patch.apply user))

def ClientNotificationSettingsView.patch (user : PushUser) (patch : SettingsPatch)
    (t : PushTables) : PushTables :=
  patchSettings user .client patch t

/-- The view writes `is_online` and `is_available` as well. -/
def MasterSettingsView.patch (user : PushUser) (patch : SettingsPatch) (t : PushTables) :
    PushTables :=
  patchSettings user .master patch t

/-- The foreign key of a device or of a notification to the user of a role. -/
def FCMDevice.foreignKey (device : FCMDevice) : ParticipantRole → Option Uuid
  | .client => device.client
  | .master => device.master

/-- `delete` of a user, with the devices that refer to the row. -/
def deleteUser (owner : Owner) (t : PushTables) : PushTables :=
  let t := t.setUsers owner.role ((t.users owner.role).delete owner.id)
  { t with devices := t.devices.restrict fun d => d.foreignKey owner.role ≠ some owner.id }

/-! ### Sending -/

/-- The tokens of the active devices of a user. -/
def PushTables.activeTokens (t : PushTables) (owner : Owner) : List String :=
  (t.devices.rows.filter fun d =>
    d.role = owner.role ∧ d.isActive ∧ d.foreignKey owner.role = some owner.id).map
      FCMDevice.token

/-- The dict a phone gets: the keys of the notification's own data win. -/
def pushPayload (notification : Notification) (event : String) : List (String × String) :=
  ([("event", event), ("notification_id", Payme.uuidText notification.id),
      ("role", roleValue notification.role)].filter fun entry =>
        ¬notification.data.any fun own => own.1 = entry.1) ++ notification.data

/-- What is handed to `PushClient.send_many`. -/
structure Push where
  owner : Owner
  tokens : List String
  title : String
  body : String
  data : List (String × String)
  deriving DecidableEq, Repr

/-- `send_push_notification`, up to the commit. -/
def sendPushNotification (notification : Notification) (event : String) (t : PushTables) :
    Option Push :=
  match notification.user with
  | none => none
  | some id =>
      match t.user? ⟨notification.role, id⟩ with
      | none => none
      | some target =>
          if ¬target.notificationsEnabled ∨ ¬target.pushEnabled then
            none
          else
            let owner : Owner := ⟨notification.role, target.id⟩
            if t.activeTokens owner = [] then
              none
            else
              some
                { owner
                  tokens := t.activeTokens owner
                  title := notification.title
                  body := notification.body
                  data := pushPayload notification event }

/-! ### What the requests say of a phone and of a user -/

namespace Pushes

/-- A request that counts. -/
inductive Entry
  | created (owner : Owner)
  | deleted (owner : Owner)
  | switched (owner : Owner) (patch : SettingsPatch)
  | registered (token : String) (owner : Owner)
  deriving DecidableEq, Repr

/-- Who holds a phone, by the requests so far, the newest first: the user it was registered
for last, unless that user has been deleted since. -/
def holder : List Entry → String → Option Owner
  | [], _ => none
  | .registered token owner :: before, t => if token = t then some owner else holder before t
  | .deleted owner :: before, t => (holder before t).filter fun o => o ≠ owner
  | .created _ :: before, t | .switched _ _ :: before, t => holder before t

/-- The two switches of a user, both on at first. -/
def switches : List Entry → Owner → Option (Bool × Bool)
  | [], _ => none
  | .created owner :: before, o => if owner = o then some (true, true) else switches before o
  | .deleted owner :: before, o => if owner = o then none else switches before o
  | .switched owner patch :: before, o =>
      if owner = o then
        (switches before o).map fun s =>
          (patch.notificationsEnabled.getD s.1, patch.pushEnabled.getD s.2)
      else
        switches before o
  | .registered _ _ :: before, o => switches before o

/-- The push goes to a user who has both switches on, once to each phone the user holds, and
to no other phone. -/
structure ToHolders (history : List Entry) (push : Push) : Prop where
  switched : switches history push.owner = some (true, true)
  nodup : push.tokens.Nodup
  holds : ∀ token, token ∈ push.tokens ↔ holder history token = some push.owner

/-- The row is as a registration for this user leaves it. -/
def IsFor (d : FCMDevice) (owner : Owner) : Prop :=
  d = FCMDevice.registered none d.id d.token d.platform owner

/-- The tables are what the requests say. -/
structure Refines (history : List Entry) (t : PushTables) : Prop where
  user : ∀ owner, (t.user? owner).map PushUser.switches = switches history owner
  free : ∀ token, t.devices.find? token = none → holder history token = none
  held : ∀ token d, t.devices.find? token = some d →
    ∃ owner, holder history token = some owner ∧ IsFor d owner

section Refines

variable {history : List Entry} {t : PushTables} {d : FCMDevice} {owner owner' : Owner}

/-- The devices a push selects. -/
theorem IsFor.selected_iff (h : IsFor d owner) :
    (d.role = owner'.role ∧ d.isActive = true ∧ d.foreignKey owner'.role = some owner'.id) ↔
      owner = owner' := by
  rw [h]
  obtain ⟨role, id⟩ := owner
  obtain ⟨role', id'⟩ := owner'
  cases role <;> cases role' <;> simp [FCMDevice.registered, FCMDevice.foreignKey]

/-- The devices that go with a user. -/
theorem IsFor.kept_iff (h : IsFor d owner) :
    d.foreignKey owner'.role ≠ some owner'.id ↔ owner ≠ owner' := by
  rw [h]
  obtain ⟨role, id⟩ := owner
  obtain ⟨role', id'⟩ := owner'
  cases role <;> cases role' <;> simp [FCMDevice.registered, FCMDevice.foreignKey]

theorem isFor_registered (old : Option FCMDevice) (id : Uuid) (token platform : String) :
    IsFor (FCMDevice.registered old id token platform owner) owner := rfl

theorem Refines.mem_activeTokens (h : Refines history t) {token : String} :
    token ∈ t.activeTokens owner ↔ holder history token = some owner := by
  unfold PushTables.activeTokens
  rw [List.mem_map]
  constructor
  · rintro ⟨d, hd, rfl⟩
    obtain ⟨hrow, hselected⟩ := List.mem_filter.mp hd
    obtain ⟨owner', hholder, hfor⟩ := h.held d.token d (Table.find?_of_mem hrow)
    rw [hholder, hfor.selected_iff.mp (of_decide_eq_true hselected)]
  · intro hholder
    cases hfind : t.devices.find? token with
    | none =>
        rw [h.free token hfind] at hholder
        cases hholder
    | some d =>
        obtain ⟨owner', hholder', hfor⟩ := h.held token d hfind
        obtain rfl := Option.some.inj (hholder'.symm.trans hholder)
        exact ⟨d, List.mem_filter.mpr ⟨Table.mem_of_find? hfind,
          decide_eq_true (hfor.selected_iff.mpr rfl)⟩, Table.key_of_find? hfind⟩

theorem nodup_activeTokens (t : PushTables) (owner : Owner) : (t.activeTokens owner).Nodup :=
  t.devices.nodup_keys.sublist (List.filter_sublist.map FCMDevice.token)

variable {notification : Notification} {event : String}

/-- What a push is, by the requests. -/
theorem Refines.toHolders (h : Refines history t) {push : Push}
    (hpush : sendPushNotification notification event t = some push) :
    ToHolders history push := by
  unfold sendPushNotification at hpush
  split at hpush
  · cases hpush
  split at hpush
  · cases hpush
  · next id _ _ target htarget =>
      split at hpush
      · cases hpush
      · next hswitches =>
          dsimp only at hpush
          split at hpush
          · cases hpush
          · obtain rfl := Option.some.inj hpush
            rw [not_or, not_not, not_not] at hswitches
            obtain rfl : target.id = id := Table.key_of_find? htarget
            refine ⟨?_, nodup_activeTokens t _, fun token => h.mem_activeTokens⟩
            rw [← h.user, htarget, Option.map_some, PushUser.switches, hswitches.1, hswitches.2]

/-- A user with both switches on gets a push on every phone the user holds. -/
theorem Refines.sends (h : Refines history t) {token : String}
    (hrole : notification.role = owner.role) (huser : notification.user = some owner.id)
    (hswitches : switches history owner = some (true, true))
    (hholder : holder history token = some owner) :
    ∃ push, sendPushNotification notification event t = some push ∧ token ∈ push.tokens := by
  rw [← h.user] at hswitches
  obtain ⟨target, htarget, hon⟩ := Option.map_eq_some_iff.mp hswitches
  obtain ⟨hnotifications, hpush⟩ := Prod.mk.inj hon
  have hmem : token ∈ t.activeTokens owner := h.mem_activeTokens.mpr hholder
  obtain rfl : owner = ⟨notification.role, target.id⟩ := by
    rw [hrole, show target.id = owner.id from Table.key_of_find? htarget]
  unfold sendPushNotification
  rw [huser]
  dsimp only
  rw [htarget]
  dsimp only
  rw [if_neg (by simp [hnotifications, hpush]), if_neg (List.ne_nil_of_mem hmem)]
  exact ⟨_, rfl, hmem⟩

/-! ### The requests keep the tables to the account -/

theorem user?_setUsers (t : PushTables) (role : ParticipantRole) (users : Table PushUser)
    (owner : Owner) :
    (t.setUsers role users).user? owner =
      if role = owner.role then users.find? owner.id else t.user? owner := by
  unfold PushTables.user?
  rw [PushTables.users_setUsers]
  split <;> rfl

theorem owner_eq_iff : owner.role = owner'.role ∧ owner.id = owner'.id ↔ owner = owner' := by
  obtain ⟨role, id⟩ := owner
  obtain ⟨role', id'⟩ := owner'
  simp

/-- The row of a user is saved. -/
theorem switches_save {user user' : PushUser} (huser : t.user? owner = some user)
    (hid : user'.id = user.id) (owner' : Owner) :
    ((t.setUsers owner.role ((t.users owner.role).save user')).user? owner').map
        PushUser.switches =
      if owner = owner' then some user'.switches
      else (t.user? owner').map PushUser.switches := by
  have hkey : (t.users owner.role).find? (key user') = some user := by
    rw [key_pushUser, hid, show user.id = owner.id from Table.key_of_find? huser]
    exact huser
  have hown : key user' = owner.id := hid.trans (Table.key_of_find? huser)
  rw [user?_setUsers, Table.find?_save hkey, hown]
  by_cases hsame : owner = owner'
  · obtain rfl := hsame
    simp
  · rw [if_neg hsame]
    split
    · next hrole =>
        rw [if_neg fun hid => hsame (owner_eq_iff.mp ⟨hrole, hid⟩)]
        unfold PushTables.user?
        rw [hrole]
    · rfl

theorem refines_empty : Refines [] {} where
  user owner := by
    obtain ⟨role, id⟩ := owner
    cases role <;> rfl
  free _ _ := rfl
  held _ _ h := by cases h

theorem refines_created (h : Refines history t) {users : Table PushUser}
    (hins : (t.users owner.role).insert? { id := owner.id } = some users) :
    Refines (.created owner :: history) (t.setUsers owner.role users) where
  user owner' := by
    rw [user?_setUsers, Table.find?_insert? hins]
    unfold switches
    by_cases hsame : owner = owner'
    · obtain rfl := hsame
      simp [PushUser.switches]
    · rw [if_neg hsame, ← h.user]
      split
      · next hrole =>
          rw [key_pushUser, if_neg fun hid => hsame (owner_eq_iff.mp ⟨hrole, hid⟩)]
          unfold PushTables.user?
          rw [hrole]
      · rfl
  free token hfind := h.free token (by simpa using hfind)
  held token d hfind := h.held token d (by simpa using hfind)

theorem refines_switched (h : Refines history t) {user : PushUser} {patch : SettingsPatch}
    (huser : t.user? owner = some user) :
    Refines (.switched owner patch :: history) (patchSettings user owner.role patch t) where
  user owner' := by
    unfold patchSettings switches
    rw [switches_save huser (by rfl)]
    split
    · next hsame =>
        rw [← hsame, ← h.user, huser]
        rfl
    · exact h.user owner'
  free token hfind := h.free token (by simpa [patchSettings] using hfind)
  held token d hfind := h.held token d (by simpa [patchSettings] using hfind)

theorem refines_registered (h : Refines history t) {user : PushUser} {id : Uuid}
    {token platform : String} (huser : t.user? owner = some user) :
    Refines (.registered token owner :: history)
      (pushRegister user owner.role id token platform t).2 := by
  have hdevices : (pushRegister user owner.role id token platform t).2.devices =
      t.devices.upsert (FCMDevice.registered (t.devices.find? token) id token platform owner) := by
    unfold pushRegister
    rw [show user.id = owner.id from Table.key_of_find? huser]
    exact PushTables.devices_setUsers _ _ _
  have hfind : ∀ t', (pushRegister user owner.role id token platform t).2.devices.find? t' =
      if token = t' then
        some (FCMDevice.registered (t.devices.find? token) id token platform owner)
      else t.devices.find? t' := fun t' => by
    rw [hdevices, Table.find?_upsert]
    rfl
  constructor
  case user =>
    intro owner'
    let t₁ : PushTables :=
      { t with
          devices := t.devices.upsert
            (FCMDevice.registered (t.devices.find? token) id token platform ⟨owner.role, user.id⟩) }
    have huser₁ : t₁.user? owner = some user := huser
    change ((t₁.setUsers owner.role ((t₁.users owner.role).save _)).user? owner').map _ =
      switches history owner'
    rw [switches_save huser₁ (by rfl)]
    split
    · next hsame =>
        rw [← hsame, ← h.user, huser]
        rfl
    · exact h.user owner'
  case free =>
    intro t' hnone
    rw [hfind] at hnone
    unfold holder
    split at hnone
    · cases hnone
    · next hne =>
        rw [if_neg hne]
        exact h.free t' hnone
  case held =>
    intro t' d hd
    rw [hfind] at hd
    unfold holder
    split at hd
    · next heq =>
        rw [if_pos heq, ← Option.some.inj hd]
        exact ⟨owner, rfl, isFor_registered _ _ _ _⟩
    · next hne =>
        rw [if_neg hne]
        exact h.held t' d hd

theorem refines_deleted (h : Refines history t) :
    Refines (.deleted owner :: history) (deleteUser owner t) := by
  have hfind : ∀ token, (deleteUser owner t).devices.find? token =
      (t.devices.find? token).filter fun d => d.foreignKey owner.role ≠ some owner.id := by
    intro token
    unfold deleteUser
    dsimp only
    rw [Table.find?_restrict, PushTables.devices_setUsers]
  constructor
  case user =>
    intro owner'
    change ((t.setUsers owner.role _).user? owner').map _ = _
    rw [user?_setUsers, Table.find?_delete]
    unfold switches
    by_cases hsame : owner = owner'
    · obtain rfl := hsame
      simp
    · rw [if_neg hsame, ← h.user]
      split
      · next hrole =>
          rw [if_neg fun hid => hsame (owner_eq_iff.mp ⟨hrole, hid⟩)]
          unfold PushTables.user?
          rw [hrole]
      · rfl
  case free =>
    intro token hnone
    rw [hfind] at hnone
    unfold holder
    cases hold : t.devices.find? token with
    | none => rw [h.free token hold, Option.filter_none]
    | some d =>
        obtain ⟨owner', hholder, hfor⟩ := h.held token d hold
        rw [hold, Option.filter_eq_none_iff] at hnone
        rw [hholder, Option.filter_eq_none_iff]
        intro o ho
        obtain rfl := Option.some.inj ho
        have hgone := hnone d rfl
        simpa [hfor.kept_iff] using hgone
  case held =>
    intro token d hd
    rw [hfind] at hd
    obtain ⟨hold, hkept⟩ := Option.filter_eq_some_iff.mp hd
    obtain ⟨owner', hholder, hfor⟩ := h.held token d hold
    refine ⟨owner', ?_, hfor⟩
    unfold holder
    rw [hholder, Option.filter_some, if_pos]
    exact decide_eq_true (hfor.kept_iff.mp (of_decide_eq_true hkept))

end Refines

/-! ### Runs -/

/-- The tables, the pushes that wait for a commit and those that went out, each with the
requests up to when it was made, and the requests so far. -/
structure State where
  tables : PushTables := {}
  queued : List (List Entry × Push) := []
  sent : List (List Entry × Push) := []
  history : List Entry := []

/-- What happens to users, phones and notifications. A push that is made in a transaction
waits; `commit` and `rollback` name it by its place among those that wait. -/
inductive Step
  | create (owner : Owner)
  | delete (owner : Owner)
  | register (owner : Owner) (id : Uuid) (token platform : String)
  | settings (owner : Owner) (patch : SettingsPatch)
  | notify (notification : Notification) (event : String) (inTransaction : Bool)
  | commit (i : Nat)
  | rollback (i : Nat)

/-- A user who does not exist does nothing. -/
def State.step (σ : State) : Step → State
  | .create owner =>
      match (σ.tables.users owner.role).insert? { id := owner.id } with
      | none => σ
      | some users =>
          { σ with
              tables := σ.tables.setUsers owner.role users
              history := .created owner :: σ.history }
  | .delete owner =>
      { σ with tables := deleteUser owner σ.tables, history := .deleted owner :: σ.history }
  | .register owner id token platform =>
      match σ.tables.user? owner with
      | none => σ
      | some user =>
          let post := match owner.role with
            | .client => ClientPushRegisterView.post
            | .master => MasterPushRegisterView.post
          { σ with
              tables := (post user id token platform σ.tables).2
              history := .registered token owner :: σ.history }
  | .settings owner patch =>
      match σ.tables.user? owner with
      | none => σ
      | some user =>
          let patched := match owner.role with
            | .client => ClientNotificationSettingsView.patch
            | .master => MasterSettingsView.patch
          { σ with
              tables := patched user patch σ.tables
              history := .switched owner patch :: σ.history }
  | .notify notification event inTransaction =>
      match sendPushNotification notification event σ.tables with
      | none => σ
      | some push =>
          if inTransaction then
            { σ with queued := σ.queued ++ [(σ.history, push)] }
          else
            { σ with sent := σ.sent ++ [(σ.history, push)] }
  | .commit i =>
      match σ.queued[i]? with
      | none => σ
      | some made => { σ with queued := σ.queued.eraseIdx i, sent := σ.sent ++ [made] }
  | .rollback i => { σ with queued := σ.queued.eraseIdx i }

/-- The app starts without users. -/
def pushes : System State Step where
  init σ := σ = {}
  step σ step σ' := σ' = σ.step step

/-- The tables refine the account, and every push was right when it was made. -/
structure Right (σ : State) : Prop where
  refines : Refines σ.history σ.tables
  made : ∀ made ∈ σ.queued ++ σ.sent, made.1 <:+ σ.history ∧ ToHolders made.1 made.2

theorem pushRegister_eq {owner : Owner} {user : PushUser} {id : Uuid} {token platform : String}
    {t : PushTables} :
    (match owner.role with
      | .client => ClientPushRegisterView.post
      | .master => MasterPushRegisterView.post) user id token platform t =
      pushRegister user owner.role id token platform t := by
  cases owner.role <;> rfl

theorem patchSettings_eq {owner : Owner} {user : PushUser} {patch : SettingsPatch}
    {t : PushTables} :
    (match owner.role with
      | .client => ClientNotificationSettingsView.patch
      | .master => MasterSettingsView.patch) user patch t =
      patchSettings user owner.role patch t := by
  cases owner.role <;> rfl

/-- A request adds its entry, and the pushes stay as they are. -/
theorem Right.request {σ : State} (h : Right σ) {tables : PushTables} {entry : Entry}
    (hrefines : Refines (entry :: σ.history) tables) :
    Right { σ with tables, history := entry :: σ.history } where
  refines := hrefines
  made made hmade := by
    obtain ⟨hsuffix, hholders⟩ := h.made made hmade
    exact ⟨hsuffix.trans (List.suffix_cons entry σ.history), hholders⟩

theorem Right.step {σ : State} (h : Right σ) (step : Step) : Right (σ.step step) := by
  cases step with
  | create owner =>
      unfold State.step
      dsimp only
      split
      · exact h
      · next users hins => exact h.request (refines_created h.refines hins)
  | delete owner => exact h.request (refines_deleted h.refines)
  | register owner id token platform =>
      unfold State.step
      dsimp only
      split
      · exact h
      · next user huser =>
          rw [pushRegister_eq]
          exact h.request (refines_registered h.refines huser)
  | settings owner patch =>
      unfold State.step
      dsimp only
      split
      · exact h
      · next user huser =>
          rw [patchSettings_eq]
          exact h.request (refines_switched h.refines huser)
  | notify notification event inTransaction =>
      unfold State.step
      dsimp only
      split
      · exact h
      · next push hpush =>
          have hnew : σ.history <:+ σ.history ∧ ToHolders σ.history push :=
            ⟨List.suffix_refl _, h.refines.toHolders hpush⟩
          split
          · refine ⟨h.refines, fun made hmade => ?_⟩
            rw [List.append_assoc, List.mem_append, List.mem_append, List.mem_singleton] at hmade
            rcases hmade with hmade | rfl | hmade
            · exact h.made made (List.mem_append_left _ hmade)
            · exact hnew
            · exact h.made made (List.mem_append_right _ hmade)
          · refine ⟨h.refines, fun made hmade => ?_⟩
            rw [← List.append_assoc, List.mem_append, List.mem_singleton] at hmade
            rcases hmade with hmade | rfl
            · exact h.made made hmade
            · exact hnew
  | commit i =>
      unfold State.step
      dsimp only
      split
      · exact h
      · next waiting hwaiting =>
          refine ⟨h.refines, fun made hmade => ?_⟩
          rw [List.mem_append, List.mem_append, List.mem_singleton] at hmade
          rcases hmade with hmade | hmade | rfl
          · exact h.made made (List.mem_append_left _ (List.mem_of_mem_eraseIdx hmade))
          · exact h.made made (List.mem_append_right _ hmade)
          · exact h.made made (List.mem_append_left _ (List.mem_of_getElem? hwaiting))
  | rollback i =>
      refine ⟨h.refines, fun made hmade => ?_⟩
      rcases List.mem_append.mp hmade with hmade | hmade
      · exact h.made made (List.mem_append_left _ (List.mem_of_mem_eraseIdx hmade))
      · exact h.made made (List.mem_append_right _ hmade)

theorem right_of_reachable {σ : State} (h : pushes.Reachable σ) : Right σ := by
  refine h.invariant (I := Right) ?_ ?_
  · rintro σ rfl
    exact ⟨refines_empty, fun made hmade => by cases hmade⟩
  · rintro σ step σ' - hright rfl
    exact hright.step step

/-- In every order of the requests, a push that went out, or waits for its commit, is for a
user who had both switches on when it was made, and goes once to each phone the user held
then and to no other. A notification for a user with both switches on makes such a push when
the user holds a phone. -/
theorem pushes_reach_holders {σ : State} (h : pushes.Reachable σ) :
    (∀ made ∈ σ.queued ++ σ.sent, made.1 <:+ σ.history ∧ ToHolders made.1 made.2) ∧
      ∀ (notification : Notification) (event token : String) (owner : Owner),
        notification.role = owner.role → notification.user = some owner.id →
          switches σ.history owner = some (true, true) → holder σ.history token = some owner →
            ∃ push, sendPushNotification notification event σ.tables = some push ∧
              token ∈ push.tokens ∧ ToHolders σ.history push := by
  have hright := right_of_reachable h
  refine ⟨hright.made, fun notification event token owner hrole huser hswitches hholder => ?_⟩
  obtain ⟨push, hpush, hmem⟩ := hright.refines.sends hrole huser hswitches hholder
  exact ⟨push, hpush, hmem, hright.refines.toHolders hpush⟩

/-- A phone changes hands, and its new user is notified. -/
def Sample.steps : List Step :=
  [.create ⟨.client, 1⟩, .create ⟨.master, 2⟩, .register ⟨.client, 1⟩ 5 "phone" "ios",
   .register ⟨.master, 2⟩ 6 "phone" "ios",
   .notify { id := 9, role := .master, master := some 2, title := "Yangi buyurtma" }
     "notification.created" false]

theorem reachable_run (steps : List Step) : pushes.Reachable (steps.foldl State.step {}) := by
  induction steps using List.reverseRecOn with
  | nil => exact .init rfl
  | append_singleton steps step ih =>
      rw [List.foldl_append]
      exact ih.step (l := step) rfl

theorem pushes_reach_holders_sample :
    ∃ made ∈ (Sample.steps.foldl State.step {}).sent,
      made.2.tokens = ["phone"] ∧ made.2.owner = ⟨.master, 2⟩ ∧ ToHolders made.1 made.2 := by
  have hsent : ∃ made ∈ (Sample.steps.foldl State.step {}).sent,
      made.2.tokens = ["phone"] ∧ made.2.owner = ⟨.master, 2⟩ := by decide +kernel
  obtain ⟨made, hmade, htokens, howner⟩ := hsent
  have hholders := (pushes_reach_holders (reachable_run Sample.steps)).1 made
    (List.mem_append_right _ hmade)
  exact ⟨made, hmade, htokens, howner, hholders.2⟩

end Pushes

end Realtime

end Homex
