import Homex.Profiles.Views
import Homex.Transition.Run
import Homex.Wallet.Ledger
import Homex.Orders.Completion
import Mathlib.Logic.Relation

/-!
# Whose address it is

`Owned` says that each device, and each order, refers to rows of its own client.
`Write` lists what the requests of a client write, one row at a time, or the rows
of a cascade. A request whose payload names no address of another client does
only such writes, and each keeps `Owned`.
-/

namespace Homex

open Relational Orders Profiles Wallet

namespace Profiles

open Action Code

/-- The id names an address of the client. -/
def OwnAddress (db : DB) (user pk : Uuid) : Prop :=
  ∃ a, db.addresses.find? pk = some a ∧ a.client = user

/-- The id names a device of the client. -/
def OwnDevice (db : DB) (user pk : Uuid) : Prop :=
  ∃ d, db.devices.find? pk = some d ∧ d.client = user

/-- Devices and orders refer to rows of their own client. -/
structure Owned (db : DB) : Prop where
  device : ∀ d ∈ db.devices.rows, OwnAddress db d.client d.address
  orderAddress : ∀ o ∈ db.orders.rows, ∀ pk ∈ o.address, OwnAddress db o.client pk
  orderDevice : ∀ o ∈ db.orders.rows, ∀ pk ∈ o.device, OwnDevice db o.client pk

/-- One write of a request of `user`. -/
inductive Write (user : Uuid) (db : DB) : DB → Prop
  | insertAddress {a : ClientAddress} {t : Table ClientAddress} (huser : a.client = user)
      (hins : db.addresses.insert? a = some t) : Write user db { db with addresses := t }
  | saveAddress {a old : ClientAddress} (hfind : db.addresses.find? a.id = some old)
      (hold : old.client = user) (huser : a.client = user) :
      Write user db { db with addresses := db.addresses.save a }
  | clearDefault : Write user db (clearDefault user db)
  | deleteAddress {pk : Uuid} (hown : OwnAddress db user pk) : Write user db (deleteAddress pk db)
  | insertDevice {d : ClientDevice} {t : Table ClientDevice} (huser : d.client = user)
      (haddress : OwnAddress db user d.address) (hins : db.devices.insert? d = some t) :
      Write user db { db with devices := t }
  | saveDevice {d old : ClientDevice} (hfind : db.devices.find? d.id = some old)
      (hold : old.client = user) (huser : d.client = user)
      (haddress : OwnAddress db user d.address) :
      Write user db { db with devices := db.devices.save d }
  | deleteDevice {pk : Uuid} (hown : OwnDevice db user pk) :
      Write user db (deleteDevices (fun d => d.id = pk) db)
  | insertOrder {o : Order} {t : Table Order} (huser : o.client = user)
      (haddress : ∀ pk ∈ o.address, OwnAddress db user pk)
      (hdevice : ∀ pk ∈ o.device, OwnDevice db user pk) (hins : db.orders.insert? o = some t) :
      Write user db { db with orders := t }
  | saveOrder {o old : Order} (hfind : db.orders.find? o.id = some old)
      (hold : old.client = user) (huser : o.client = user) (haddress : o.address = old.address)
      (hdevice : o.device = old.device) :
      Write user db { db with orders := db.orders.save o }
  | other (w : WalletTables) (j : List Event) : Write user db { db with wallet := w, journal := j }

/-- Any number of writes. -/
abbrev Writes (user : Uuid) : DB → DB → Prop := Relation.ReflTransGen (Write user)

/-! ### Each write keeps the rows where they belong -/

section Owned

variable {user user' pk pk' : Uuid} {db db' : DB}

theorem Owned.of_addresses (h : Owned db) {t : Table ClientAddress}
    (ht : ∀ user pk, OwnAddress db user pk → OwnAddress { db with addresses := t } user pk) :
    Owned { db with addresses := t } where
  device d hd := ht _ _ (h.device d hd)
  orderAddress o ho pk hpk := ht _ _ (h.orderAddress o ho pk hpk)
  orderDevice := h.orderDevice

theorem Owned.of_devices (h : Owned db) {t : Table ClientDevice}
    (hrows : ∀ d ∈ t.rows, OwnAddress db d.client d.address)
    (ht : ∀ user pk, OwnDevice db user pk → OwnDevice { db with devices := t } user pk) :
    Owned { db with devices := t } where
  device := hrows
  orderAddress := h.orderAddress
  orderDevice o ho pk hpk := ht _ _ (h.orderDevice o ho pk hpk)

theorem Owned.of_orders (h : Owned db) {t : Table Order}
    (hrows : ∀ o ∈ t.rows, (∀ pk ∈ o.address, OwnAddress db o.client pk) ∧
      ∀ pk ∈ o.device, OwnDevice db o.client pk) : Owned { db with orders := t } where
  device := h.device
  orderAddress o ho := (hrows o ho).1
  orderDevice o ho := (hrows o ho).2

theorem ownAddress_insert? {a : ClientAddress} {t : Table ClientAddress}
    (hins : db.addresses.insert? a = some t) (h : OwnAddress db user pk) :
    OwnAddress { db with addresses := t } user pk := by
  obtain ⟨b, hfind, hb⟩ := h
  refine ⟨b, ?_, hb⟩
  change t.find? pk = some b
  rw [Table.find?_insert? hins]
  by_cases hk : key a = pk
  · have hnone := (Table.insert?_eq_some_iff.mp hins).1
    rw [hk, hfind] at hnone
    cases hnone
  · rw [if_neg hk]
    exact hfind

theorem ownAddress_of_insert? {a : ClientAddress} {t : Table ClientAddress}
    (hins : db.addresses.insert? a = some t) (huser : a.client = user) :
    OwnAddress { db with addresses := t } user a.id := by
  refine ⟨a, ?_, huser⟩
  change t.find? (key a) = some a
  rw [Table.find?_insert? hins, if_pos rfl]

theorem ownAddress_save {a old : ClientAddress} (hfind : db.addresses.find? a.id = some old)
    (hclient : a.client = old.client) (h : OwnAddress db user pk) :
    OwnAddress { db with addresses := db.addresses.save a } user pk := by
  obtain ⟨b, hb, huser⟩ := h
  unfold OwnAddress
  change ∃ b, (db.addresses.save a).find? pk = some b ∧ _
  rw [Table.find?_save (t := db.addresses) hfind]
  by_cases hk : key a = pk
  · rw [if_pos hk]
    refine ⟨a, rfl, ?_⟩
    rw [show pk = a.id from hk.symm, hfind] at hb
    cases hb
    exact hclient.trans huser
  · rw [if_neg hk]
    exact ⟨b, hb, huser⟩

theorem ownAddress_clearDefault (h : OwnAddress db user' pk) :
    OwnAddress (clearDefault user db) user' pk := by
  obtain ⟨b, hb, huser⟩ := h
  refine ⟨unsetDefault user b, ?_, huser⟩
  refine (Table.find?_mapRows (key_unsetDefault user) pk).trans ?_
  rw [hb]
  rfl

theorem ownDevice_insert? {d : ClientDevice} {t : Table ClientDevice}
    (hins : db.devices.insert? d = some t) (h : OwnDevice db user pk) :
    OwnDevice { db with devices := t } user pk := by
  obtain ⟨b, hfind, hb⟩ := h
  refine ⟨b, ?_, hb⟩
  change t.find? pk = some b
  rw [Table.find?_insert? hins]
  by_cases hk : key d = pk
  · have hnone := (Table.insert?_eq_some_iff.mp hins).1
    rw [hk, hfind] at hnone
    cases hnone
  · rw [if_neg hk]
    exact hfind

theorem ownDevice_of_insert? {d : ClientDevice} {t : Table ClientDevice}
    (hins : db.devices.insert? d = some t) (huser : d.client = user) :
    OwnDevice { db with devices := t } user d.id := by
  refine ⟨d, ?_, huser⟩
  change t.find? (key d) = some d
  rw [Table.find?_insert? hins, if_pos rfl]

theorem ownDevice_save {d old : ClientDevice} (hfind : db.devices.find? d.id = some old)
    (hclient : d.client = old.client) (h : OwnDevice db user pk) :
    OwnDevice { db with devices := db.devices.save d } user pk := by
  obtain ⟨b, hb, huser⟩ := h
  unfold OwnDevice
  change ∃ b, (db.devices.save d).find? pk = some b ∧ _
  rw [Table.find?_save (t := db.devices) hfind]
  by_cases hk : key d = pk
  · rw [if_pos hk]
    refine ⟨d, rfl, ?_⟩
    rw [show pk = d.id from hk.symm, hfind] at hb
    cases hb
    exact hclient.trans huser
  · rw [if_neg hk]
    exact ⟨b, hb, huser⟩

/-- The orders of the devices that go forget them. -/
theorem Owned.deleteDevices (h : Owned db) (gone : ClientDevice → Bool) :
    Owned (deleteDevices gone db) where
  device d hd := h.device d (Table.mem_restrict.mp hd).1
  orderAddress o ho pk hpk := by
    obtain ⟨x, hx, rfl⟩ := (Table.mem_mapRows (key_forgetDevices _)).mp ho
    exact h.orderAddress x hx pk hpk
  orderDevice o ho pk hpk := by
    obtain ⟨x, hx, rfl⟩ := (Table.mem_mapRows (key_forgetDevices _)).mp ho
    obtain ⟨hpk, hkept⟩ := Option.mem_filter_iff.mp hpk
    obtain ⟨d, hfind, hd⟩ := h.orderDevice x hx pk hpk
    refine ⟨d, ?_, hd⟩
    change (db.devices.restrict _).find? pk = _
    beta_reduce at hkept
    rw [hfind, Option.any_some] at hkept
    rw [Table.find?_restrict, hfind, Option.filter_some, if_pos hkept]

theorem Owned.deleteAddress (h : Owned db) (pk : Uuid) : Owned (deleteAddress pk db) := by
  have hdevices := h.deleteDevices fun d => d.address = pk
  have hkept : ∀ user pk', pk' ≠ pk → OwnAddress db user pk' →
      OwnAddress (Profiles.deleteAddress pk db) user pk' := by
    rintro user pk' hne ⟨a, hfind, ha⟩
    refine ⟨a, ?_, ha⟩
    change (db.addresses.delete pk).find? pk' = _
    rw [Table.find?_delete, if_neg hne.symm]
    exact hfind
  constructor
  case device =>
    intro d hd
    obtain ⟨hd, hgone⟩ := Table.mem_restrict.mp hd
    exact hkept _ _ (by simpa using hgone) (h.device d hd)
  case orderAddress =>
    intro o ho pk' hpk'
    obtain ⟨x, hx, rfl⟩ := (Table.mem_mapRows (key_forgetAddress pk)).mp ho
    obtain ⟨hpk', hne⟩ := Option.mem_filter_iff.mp hpk'
    exact hkept _ _ (by simpa using hne) (hdevices.orderAddress x hx pk' hpk')
  case orderDevice =>
    intro o ho pk' hpk'
    obtain ⟨x, hx, rfl⟩ := (Table.mem_mapRows (key_forgetAddress pk)).mp ho
    exact hdevices.orderDevice x hx pk' hpk'

/-- The step lemma for a write. -/
theorem Owned.write (h : Owned db) (hw : Write user db db') : Owned db' := by
  cases hw with
  | insertAddress _ hins => exact h.of_addresses fun _ _ => ownAddress_insert? hins
  | saveAddress hfind hold huser =>
      exact h.of_addresses fun _ _ => ownAddress_save hfind (huser.trans hold.symm)
  | clearDefault => exact h.of_addresses fun _ _ => ownAddress_clearDefault
  | deleteAddress => exact h.deleteAddress _
  | insertDevice huser haddress hins =>
      refine h.of_devices (Table.forall_insert? h.device hins ?_) fun _ _ => ownDevice_insert? hins
      rw [huser]
      exact haddress
  | saveDevice hfind hold huser haddress =>
      refine h.of_devices (Table.forall_save h.device ?_) fun _ _ =>
        ownDevice_save hfind (huser.trans hold.symm)
      rw [huser]
      exact haddress
  | deleteDevice => exact h.deleteDevices _
  | insertOrder huser haddress hdevice hins =>
      refine h.of_orders (Table.forall_insert? (fun o ho => ⟨h.orderAddress o ho,
        h.orderDevice o ho⟩) hins ?_)
      rw [huser]
      exact ⟨haddress, hdevice⟩
  | saveOrder hfind hold huser haddress hdevice =>
      refine h.of_orders (Table.forall_save (fun o ho => ⟨h.orderAddress o ho,
        h.orderDevice o ho⟩) ?_)
      rw [huser, ← hold, haddress, hdevice]
      have hmem := Table.mem_of_find? hfind
      exact ⟨h.orderAddress _ hmem, h.orderDevice _ hmem⟩
  | other => exact ⟨h.device, h.orderAddress, h.orderDevice⟩

theorem Owned.writes (h : Owned db) (hw : Writes user db db') : Owned db' := by
  induction hw with
  | refl => exact h
  | tail _ hw ih => exact ih.write hw

end Owned

/-! ### What the requests write -/

section Requests

variable {user pk : Uuid} {s₀ s : DB} {ctx : Context} {c : Collation} {α : Type}

/-- Whatever the outcome, the action has done writes of the client only. -/
abbrev OnlyWrites (user : Uuid) (s₀ : DB) (x : Code α) (s : DB) : Prop :=
  Ensures (fun _ => Writes user s₀) (Writes user s₀) x s

theorem find?_of_filter {a : ClientAddress}
    (h : (s.addresses.find? pk).filter (fun a => decide (a.client = user)) = some a) :
    s.addresses.find? a.id = some a ∧ a.id = pk ∧ a.client = user := by
  obtain ⟨hfind, huser⟩ := Option.filter_eq_some_iff.mp h
  have hid : a.id = pk := Table.key_of_find? hfind
  rw [hid]
  exact ⟨hfind, rfl, by simpa using huser⟩

theorem ensures_getAddress {Q : ClientAddress → DB → Prop} {E : DB → Prop}
    (hQ : ∀ a, s.addresses.find? a.id = some a → a.id = pk → a.client = user → Q a s) (hE : E s) :
    Ensures Q E (getAddress user pk) s := by
  refine ensures_fetch (fun a ha => ?_) hE
  obtain ⟨hfind, hid, huser⟩ := find?_of_filter ha
  exact hQ a hfind hid huser

theorem ensures_getDevice {Q : ClientDevice → DB → Prop} {E : DB → Prop}
    (hQ : ∀ d, s.devices.find? d.id = some d → d.id = pk → d.client = user → Q d s) (hE : E s) :
    Ensures Q E (getDevice user pk) s := by
  refine ensures_fetch (fun d hd => ?_) hE
  obtain ⟨hfind, huser⟩ := Option.filter_eq_some_iff.mp hd
  have hid : d.id = pk := Table.key_of_find? hfind
  exact hQ d (hid ▸ hfind) hid (by simpa using huser)

theorem ensures_getClientOrder {Q : Order → DB → Prop} {E : DB → Prop}
    (hQ : ∀ o, s.orders.find? o.id = some o → o.id = pk → o.client = user → Q o s) (hE : E s) :
    Ensures Q E (getClientOrder pk user) s := by
  refine ensures_bind (ensures_fetch (fun o ho => ?_) hE)
  have hid : o.id = pk := Table.key_of_find? ho
  exact ensures_bind (ensures_require (fun huser => hQ o (hid ▸ ho) hid huser) hE)

theorem ensures_requirePk {ρ : Type} [Keyed ρ Uuid] {table : DB → Table ρ} {field : String}
    {pk? : Option Uuid} {Q : Unit → DB → Prop} {E : DB → Prop}
    (hQ : (∀ pk ∈ pk?, ((table s).find? pk).isSome) → Q () s) (hE : E s) :
    Ensures Q E (requirePk table field pk?) s := by
  cases pk? with
  | none => exact hQ fun _ h => by cases h
  | some pk =>
      refine ensures_get_bind (ensures_require (fun hfound => hQ ?_) hE)
      rintro _ ⟨⟩
      exact hfound

theorem onlyWrites_addressPost (h : Writes user s₀ s) (data : AddressPayload) :
    OnlyWrites user s₀ (ClientAddressListCreateView.post ctx user data) s := by
  have hcreate : ∀ {s}, Writes user s₀ s → ∀ a : ClientAddress, a.client = user →
      OnlyWrites user s₀ (createAddress a >>= fun _ => pure a) s := by
    intro s h a huser
    refine ensures_bind (ensures_write (fun s' hs' => ?_) h)
    obtain ⟨t, hins, rfl⟩ := Option.map_eq_some_iff.mp hs'
    exact h.tail (.insertAddress huser hins)
  unfold ClientAddressListCreateView.post
  by_cases hdefault : data.isDefault = true
  · simp only [if_pos hdefault]
    exact ensures_bind (ensures_modify (hcreate (h.tail .clearDefault) _ rfl))
  · simp only [if_neg hdefault]
    exact hcreate h _ rfl

theorem onlyWrites_addressUpdate (h : Writes user s₀ s) (data : AddressUpdate) :
    OnlyWrites user s₀ (ClientAddressDetailView.update user pk data) s :=
  ensures_bind (ensures_getAddress (fun _ hfind _ huser =>
    ensures_bind (ensures_modify (h.tail (.saveAddress hfind huser huser)))) h)

theorem onlyWrites_addressDelete (h : Writes user s₀ s) :
    OnlyWrites user s₀ (ClientAddressDetailView.delete user pk) s :=
  ensures_bind (ensures_getAddress (fun a hfind _ huser =>
    ensures_modify (h.tail (.deleteAddress ⟨a, hfind, huser⟩))) h)

/-- A named address that is found, and that belongs to the client if it is. -/
theorem ownAddress_of_found {pk? : Option Uuid}
    (hown : ∀ pk ∈ pk?, ∀ a, s.addresses.find? pk = some a → a.client = user)
    (hfound : ∀ pk ∈ pk?, (s.addresses.find? pk).isSome) : ∀ pk ∈ pk?, OwnAddress s user pk := by
  intro pk hpk
  obtain ⟨a, ha⟩ := Option.isSome_iff_exists.mp (hfound pk hpk)
  exact ⟨a, ha, hown pk hpk a ha⟩

theorem onlyWrites_devicePost (h : Writes user s₀ s) {data : DevicePayload}
    (hown : ∀ a, s.addresses.find? data.address = some a → a.client = user) :
    OnlyWrites user s₀ (ClientDeviceListCreateView.post ctx user data) s := by
  refine ensures_bind (ensures_requirePk (fun hfound => ?_) h)
  have haddress := ownAddress_of_found (by rintro _ ⟨⟩; exact hown) hfound data.address rfl
  refine ensures_bind (ensures_write (fun s' hs' => ?_) h)
  obtain ⟨t, hins, rfl⟩ := Option.map_eq_some_iff.mp hs'
  exact h.tail (.insertDevice rfl haddress hins)

theorem onlyWrites_deviceUpdate (h : Writes user s₀ s) (howned : Owned s) {data : DeviceUpdate}
    (hown : ∀ pk ∈ data.address, ∀ a, s.addresses.find? pk = some a → a.client = user) :
    OnlyWrites user s₀ (ClientDeviceDetailView.update user pk data) s := by
  refine ensures_bind (ensures_getDevice (fun d hfind _ huser => ?_) h)
  refine ensures_bind (ensures_requirePk (fun hfound => ?_) h)
  refine ensures_bind (ensures_modify (h.tail (.saveDevice hfind huser huser ?_)))
  change OwnAddress s user (data.address.getD d.address)
  cases haddress : data.address with
  | some pk => exact ownAddress_of_found hown hfound pk haddress
  | none =>
      rw [← huser]
      exact howned.device d (Table.mem_of_find? hfind)

theorem onlyWrites_deviceDelete (h : Writes user s₀ s) :
    OnlyWrites user s₀ (ClientDeviceDetailView.delete user pk) s :=
  ensures_bind (ensures_getDevice (fun d hfind _ huser =>
    ensures_modify (h.tail (.deleteDevice ⟨d, hfind, huser⟩))) h)

/-- The address of a new device belongs to the client, whether it is the order's,
found, or created. -/
theorem ensures_deviceAddress (h : Writes user s₀ s) {data : OrderPayload}
    (hown : ∀ pk ∈ data.address, OwnAddress s user pk) :
    Ensures (fun pk s' => Writes user s₀ s' ∧ OwnAddress s' user pk ∧
        (∀ pk, OwnAddress s user pk → OwnAddress s' user pk) ∧
        s'.devices = s.devices ∧ s'.orders = s.orders)
      (Writes user s₀) (Orders.OrderSerializer.deviceAddress ctx user data) s := by
  unfold Orders.OrderSerializer.deviceAddress
  cases haddress : data.address with
  | some pk => exact ⟨h, hown pk haddress, fun _ => id, rfl, rfl⟩
  | none =>
      refine ensures_bind (ensures_require (fun _ => ensures_get_bind ?_) h)
      split
      · refine ensures_bind (ensures_write (fun s' hs' => ?_) h)
        obtain ⟨t, hins, rfl⟩ := Option.map_eq_some_iff.mp hs'
        exact ⟨h.tail (.insertAddress rfl hins), ownAddress_of_insert? hins rfl,
          fun _ => ownAddress_insert? hins, rfl, rfl⟩
      · next a hrows =>
        have ha : a ∈ [a] := List.mem_singleton_self a
        rw [← hrows, List.mem_filter] at ha
        obtain ⟨hmem, hclient⟩ := ha
        refine ⟨h, ⟨a, Table.find?_of_mem hmem, ?_⟩, fun _ => id, rfl, rfl⟩
        simp only [decide_eq_true_eq] at hclient
        exact hclient.1
      · exact ensures_raise h

/-- The device of an order belongs to the client. -/
theorem ensures_resolveDevice (h : Writes user s₀ s) {data : OrderPayload}
    (hown : ∀ pk ∈ data.address, OwnAddress s user pk) :
    Ensures (fun device s' => Writes user s₀ s' ∧ (∀ pk ∈ device, OwnDevice s' user pk) ∧
        (∀ pk ∈ data.address, OwnAddress s' user pk) ∧ s'.orders = s.orders)
      (Writes user s₀) (Orders.OrderSerializer.resolveDevice ctx user data) s := by
  unfold Orders.OrderSerializer.resolveDevice
  cases data.device with
  | some pk =>
      refine ensures_bind (ensures_fetch (fun d hfind => ?_) h)
      refine ensures_bind (ensures_require (fun huser => ⟨h, ?_, hown, rfl⟩) h)
      rintro _ ⟨⟩
      exact ⟨d, hfind, huser⟩
  | none =>
      refine ensures_ite (fun _ => ⟨h, by simp, hown, rfl⟩) fun _ => ?_
      refine ensures_bind ((ensures_deviceAddress h hown).mono ?_ fun _ => id)
      rintro pk s' - ⟨h', hpk, hkept, -, horders⟩
      refine ensures_bind (ensures_write (fun s'' hs'' => ?_) h')
      obtain ⟨t, hins, rfl⟩ := Option.map_eq_some_iff.mp hs''
      refine ⟨h'.tail (.insertDevice rfl hpk hins), ?_, fun pk hpk => hkept pk (hown pk hpk),
        horders⟩
      rintro _ ⟨⟩
      exact ownDevice_of_insert? hins rfl

theorem onlyWrites_orderCreate (h : Writes user s₀ s) {data : OrderPayload}
    (hown : ∀ pk ∈ data.address, ∀ a, s.addresses.find? pk = some a → a.client = user) :
    OnlyWrites user s₀ (Orders.ClientOrderListCreateView.post ctx user data) s := by
  refine ensures_bind (ensures_requirePk (fun _ => ?_) h)
  refine ensures_bind (ensures_requirePk (fun hfound => ?_) h)
  refine ensures_bind (ensures_requirePk (fun _ => ?_) h)
  refine ensures_bind ((ensures_resolveDevice h (ownAddress_of_found hown hfound)).mono ?_
    fun _ => id)
  rintro device s' - ⟨h', hdevice, haddress, -⟩
  refine ensures_bind (ensures_write (fun s'' hs'' => ?_) h')
  obtain ⟨t, hins, rfl⟩ := Option.map_eq_some_iff.mp hs''
  exact h'.tail (.insertOrder rfl haddress hdevice hins)

theorem onlyWrites_orderCancel (h : Writes user s₀ s) {reason : String} :
    OnlyWrites user s₀ (ClientOrderCancelView.post user pk reason) s := by
  refine ensures_atomic (ensures_bind (ensures_bind (ensures_getClientOrder ?_ trivial))) h
  intro o hfind _ huser
  refine ensures_bind (ensures_require (fun _ => ?_) trivial)
  refine ensures_pure (ensures_bind (ensures_modify ?_))
  exact h.tail (.saveOrder hfind huser huser rfl rfl)

/-- An action that is known when it succeeds. -/
theorem ensures_of_ok {Q : α → DB → Prop} {x : Code α}
    (h : ∀ a s', x s = (.ok a, s') → Q a s') : Ensures Q (fun _ => True) x s := by
  unfold Ensures
  rcases hx : x s with ⟨e | a, s'⟩
  · trivial
  · exact h a s' hx

theorem writes_of_completes {method : PaymentType} {o : Order}
    {credit : Option WalletTransaction} {s' : DB} (h : Completes ctx method o credit s s')
    (huser : o.client = user) : Writes user s s' := by
  have hsave : Write user s { s with orders := s.orders.save (completedOrder ctx method o) } :=
    .saveOrder h.found huser huser rfl rfl
  rw [h.eq]
  exact (Relation.ReflTransGen.single hsave).tail (.other s'.wallet _)

theorem onlyWrites_orderPay (h : Writes user s₀ s) {method : PaymentMethodField} :
    OnlyWrites user s₀ (ClientOrderPayView.post ctx user pk method) s := by
  refine ensures_atomic (ensures_bind (ensures_getClientOrder ?_ trivial)) h
  rintro o hfind rfl huser
  refine ensures_bind (ensures_require (fun _ => ?_) trivial)
  refine ensures_bind (ensures_require (fun _ => ?_) trivial)
  have honline : ∀ method : PaymentType, Ensures (fun _ => Writes user s₀) (fun _ => True)
      (do
        saveOrder { o with paymentType := some .online }
        saveOrder (Order.recalculateTotal { o with paymentType := some .online })
        pure (PayResponse.paymentUrl o.id method)) s := by
    intro method
    refine ensures_bind (ensures_modify (ensures_bind (ensures_modify ?_)))
    have hfirst := h.tail (.saveOrder (o := { o with paymentType := some .online }) hfind huser
      huser rfl rfl)
    have hagain : (s.orders.save { o with paymentType := some .online }).find? o.id =
        some { o with paymentType := some .online } := by
      rw [Table.find?_save (t := s.orders) (r := { o with paymentType := some .online }) hfind]
      exact if_pos rfl
    exact hfirst.tail (.saveOrder hagain huser huser rfl rfl)
  cases method with
  | missing => exact ensures_raise trivial
  | invalid text => exact ensures_raise trivial
  | choice method =>
      cases method with
      | cash =>
          refine ensures_bind (ensures_of_ok fun b s' hrun => ?_)
          refine ensures_bind (ensures_fetch (fun _ _ => ?_) trivial)
          obtain ⟨o', hfind', ⟨-, -, rfl⟩ | ⟨-, credit, hc⟩⟩ := completePaidOrder_ok hrun
          · exact h
          · rw [hfind] at hfind'
            cases hfind'
            exact h.trans (writes_of_completes hc huser)
      | online => exact honline .online
      | card => exact honline .card
      | plastic => exact honline .plastic

end Requests

end Profiles

namespace ClientRequest

open Action

/-- The address that a payload names. -/
def address : ClientRequest → Option Uuid
  | .deviceCreate data => some data.address
  | .deviceUpdate _ data => data.address
  | .orderCreate data => data.address
  | _ => none

/-- The device that a payload names. -/
def device : ClientRequest → Option Uuid
  | .orderCreate data => data.device
  | _ => none

/-- The address that the payload names, if it exists, belongs to the client. -/
def NamesOwnAddress (db : DB) (user : Uuid) (r : ClientRequest) : Prop :=
  ∀ pk ∈ r.address, ∀ a ∈ db.addresses.find? pk, a.client = user

instance decidableNamesOwnAddress (db : DB) (user : Uuid) (r : ClientRequest) :
    Decidable (r.NamesOwnAddress db user) :=
  inferInstanceAs (Decidable (∀ pk ∈ r.address, ∀ a ∈ db.addresses.find? pk, a.client = user))

variable {user : Uuid} {s : DB} {ctx : Context} {c : Collation} {r : ClientRequest}

/-- What a request with no address of another client writes. -/
theorem onlyWrites_handle (howned : Owned s) (hown : r.NamesOwnAddress s user) :
    OnlyWrites user s (r.handle c ctx user) s := by
  have hrefl : Writes user s s := .refl
  have hread : ∀ {α β : Type} {f : DB → α} {g : α → β},
      OnlyWrites user s (g <$> (Action.get >>= fun db => pure (f db) : Code α)) s := by
    intro α β f g
    exact ensures_map (ensures_get_bind hrefl)
  cases r with
  | addressList => exact hread
  | addressCreate data => exact ensures_map (onlyWrites_addressPost hrefl data)
  | addressGet pk => exact ensures_map (ensures_getAddress (fun _ _ _ _ => hrefl) hrefl)
  | addressUpdate pk data => exact ensures_map (onlyWrites_addressUpdate hrefl data)
  | addressDelete pk => exact ensures_map (onlyWrites_addressDelete hrefl)
  | deviceList addressId label => exact hread
  | deviceCreate data =>
      exact ensures_map (onlyWrites_devicePost hrefl fun a ha => hown _ rfl a ha)
  | deviceLocations => exact hread
  | deviceGet pk =>
      exact ensures_map (ensures_bind (ensures_getDevice (fun _ _ _ _ => hrefl) hrefl))
  | deviceUpdate pk data => exact ensures_map (onlyWrites_deviceUpdate hrefl howned hown)
  | deviceDelete pk => exact ensures_map (onlyWrites_deviceDelete hrefl)
  | deviceOrder pk =>
      exact ensures_map (ensures_bind (ensures_getDevice (fun _ _ _ _ => hrefl) hrefl))
  | orderList status => exact hread
  | orderRecent => exact hread
  | orderCreate data =>
      exact ensures_bind ((onlyWrites_orderCreate hrefl hown).mono (fun _ _ _ h => h) fun _ => id)
  | orderGet pk =>
      exact ensures_map (ensures_bind (ensures_getClientOrder (fun _ _ _ _ => hrefl) hrefl))
  | orderCancel pk reason => exact ensures_bind (onlyWrites_orderCancel hrefl)
  | orderPay pk method =>
      refine ensures_bind ((onlyWrites_orderPay hrefl).mono (fun response _ _ h => ?_) fun _ => id)
      cases response with
      | completed o => exact h
      | paymentUrl pk method => exact h

theorem owned_handle (howned : Owned s) (hown : r.NamesOwnAddress s user) :
    Owned (r.handle c ctx user s).2 :=
  howned.writes (onlyWrites_handle howned hown).store

end ClientRequest

end Homex
