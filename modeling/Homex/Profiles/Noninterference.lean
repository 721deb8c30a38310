import Homex.Payme.Retries
import Homex.Profiles.Ownership

/-!
# Clients do not see each other

`visible` is the part of the database that belongs to one client. As long as
payloads name rows of their own client, the requests of the others leave that
part alone, and the client's own requests do and answer on it alone what they do
and answer on the whole. So the answers of a client depend on nothing that the
others have, or do.

`ClientDeviceSerializer` and `OrderSerializer` look a named address up among all
addresses. A device may refer to the address of another client, whose text is
then part of the answer.
-/

namespace Homex

open Relational Orders Profiles Wallet

namespace Profiles

open Action Code

/-- The part of the database that belongs to a client. -/
def visible (user : Uuid) (db : DB) : DB where
  addresses := db.addresses.restrict fun a => a.client = user
  devices := db.devices.restrict fun d => d.client = user
  orders := db.orders.restrict fun o => o.client = user
  services := db.services

section Writes

variable {user A pk : Uuid} {db db' : DB}

theorem find?_visible_address (h : OwnAddress db A pk) :
    (visible A db).addresses.find? pk = db.addresses.find? pk := by
  obtain ⟨a, hfind, ha⟩ := h
  change (db.addresses.restrict _).find? pk = _
  rw [Table.find?_restrict, hfind]
  simp [ha]

theorem find?_visible_device (h : OwnDevice db A pk) :
    (visible A db).devices.find? pk = db.devices.find? pk := by
  obtain ⟨d, hfind, hd⟩ := h
  change (db.devices.restrict _).find? pk = _
  rw [Table.find?_restrict, hfind]
  simp [hd]

/-- Devices that go are forgotten by the orders of their own client. -/
theorem visible_deleteDevices (h : Owned db) (gone : ClientDevice → Bool) :
    visible A (deleteDevices gone db) = deleteDevices gone (visible A db) := by
  unfold visible deleteDevices
  congr 1
  · exact Table.restrict_comm ..
  · rw [Table.restrict_mapRows (key_forgetDevices _) fun _ => rfl]
    refine Table.mapRows_congr (key_forgetDevices _) (key_forgetDevices _) fun o ho => ?_
    obtain ⟨ho, huser⟩ := Table.mem_restrict_decide.mp ho
    refine forgetDevices_congr fun pk hpk => ?_
    have hown := h.orderDevice o ho pk hpk
    rw [huser] at hown
    rw [← find?_visible_device hown]
    rfl

theorem visible_dropAddress : visible A (dropAddress pk db) = dropAddress pk (visible A db) := by
  unfold visible dropAddress
  congr 1
  · exact Table.restrict_comm ..
  · exact Table.restrict_mapRows (key_forgetAddress pk) fun _ => rfl

theorem visible_deleteAddress (h : Owned db) :
    visible A (deleteAddress pk db) = deleteAddress pk (visible A db) := by
  unfold deleteAddress
  rw [visible_dropAddress, visible_deleteDevices h]

/-- An address of another client goes unnoticed. -/
theorem visible_dropAddress_of_ne (h : Owned db) (hpk : ¬OwnAddress db A pk) :
    visible A (dropAddress pk db) = visible A db := by
  have hdelete : (visible A db).addresses.delete pk = (visible A db).addresses := by
    refine (Table.restrict_congr fun a ha => ?_).trans (Table.restrict_restrict_self (p :=
      fun a : ClientAddress => decide (a.client = A)))
    obtain ⟨ha, huser⟩ := Table.mem_restrict.mp ha
    rw [huser, decide_eq_true_eq]
    rintro rfl
    exact hpk ⟨a, Table.find?_of_mem ha, by simpa using huser⟩
  have horders : (visible A db).orders.mapRows (forgetAddress pk) (key_forgetAddress pk) =
      (visible A db).orders := by
    refine Table.mapRows_eq_self (key_forgetAddress pk) fun o ho => ?_
    obtain ⟨ho, huser⟩ := Table.mem_restrict_decide.mp ho
    refine forgetAddress_eq_self fun haddress => hpk ?_
    have hown := h.orderAddress o ho pk haddress
    rw [huser] at hown
    exact hown
  rw [visible_dropAddress]
  unfold dropAddress
  rw [hdelete, horders]

/-- Devices of another client go unnoticed. -/
theorem visible_deleteDevices_of_ne (h : Owned db) {gone : ClientDevice → Bool}
    (hgone : ∀ d ∈ db.devices.rows, gone d = true → d.client ≠ A) :
    visible A (deleteDevices gone db) = visible A db := by
  have hrows : (visible A db).devices.restrict (fun d => !gone d) = (visible A db).devices := by
    refine (Table.restrict_congr fun d hd => ?_).trans (Table.restrict_restrict_self (p :=
      fun d : ClientDevice => decide (d.client = A)))
    obtain ⟨hd, huser⟩ := Table.mem_restrict.mp hd
    rw [huser]
    cases hg : gone d with
    | false => rfl
    | true => exact absurd (by simpa using huser) (hgone d hd hg)
  rw [visible_deleteDevices h]
  unfold deleteDevices
  rw [hrows]
  congr 1
  refine Table.mapRows_eq_self (key_forgetDevices _) fun o ho => ?_
  obtain ⟨ho, huser⟩ := Table.mem_restrict.mp ho
  refine forgetDevices_eq_self fun pk _ => ?_
  cases hfind : (visible A db).devices.find? pk with
  | none => rfl
  | some d =>
      obtain ⟨hd, hA⟩ := Table.mem_restrict_decide.mp (Table.mem_of_find? hfind)
      cases hg : gone d with
      | false => exact hg
      | true => exact absurd hA (hgone d hd hg)

/-- The step lemma for a write: the others do not see it. -/
theorem visible_of_write (h : Owned db) (hw : Write user db db') (hne : user ≠ A) :
    visible A db' = visible A db := by
  have hno : ∀ {u : Uuid}, u = user → decide (u = A) = false := by
    rintro _ rfl
    exact decide_eq_false hne
  cases hw with
  | insertAddress huser hins =>
      unfold visible
      rw [Table.restrict_of_insert? hins (hno huser)]
  | saveAddress hfind hold huser =>
      unfold visible
      rw [Table.restrict_of_save (t := db.addresses) hfind (hno hold) (hno huser)]
  | clearDefault =>
      have hsame : (visible A db).addresses.mapRows (unsetDefault user) (key_unsetDefault user) =
          (visible A db).addresses := by
        refine Table.mapRows_eq_self (key_unsetDefault user) fun a ha => ?_
        obtain ⟨-, huser⟩ := Table.mem_restrict_decide.mp ha
        have hother : a.client ≠ user := by
          rw [huser]
          exact hne.symm
        unfold unsetDefault
        rw [if_neg hother]
      unfold visible clearDefault
      rw [Table.restrict_mapRows (key_unsetDefault user) fun _ => rfl]
      exact congrArg (fun t => { visible A db with addresses := t }) hsame
  | @deleteAddress pk hown =>
      obtain ⟨a, hfind, ha⟩ := hown
      have hothers : ¬OwnAddress db A pk := by
        rintro ⟨b, hb, hA⟩
        rw [hfind] at hb
        cases hb
        exact hne (ha.symm.trans hA)
      have hdevices := @visible_deleteDevices_of_ne A db h (fun d => d.address = pk)
        fun d hd hgone hA => hothers (by
          have hown := h.device d hd
          rw [hA, show d.address = pk by simpa using hgone] at hown
          exact hown)
      unfold deleteAddress
      rw [visible_dropAddress_of_ne (h.deleteDevices _) hothers]
      exact hdevices
  | insertDevice huser _ hins =>
      unfold visible
      rw [Table.restrict_of_insert? hins (hno huser)]
  | saveDevice hfind hold huser =>
      unfold visible
      rw [Table.restrict_of_save (t := db.devices) hfind (hno hold) (hno huser)]
  | @deleteDevice pk hown =>
      obtain ⟨d, hfind, hd⟩ := hown
      refine visible_deleteDevices_of_ne h fun d' hd' hgone hA => ?_
      have hid : d'.id = pk := by simpa using hgone
      have hfind' : db.devices.find? d'.id = some d' := Table.find?_of_mem hd'
      rw [hid, hfind] at hfind'
      cases hfind'
      exact hne (hd.symm.trans hA)
  | insertOrder huser _ _ hins =>
      unfold visible
      rw [Table.restrict_of_insert? hins (hno huser)]
  | saveOrder hfind hold huser =>
      unfold visible
      rw [Table.restrict_of_save (t := db.orders) hfind (hno hold) (hno huser)]
  | other => rfl

end Writes

/-! ### What a client does on its own part -/

section Reads

variable {A pk : Uuid} {s : DB} {ctx : Context} {c : Collation}

theorem newest_visible {q : Order → Bool} (hq : ∀ o ∈ s.orders.rows, q o = true → o.client = A) :
    newest (visible A s).orders q = newest s.orders q := by
  unfold newest
  rw [← Table.restrict_restrict_of_imp (p := fun o => decide (o.client = A)) fun o ho h =>
    decide_eq_true (hq o ho h)]
  rfl

/-- The orders of a device are those of its client. -/
theorem deviceOrders_visible (h : Owned s) {d : ClientDevice} (hd : OwnDevice s A d.id) :
    deviceOrders (visible A s) d = deviceOrders s d := by
  obtain ⟨d', hfind, huser⟩ := hd
  refine newest_visible fun o ho hdevice => ?_
  obtain ⟨d'', hfind', huser'⟩ := h.orderDevice o ho d.id (by simpa using hdevice)
  rw [hfind] at hfind'
  cases hfind'
  exact huser'.symm.trans huser

theorem deviceData_visible (h : Owned s) {d : ClientDevice} (hd : OwnDevice s A d.id)
    (haddress : OwnAddress s A d.address) :
    ClientDeviceSerializer.data (visible A s) d = ClientDeviceSerializer.data s d := by
  unfold ClientDeviceSerializer.data
  rw [find?_visible_address haddress, deviceOrders_visible h hd]

/-- What a device row of the client shows. -/
theorem deviceData_visible_of_mem (h : Owned s) {d : ClientDevice} (hd : d ∈ s.devices.rows)
    (huser : d.client = A) :
    ClientDeviceSerializer.data (visible A s) d = ClientDeviceSerializer.data s d :=
  deviceData_visible h ⟨d, Table.find?_of_mem hd, huser⟩ (huser ▸ h.device d hd)

theorem orderData_visible (h : Owned s) {o : Order} (hdevice : ∀ pk ∈ o.device, OwnDevice s A pk) :
    Profiles.OrderSerializer.data (visible A s) o = Profiles.OrderSerializer.data s o := by
  unfold Profiles.OrderSerializer.data deviceDetail
  cases hd : o.device with
  | none => rfl
  | some pk =>
      obtain ⟨d, hfind, huser⟩ := hdevice pk hd
      rw [Option.bind_some, Option.bind_some, find?_visible_device (hdevice pk hd), hfind,
        Option.map_some, Option.map_some,
        deviceData_visible_of_mem h (Table.mem_of_find? hfind) huser]

theorem orderData_visible_of_mem (h : Owned s) {o : Order} (ho : o ∈ s.orders.rows)
    (huser : o.client = A) :
    Profiles.OrderSerializer.data (visible A s) o = Profiles.OrderSerializer.data s o :=
  orderData_visible h fun pk hpk => huser ▸ h.orderDevice o ho pk hpk

theorem clientAddresses_visible : clientAddresses c A (visible A s) = clientAddresses c A s := by
  unfold clientAddresses visible
  rw [Table.restrict_restrict_self]

theorem deviceLocations_visible (h : Owned s) :
    deviceLocations c A (visible A s) = deviceLocations c A s := by
  unfold deviceLocations
  rw [clientAddresses_visible]
  refine List.map_congr_left fun a ha => ?_
  obtain ⟨ha, huser⟩ := Table.mem_restrict_decide.mp (List.mem_mergeSort.mp ha)
  have hcount : (visible A s).devices.restrict (fun d => decide (d.address = a.id)) =
      s.devices.restrict fun d => decide (d.address = a.id) := by
    refine Table.restrict_restrict_of_imp fun d hd hat => ?_
    obtain ⟨b, hfind, hb⟩ := h.device d hd
    rw [show d.address = a.id by simpa using hat] at hfind
    have hfind' : s.addresses.find? a.id = some a := Table.find?_of_mem ha
    rw [hfind] at hfind'
    cases hfind'
    exact decide_eq_true (hb.symm.trans huser)
  exact congrArg (fun t : Table ClientDevice => (a, t.rows.length)) hcount

theorem clientDevices_visible (h : Owned s) (addressId : Option Uuid) (label : String) :
    clientDevices c A addressId label (visible A s) = clientDevices c A addressId label s := by
  have hrows : ∀ q : ClientDevice → Bool, (visible A s).devices.restrict
      (fun d => decide (d.client = A) && q d) = s.devices.restrict fun d =>
        decide (d.client = A) && q d := by
    intro q
    refine Table.restrict_restrict_of_imp fun d _ hd => ?_
    exact (Bool.and_eq_true_iff.mp hd).1
  unfold clientDevices newest
  simp only [Bool.and_assoc, hrows]
  have hsame : s.devices.restrict (fun d => decide (d.client = A) &&
      (addressId.all (fun pk => decide (d.address = pk)) && (decide (label = "") ||
        ((visible A s).addresses.find? d.address).any fun a => c.icontains a.label label))) =
      s.devices.restrict fun d => decide (d.client = A) &&
      (addressId.all (fun pk => decide (d.address = pk)) && (decide (label = "") ||
        (s.addresses.find? d.address).any fun a => c.icontains a.label label)) := by
    refine Table.restrict_congr fun d hd => ?_
    by_cases huser : d.client = A
    · rw [find?_visible_address (huser ▸ h.device d hd)]
    · rw [decide_eq_false huser, Bool.false_and, Bool.false_and]
  rw [hsame]
  refine List.map_congr_left fun d hd => ?_
  obtain ⟨hd, hshown⟩ := Table.mem_restrict.mp (List.mem_reverse.mp hd)
  have huser : d.client = A := by simpa using (Bool.and_eq_true_iff.mp hshown).1
  exact deviceData_visible_of_mem h hd huser

/-- A list of orders of the client, and what it shows. -/
theorem orders_visible (h : Owned s) {q : Order → Bool}
    (hq : ∀ o ∈ s.orders.rows, q o = true → o.client = A) (f : List Order → List Order)
    (hf : ∀ l, ∀ o ∈ f l, o ∈ l) :
    (f (newest (visible A s).orders q)).map (Profiles.OrderSerializer.data (visible A s)) =
      (f (newest s.orders q)).map (Profiles.OrderSerializer.data s) := by
  rw [newest_visible hq]
  refine List.map_congr_left fun o ho => ?_
  obtain ⟨ho, hshown⟩ := Table.mem_restrict.mp (List.mem_reverse.mp (hf _ o ho))
  exact orderData_visible_of_mem h ho (hq o ho hshown)

theorem commutes_getAddress : Commutes (visible A) (getAddress A pk) s := by
  refine commutes_fetch ?_
  change ((s.addresses.restrict _).find? pk).filter _ = _
  rw [Table.find?_restrict, Option.filter_filter]
  simp

theorem commutes_getDevice : Commutes (visible A) (getDevice A pk) s := by
  refine commutes_fetch ?_
  change ((s.devices.restrict _).find? pk).filter _ = _
  rw [Table.find?_restrict, Option.filter_filter]
  simp

theorem run_getOrder_some {o : Order} (h : s.orders.find? pk = some o) :
    getOrder pk s = (.ok o, s) :=
  run_fetch_some h

theorem run_getOrder_none (h : s.orders.find? pk = none) :
    getOrder pk s = (.error (.notFound "Order"), s) :=
  run_fetch_none h

theorem commutes_getClientOrder : Commutes (visible A) (getClientOrder pk A) s := by
  have hfind : (visible A s).orders.find? pk =
      (s.orders.find? pk).filter fun o => decide (o.client = A) := Table.find?_restrict ..
  unfold Commutes getClientOrder
  cases ho : s.orders.find? pk with
  | none =>
      rw [ho, Option.filter_none] at hfind
      rw [run_bind_error (run_getOrder_none hfind), run_bind_error (run_getOrder_none ho)]
  | some o =>
      rw [ho, Option.filter_some] at hfind
      rw [run_bind_ok (run_getOrder_some ho)]
      by_cases huser : o.client = A
      · rw [if_pos (decide_eq_true huser)] at hfind
        rw [run_bind_ok (run_getOrder_some hfind), run_bind_ok (run_require huser),
          run_bind_ok (run_require huser)]
        rfl
      · rw [if_neg (by simpa using huser)] at hfind
        rw [run_bind_error (run_getOrder_none hfind), run_bind_error (run_require_not huser)]

end Reads

/-- The ids that `uuid4` draws are new. -/
structure Fresh (ctx : Context) (db : DB) : Prop where
  address : db.addresses.find? (ctx.uuid .address) = none
  device : db.devices.find? (ctx.uuid .device) = none
  order : db.orders.find? (ctx.uuid .order) = none
  transaction : Payme.DrawsFresh ctx db

instance decidableFresh (ctx : Context) (db : DB) : Decidable (Fresh ctx db) :=
  decidable_of_iff
    (db.addresses.find? (ctx.uuid .address) = none ∧ db.devices.find? (ctx.uuid .device) = none ∧
      db.orders.find? (ctx.uuid .order) = none ∧
      db.wallet.transactions.find? (ctx.uuid .walletTransaction) = none)
    ⟨fun h => ⟨h.1, h.2.1, h.2.2.1, h.2.2.2⟩,
      fun h => ⟨h.address, h.device, h.order, h.transaction⟩⟩

section Requests

variable {A pk : Uuid} {s s' : DB} {ctx : Context} {c : Collation}

theorem getAddress_ok {a : ClientAddress} (h : getAddress A pk s = (.ok a, s')) :
    s.addresses.find? a.id = some a ∧ a.client = A ∧ s' = s := by
  obtain ⟨ha, rfl⟩ := fetch_eq_ok.mp h
  obtain ⟨hfind, -, huser⟩ := find?_of_filter ha
  exact ⟨hfind, huser, rfl⟩

theorem getDevice_ok {d : ClientDevice} (h : getDevice A pk s = (.ok d, s')) :
    d ∈ s.devices.rows ∧ d.client = A ∧ s' = s := by
  obtain ⟨hd, rfl⟩ := fetch_eq_ok.mp h
  obtain ⟨hfind, huser⟩ := Option.filter_eq_some_iff.mp hd
  exact ⟨Table.mem_of_find? hfind, by simpa using huser, rfl⟩

theorem requirePk_ok {ρ : Type} [Keyed ρ Uuid] {table : DB → Table ρ} {field : String}
    {pk? : Option Uuid} {u : Unit} (h : requirePk table field pk? s = (.ok u, s')) :
    (∀ pk ∈ pk?, ((table s).find? pk).isSome) ∧ s' = s := by
  cases pk? with
  | none =>
      obtain ⟨-, rfl⟩ := pure_eq_ok.mp h
      exact ⟨by simp, rfl⟩
  | some pk =>
      simp only [requirePk, bind_eq_ok, get_eq_ok, require_eq_ok] at h
      obtain ⟨_, _, ⟨rfl, rfl⟩, hfound, rfl⟩ := h
      exact ⟨by simpa using hfound, rfl⟩

/-- A named row that is looked up, when it belongs to the client or is not there. -/
theorem commutes_requirePk {ρ : Type} [Keyed ρ Uuid] {table : DB → Table ρ} {field : String}
    {pk? : Option Uuid}
    (h : ∀ pk ∈ pk?, (table (visible A s)).find? pk = (table s).find? pk) :
    Commutes (visible A) (requirePk table field pk?) s := by
  cases pk? with
  | none => exact commutes_pure
  | some pk =>
      refine commutes_get_bind ?_ commutes_require
      rw [h pk rfl]

/-- An id that names no row of another client is found alike. -/
theorem find?_visible_of_own {pk? : Option Uuid}
    (h : ∀ pk ∈ pk?, ∀ a, s.addresses.find? pk = some a → a.client = A) :
    ∀ pk ∈ pk?, (visible A s).addresses.find? pk = s.addresses.find? pk := by
  intro pk hpk
  cases hfind : s.addresses.find? pk with
  | some a => rw [find?_visible_address ⟨a, hfind, h pk hpk a hfind⟩, hfind]
  | none =>
      change (s.addresses.restrict _).find? pk = none
      rw [Table.find?_restrict, hfind, Option.filter_none]

theorem find?_visible_of_ownDevice {pk? : Option Uuid}
    (h : ∀ pk ∈ pk?, ∀ d, s.devices.find? pk = some d → d.client = A) :
    ∀ pk ∈ pk?, (visible A s).devices.find? pk = s.devices.find? pk := by
  intro pk hpk
  cases hfind : s.devices.find? pk with
  | some d => rw [find?_visible_device ⟨d, hfind, h pk hpk d hfind⟩, hfind]
  | none =>
      change (s.devices.restrict _).find? pk = none
      rw [Table.find?_restrict, hfind, Option.filter_none]

theorem commutes_createAddress {a : ClientAddress} (huser : a.client = A)
    (hnone : s.addresses.find? a.id = none) : Commutes (visible A) (createAddress a) s := by
  obtain ⟨t, hins⟩ := Table.exists_insert? (t := s.addresses) (r := a) hnone
  refine commutes_write ?_
  change ((s.addresses.restrict _).insert? a).map _ = ((s.addresses.insert? a).map _).map _
  rw [hins, Table.insert?_restrict hins (decide_eq_true huser)]
  rfl

theorem commutes_createDevice {d : ClientDevice} (huser : d.client = A)
    (hnone : s.devices.find? d.id = none) : Commutes (visible A) (createDevice d) s := by
  obtain ⟨t, hins⟩ := Table.exists_insert? (t := s.devices) (r := d) hnone
  refine commutes_write ?_
  change ((s.devices.restrict _).insert? d).map _ = ((s.devices.insert? d).map _).map _
  rw [hins, Table.insert?_restrict hins (decide_eq_true huser)]
  rfl

theorem commutes_createOrder {o : Order} (huser : o.client = A)
    (hnone : s.orders.find? o.id = none) : Commutes (visible A) (createOrder o) s := by
  obtain ⟨t, hins⟩ := Table.exists_insert? (t := s.orders) (r := o) hnone
  refine commutes_write ?_
  change ((s.orders.restrict _).insert? o).map _ = ((s.orders.insert? o).map _).map _
  rw [hins, Table.insert?_restrict hins (decide_eq_true huser)]
  rfl

theorem visible_saveAddress {a old : ClientAddress} (hfind : s.addresses.find? a.id = some old)
    (hold : old.client = A) (huser : a.client = A) :
    visible A { s with addresses := s.addresses.save a } =
      { visible A s with addresses := (visible A s).addresses.save a } := by
  unfold visible
  rw [Table.restrict_save (t := s.addresses) hfind (decide_eq_true hold) (decide_eq_true huser)]

theorem visible_saveDevice {d old : ClientDevice} (hfind : s.devices.find? d.id = some old)
    (hold : old.client = A) (huser : d.client = A) :
    visible A { s with devices := s.devices.save d } =
      { visible A s with devices := (visible A s).devices.save d } := by
  unfold visible
  rw [Table.restrict_save (t := s.devices) hfind (decide_eq_true hold) (decide_eq_true huser)]

theorem visible_saveOrder {o old : Order} (hfind : s.orders.find? o.id = some old)
    (hold : old.client = A) (huser : o.client = A) :
    visible A { s with orders := s.orders.save o } =
      { visible A s with orders := (visible A s).orders.save o } := by
  unfold visible
  rw [Table.restrict_save (t := s.orders) hfind (decide_eq_true hold) (decide_eq_true huser)]

theorem commutes_addressPost (hfresh : Fresh ctx s) (data : AddressPayload) :
    Commutes (visible A) (ClientAddressListCreateView.post ctx A data) s := by
  unfold ClientAddressListCreateView.post
  by_cases hdefault : data.isDefault = true
  · simp only [if_pos hdefault]
    refine commutes_bind (commutes_modify ?_) fun _ s' hs' => ?_
    · unfold visible clearDefault
      rw [Table.restrict_mapRows (key_unsetDefault A) fun _ => rfl]
    · obtain rfl := modify_eq_ok.mp hs'
      refine commutes_bind (commutes_createAddress rfl ?_) fun _ _ _ => commutes_pure
      refine (Table.find?_mapRows (t := s.addresses) (key_unsetDefault A) _).trans ?_
      rw [hfresh.address]
      rfl
  · simp only [if_neg hdefault]
    exact commutes_bind (commutes_createAddress rfl hfresh.address) fun _ _ _ => commutes_pure

theorem commutes_addressUpdate {data : AddressUpdate} :
    Commutes (visible A) (ClientAddressDetailView.update A pk data) s := by
  refine commutes_bind commutes_getAddress fun a s' hs' => ?_
  obtain ⟨hfind, huser, rfl⟩ := getAddress_ok hs'
  have hsave := visible_saveAddress (a := data.apply a) hfind huser huser
  exact commutes_bind (commutes_modify hsave.symm) fun _ _ _ => commutes_pure

theorem commutes_addressDelete (h : Owned s) :
    Commutes (visible A) (ClientAddressDetailView.delete A pk) s := by
  refine commutes_bind commutes_getAddress fun a s' hs' => ?_
  obtain ⟨-, -, rfl⟩ := getAddress_ok hs'
  exact commutes_modify (visible_deleteAddress h).symm

theorem commutes_deviceDelete (h : Owned s) :
    Commutes (visible A) (ClientDeviceDetailView.delete A pk) s := by
  refine commutes_bind commutes_getDevice fun d s' hs' => ?_
  obtain ⟨-, -, rfl⟩ := getDevice_ok hs'
  exact commutes_modify (visible_deleteDevices h _).symm

/-- The device that was written is shown from the client's part. -/
theorem commutes_showDevice (h : Owned s) {d : ClientDevice} (hd : d ∈ s.devices.rows)
    (huser : d.client = A) : Commutes (visible A)
      (do let db ← Action.get; pure (ClientDeviceSerializer.data db d) : Code DeviceData) s := by
  refine commutes_get_bind ?_ commutes_pure
  rw [deviceData_visible_of_mem h hd huser]

theorem commutes_devicePost (h : Owned s) (hfresh : Fresh ctx s) {data : DevicePayload}
    (hown : ∀ a, s.addresses.find? data.address = some a → a.client = A) :
    Commutes (visible A) (ClientDeviceListCreateView.post ctx A data) s := by
  have hown' : ∀ pk ∈ some data.address, ∀ a, s.addresses.find? pk = some a → a.client = A := by
    rintro _ ⟨⟩
    exact hown
  refine commutes_bind (commutes_requirePk (find?_visible_of_own hown')) fun _ s' hs' => ?_
  obtain ⟨hfound, rfl⟩ := requirePk_ok hs'
  refine commutes_bind (commutes_createDevice rfl hfresh.device) fun _ s' hs' => ?_
  simp only [createDevice, write_eq_ok, Option.map_eq_some_iff] at hs'
  obtain ⟨t, hins, rfl⟩ := hs'
  have haddress := ownAddress_of_found hown' hfound data.address rfl
  have hmem := (Table.mem_insert? hins).mpr (Or.inr rfl)
  exact commutes_showDevice (h.write (.insertDevice rfl haddress hins)) hmem rfl

theorem commutes_deviceUpdate (h : Owned s) {data : DeviceUpdate}
    (hown : ∀ pk ∈ data.address, ∀ a, s.addresses.find? pk = some a → a.client = A) :
    Commutes (visible A) (ClientDeviceDetailView.update A pk data) s := by
  refine commutes_bind commutes_getDevice fun d s' hs' => ?_
  obtain ⟨hd, huser, rfl⟩ := getDevice_ok hs'
  refine commutes_bind (commutes_requirePk (find?_visible_of_own hown)) fun _ s'' hs'' => ?_
  obtain ⟨hfound, rfl⟩ := requirePk_ok hs''
  have hfind : s''.devices.find? d.id = some d := Table.find?_of_mem hd
  have haddress : OwnAddress s'' A (data.address.getD d.address) := by
    cases haddress : data.address with
    | some pk => exact ownAddress_of_found hown hfound pk haddress
    | none => exact huser ▸ h.device d hd
  have hwrite : Write A s'' { s'' with devices := s''.devices.save (data.apply d) } :=
    .saveDevice hfind huser huser haddress
  have hsaved : (s''.devices.save (data.apply d)).find? d.id = some (data.apply d) :=
    (Table.find?_save (t := s''.devices) (r := data.apply d) hfind d.id).trans (if_pos rfl)
  have hsave := visible_saveDevice (d := data.apply d) hfind huser huser
  refine commutes_bind (commutes_modify hsave.symm) fun _ s' hs' => ?_
  obtain rfl := modify_eq_ok.mp hs'
  exact commutes_showDevice (h.write hwrite) (Table.mem_of_find? hsaved) huser

theorem commutes_deviceAddress (hfresh : Fresh ctx s) {data : OrderPayload} :
    Commutes (visible A) (Orders.OrderSerializer.deviceAddress ctx A data) s := by
  unfold Orders.OrderSerializer.deviceAddress
  cases data.address with
  | some pk => exact commutes_pure
  | none =>
      refine commutes_bind commutes_require fun _ s' hs' => ?_
      obtain ⟨-, heq⟩ := require_eq_ok.mp hs'
      subst heq
      have hrows : (visible A s).addresses.rows.filter
          (fun a => decide (a.client = A ∧ a.lat = data.lat ∧ a.lng = data.lng)) =
          s.addresses.rows.filter
            fun a => decide (a.client = A ∧ a.lat = data.lat ∧ a.lng = data.lng) := by
        refine congrArg Table.rows (Table.restrict_restrict_of_imp (t := s.addresses)
          fun a _ ha => ?_)
        rw [decide_eq_true_eq] at ha
        exact decide_eq_true ha.1
      refine commutes_get_bind ?_ ?_
      · rw [hrows]
      · split
        · exact commutes_bind (commutes_createAddress rfl hfresh.address) fun _ _ _ => commutes_pure
        · exact commutes_pure
        · exact commutes_raise

theorem commutes_resolveDevice (hfresh : Fresh ctx s) {data : OrderPayload}
    (haddress : ∀ pk ∈ data.address, OwnAddress s A pk)
    (hdevice : ∀ pk ∈ data.device, ∀ d, s.devices.find? pk = some d → d.client = A) :
    Commutes (visible A) (Orders.OrderSerializer.resolveDevice ctx A data) s := by
  unfold Orders.OrderSerializer.resolveDevice
  cases hd : data.device with
  | some pk =>
      refine commutes_bind (commutes_fetch ?_) fun d s' hs' => ?_
      · exact find?_visible_of_ownDevice hdevice pk hd
      · exact commutes_bind commutes_require fun _ _ _ => commutes_pure
  | none =>
      refine commutes_ite (fun _ => commutes_pure) fun _ => ?_
      refine commutes_bind (commutes_deviceAddress hfresh) fun pk s' hs' => ?_
      obtain ⟨-, -, -, hdevices, -⟩ := (ensures_deviceAddress .refl haddress).of_ok hs'
      refine commutes_bind (commutes_createDevice rfl ?_) fun _ _ _ => commutes_pure
      rw [hdevices]
      exact hfresh.device

/-- The order that was written is shown from the client's part. -/
theorem commutes_ofOrder (h : Owned s) {o : Order} (ho : o ∈ s.orders.rows) (huser : o.client = A) :
    Commutes (visible A) (ClientResponse.ofOrder o) s := by
  refine commutes_get_bind ?_ commutes_pure
  rw [orderData_visible_of_mem h ho huser]

theorem commutes_orderCreate (h : Owned s) (hfresh : Fresh ctx s) {data : OrderPayload}
    (hown : ∀ pk ∈ data.address, ∀ a, s.addresses.find? pk = some a → a.client = A)
    (hdevice : ∀ pk ∈ data.device, ∀ d, s.devices.find? pk = some d → d.client = A) :
    Commutes (visible A)
      (Orders.ClientOrderListCreateView.post ctx A data >>= ClientResponse.ofOrder) s := by
  refine commutes_bind ?_ fun o s' hs' => ?_
  · refine commutes_bind (commutes_requirePk fun _ _ => rfl) fun _ s' hs' => ?_
    obtain ⟨-, rfl⟩ := requirePk_ok hs'
    refine commutes_bind (commutes_requirePk (find?_visible_of_own hown)) fun _ s'' hs'' => ?_
    obtain ⟨hfound, rfl⟩ := requirePk_ok hs''
    refine commutes_bind (commutes_requirePk (find?_visible_of_ownDevice hdevice))
      fun _ s' hs' => ?_
    obtain ⟨-, rfl⟩ := requirePk_ok hs'
    have haddress := ownAddress_of_found hown hfound
    refine commutes_bind (commutes_resolveDevice hfresh haddress hdevice) fun device s'' hs'' => ?_
    obtain ⟨-, -, -, horders⟩ := (ensures_resolveDevice .refl haddress).of_ok hs''
    refine commutes_bind (commutes_createOrder rfl ?_) fun _ _ _ => commutes_pure
    rw [horders]
    exact hfresh.order
  · have howned : Owned s' := h.writes ((onlyWrites_orderCreate .refl hown).of_ok hs')
    have hmem : o ∈ s'.orders.rows ∧ o.client = A := by
      simp only [Orders.ClientOrderListCreateView.post, Orders.OrderSerializer.create, bind_eq_ok,
        createOrder, write_eq_ok, Option.map_eq_some_iff, pure_eq_ok] at hs'
      obtain ⟨_, _, -, _, _, -, _, _, -, device, _, -, _, _, ⟨t, hins, rfl⟩, rfl, rfl⟩ := hs'
      exact ⟨(Table.mem_insert? hins).mpr (Or.inr rfl), rfl⟩
    exact commutes_ofOrder howned hmem.1 hmem.2

theorem lockClientOrder_client {allowed : List OrderStatus} {o : Order}
    (h : lockClientOrder pk A allowed s = (.ok o, s')) :
    s.orders.find? o.id = some o ∧ o.client = A ∧ s' = s := by
  simp only [lockClientOrder, checkTransition, bind_eq_ok, require_eq_ok, pure_eq_ok] at h
  obtain ⟨_, _, hget, _, _, ⟨-, rfl⟩, rfl, rfl⟩ := h
  obtain ⟨hfind, rfl, huser, rfl⟩ := getClientOrder_ok hget
  exact ⟨hfind, huser, rfl⟩

theorem commutes_orderCancel (h : Owned s) {reason : String} :
    Commutes (visible A)
      (ClientOrderCancelView.post A pk reason >>= ClientResponse.ofOrder) s := by
  refine commutes_bind (commutes_atomic (commutes_bind (commutes_bind commutes_getClientOrder
    fun o s' hs' => commutes_bind commutes_require fun _ _ _ => commutes_pure)
    fun o s' hs' => ?_)) fun o s' hs' => ?_
  · obtain ⟨hfind, huser, rfl⟩ := lockClientOrder_client hs'
    exact commutes_bind (commutes_modify (visible_saveOrder
      (o := { o with status := .cancelled, cancelReason := reason }) hfind huser huser).symm)
      fun _ _ _ => commutes_pure
  · have howned : Owned s' := h.writes ((onlyWrites_orderCancel .refl).of_ok hs')
    simp only [ClientOrderCancelView.post, atomic_eq_ok, bind_eq_ok, saveOrder, modify_eq_ok,
      pure_eq_ok] at hs'
    obtain ⟨o', _, hlock, _, _, rfl, rfl, rfl⟩ := hs'
    obtain ⟨hfind, huser, rfl⟩ := lockClientOrder_client hlock
    refine commutes_ofOrder howned (Table.mem_of_find? (k := o'.id) ?_) huser
    exact (Table.find?_save (r := { o' with status := .cancelled, cancelReason := reason })
      hfind o'.id).trans (if_pos rfl)

/-! ### Paying -/

section Pay

open Payme in
/-- A completion fails when its credit does. -/
theorem completePaidOrder_error_iff {method : PaymentType} {o : Order} {e : Error}
    (hfind : s.orders.find? pk = some o) :
    completePaidOrder ctx pk method s = (.error e, s') ↔
      s' = s ∧ o.status = .awaitingPayment ∧
        ∃ s₁, creditMaster ctx (completedOrder ctx method o) method
          { s with orders := s.orders.save (completedOrder ctx method o) } = (.error e, s₁) := by
  have hfetch : fetch (fun db : DB => db.orders.find? pk) (Error.serverError "DoesNotExist") s =
      (.ok o, s) := run_fetch_some hfind
  unfold completePaidOrder
  rw [atomic_eq_error, run_bind_ok hfetch]
  refine and_congr_right fun _ => ?_
  by_cases hst : o.status = .awaitingPayment
  · rw [if_neg (not_not.mpr hst), run_bind_ok run_saveOrder]
    constructor
    · rintro ⟨s₁, hrun⟩
      rcases bind_error hrun with hcredit | ⟨_, _, -, hrest⟩
      · exact ⟨hst, s₁, hcredit⟩
      · cases hrest
    · rintro ⟨-, s₁, hcredit⟩
      exact ⟨s₁, run_bind_error hcredit⟩
  · rw [if_pos hst]
    constructor
    · rintro ⟨s₁, hrun⟩
      cases hrun
    · rintro ⟨hawait, -⟩
      exact absurd hawait hst

/-- Completing one order ends the same way in both databases. -/
theorem completePaidOrder_alike (method : PaymentType) {o : Order} {t : DB}
    (hs : s.orders.find? pk = some o) (ht : t.orders.find? pk = some o)
    (hservices : s.services = t.services) (hfs : Payme.DrawsFresh ctx s)
    (hft : Payme.DrawsFresh ctx t) :
    ∃ r s' t', completePaidOrder ctx pk method s = (r, s') ∧
      completePaidOrder ctx pk method t = (r, t') ∧
      ((s' = s ∧ t' = t) ∨ ∃ w j w' j',
        s' = { s with orders := s.orders.save (completedOrder ctx method o)
                      wallet := w, journal := j } ∧
        t' = { t with orders := t.orders.save (completedOrder ctx method o)
                      wallet := w', journal := j' }) := by
  have hfails : ∀ {s t : DB} {e s'}, s.orders.find? pk = some o → t.orders.find? pk = some o →
      s.services = t.services → Payme.DrawsFresh ctx s →
      completePaidOrder ctx pk method s = (.error e, s') →
      completePaidOrder ctx pk method t = (.error e, t) := by
    intro s t e s' hs ht hservices hfresh hrun
    obtain ⟨-, hawait, s₁, hcredit⟩ := (completePaidOrder_error_iff hs).mp hrun
    have hfresh' : Payme.DrawsFresh ctx
        { s with orders := s.orders.save (completedOrder ctx method o) } := hfresh
    have hagain : ∃ t₁, creditMaster ctx (completedOrder ctx method o) method
        { t with orders := t.orders.save (completedOrder ctx method o) } = (.error e, t₁) :=
      Payme.creditMaster_error hfresh' hcredit hservices.symm rfl rfl rfl
    exact (completePaidOrder_error_iff ht).mpr ⟨rfl, hawait, hagain⟩
  rcases hrun : completePaidOrder ctx pk method s with ⟨e | b, s'⟩
  · obtain ⟨rfl, -⟩ := (completePaidOrder_error_iff hs).mp hrun
    exact ⟨.error e, s', t, rfl, hfails hs ht hservices hfs hrun, Or.inl ⟨rfl, rfl⟩⟩
  · rcases hrun' : completePaidOrder ctx pk method t with ⟨e | b', t'⟩
    · rw [hfails ht hs hservices.symm hft hrun'] at hrun
      cases hrun
    · obtain ⟨o₁, ho₁, hone⟩ := completePaidOrder_ok hrun
      obtain ⟨o₂, ho₂, htwo⟩ := completePaidOrder_ok hrun'
      obtain rfl : o = o₁ := Option.some.inj (hs.symm.trans ho₁)
      obtain rfl : o = o₂ := Option.some.inj (ht.symm.trans ho₂)
      rcases hone with ⟨rfl, hst, rfl⟩ | ⟨rfl, credit, hc⟩
      · rcases htwo with ⟨rfl, -, rfl⟩ | ⟨-, credit, hc⟩
        · exact ⟨.ok false, s', t', rfl, rfl, Or.inl ⟨rfl, rfl⟩⟩
        · exact absurd hc.awaiting hst
      · rcases htwo with ⟨-, hst, -⟩ | ⟨rfl, credit', hc'⟩
        · exact absurd hc.awaiting hst
        · exact ⟨.ok true, s', t', rfl, rfl, Or.inr ⟨_, _, _, _, hc.eq, hc'.eq⟩⟩

theorem visible_saveOrder_congr {t : DB} (hv : visible A s = visible A t) {o old : Order}
    (hs : s.orders.find? o.id = some old) (ht : t.orders.find? o.id = some old)
    (hold : old.client = A) (huser : o.client = A) {w w' : WalletTables} {j j' : List Event} :
    visible A { s with orders := s.orders.save o, wallet := w, journal := j } =
      visible A { t with orders := t.orders.save o, wallet := w', journal := j' } := by
  have hone := visible_saveOrder (o := o) hs hold huser
  have htwo := visible_saveOrder (o := o) ht hold huser
  rw [← hv] at htwo
  exact hone.trans htwo.symm

/-- Runs that the client does not tell apart. -/
def Alike {α : Type} (A : Uuid) (x y : Except Error α × DB) : Prop :=
  x.1 = y.1 ∧ visible A x.2 = visible A y.2

theorem alike_atomic {α : Type} {x y : Code α} {t : DB} (hv : visible A s = visible A t)
    (h : Alike A (x s) (y t)) : Alike A (atomic x s) (atomic y t) := by
  obtain ⟨hanswer, hpart⟩ := h
  rcases hx : x s with ⟨e | a, s'⟩
  · rcases hy : y t with ⟨e' | b, t'⟩
    · rw [hx, hy] at hanswer
      rw [run_atomic_error hx, run_atomic_error hy]
      exact ⟨hanswer, hv⟩
    · rw [hx, hy] at hanswer
      cases hanswer
  · rcases hy : y t with ⟨e' | b, t'⟩
    · rw [hx, hy] at hanswer
      cases hanswer
    · rw [hx, hy] at hanswer hpart
      rw [run_atomic_ok hx, run_atomic_ok hy]
      exact ⟨hanswer, hpart⟩

/-- The order of the client is found in both databases, or in neither. -/
theorem getClientOrder_alike {t : DB} (hv : visible A s = visible A t) :
    (∃ o, s.orders.find? pk = some o ∧ t.orders.find? pk = some o ∧ o.client = A ∧
      getClientOrder pk A s = (.ok o, s) ∧ getClientOrder pk A t = (.ok o, t)) ∨
    (getClientOrder pk A s = (.error (.notFound "Order"), s) ∧
      getClientOrder pk A t = (.error (.notFound "Order"), t)) := by
  have hrun : ∀ s : DB, (∃ o, (visible A s).orders.find? pk = some o ∧
        s.orders.find? pk = some o ∧ o.client = A ∧ getClientOrder pk A s = (.ok o, s)) ∨
      ((visible A s).orders.find? pk = none ∧
        getClientOrder pk A s = (.error (.notFound "Order"), s)) := by
    intro s
    have hfind : (visible A s).orders.find? pk =
        (s.orders.find? pk).filter fun o => decide (o.client = A) := Table.find?_restrict ..
    unfold getClientOrder
    cases ho : s.orders.find? pk with
    | none =>
        rw [ho, Option.filter_none] at hfind
        exact Or.inr ⟨hfind, run_bind_error (run_getOrder_none ho)⟩
    | some o =>
        rw [ho, Option.filter_some] at hfind
        rw [run_bind_ok (run_getOrder_some ho)]
        by_cases huser : o.client = A
        · rw [if_pos (decide_eq_true huser)] at hfind
          exact Or.inl ⟨o, hfind, rfl, huser, run_bind_ok (run_require huser)⟩
        · rw [if_neg (by simpa using huser)] at hfind
          exact Or.inr ⟨hfind, run_bind_error (run_require_not huser)⟩
  rcases hrun s with ⟨o, hseen, ho, huser, hs⟩ | ⟨hseen, hs⟩
  · rcases hrun t with ⟨o', hseen', ho', -, ht⟩ | ⟨hseen', -⟩
    · rw [← hv, hseen] at hseen'
      cases hseen'
      exact Or.inl ⟨o, ho, ho', huser, hs, ht⟩
    · rw [← hv, hseen] at hseen'
      cases hseen'
  · rcases hrun t with ⟨o', hseen', -⟩ | ⟨-, ht⟩
    · rw [← hv, hseen] at hseen'
      cases hseen'
    · exact Or.inr ⟨hs, ht⟩

theorem alike_of_completed {method : PaymentType} {o : Order} {s t s' t' : DB}
    (hv : visible A s = visible A t) (hs : s.orders.find? o.id = some o)
    (ht : t.orders.find? o.id = some o) (huser : o.client = A)
    (h : (s' = s ∧ t' = t) ∨ ∃ w j w' j',
      s' = { s with orders := s.orders.save (completedOrder ctx method o)
                    wallet := w, journal := j } ∧
      t' = { t with orders := t.orders.save (completedOrder ctx method o)
                    wallet := w', journal := j' }) :
    visible A s' = visible A t' ∧
      ∃ o', s'.orders.find? o.id = some o' ∧ t'.orders.find? o.id = some o' := by
  rcases h with ⟨rfl, rfl⟩ | ⟨w, j, w', j', rfl, rfl⟩
  · exact ⟨hv, o, hs, ht⟩
  · refine ⟨visible_saveOrder_congr (o := completedOrder ctx method o) hv hs ht huser huser,
      completedOrder ctx method o, ?_, ?_⟩
    · exact (Table.find?_save (t := s.orders) (r := completedOrder ctx method o) hs o.id).trans
        (if_pos rfl)
    · exact (Table.find?_save (t := t.orders) (r := completedOrder ctx method o) ht o.id).trans
        (if_pos rfl)

/-- A payment ends the same way in databases that the client sees alike. -/
theorem pay_alike {method : PaymentMethodField} {t : DB} (hv : visible A s = visible A t)
    (hfs : Payme.DrawsFresh ctx s) (hft : Payme.DrawsFresh ctx t) :
    Alike A (ClientOrderPayView.post ctx A pk method s)
      (ClientOrderPayView.post ctx A pk method t) := by
  refine alike_atomic hv ?_
  rcases @getClientOrder_alike A pk s t hv with ⟨o, ho, ho', huser, hs, ht⟩ | ⟨hs, ht⟩
  · obtain rfl : o.id = pk := Table.key_of_find? ho
    rw [run_bind_ok hs, run_bind_ok ht]
    by_cases hst : o.status = .awaitingPayment
    · rw [run_bind_ok (run_require hst), run_bind_ok (run_require hst)]
      by_cases hpaid : o.isPaid = false
      · rw [run_bind_ok (run_require hpaid), run_bind_ok (run_require hpaid)]
        have honline : ∀ method : PaymentType, Alike A
            ((do
              saveOrder { o with paymentType := some .online }
              saveOrder (Order.recalculateTotal { o with paymentType := some .online })
              pure (PayResponse.paymentUrl o.id method) : Code PayResponse) s)
            ((do
              saveOrder { o with paymentType := some .online }
              saveOrder (Order.recalculateTotal { o with paymentType := some .online })
              pure (PayResponse.paymentUrl o.id method) : Code PayResponse) t) := by
          intro method
          refine ⟨rfl, ?_⟩
          have hsaved : ∀ db : DB, (db.orders.save { o with paymentType := some .online }).save
                (Order.recalculateTotal { o with paymentType := some .online }) =
              db.orders.save (Order.recalculateTotal { o with paymentType := some .online }) :=
            fun _ => Table.save_save rfl
          change visible A { s with orders := (s.orders.save _).save _ } =
            visible A { t with orders := (t.orders.save _).save _ }
          rw [hsaved s, hsaved t]
          exact visible_saveOrder_congr
            (o := Order.recalculateTotal { o with paymentType := some .online })
            hv ho ho' huser huser
        cases method with
        | missing => exact ⟨rfl, hv⟩
        | invalid text => exact ⟨rfl, hv⟩
        | choice method =>
            cases method with
            | cash =>
                have hservices := congrArg DB.services hv
                obtain ⟨r, s', t', hrun, hrun', hstates⟩ :=
                  completePaidOrder_alike .cash ho ho' hservices hfs hft
                obtain ⟨hv', o', hone, htwo⟩ := alike_of_completed hv ho ho' huser hstates
                change Alike A
                  ((completePaidOrder ctx o.id .cash >>= fun _ => getOrder o.id >>= fun o =>
                    pure (PayResponse.completed o) : Code PayResponse) s)
                  ((completePaidOrder ctx o.id .cash >>= fun _ => getOrder o.id >>= fun o =>
                    pure (PayResponse.completed o) : Code PayResponse) t)
                cases r with
                | error e =>
                    rw [run_bind_error hrun, run_bind_error hrun']
                    exact ⟨rfl, hv'⟩
                | ok b =>
                    rw [run_bind_ok hrun, run_bind_ok hrun', run_bind_ok (run_getOrder_some hone),
                      run_bind_ok (run_getOrder_some htwo)]
                    exact ⟨rfl, hv'⟩
            | online => exact honline .online
            | card => exact honline .card
            | plastic => exact honline .plastic
      · rw [run_bind_error (run_require_not hpaid), run_bind_error (run_require_not hpaid)]
        exact ⟨rfl, hv⟩
    · rw [run_bind_error (run_require_not hst), run_bind_error (run_require_not hst)]
      exact ⟨rfl, hv⟩
  · rw [run_bind_error hs, run_bind_error ht]
    exact ⟨rfl, hv⟩

/-- The order that a payment answers with is the client's. -/
theorem pay_completed {method : PaymentMethodField} {o : Order}
    (h : ClientOrderPayView.post ctx A pk method s = (.ok (.completed o), s')) :
    o ∈ s'.orders.rows ∧ o.client = A := by
  simp only [ClientOrderPayView.post, atomic_eq_ok, bind_eq_ok, require_eq_ok] at h
  obtain ⟨o₀, _, hget, _, _, ⟨-, rfl⟩, _, _, ⟨-, rfl⟩, h⟩ := h
  obtain ⟨hfind₀, hid, huser, rfl⟩ := getClientOrder_ok hget
  cases method with
  | missing => cases h
  | invalid text => cases h
  | choice method =>
      cases method with
      | cash =>
          simp only [getOrder, bind_eq_ok, fetch_eq_ok, pure_eq_ok,
            PayResponse.completed.injEq] at h
          obtain ⟨b, s₁, hrun, _, _, ⟨hfind, rfl⟩, rfl, rfl⟩ := h
          refine ⟨Table.mem_of_find? hfind, ?_⟩
          obtain ⟨o₁, ho₁, ⟨-, -, rfl⟩ | ⟨-, credit, hc⟩⟩ := completePaidOrder_ok hrun
          · rw [hfind₀] at hfind
            cases hfind
            exact huser
          · rw [hfind₀] at ho₁
            cases ho₁
            rw [hc.eq] at hfind
            have hsaved := Table.find?_save (r := completedOrder ctx .cash o₀) hc.found pk
            cases hfind.symm.trans (hsaved.trans (if_pos hid))
            exact huser
      | online => cases h
      | card => cases h
      | plastic => cases h

end Pay

end Requests

end Profiles

namespace ClientRequest

open Action Profiles

variable {A : Uuid} {s t : DB} {ctx : Context} {c : Collation} {r : ClientRequest}

/-- What the payload names, if it is there, belongs to the client, and the ids that
are drawn are new. -/
structure Discreet (ctx : Context) (db : DB) (user : Uuid) (r : ClientRequest) : Prop where
  address : r.NamesOwnAddress db user
  device : ∀ pk ∈ r.device, ∀ d ∈ db.devices.find? pk, d.client = user
  fresh : Fresh ctx db

instance decidableDiscreet (ctx : Context) (db : DB) (user : Uuid) (r : ClientRequest) :
    Decidable (r.Discreet ctx db user) :=
  decidable_of_iff
    (r.NamesOwnAddress db user ∧ (∀ pk ∈ r.device, ∀ d ∈ db.devices.find? pk, d.client = user) ∧
      Fresh ctx db)
    ⟨fun h => ⟨h.1, h.2.1, h.2.2⟩, fun h => ⟨h.address, h.device, h.fresh⟩⟩

/-- A request that does not pay is answered from the client's part. -/
theorem commutes_handle (howned : Owned s) (h : r.Discreet ctx s A)
    (hpay : ∀ pk method, r ≠ .orderPay pk method) :
    Commutes (visible A) (r.handle c ctx A) s := by
  have hread : ∀ {α β : Type} {f : DB → α} {g : α → β}, f (visible A s) = f s →
      Commutes (visible A) (g <$> (Action.get >>= fun db => pure (f db) : Code α)) s := by
    intro α β f g hf
    refine commutes_map (commutes_get_bind ?_ commutes_pure)
    rw [hf]
  cases r with
  | addressList => exact hread clientAddresses_visible
  | addressCreate data => exact commutes_map (commutes_addressPost h.fresh data)
  | addressGet pk => exact commutes_map commutes_getAddress
  | addressUpdate pk data => exact commutes_map commutes_addressUpdate
  | addressDelete pk => exact commutes_map (commutes_addressDelete howned)
  | deviceList addressId label => exact hread (clientDevices_visible howned addressId label)
  | deviceCreate data =>
      exact commutes_map (commutes_devicePost howned h.fresh fun a ha => h.address _ rfl a ha)
  | deviceLocations => exact hread (deviceLocations_visible howned)
  | deviceGet pk =>
      refine commutes_map (commutes_bind commutes_getDevice fun d s' hs' => ?_)
      obtain ⟨hd, huser, rfl⟩ := getDevice_ok hs'
      exact commutes_showDevice howned hd huser
  | deviceUpdate pk data => exact commutes_map (commutes_deviceUpdate howned h.address)
  | deviceDelete pk => exact commutes_map (commutes_deviceDelete howned)
  | deviceOrder pk =>
      refine commutes_map (commutes_bind commutes_getDevice fun d s' hs' => ?_)
      obtain ⟨hd, huser, rfl⟩ := getDevice_ok hs'
      refine commutes_get_bind ?_ commutes_pure
      rw [deviceData_visible_of_mem howned hd huser,
        find?_visible_address (huser ▸ howned.device d hd)]
  | orderList status =>
      refine hread (orders_visible howned (fun o _ ho => ?_) id fun _ _ => id)
      simpa using (Bool.and_eq_true_iff.mp ho).1
  | orderRecent =>
      refine hread (orders_visible howned (fun o _ ho => ?_) (List.take 5)
        fun _ _ => List.mem_of_mem_take)
      simpa using ho
  | orderCreate data => exact commutes_orderCreate howned h.fresh h.address h.device
  | orderGet pk =>
      refine commutes_map (commutes_bind commutes_getClientOrder fun o s' hs' => ?_)
      obtain ⟨ho, -, huser, rfl⟩ := getClientOrder_ok hs'
      refine commutes_get_bind ?_ commutes_pure
      rw [orderData_visible_of_mem howned (Table.mem_of_find? ho) huser]
  | orderCancel pk reason => exact commutes_orderCancel howned
  | orderPay pk method => exact absurd rfl (hpay pk method)

/-- A payment is answered alike. -/
theorem alike_orderPay {pk : Uuid} {method : PaymentMethodField} (hv : visible A s = visible A t)
    (hs : Owned s) (ht : Owned t) (hfs : Fresh ctx s) (hft : Fresh ctx t) :
    Alike A ((ClientRequest.orderPay pk method).handle c ctx A s)
      ((ClientRequest.orderPay pk method).handle c ctx A t) := by
  have hpay := @pay_alike A pk s ctx method t hv hfs.transaction hft.transaction
  have howned : ∀ {s : DB}, Owned s → ∀ {p s'},
      ClientOrderPayView.post ctx A pk method s = (.ok p, s') → Owned s' := fun h _ _ hrun =>
    h.writes ((onlyWrites_orderPay .refl).of_ok hrun)
  obtain ⟨hanswer, hpart⟩ := hpay
  change Alike A ((ClientOrderPayView.post ctx A pk method >>= ClientResponse.ofPay) s)
    ((ClientOrderPayView.post ctx A pk method >>= ClientResponse.ofPay) t)
  rcases hx : ClientOrderPayView.post ctx A pk method s with ⟨e | p, s'⟩
  · rcases hy : ClientOrderPayView.post ctx A pk method t with ⟨e' | p', t'⟩
    · rw [hx, hy] at hanswer hpart
      cases hanswer
      rw [run_bind_error hx, run_bind_error hy]
      exact ⟨rfl, hpart⟩
    · rw [hx, hy] at hanswer
      cases hanswer
  · rcases hy : ClientOrderPayView.post ctx A pk method t with ⟨e' | p', t'⟩
    · rw [hx, hy] at hanswer
      cases hanswer
    · rw [hx, hy] at hanswer hpart
      cases hanswer
      rw [run_bind_ok hx, run_bind_ok hy]
      cases p with
      | completed o =>
          obtain ⟨hmem, huser⟩ := pay_completed hx
          exact (commutes_ofOrder (howned hs hx) hmem huser).eq_of_part
            (commutes_ofOrder (howned ht hy) (pay_completed hy).1 huser) hpart
      | paymentUrl pk method => exact ⟨rfl, hpart⟩

/-- The step lemma for two runs: a request of the client ends alike in databases that
the client sees alike. -/
theorem handle_alike (hv : visible A s = visible A t) (hs : Owned s) (ht : Owned t)
    (hds : r.Discreet ctx s A) (hdt : r.Discreet ctx t A) :
    Alike A (r.handle c ctx A s) (r.handle c ctx A t) := by
  by_cases hpay : ∃ pk method, r = .orderPay pk method
  · obtain ⟨pk, method, rfl⟩ := hpay
    exact alike_orderPay hv hs ht hds.fresh hdt.fresh
  · have hnot : ∀ pk method, r ≠ .orderPay pk method := fun pk method h => hpay ⟨pk, method, h⟩
    exact (commutes_handle hs hds hnot).eq_of_part (commutes_handle ht hdt hnot) hv

end ClientRequest

end Homex
