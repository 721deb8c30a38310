import Homex.InternalApi.Clients
import Homex.Profiles.Ownership
import Homex.System.Runs

/-!
# The default address of a client

A new default address takes the flag from the old one, and the internal API sets
it on the address that has it, or where no address has it. An update of an address
sets the flag without taking it from another: with a default address elsewhere the
client has two.
-/

namespace Homex

namespace Profiles

open Relational Action Code InternalApi
open InternalClientWriteSerializer (currentAddress rewritten saveAddress)

/-- The requests that write the addresses of clients. -/
inductive AddressRequest
  | create (user : Uuid) (data : AddressPayload)
  | update (user pk : Uuid) (data : AddressUpdate)
  | delete (user pk : Uuid)
  | internalCreate (data : ClientPayload)
  | internalUpdate (pk : Uuid) (data : ClientPayload)

/-- The database after a request. -/
def AddressRequest.run (c : Collation) (ctx : Context) (db : DB) : AddressRequest → DB
  | .create user data => (ClientAddressListCreateView.post ctx user data db).2
  | .update user pk data => (ClientAddressDetailView.update user pk data db).2
  | .delete user pk => (ClientAddressDetailView.delete user pk db).2
  | .internalCreate data => (InternalClientWriteSerializer.create c ctx data db).2
  | .internalUpdate pk data => (InternalClientWriteSerializer.update c ctx pk data db).2

/-- The requests, one after the other, from a database without addresses. -/
def addressBook (c : Collation) : Transition.System DB (Context × AddressRequest) where
  init db := db.addresses.rows = []
  step db l db' := db' = l.2.run c l.1 db

/-- The address is the default address of the client, or one of them. -/
def isDefaultOf (client : Uuid) (a : ClientAddress) : Bool := a.client = client && a.isDefault

/-- No client has two default addresses. -/
def OneDefault (db : DB) : Prop :=
  ∀ client, db.addresses.AtMostOne fun a => isDefaultOf client a = true

/-- The request does not set the flag on an address while another one of the client
has it, by an update. -/
def AddressRequest.KeepsOne (db : DB) (l : Context × AddressRequest) : Prop :=
  match l.2 with
  | .update user pk data =>
      data.isDefault = some true →
        ∀ address, db.addresses.find? pk = some address → address.client = user →
          ∀ other ∈ db.addresses.rows, isDefaultOf user other = true → other.id = pk
  | _ => True

variable {c : Collation} {ctx : Context} {db db' : DB} {user pk client : Uuid}
  {address : ClientAddress}

theorem isDefaultOf_iff : isDefaultOf client address = true ↔
    address.client = client ∧ address.isDefault = true := by
  simp [isDefaultOf]

theorem OneDefault.congr (h : OneDefault db) (haddresses : db'.addresses = db.addresses) :
    OneDefault db' := by
  intro client
  rw [haddresses]
  exact h client

/-- An address is rewritten that was the default, or becomes it where there is none. -/
theorem OneDefault.save (h : OneDefault db) {new : ClientAddress}
    (hfind : db.addresses.find? (key new) = some address)
    (hsole : new.isDefault = true → ∀ other ∈ db.addresses.rows,
      isDefaultOf new.client other = true → other.id = new.id) :
    OneDefault { db with addresses := db.addresses.save new } := by
  intro client
  by_cases hnew : isDefaultOf client new = true
  · obtain ⟨rfl, hdefault⟩ := isDefaultOf_iff.mp hnew
    have hold : ∀ a ∈ db.addresses.rows, isDefaultOf new.client a = true → a = address := by
      intro a ha hisDefault
      have hid := hsole hdefault a ha hisDefault
      have ha' := Table.find?_of_mem ha
      rw [show key a = key new from hid, hfind] at ha'
      exact (Option.some.inj ha').symm
    by_cases haddress : isDefaultOf new.client address = true
    · exact (h new.client).save hfind fun _ => haddress
    · refine Table.atMostOne_save ?_
      rintro ⟨a, ha, hisDefault⟩
      exact haddress (hold a ha hisDefault ▸ hisDefault)
  · exact (h client).save hfind fun hp => absurd hp hnew

/-- After the flags of a client are cleared no address of theirs is the default. -/
theorem not_has_clearDefault :
    ¬(clearDefault user db).addresses.Has fun a => isDefaultOf user a = true := by
  rintro ⟨a, ha, hisDefault⟩
  obtain ⟨old, -, rfl⟩ := (Table.mem_mapRows (key_unsetDefault user)).mp ha
  obtain ⟨hclient, hdefault⟩ := isDefaultOf_iff.mp hisDefault
  have hcleared : (unsetDefault user old).isDefault = false := if_pos hclient
  rw [hcleared] at hdefault
  cases hdefault

theorem OneDefault.clearDefault (h : OneDefault db) : OneDefault (clearDefault user db) := by
  have hold : ∀ client a, isDefaultOf client (unsetDefault user a) = true →
      isDefaultOf client a = true := by
    intro client a hisDefault
    obtain ⟨hclient, hdefault⟩ := isDefaultOf_iff.mp hisDefault
    refine isDefaultOf_iff.mpr ⟨hclient, ?_⟩
    change (if a.client = user then false else a.isDefault) = true at hdefault
    split at hdefault
    · cases hdefault
    · exact hdefault
  intro client a' ha' b' hb' hpa hpb
  obtain ⟨a, ha, rfl⟩ := (Table.mem_mapRows (key_unsetDefault user)).mp ha'
  obtain ⟨b, hb, rfl⟩ := (Table.mem_mapRows (key_unsetDefault user)).mp hb'
  rw [h client a ha b hb (hold client a hpa) (hold client b hpb)]

section Steps

/-- However the code ends, no client has two default addresses. -/
def KeepsOneDefault {α : Type} (x : Code α) (s : DB) : Prop :=
  Ensures (fun _ => OneDefault) OneDefault x s

/-- An address is added that is no default, or where there is none. -/
theorem keeps_createAddress (h : OneDefault db)
    (hnone : address.isDefault = true →
      ¬db.addresses.Has fun a => isDefaultOf address.client a = true) :
    KeepsOneDefault (createAddress address) db := by
  refine ensures_write (fun db' hdb' => ?_) h
  obtain ⟨t, hinsert, rfl⟩ := Option.map_eq_some_iff.mp hdb'
  intro client
  refine (h client).insert? hinsert fun hnew => ?_
  rw [isDefaultOf_iff] at hnew
  rw [← hnew.1]
  exact hnone hnew.2

/-- A new address. -/
theorem keeps_post (h : OneDefault db) (data : AddressPayload) :
    KeepsOneDefault (ClientAddressListCreateView.post ctx user data) db := by
  unfold ClientAddressListCreateView.post
  by_cases hdefault : data.isDefault = true
  · simp only [if_pos hdefault]
    refine ensures_bind (ensures_modify (ensures_bind ?_))
    exact keeps_createAddress h.clearDefault fun _ => not_has_clearDefault
  · simp only [if_neg hdefault]
    refine ensures_bind ?_
    exact keeps_createAddress h fun hnew => absurd hnew hdefault

/-- An update that does not make a second default. -/
theorem keeps_update (h : OneDefault db) {data : AddressUpdate}
    (hkeeps : AddressRequest.KeepsOne db (ctx, .update user pk data)) :
    KeepsOneDefault (ClientAddressDetailView.update user pk data) db := by
  refine ensures_bind (ensures_getAddress (fun address hfind hid huser => ?_) h)
  refine ensures_bind (ensures_modify (h.save hfind fun hnew other hother hisDefault => ?_))
  change isDefaultOf address.client other = true at hisDefault
  change other.id = address.id
  cases hdata : data.isDefault with
  | none =>
      have hdefault : address.isDefault = true := by
        change data.isDefault.getD address.isDefault = true at hnew
        rwa [hdata] at hnew
      rw [h address.client other hother address (Table.mem_of_find? hfind) hisDefault
        (isDefaultOf_iff.mpr ⟨rfl, hdefault⟩)]
  | some flag =>
      have hflag : data.isDefault = some true := by
        change data.isDefault.getD address.isDefault = true at hnew
        rw [hdata] at hnew ⊢
        exact congrArg some hnew
      rw [hid] at hfind ⊢
      rw [huser] at hisDefault
      exact hkeeps hflag address hfind huser other hother hisDefault

/-- A deleted address. -/
theorem keeps_delete (h : OneDefault db) :
    KeepsOneDefault (ClientAddressDetailView.delete user pk) db := by
  refine ensures_bind (ensures_fetch (fun address _ => ensures_modify ?_) h)
  intro client a ha b hb
  exact h client a (Table.mem_delete.mp ha).1 b (Table.mem_delete.mp hb).1

theorem mem_clientAddresses :
    address ∈ clientAddresses c client db ↔
      address ∈ db.addresses.rows ∧ address.client = client := by
  unfold clientAddresses
  rw [List.mem_mergeSort, Table.mem_restrict, decide_eq_true_eq]

/-- The address that is rewritten is the default address if there is one. -/
theorem sole_of_currentAddress (h : OneDefault db)
    (hcurrent : currentAddress c client db = some address) :
    (address ∈ db.addresses.rows ∧ address.client = client) ∧
      ∀ other ∈ db.addresses.rows, isDefaultOf client other = true → other.id = address.id := by
  unfold currentAddress at hcurrent
  cases hhead : ((clientAddresses c client db).filter fun a => a.isDefault).head? with
  | some first =>
      rw [hhead, Option.some_or] at hcurrent
      obtain rfl := Option.some.inj hcurrent
      obtain ⟨hmem, hdefault⟩ := List.mem_filter.mp (List.mem_of_head? hhead)
      have hfirst := mem_clientAddresses.mp hmem
      refine ⟨hfirst, fun other hother hisDefault => ?_⟩
      rw [h client other hother first hfirst.1 hisDefault
        (isDefaultOf_iff.mpr ⟨hfirst.2, hdefault⟩)]
  | none =>
      rw [hhead, Option.none_or] at hcurrent
      refine ⟨mem_clientAddresses.mp (List.mem_of_head? hcurrent),
        fun other hother hisDefault => ?_⟩
      obtain ⟨hclient, hdefault⟩ := isDefaultOf_iff.mp hisDefault
      have hmem : other ∈ (clientAddresses c client db).filter fun a => a.isDefault :=
        List.mem_filter.mpr ⟨mem_clientAddresses.mpr ⟨hother, hclient⟩, hdefault⟩
      rw [List.head?_eq_none_iff.mp hhead] at hmem
      cases hmem

theorem not_has_of_currentAddress (hcurrent : currentAddress c client db = none) :
    ¬db.addresses.Has fun a => isDefaultOf client a = true := by
  rintro ⟨a, ha, hisDefault⟩
  obtain ⟨hclient, -⟩ := isDefaultOf_iff.mp hisDefault
  unfold currentAddress at hcurrent
  have hmem : a ∈ clientAddresses c client db := mem_clientAddresses.mpr ⟨ha, hclient⟩
  rw [List.head?_eq_none_iff.mp (Option.or_eq_none_iff.mp hcurrent).2] at hmem
  cases hmem

theorem key_rewritten (addressText : String) (lat lng : Option Int) :
    key (rewritten address addressText lat lng) = key address := by
  unfold rewritten
  split <;> rfl

theorem client_rewritten (addressText : String) (lat lng : Option Int) :
    (rewritten address addressText lat lng).client = address.client := by
  unfold rewritten
  split <;> rfl

/-- The address of a client that the internal API writes. -/
theorem keeps_saveAddress (h : OneDefault db) (addressText : String) (lat lng : Option Int) :
    KeepsOneDefault (saveAddress c ctx client addressText lat lng) db := by
  refine ensures_ite (fun _ => ensures_pure h) fun _ => ensures_get_bind ?_
  cases hcurrent : currentAddress c client db with
  | some address =>
      obtain ⟨⟨hmem, hclient⟩, hsole⟩ := sole_of_currentAddress h hcurrent
      have hfind := Table.find?_of_mem hmem
      rw [← key_rewritten addressText lat lng] at hfind
      refine ensures_modify (h.save hfind fun _ other hother hisDefault => ?_)
      rw [client_rewritten, hclient] at hisDefault
      exact (hsole other hother hisDefault).trans (key_rewritten addressText lat lng).symm
  | none =>
      have hnone := not_has_of_currentAddress hcurrent
      cases lat with
      | none => exact ensures_pure h
      | some lat =>
          cases lng with
          | none => exact ensures_pure h
          | some lng => exact keeps_createAddress h fun _ => hnone

theorem keeps_internalCreate (h : OneDefault db) (data : ClientPayload) :
    KeepsOneDefault (InternalClientWriteSerializer.create c ctx data) db := by
  refine ensures_bind (ensures_fetch (fun phone _ => ?_) h)
  refine ensures_bind (ensures_get_bind (ensures_require (fun _ => ?_) h))
  refine ensures_bind (ensures_write (fun db' hdb' => ?_) h)
  obtain ⟨t, -, rfl⟩ := Option.map_eq_some_iff.mp hdb'
  refine ensures_bind ?_
  have h' : OneDefault { db with clients := t } := h.congr rfl
  exact keeps_saveAddress h' _ _ _

theorem keeps_internalUpdate (h : OneDefault db) (data : ClientPayload) :
    KeepsOneDefault (InternalClientWriteSerializer.update c ctx pk data) db := by
  refine ensures_bind (ensures_fetch (fun client _ => ?_) h)
  have hrest : ∀ db' : DB, db'.addresses = db.addresses →
      KeepsOneDefault (saveAddress c ctx client.id (data.address.getD "") data.lat data.lng) db' :=
    fun db' haddresses => keeps_saveAddress (h.congr haddresses) _ _ _
  cases hphone : data.phone with
  | none => exact ensures_bind (ensures_modify (hrest _ rfl))
  | some phone =>
      refine ensures_bind (ensures_get_bind (ensures_require (fun _ => ?_) h))
      exact ensures_bind (ensures_modify (hrest _ rfl))

end Steps

/-- One default address for each client, in every run in which no update sets the
flag while another address of the client has it. -/
theorem one_default_address (c : Collation)
    (h : ((addressBook c).restrict AddressRequest.KeepsOne).Reachable db) (client : Uuid) :
    db.addresses.count (isDefaultOf client) ≤ 1 := by
  have hone : OneDefault db := by
    refine h.invariant_of_guard ?_ ?_
    · intro db hinit client a ha
      rw [hinit] at ha
      cases ha
    · rintro db ⟨ctx, request⟩ _ - hone hkeeps rfl
      cases request with
      | create user data => exact (keeps_post hone data).store
      | update user pk data => exact (keeps_update hone hkeeps).store
      | delete user pk => exact (keeps_delete hone).store
      | internalCreate data => exact (keeps_internalCreate hone data).store
      | internalUpdate pk data => exact (keeps_internalUpdate hone data).store
  exact (hone client).count_le_one

namespace Sample

/-- Labels in no particular order. -/
def unordered : Collation where
  upper := id
  le _ _ := true

/-- Client 1 adds an address, the default one or not; it gets the instant as its id. -/
def add (now : Nat) (isDefault : Bool) : Context × AddressRequest :=
  (Sample.at_ now,
    .create 1 { label := "Uy", addressText := "Chilonzor", lat := 0, lng := 0, isDefault })

/-- The requests in turn. -/
def book (db : DB) (ls : List (Context × AddressRequest)) : DB :=
  ls.foldl (fun db l => l.2.run unordered l.1 db) db

end Sample

/-- Two default addresses are added one after the other. -/
theorem one_default_address_sample :
    (Sample.book Sample.db [Sample.add 1 true, Sample.add 2 true]).addresses.count
      (isDefaultOf 1) ≤ 1 := by
  have hadd : ∀ {db : DB} (now : Nat),
      ((addressBook Sample.unordered).restrict AddressRequest.KeepsOne).Reachable db →
      ((addressBook Sample.unordered).restrict AddressRequest.KeepsOne).Reachable
        (Sample.book db [Sample.add now true]) := by
    intro db now h
    have hkeeps : AddressRequest.KeepsOne db (Sample.add now true) := trivial
    exact h.step ⟨hkeeps, rfl⟩
  have hinit : ((addressBook Sample.unordered).restrict AddressRequest.KeepsOne).Reachable
      Sample.db := .init (show Sample.db.addresses.rows = [] from rfl)
  exact one_default_address Sample.unordered (hadd 2 (hadd 1 hinit)) 1

/-- An address is made the default by an update, and the old one stays the default. -/
theorem two_default_addresses :
    ¬∀ (c : Collation) (db : DB), (addressBook c).Reachable db →
      ∀ client, db.addresses.count (isDefaultOf client) ≤ 1 := by
  intro h
  have hstep : ∀ {db : DB} (l : Context × AddressRequest),
      (addressBook Sample.unordered).Reachable db →
        (addressBook Sample.unordered).Reachable (Sample.book db [l]) :=
    fun l h => h.step rfl
  have hinit : (addressBook Sample.unordered).Reachable Sample.db :=
    .init (show Sample.db.addresses.rows = [] from rfl)
  have hreach := hstep (Sample.at_ 3, .update 1 2 { isDefault := some true })
    (hstep (Sample.add 2 false) (hstep (Sample.add 1 true) hinit))
  have hcount := h Sample.unordered _ hreach 1
  revert hcount
  decide

end Profiles

end Homex
