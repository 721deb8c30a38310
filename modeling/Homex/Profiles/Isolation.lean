import Homex.Profiles.Noninterference

/-!
# Runs of clients

Any number of clients send requests in turn. While no payload names an address of
another client, every device and every order stays with the addresses and devices
of its own client. Two such runs, in which one client has the same part of the
database to begin with and sends the same requests, answer this client the same,
whatever the others have and send.
-/

namespace Homex

open Relational Orders Profiles

/-- A request of a client, with the time and the ids that it draws. -/
structure ClientCall where
  ctx : Context
  user : Uuid
  request : ClientRequest

namespace ClientCall

variable (c : Collation) (db : DB) (call : ClientCall)

def answer : Except Error ClientResponse := (call.request.handle c call.ctx call.user db).1

def next : DB := (call.request.handle c call.ctx call.user db).2

/-- What the request names, if it is there, belongs to its client, and the ids that
it draws are new. -/
def Discreet : Prop := call.request.Discreet call.ctx db call.user

end ClientCall

/-- Clients send requests in turn. -/
def clientApp (c : Collation) : Transition.System DB ClientCall where
  init := Owned
  step db call db' := db' = call.next c db

/-- The requests of one client in a run. -/
def callsOf (A : Uuid) (calls : List ClientCall) : List ClientCall :=
  calls.filter fun call => call.user = A

/-- What one client is answered in a run. -/
def answers (c : Collation) (A : Uuid) : DB → List ClientCall → List (Except Error ClientResponse)
  | _, [] => []
  | db, call :: rest =>
      if call.user = A then call.answer c db :: answers c A (call.next c db) rest
      else answers c A (call.next c db) rest

/-- No request of the run names an address of another client, and those of one client
name no device of another. -/
def AllDiscreet (c : Collation) (A : Uuid) : DB → List ClientCall → Prop
  | _, [] => True
  | db, call :: rest =>
      call.request.NamesOwnAddress db call.user ∧ (call.user = A → call.Discreet db) ∧
        AllDiscreet c A (call.next c db) rest

instance decidableAllDiscreet (c : Collation) (A : Uuid) (db : DB) (calls : List ClientCall) :
    Decidable (AllDiscreet c A db calls) :=
  match calls with
  | [] => isTrue trivial
  | call :: rest =>
      haveI := decidableAllDiscreet c A (call.next c db) rest
      inferInstanceAs (Decidable (call.request.NamesOwnAddress db call.user ∧
        (call.user = A → call.request.Discreet call.ctx db call.user) ∧
          AllDiscreet c A (call.next c db) rest))

/-- The database after a run. -/
def after (c : Collation) : DB → List ClientCall → DB
  | db, [] => db
  | db, call :: rest => after c (call.next c db) rest

section Run

variable {c : Collation} {A : Uuid} {db db' : DB} {call : ClientCall}
  {calls calls' : List ClientCall}

theorem answers_cons_self (h : call.user = A) :
    answers c A db (call :: calls) = call.answer c db :: answers c A (call.next c db) calls := by
  rw [answers, if_pos h]

theorem answers_cons_other (h : call.user ≠ A) :
    answers c A db (call :: calls) = answers c A (call.next c db) calls := by
  rw [answers, if_neg h]

theorem callsOf_cons_self (h : call.user = A) :
    callsOf A (call :: calls) = call :: callsOf A calls :=
  List.filter_cons_of_pos (decide_eq_true h)

theorem callsOf_cons_other (h : call.user ≠ A) : callsOf A (call :: calls) = callsOf A calls :=
  List.filter_cons_of_neg (by simpa using h)

theorem owned_next (h : Owned db) (hown : call.request.NamesOwnAddress db call.user) :
    Owned (call.next c db) :=
  ClientRequest.owned_handle h hown

/-- A client does not see the requests of the others. -/
theorem visible_next (h : Owned db) (hown : call.request.NamesOwnAddress db call.user)
    (hne : call.user ≠ A) : visible A (call.next c db) = visible A db := by
  have hwrites : Writes call.user db (call.next c db) :=
    (ClientRequest.onlyWrites_handle h hown).store
  generalize call.next c db = db' at hwrites
  induction hwrites with
  | refl => rfl
  | tail hw hlast ih => exact (visible_of_write (h.writes hw) hlast hne).trans ih

/-- The client is silent. -/
theorem answers_of_silent (h : callsOf A calls = []) :
    answers c A db calls = [] := by
  induction calls generalizing db with
  | nil => rfl
  | cons call rest ih =>
      by_cases huser : call.user = A
      · rw [callsOf_cons_self huser] at h
        cases h
      · rw [callsOf_cons_other huser] at h
        rw [answers_cons_other huser]
        exact ih h

/-- The run up to the first request of the client. -/
theorem answers_skip {rest : List ClientCall} (howned : Owned db) (hall : AllDiscreet c A db calls)
    (h : callsOf A calls = call :: rest) :
    ∃ s after, Owned s ∧ visible A s = visible A db ∧ call.user = A ∧ call.Discreet s ∧
      AllDiscreet c A (call.next c s) after ∧
      callsOf A after = rest ∧
      answers c A db calls = call.answer c s :: answers c A (call.next c s) after := by
  induction calls generalizing db with
  | nil => cases h
  | cons head after ih =>
      obtain ⟨hown, hself, hafter⟩ := hall
      by_cases huser : head.user = A
      · rw [callsOf_cons_self huser] at h
        cases h
        exact ⟨db, after, howned, rfl, huser, hself huser, hafter, rfl, answers_cons_self huser⟩
      · rw [callsOf_cons_other huser] at h
        obtain ⟨s, after', hs, hv, hrest⟩ := ih (owned_next howned hown) hafter h
        rw [answers_cons_other huser]
        exact ⟨s, after', hs, hv.trans (visible_next howned hown huser), hrest⟩

/-- The run lemma: the same part and the same requests, the same answers. -/
theorem answers_eq (hdb : Owned db) (hdb' : Owned db') (hv : visible A db = visible A db')
    (hall : AllDiscreet c A db calls) (hall' : AllDiscreet c A db' calls')
    (hsame : callsOf A calls =
      callsOf A calls') :
    answers c A db calls = answers c A db' calls' := by
  generalize hown : callsOf A calls = own at hsame
  induction own generalizing db db' calls calls' with
  | nil => rw [answers_of_silent hown, answers_of_silent hsame.symm]
  | cons call rest ih =>
      obtain ⟨s, after, hs, hseen, rfl, hds, hnext, hrest, heq⟩ := answers_skip hdb hall hown
      obtain ⟨t, after', ht, hseen', -, hdt, hnext', hrest', heq'⟩ :=
        answers_skip hdb' hall' hsame.symm
      have hst : visible call.user s = visible call.user t := (hseen.trans hv).trans hseen'.symm
      obtain ⟨hanswer, hpart⟩ := ClientRequest.handle_alike (c := c) hst hs ht hds hdt
      rw [heq, heq']
      refine congrArg₂ List.cons hanswer ?_
      exact ih (owned_next hs hds.address) (owned_next ht hdt.address) hpart hnext hnext' hrest
        hrest'.symm

/-- Such a run is one of the backend. -/
theorem reachable_after
    (h : ((clientApp c).restrict fun db call =>
      call.request.NamesOwnAddress db call.user).Reachable db)
    (hall : AllDiscreet c A db calls) :
    ((clientApp c).restrict fun db call =>
      call.request.NamesOwnAddress db call.user).Reachable (after c db calls) := by
  induction calls generalizing db with
  | nil => exact h
  | cons call rest ih => exact ih (h.step ⟨hall.1, rfl⟩) hall.2.2

/-- While payloads name no address of another client, everything stays with its
client, and a client is answered from its own part. -/
theorem clients_kept_apart (c : Collation) :
    (∀ {db : DB}, ((clientApp c).restrict fun db call =>
        call.request.NamesOwnAddress db call.user).Reachable db → Owned db) ∧
      ∀ {A : Uuid} {db db' : DB} {calls calls' : List ClientCall},
        Owned db → Owned db' → visible A db = visible A db' →
        AllDiscreet c A db calls → AllDiscreet c A db' calls' →
        callsOf A calls = callsOf A calls' →
        answers c A db calls = answers c A db' calls' := by
  refine ⟨fun h => ?_, answers_eq⟩
  refine h.invariant_of_guard (fun _ hinit => hinit) fun s call s' _ hi hown hstep => ?_
  rw [hstep]
  exact owned_next hi hown

end Run

namespace Sample

/-- A database compares texts as they are. -/
def collation : Collation := { upper := id, le := fun a b => decide (a ≤ b) }

/-- The address of a client. -/
def home (pk client : Uuid) (place : String) : ClientAddress :=
  { id := pk, client := client, label := "Uy", addressText := place, lat := 0, lng := 0 }

/-- Two clients with one address each; the second one lives at the given place. -/
def twoClients (place : String) : DB where
  clients := ⟨[{ id := 1, phone := "+998901112233" }, { id := 2, phone := "+998901112244" }],
    by decide⟩
  services := ⟨[{ id := 9, name := "Konditsioner tozalash" }], by decide⟩
  addresses := ⟨[home 3 1 "Yunusobod", home 4 2 place], show [3, 4].Nodup by decide⟩

/-- What a client adds has the instant as its id. -/
def call (now : Nat) (client : Uuid) (request : ClientRequest) : ClientCall where
  ctx := { now := now, uuid := fun _ => now }
  user := client
  request := request

/-- The first client adds a device at an address. -/
def adds (address : Uuid) : ClientCall :=
  call 5 1 (.deviceCreate { name := "Konditsioner", address := address })

/-- The first client orders a service for the device. -/
def orders : ClientCall :=
  call 7 1 (.orderCreate
    { service := 9, address := some 3, device := some 5, addressText := "Yunusobod", lat := 0
      lng := 0, scheduledDate := 0, scheduledTime := 0 })

/-- The first client looks at the devices and cancels the order. -/
def looksAndCancels : List ClientCall :=
  [call 11 1 (.deviceList none ""), call 12 1 (.orderCancel 7 "Kerak emas")]

/-- In between the second client moves, adds a device and tries to read the order. -/
def bothVisit : List ClientCall :=
  [adds 3, call 6 2 (.addressUpdate 4 { addressText := some "Sergeli" }), orders,
    call 8 2 (.deviceCreate { name := "Kir yuvish mashinasi", address := 4 }),
    call 10 2 (.orderGet 7)] ++ looksAndCancels

/-- The second client is silent. -/
def oneVisits : List ClientCall := [adds 3, orders] ++ looksAndCancels

/-- The address text of a device in an answer. -/
def shownPlace : Except Error ClientResponse → Option String
  | .ok (.device row) => row.addressDetail.map ClientAddress.addressText
  | _ => none

theorem owned_twoClients (place : String) : Owned (twoClients place) where
  device d hd := by cases hd
  orderAddress o ho := by cases ho
  orderDevice o ho := by cases ho

theorem visible_twoClients (place place' : String) :
    visible 1 (twoClients place) = visible 1 (twoClients place') := rfl

end Sample

open Sample in
theorem clients_kept_apart_sample :
    Owned (after collation (twoClients "Chilonzor") bothVisit) ∧
      (after collation (twoClients "Chilonzor") bothVisit).devices.rows.map ClientDevice.client =
        [1, 2] ∧
      ((answers collation 1 (twoClients "Chilonzor") bothVisit).map Except.isOk =
        [true, true, true, true]) ∧
      answers collation 1 (twoClients "Chilonzor") bothVisit =
        answers collation 1 (twoClients "Mirobod") oneVisits := by
  have hboth : AllDiscreet collation 1 (twoClients "Chilonzor") bothVisit := by decide
  have hone : AllDiscreet collation 1 (twoClients "Mirobod") oneVisits := by decide
  have hreach : ((clientApp collation).restrict fun db call =>
      call.request.NamesOwnAddress db call.user).Reachable (twoClients "Chilonzor") :=
    .init (owned_twoClients _)
  refine ⟨(clients_kept_apart collation).1 (reachable_after hreach hboth),
    by decide, by decide, ?_⟩
  exact (clients_kept_apart collation).2 (owned_twoClients _) (owned_twoClients _)
    (visible_twoClients _ _) hboth hone rfl

/-- A device is put at the address of another client, and its answer shows where that
client lives. -/
theorem another_address_shown :
    (∃ db, (clientApp Sample.collation).Reachable db ∧ ¬Owned db) ∧
      answers Sample.collation 1 (Sample.twoClients "Chilonzor") [Sample.adds 4] ≠
        answers Sample.collation 1 (Sample.twoClients "Sergeli") [Sample.adds 4] := by
  refine ⟨⟨(Sample.adds 4).next Sample.collation (Sample.twoClients "Chilonzor"),
    .step (.init (Sample.owned_twoClients _)) rfl, fun h => ?_⟩, fun h => ?_⟩
  · obtain ⟨a, hfind, huser⟩ := h.device
      { id := 5, client := 1, name := "Konditsioner", address := 4 } (by decide)
    cases hfind
    cases huser
  · have hshown := congrArg (List.map Sample.shownPlace) h
    exact absurd hshown (by decide)

end Homex
