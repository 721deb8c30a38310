import Homex.Profiles.Views

/-!
# Internal client writes

The internal API writes a client through `InternalClientWriteSerializer`. A text
given as the address of the client becomes the default address: the one there is,
or the first of the client's addresses, is rewritten, and only a client without
addresses gets a new one.
-/

namespace Homex

namespace InternalApi

open Relational Action Code Profiles

/-- The fields of `InternalClientWriteSerializer` that the flows here read. -/
structure ClientPayload where
  phone : Option String := none
  firstName : Option String := none
  fullName : Option String := none
  address : Option String := none
  lat : Option Int := none
  lng : Option Int := none

namespace InternalClientWriteSerializer

/-- The first name that `split_full_name` takes from a name without blanks around it. -/
def splitFirstName (name : String) : String :=
  .ofList (name.toList.takeWhile fun c => c ≠ ' ')

/-- `validate`: a full name stands in for a first name that is not given. -/
def firstName (data : ClientPayload) : Option String :=
  let name := strip (data.fullName.getD "")
  if name ≠ "" ∧ data.firstName.getD "" = "" then some (splitFirstName name) else data.firstName

/-- The `UniqueValidator` of the phone; `self` is the row that is being updated. -/
def uniquePhone (self : Option Uuid) (phone : String) : Code Unit := do
  let db ← get
  require (∀ client ∈ db.clients.rows, client.phone = phone → some client.id = self)
    (.validation "phone" "client with this phone already exists.")

/-- The address that `_save_address` rewrites. -/
def currentAddress (c : Collation) (client : Uuid) (db : DB) : Option ClientAddress :=
  ((clientAddresses c client db).filter fun a => a.isDefault).head?.or
    (clientAddresses c client db).head?

/-- The address with the text, and with the coordinates when both are given. -/
def rewritten (address : ClientAddress) (addressText : String) (lat lng : Option Int) :
    ClientAddress :=
  let located := match lat, lng with
    | some lat, some lng => { address with lat, lng }
    | _, _ => address
  { located with label := "Asosiy", addressText, isDefault := true }

/-- `_save_address`. -/
def saveAddress (c : Collation) (ctx : Context) (client : Uuid) (addressText : String)
    (lat lng : Option Int) : Code Unit :=
  if addressText = "" then
    pure ()
  else do
    let db ← get
    match currentAddress c client db, lat, lng with
    | some address, _, _ =>
        modify fun db =>
          { db with addresses := db.addresses.save (rewritten address addressText lat lng) }
    | none, some lat, some lng =>
        createAddress
          { id := ctx.uuid .address, client, label := "Asosiy", addressText, lat, lng
            isDefault := true }
    | none, _, _ => pure ()

/-- Validation and `create`. -/
def create (c : Collation) (ctx : Context) (data : ClientPayload) : Code Uuid := do
  let phone ← fetch (fun _ => data.phone) (.validation "phone" "This field is required.")
  uniquePhone none phone
  createClient { id := ctx.uuid .client, phone, firstName := (firstName data).getD "" }
  saveAddress c ctx (ctx.uuid .client) (data.address.getD "") data.lat data.lng
  pure (ctx.uuid .client)

/-- Validation and `update`; a PUT has its required fields. -/
def update (c : Collation) (ctx : Context) (pk : Uuid) (data : ClientPayload) : Code Unit := do
  let client ← fetch (fun db => db.clients.find? pk) (.notFound "Client")
  match data.phone with
  | none => pure ()
  | some phone => uniquePhone (some pk) phone
  modify fun db =>
    { db with
        clients := db.clients.save
          { client with
              phone := data.phone.getD client.phone
              firstName := (firstName data).getD client.firstName } }
  saveAddress c ctx client.id (data.address.getD "") data.lat data.lng

end InternalClientWriteSerializer

end InternalApi

end Homex
