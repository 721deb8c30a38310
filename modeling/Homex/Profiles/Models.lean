import Homex.Common.Money
import Homex.Relational.Table

/-!
# Clients, masters, services and addresses

The rows an order refers to, with the columns the order flows read.
-/

namespace Homex

namespace Profiles

open Relational

/-- `accounts.Client`; the phone is unique. -/
structure Client where
  id : Uuid
  phone : String
  firstName : String := ""
  deriving DecidableEq, Repr

/-- `accounts.Master`. -/
structure Master where
  id : Uuid
  phone : String := ""
  firstName : String := ""
  lastName : String := ""
  isActive : Bool := true
  deriving DecidableEq, Repr

/-- `str.isspace` of one character. -/
def isSpace (c : Char) : Bool :=
  (9 ≤ c.toNat ∧ c.toNat ≤ 13) ∨ (28 ≤ c.toNat ∧ c.toNat ≤ 32) ∨
    (8192 ≤ c.toNat ∧ c.toNat ≤ 8202) ∨
    c.toNat ∈ [133, 160, 5760, 8232, 8233, 8239, 8287, 12288]

/-- `str.strip`. -/
def strip (s : String) : String :=
  .ofList ((s.toList.dropWhile isSpace).reverse.dropWhile isSpace).reverse

/-- `f"{first_name} {last_name}".strip()`. -/
def Master.fullName (m : Master) : String := strip (m.firstName ++ " " ++ m.lastName)

/-- `__str__`. -/
def Master.str (m : Master) : String := if m.fullName = "" then m.phone else m.fullName

/-- `services.Service`. -/
structure Service where
  id : Uuid
  name : String
  mxik : String := ""
  packageCode : String := ""
  vatPercent : Nat := 12
  isActive : Bool := true
  deriving DecidableEq, Repr

/-- `profiles.ClientAddress`; coordinates count units of the eighth decimal. -/
structure ClientAddress where
  id : Uuid
  client : Uuid
  label : String
  addressText : String
  lat : Int
  lng : Int
  isDefault : Bool := false
  deriving DecidableEq, Repr

/-- `ClientDevice.STATUSES`. -/
inductive DeviceStatus
  | active
  | repair
  | broken
  deriving DecidableEq, Repr

/-- `profiles.ClientDevice`. -/
structure ClientDevice where
  id : Uuid
  client : Uuid
  name : String
  model : String := ""
  image : Option String := none
  address : Uuid
  status : DeviceStatus := .active
  deriving DecidableEq, Repr

instance : Keyed Client Uuid := ⟨Client.id⟩

instance : Keyed Master Uuid := ⟨Master.id⟩

instance : Keyed Service Uuid := ⟨Service.id⟩

instance : Keyed ClientAddress Uuid := ⟨ClientAddress.id⟩

instance : Keyed ClientDevice Uuid := ⟨ClientDevice.id⟩

end Profiles

end Homex
