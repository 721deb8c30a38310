import Homex.Common.Store

/-!
# Accounts

The masters, with the columns that say whether they may work, and the other
subjects a token can name. The writers of these columns (`Accounts.Masters`) and
the three places that let a master in (`Accounts.Authentication`) run against
tables of their own. The columns that a request only copies to the row (avatar,
address, coordinates, language) are left out.
-/

namespace Homex

namespace Accounts

open Relational Action

/-- `MasterApprovalStatus`. -/
inductive MasterApprovalStatus
  | pending
  | approved
  | rejected
  deriving DecidableEq, Repr

/-- `accounts.Master`; the phone is unique. -/
structure Master where
  id : Uuid
  phone : String
  firstName : String
  lastName : String := ""
  password : String := ""
  specialization : String := ""
  approvalStatus : MasterApprovalStatus := .approved
  approvedAt : Option Int := none
  rejectedReason : String := ""
  isOnline : Bool := false
  isAvailable : Bool := true
  isBlocked : Bool := false
  blockedAt : Option Int := none
  blockReason : String := ""
  isActive : Bool := true
  deriving DecidableEq, Repr

/-- `accounts.Client`. -/
structure Client where
  id : Uuid
  phone : String
  isActive : Bool := true
  deriving DecidableEq, Repr

/-- The Django user of an admin. -/
structure AdminUser where
  id : Uuid
  isActive : Bool := true
  isStaff : Bool := false
  deriving DecidableEq, Repr

instance : Keyed Master Uuid := ⟨Master.id⟩

instance : Keyed Client Uuid := ⟨Client.id⟩

instance : Keyed AdminUser Uuid := ⟨AdminUser.id⟩

@[simp] theorem key_master (m : Master) : key m = m.id := rfl

/-- The tables. -/
structure AccountTables where
  masters : Table Master := .empty
  clients : Table Client := .empty
  admins : Table AdminUser := .empty

/-- Request code of the accounts. -/
abbrev AccountCode (α : Type) := Action AccountTables Error α

/-- The surroundings of a request: the clock, the id of a new row, and the password
hasher with the salt it draws. -/
structure AccountContext where
  now : Int
  uuid : Uuid
  makePassword : String → String

namespace Master

/-- `Master.block`. -/
def block (now : Int) (reason : String) (master : Master) : Master :=
  { master with
      isBlocked := true
      isActive := false
      isAvailable := false
      isOnline := false
      blockReason := reason
      blockedAt := some now }

/-- `Master.unblock`. -/
def unblock (master : Master) : Master :=
  { master with
      isBlocked := false
      isActive := true
      blockReason := ""
      blockedAt := none }

/-- `set_password`. -/
def setPassword (ctx : AccountContext) (raw : String) (master : Master) : Master :=
  { master with password := ctx.makePassword raw }

/-- `save` hashes a password that does not look hashed. -/
def hashed (ctx : AccountContext) (master : Master) : Master :=
  if master.password ≠ "" ∧
      ¬["pbkdf2_", "argon2$", "bcrypt"].any (fun scheme => scheme.isPrefixOf master.password) then
    master.setPassword ctx master.password
  else
    master

@[simp] theorem id_hashed (ctx : AccountContext) (master : Master) :
    (master.hashed ctx).id = master.id := by
  unfold hashed
  split <;> rfl

@[simp] theorem isActive_hashed (ctx : AccountContext) (master : Master) :
    (master.hashed ctx).isActive = master.isActive := by
  unfold hashed
  split <;> rfl

@[simp] theorem isBlocked_hashed (ctx : AccountContext) (master : Master) :
    (master.hashed ctx).isBlocked = master.isBlocked := by
  unfold hashed
  split <;> rfl

end Master

/-- `get_object_or_404(Master, pk=…)`. -/
def getMaster (pk : Uuid) : AccountCode Master :=
  fetch (fun db => db.masters.find? pk) (.notFound "Master")

/-- `save(update_fields=…)` of fields that were set on the row just read. -/
def saveFields (master : Master) : AccountCode Unit :=
  modify fun db => { db with masters := db.masters.save master }

/-- `save`. -/
def saveMaster (ctx : AccountContext) (master : Master) : AccountCode Unit :=
  saveFields (master.hashed ctx)

/-- `Master.objects.create`. -/
def createMaster (ctx : AccountContext) (master : Master) : AccountCode Unit :=
  write (fun db => (db.masters.insert? (master.hashed ctx)).map fun t => { db with masters := t })
    Code.integrityError

/-- The `UniqueValidator` of the phone; `self` is the row that is being updated. -/
def uniquePhone (self : Option Uuid) (phone : String) : AccountCode Unit := do
  let db ← get
  require (∀ m ∈ db.masters.rows, m.phone = phone → some m.id = self)
    (.validation "phone" "master with this phone already exists.")

end Accounts

end Homex
