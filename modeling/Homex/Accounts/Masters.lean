import Homex.Accounts.Models
import Homex.Transition.Run

/-!
# The writers of a master's status

Five modules write the flags of a master: the block endpoints and actions, the
status endpoints of the dashboard and of the internal API, the generic create and
update of the dashboard and of the internal API, the approval actions of the admin,
and the registration form. Each request is one atomic step.
-/

namespace Homex

namespace Accounts

open Relational Action

/-- The statuses of `DashboardMasterStatusSerializer` and `MASTER_STATUS_CHOICES`. -/
inductive MasterStatus
  | active
  | busy
  | inactive
  | blocked
  deriving DecidableEq, Repr

/-- `DashboardMasterBlockSerializer.save`. -/
def DashboardMasterBlockAPIView.post (ctx : AccountContext) (pk : Uuid) (isBlocked : Bool)
    (reason : String) : AccountCode Unit := do
  let master ← getMaster pk
  saveMaster ctx (if isBlocked then master.block ctx.now reason else master.unblock)

/-- `DashboardMasterStatusSerializer.save`, on the instance. -/
def MasterStatus.set (status : MasterStatus) (master : Master) : Master :=
  match status with
  | .active => { master with isActive := true, isOnline := true, isAvailable := true }
  | .busy => { master with isActive := true, isOnline := true, isAvailable := false }
  | .inactive => { master with isActive := true, isOnline := false, isAvailable := false }
  | .blocked => { master with isActive := false, isOnline := false, isAvailable := false }

def DashboardMasterStatusAPIView.patch (pk : Uuid) (status : MasterStatus) :
    AccountCode Unit := do
  let master ← getMaster pk
  saveFields (status.set master)

/-- `DashboardMasterSerializer`, every field optional as in a PATCH; a POST has to have the
phone and the first name. -/
structure MasterPayload where
  phone : Option String := none
  firstName : Option String := none
  lastName : Option String := none
  specialization : Option String := none
  approvalStatus : Option MasterApprovalStatus := none
  rejectedReason : Option String := none
  password : Option String := none
  isOnline : Option Bool := none
  isAvailable : Option Bool := none
  isBlocked : Option Bool := none
  blockReason : Option String := none
  isActive : Option Bool := none
  deriving DecidableEq, Repr

/-- What `update` does for the approval before the fields are set. -/
def approve (now : Int) (approvalStatus : Option MasterApprovalStatus) (master : Master) :
    Master :=
  match approvalStatus with
  | some .approved =>
      { master with isActive := true, approvedAt := some now, rejectedReason := "" }
  | some .rejected => { master with isActive := false, approvedAt := none }
  | _ => master

/-- `if password: instance.set_password(password)`. -/
def withPassword (ctx : AccountContext) (password : Option String) (master : Master) : Master :=
  match password with
  | none => master
  | some raw => if raw = "" then master else master.setPassword ctx raw

/-- `ModelSerializer.update`: the validated fields set on the instance. -/
def MasterPayload.apply (data : MasterPayload) (master : Master) : Master :=
  { master with
      phone := data.phone.getD master.phone
      firstName := data.firstName.getD master.firstName
      lastName := data.lastName.getD master.lastName
      specialization := data.specialization.getD master.specialization
      approvalStatus := data.approvalStatus.getD master.approvalStatus
      rejectedReason := data.rejectedReason.getD master.rejectedReason
      isOnline := data.isOnline.getD master.isOnline
      isAvailable := data.isAvailable.getD master.isAvailable
      isBlocked := data.isBlocked.getD master.isBlocked
      blockReason := data.blockReason.getD master.blockReason
      isActive := data.isActive.getD master.isActive }

/-- `DashboardMasterSerializer.create`, which does nothing for the approval. -/
def DashboardMasterListCreateAPIView.create (ctx : AccountContext) (data : MasterPayload) :
    AccountCode Unit := do
  let phone ← fetch (fun _ => data.phone) (.validation "phone" "This field is required.")
  uniquePhone none phone
  let firstName ← fetch (fun _ => data.firstName)
    (.validation "first_name" "This field is required.")
  let password := data.password.getD ""
  createMaster ctx (data.apply { id := ctx.uuid, phone, firstName, password })

/-- The phone of a payload, where it has one, is not another master's. -/
def checkPhone (pk : Uuid) : Option String → AccountCode Unit
  | none => pure ()
  | some phone => uniquePhone (some pk) phone

/-- `DashboardMasterSerializer.update`, on the instance. -/
def MasterPayload.update (ctx : AccountContext) (data : MasterPayload) (master : Master) :
    Master :=
  data.apply (withPassword ctx data.password (approve ctx.now data.approvalStatus master))

def DashboardMasterDetailAPIView.update (ctx : AccountContext) (pk : Uuid)
    (data : MasterPayload) : AccountCode Unit := do
  let master ← getMaster pk
  checkPhone pk data.phone
  saveMaster ctx (data.update ctx master)

/-- `apply_master_status`. -/
def applyMasterStatus (now : Int) (master : Master) : MasterStatus → Master
  | .blocked => master.block now master.blockReason
  | .busy => { master.unblock with isAvailable := false }
  | .active => { master.unblock with isAvailable := true, isOnline := true }
  | .inactive => { master.unblock with isAvailable := true, isOnline := false }

/-- `MasterStatusAPIView`, and `MasterBlockAPIView` with `blocked` or `active`. -/
def MasterStatusAPIView.patch (ctx : AccountContext) (pk : Uuid) (status : MasterStatus) :
    AccountCode Unit := do
  let master ← getMaster pk
  saveMaster ctx (applyMasterStatus ctx.now master status)

/-- `InternalMasterWriteSerializer` after `validate`, every field optional as in a PATCH. -/
structure InternalPayload where
  phone : Option String := none
  firstName : Option String := none
  lastName : Option String := none
  specialization : Option String := none
  password : Option String := none
  status : Option MasterStatus := none
  isOnline : Option Bool := none
  isAvailable : Option Bool := none
  isActive : Option Bool := none
  deriving DecidableEq, Repr

/-- The fields of the payload set on the instance. -/
def InternalPayload.apply (data : InternalPayload) (master : Master) : Master :=
  { master with
      phone := data.phone.getD master.phone
      firstName := data.firstName.getD master.firstName
      lastName := data.lastName.getD master.lastName
      specialization := data.specialization.getD master.specialization
      isOnline := data.isOnline.getD master.isOnline
      isAvailable := data.isAvailable.getD master.isAvailable
      isActive := data.isActive.getD master.isActive }

/-- The fields, the password and then the status: both `create` and `update`. -/
def InternalPayload.write (ctx : AccountContext) (data : InternalPayload) (master : Master) :
    Master :=
  let master := withPassword ctx data.password (data.apply master)
  match data.status with
  | none => master
  | some status => applyMasterStatus ctx.now master status

/-- `InternalMasterWriteSerializer.create`. -/
def MasterCollectionAPIView.create (ctx : AccountContext) (data : InternalPayload) :
    AccountCode Unit := do
  let phone ← fetch (fun _ => data.phone) (.validation "phone" "This field is required.")
  uniquePhone none phone
  let firstName ← fetch (fun _ => data.firstName)
    (.validation "first_name" "This field is required.")
  createMaster ctx (data.write ctx { id := ctx.uuid, phone, firstName })

/-- `InternalMasterWriteSerializer.update`. -/
def MasterDetailAPIView.update (ctx : AccountContext) (pk : Uuid) (data : InternalPayload) :
    AccountCode Unit := do
  let master ← getMaster pk
  checkPhone pk data.phone
  saveMaster ctx (data.write ctx master)

/-- An admin action on the selected masters. -/
def onSelected (pks : List Uuid) (set : Master → Master) : AccountCode Unit :=
  modify fun db =>
    { db with masters := pks.foldl (fun masters pk => masters.update pk set) db.masters }

def MasterAdmin.approveMasters (ctx : AccountContext) (pks : List Uuid) : AccountCode Unit :=
  onSelected pks fun master =>
    { master with
        approvalStatus := .approved
        isActive := true
        rejectedReason := ""
        approvedAt := some ctx.now }

def MasterAdmin.rejectMasters (pks : List Uuid) : AccountCode Unit :=
  onSelected pks fun master =>
    { master with approvalStatus := .rejected, isActive := false, approvedAt := none }

def MasterAdmin.blockMasters (ctx : AccountContext) (pks : List Uuid) : AccountCode Unit :=
  onSelected pks (Master.block ctx.now "")

def MasterAdmin.unblockMasters (pks : List Uuid) : AccountCode Unit :=
  onSelected pks Master.unblock

/-- `MasterRegisterSerializer`. -/
structure RegisterPayload where
  firstName : String
  phone : String
  lastName : Option String := none
  specialization : Option String := none
  deriving DecidableEq, Repr

/-- `validate_phone`; the field's own `UniqueValidator` runs before it. -/
def MasterRegisterSerializer.validatePhone (phone : String) : AccountCode Unit := do
  uniquePhone none phone
  let db ← get
  require
    ((db.masters.rows.find? fun m => m.phone = phone).all
      fun m => m.approvalStatus ≠ .approved)
    (.validation "phone" "Bu telefon raqam bilan master allaqachon mavjud")

/-- `create`: an application of a known phone starts over. -/
def MasterRegisterSerializer.create (ctx : AccountContext) (data : RegisterPayload) :
    AccountCode Unit := do
  let db ← get
  match db.masters.rows.find? fun m => m.phone = data.phone with
  | some master =>
      saveFields { master with
        firstName := data.firstName
        lastName := data.lastName.getD master.lastName
        specialization := data.specialization.getD master.specialization
        approvalStatus := .pending
        isActive := false
        password := ""
        rejectedReason := ""
        approvedAt := none }
  | none =>
      createMaster ctx
        { id := ctx.uuid, phone := data.phone, firstName := data.firstName
          lastName := data.lastName.getD "", specialization := data.specialization.getD ""
          isActive := false, approvalStatus := .pending }

def MasterRegisterView.post (ctx : AccountContext) (data : RegisterPayload) :
    AccountCode Unit := do
  MasterRegisterSerializer.validatePhone data.phone
  MasterRegisterSerializer.create ctx data

/-- A request, or an admin action, that writes to masters. -/
inductive MasterRequest
  | dashboardBlock (pk : Uuid) (isBlocked : Bool) (reason : String)
  | dashboardStatus (pk : Uuid) (status : MasterStatus)
  | dashboardCreate (data : MasterPayload)
  | dashboardUpdate (pk : Uuid) (data : MasterPayload)
  | internalStatus (pk : Uuid) (status : MasterStatus)
  | internalCreate (data : InternalPayload)
  | internalUpdate (pk : Uuid) (data : InternalPayload)
  | adminApprove (pks : List Uuid)
  | adminReject (pks : List Uuid)
  | adminBlock (pks : List Uuid)
  | adminUnblock (pks : List Uuid)
  | register (data : RegisterPayload)
  deriving DecidableEq, Repr

def MasterRequest.view (ctx : AccountContext) : MasterRequest → AccountCode Unit
  | .dashboardBlock pk isBlocked reason =>
      DashboardMasterBlockAPIView.post ctx pk isBlocked reason
  | .dashboardStatus pk status => DashboardMasterStatusAPIView.patch pk status
  | .dashboardCreate data => DashboardMasterListCreateAPIView.create ctx data
  | .dashboardUpdate pk data => DashboardMasterDetailAPIView.update ctx pk data
  | .internalStatus pk status => MasterStatusAPIView.patch ctx pk status
  | .internalCreate data => MasterCollectionAPIView.create ctx data
  | .internalUpdate pk data => MasterDetailAPIView.update ctx pk data
  | .adminApprove pks => MasterAdmin.approveMasters ctx pks
  | .adminReject pks => MasterAdmin.rejectMasters pks
  | .adminBlock pks => MasterAdmin.blockMasters ctx pks
  | .adminUnblock pks => MasterAdmin.unblockMasters pks
  | .register data => MasterRegisterView.post ctx data

end Accounts

end Homex
