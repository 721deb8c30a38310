import Homex.Accounts.Models

/-!
# Who is let in

`RoleJWTAuthentication` reads the user of a request off a token, the login form
off a phone and a password, and the refresh endpoint off a refresh token. None of
them reads `is_blocked`. The signature check of a token is a parameter: `decode`
gives the claims of a token it accepts.
-/

namespace Homex

namespace Accounts

open Relational

/-- The claims the backend reads. -/
structure Token where
  role : Option String := none
  sub : Option Uuid := none
  deriving DecidableEq, Repr

/-- The user of a request. -/
inductive Subject
  | admin (user : AdminUser)
  | master (user : Master)
  | client (user : Client)
  deriving DecidableEq, Repr

/-- The master a token may stand for. -/
def AccountTables.activeMaster (db : AccountTables) (sub : Uuid) : Option Master :=
  (db.masters.find? sub).filter fun m => m.isActive ∧ m.approvalStatus = .approved

/-- The client a token may stand for. -/
def AccountTables.activeClient (db : AccountTables) (sub : Uuid) : Option Client :=
  (db.clients.find? sub).filter fun c => c.isActive

/-- The admin a token may stand for. -/
def AccountTables.activeAdmin (db : AccountTables) (sub : Uuid) : Option AdminUser :=
  (db.admins.find? sub).filter fun u => u.isActive ∧ u.isStaff

/-- The user with a role and an id, or the message of `AuthenticationFailed`. -/
def lookup (db : AccountTables) (role : Option String) (sub : Uuid) : Except String Subject :=
  if role = some "admin" then
    ((db.activeAdmin sub).map Subject.admin).elim (.error "Admin user not found") .ok
  else if role = some "master" then
    ((db.activeMaster sub).map Subject.master).elim (.error "User not found") .ok
  else if role = some "client" then
    ((db.activeClient sub).map Subject.client).elim (.error "User not found") .ok
  else
    .error "Invalid token role"

/-- `authenticate` of the parts of the `Authorization` header; a header of another form
leaves the request anonymous. -/
def RoleJWTAuthentication.authenticate (decode : String → Option Token) (parts : List String)
    (db : AccountTables) : Except String (Option Subject) :=
  match parts with
  | [keyword, raw] =>
      if keyword ≠ "Bearer" then
        .ok none
      else
        match decode raw with
        | none => .error "Invalid or expired token"
        | some token =>
            match token.sub with
            | none => .error "Invalid token role"
            | some sub => (lookup db token.role sub).map some
  | _ => .ok none

/-- `MasterLoginSerializer.validate`. -/
def MasterLoginSerializer.validate (checkPassword : String → String → Bool)
    (phone password : String) (db : AccountTables) : Except String Master :=
  match db.masters.rows.find? fun m => m.phone = phone with
  | none => .error "Telefon yoki parol noto'g'ri"
  | some master =>
      if master.approvalStatus = .pending then
        .error "Arizangiz admin tasdig'ini kutmoqda"
      else if master.approvalStatus = .rejected then
        .error (if master.rejectedReason = "" then "Arizangiz admin tomonidan rad etilgan"
          else master.rejectedReason)
      else if ¬master.isActive then
        .error "Master akkaunti faol emas"
      else if master.password = "" then
        .error "Admin hali login parol bermagan"
      else if ¬checkPassword password master.password then
        .error "Telefon yoki parol noto'g'ri"
      else
        .ok master

/-- `RefreshSerializer.create`, up to the new tokens it issues to the subject. -/
def RefreshSerializer.create (decode : String → Except String Token) (raw : String)
    (db : AccountTables) : Except Error Subject :=
  match decode raw with
  | .error message => .error (.validation "refresh_token" message)
  | .ok token =>
      match token.sub with
      | none => .error (.validation none "Refresh token role is invalid")
      | some sub =>
          if token.role = some "master" then
            ((db.activeMaster sub).map Subject.master).elim
              (.error (.validation none "Token user not found")) .ok
          else if token.role = some "client" then
            ((db.activeClient sub).map Subject.client).elim
              (.error (.validation none "Token user not found")) .ok
          else
            .error (.validation none "Refresh token role is invalid")

end Accounts

end Homex
