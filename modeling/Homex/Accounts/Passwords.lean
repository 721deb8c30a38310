import Homex.Accounts.Models

/-!
# Passwords on save

`Master.save` hashes the password unless its text begins like a hash, so a
master can be saved any number of times. Whether a text is a hash is read off its
beginning alone: a raw password that begins like one is stored as it is. Django's
hasher is a parameter, with what its documentation says of it.
-/

namespace Homex

namespace Accounts

/-- The text begins like a hash. -/
def LooksHashed (password : String) : Prop :=
  ["pbkdf2_", "argon2$", "bcrypt"].any (fun scheme => scheme.isPrefixOf password) = true

instance (password : String) : Decidable (LooksHashed password) :=
  inferInstanceAs (Decidable (_ = true))

/-- What `make_password` and `check_password` do together. -/
structure AccountContext.Hashes (ctx : AccountContext) (checkPassword : String → String → Bool) :
    Prop where
  checks : ∀ raw, checkPassword raw (ctx.makePassword raw) = true
  scheme : ∀ raw, "pbkdf2_".isPrefixOf (ctx.makePassword raw) = true

theorem AccountContext.Hashes.looksHashed {ctx : AccountContext}
    {checkPassword : String → String → Bool} (h : ctx.Hashes checkPassword) (raw : String) :
    LooksHashed (ctx.makePassword raw) := by
  simp [LooksHashed, h.scheme raw]

namespace Master

variable {ctx : AccountContext} {master : Master} {raw : String}

theorem hashed_of_looksHashed (h : LooksHashed master.password) : master.hashed ctx = master := by
  simp [hashed, show _ = true from h]

/-- A raw password is hashed. -/
theorem password_hashed_of_raw (hraw : raw ≠ "") (h : ¬LooksHashed raw) :
    ({ master with password := raw }.hashed ctx).password = ctx.makePassword raw := by
  unfold hashed
  rw [if_pos ⟨hraw, h⟩]
  rfl

/-- Any number of saves, each with the salt it draws. -/
def saves (master : Master) (ctxs : List AccountContext) : Master :=
  ctxs.foldl (fun master ctx => master.hashed ctx) master

/-- A password that looks hashed is never hashed again. -/
theorem saves_of_looksHashed (h : LooksHashed master.password) (ctxs : List AccountContext) :
    master.saves ctxs = master := by
  induction ctxs with
  | nil => rfl
  | cons ctx ctxs ih => rw [saves, List.foldl_cons, hashed_of_looksHashed h, ← saves, ih]

/-- A save stores a password that the raw one is checked against, and later saves leave it
as it is. -/
structure Keeps (checkPassword : String → String → Bool) (raw : String) (ctx : AccountContext)
    (later : List AccountContext) (master : Master) : Prop where
  checks : checkPassword raw (master.hashed ctx).password = true
  stable : ((master.hashed ctx).saves later).password = (master.hashed ctx).password

variable {checkPassword : String → String → Bool} {later : List AccountContext}

theorem keeps_of_looksHashed (h : LooksHashed master.password) :
    Keeps checkPassword raw ctx later master ↔ checkPassword raw master.password = true := by
  constructor
  · intro hkeeps
    have hchecks := hkeeps.checks
    rw [hashed_of_looksHashed h] at hchecks
    exact hchecks
  · intro hchecks
    refine ⟨?_, ?_⟩
    · rw [hashed_of_looksHashed h]
      exact hchecks
    · rw [hashed_of_looksHashed h, saves_of_looksHashed h]

/-- A password that is set first is saved as its hash. -/
theorem keeps_setPassword {ctx₀ : AccountContext} (h : ctx₀.Hashes checkPassword) :
    Keeps checkPassword raw ctx later (master.setPassword ctx₀ raw) :=
  (keeps_of_looksHashed (h.looksHashed raw)).mpr (h.checks raw)

theorem keeps_raw (hctx : ctx.Hashes checkPassword) (hraw : raw ≠ "") (h : ¬LooksHashed raw) :
    Keeps checkPassword raw ctx later { master with password := raw } := by
  have hpassword : ({ master with password := raw }.hashed ctx).password =
      ctx.makePassword raw := password_hashed_of_raw hraw h
  have hlooks : LooksHashed ({ master with password := raw }.hashed ctx).password := by
    rw [hpassword]
    exact hctx.looksHashed raw
  refine ⟨?_, ?_⟩
  · rw [hpassword]
    exact hctx.checks raw
  · rw [saves_of_looksHashed hlooks]

/-- A password is kept, whether it is assigned or set, unless the assigned text begins like
a hash and is not the hash of itself. -/
theorem password_kept {ctx₀ : AccountContext} (hctx₀ : ctx₀.Hashes checkPassword)
    (hctx : ctx.Hashes checkPassword) (hraw : raw ≠ "") (master : Master)
    (later : List AccountContext) :
    (Keeps checkPassword raw ctx later { master with password := raw } ∧
        Keeps checkPassword raw ctx later (master.setPassword ctx₀ raw)) ↔
      (LooksHashed raw → checkPassword raw raw = true) := by
  rw [and_iff_left (keeps_setPassword hctx₀)]
  by_cases h : LooksHashed raw
  · have hlooks : LooksHashed { master with password := raw }.password := h
    rw [keeps_of_looksHashed hlooks]
    exact ⟨fun hchecks _ => hchecks, fun hchecks => hchecks h⟩
  · exact iff_of_true (keeps_raw hctx hraw h) fun hlooks => absurd hlooks h

end Master

namespace Sample

/-- A hash is the scheme in front of the password. -/
def hasher : AccountContext where
  now := 1
  uuid := 2
  makePassword raw := "pbkdf2_sha256$" ++ raw

def checks (raw encoded : String) : Bool := encoded == "pbkdf2_sha256$" ++ raw

theorem hashes : hasher.Hashes checks where
  checks raw := by simp [hasher, checks]
  scheme raw := by
    have happend : "pbkdf2_sha256$" ++ raw = "pbkdf2_" ++ ("sha256$" ++ raw) := by
      rw [← String.append_assoc]
      rfl
    simp [hasher, happend, String.isPrefixOf]

def newMaster : Master := { id := 1, phone := "+998901112233", firstName := "Ali" }

end Sample

open Sample Master in
theorem Master.password_kept_sample :
    "secret" ≠ "" ∧ hasher.Hashes checks ∧
      Keeps checks "secret" hasher [hasher, hasher] { newMaster with password := "secret" } ∧
      Keeps checks "secret" hasher [hasher, hasher] (newMaster.setPassword hasher "secret") := by
  have hraw : "secret" ≠ "" := by decide
  refine ⟨hraw, hashes, (password_kept hashes hashes hraw newMaster [hasher, hasher]).mpr ?_⟩
  intro h
  simp [LooksHashed, String.isPrefixOf] at h

open Sample Master in
/-- A raw password that begins like a hash is stored as it is, and does not check. -/
theorem Master.raw_password_stored :
    ¬∀ (checkPassword : String → String → Bool) (ctx : AccountContext) (raw : String)
      (master : Master) (later : List AccountContext),
      ctx.Hashes checkPassword → raw ≠ "" →
        Keeps checkPassword raw ctx later { master with password := raw } := by
  intro h
  have hlooks : LooksHashed { newMaster with password := "pbkdf2_secret" }.password := by
    simp [LooksHashed, String.isPrefixOf]
  have hkeeps := h checks hasher "pbkdf2_secret" newMaster [] hashes (by decide)
  have hchecks := (keeps_of_looksHashed hlooks).mp hkeeps
  revert hchecks
  decide

end Accounts

end Homex
