import NewApi.Wallet.TopUp

/-!
# Wallet/Redemption — redemption codes

`Redeem` of `model/redemption.go`, one transaction that flips the code with a compare-and-swap and
credits the wallet, and the two halves of the administrator's `UpdateRedemption`: the read, with
the fields changed in memory, and the `Update` that writes five columns back.

* `redeem_eq_ok` — everything a redemption that succeeds did.
-/

namespace Wallet

open Tx

open Billing (maxWalletQuota)

/-- The status of a code. -/
inductive RedemptionStatus where
  | enabled | disabled | used
  /-- Any other number, which an edit of the status may write. -/
  | other (code : ℤ)
  deriving DecidableEq

/-- A row of `redemptions`. -/
structure Redemption where
  id : ℤ
  key : String
  name : String := ""
  status : RedemptionStatus := .enabled
  quota : ℤ
  redeemedTime : ℤ := 0
  expiredTime : ℤ := 0
  usedUserId : ℤ := 0
  /-- Soft-deleted: no query sees the row. -/
  deleted : Bool := false
  deriving DecidableEq

/-- Codes and wallets. -/
structure RedemptionDb where
  codes : Table Redemption Redemption.id
  users : ℤ → Option WalletUser

/-- Why a code is refused. -/
inductive RedeemError where
  | keyMissing
  | invalidUserId
  | invalidCode
  | alreadyUsed
  | expired
  | credit (e : CreditError)
  | database
  deriving DecidableEq

namespace RedemptionDb

/-- `First` on the key. -/
def byKey (db : RedemptionDb) (key : String) : Option Redemption :=
  db.codes.rows.find? fun r => decide (r.key = key ∧ r.deleted = false)

/-- `First` on the id. -/
def byId (db : RedemptionDb) (id : ℤ) : Option Redemption :=
  (db.codes.find? id).filter fun r => !r.deleted

end RedemptionDb

/-- The code as a redemption leaves it. -/
def Redemption.redeemed (r : Redemption) (now userId : ℤ) : Redemption :=
  { r with redeemedTime := now, status := .used, usedUserId := userId }

section

variable (env : TopUpEnv)

/-- The compare-and-swap: only an enabled code is flipped. -/
def markUsed (id userId : ℤ) : Tx RedemptionDb RedeemError Unit := do
  Tx.refuse (env.failing = some .save) .database
  let db ← Tx.read
  match db.byId id with
  | none => Tx.throw .alreadyUsed
  | some current =>
    Tx.refuse (current.status ≠ .enabled) .alreadyUsed
    Tx.modify fun db => { db with codes := db.codes.save (current.redeemed env.now userId) }

/-- `Redeem`: the reply is the quota credited. -/
def redeem (key : String) (userId : ℤ) : Tx RedemptionDb RedeemError ℤ := do
  Tx.refuse (key = "") .keyMissing
  Tx.refuse (userId = 0) .invalidUserId
  Tx.atomically do
    let db ← Tx.read
    match db.byKey key with
    | none => Tx.throw .invalidCode
    | some redemption =>
      Tx.refuse (redemption.status ≠ .enabled) .alreadyUsed
      Tx.refuse (redemption.expiredTime ≠ 0 ∧ redemption.expiredTime < env.now) .expired
      markUsed env redemption.id userId
      Tx.refuse (env.failing = some .credit) .database
      let db ← Tx.read
      let users ← Tx.lift ((creditTopUpQuota userId redemption.quota {} db.users).mapError .credit)
      Tx.modify fun db => { db with users }
      Tx.refuse (env.failing = some .commit) .database
      pure redemption.quota

end

/-! ## The administrator's edit -/

/-- The body of a request to `UpdateRedemption`. -/
structure RedemptionEdit where
  id : ℤ
  /-- `status_only`. -/
  statusOnly : Bool
  name : String := ""
  quota : ℤ := 0
  expiredTime : ℤ := 0
  status : RedemptionStatus := .enabled
  deriving DecidableEq

/-- The checks an edit makes on its own fields; one of the status makes none. -/
def RedemptionEdit.valid (edit : RedemptionEdit) (now : ℤ) : Prop :=
  edit.statusOnly = true ∨
    0 < edit.quota ∧ edit.quota ≤ maxWalletQuota ∧ ¬ (edit.expiredTime ≠ 0 ∧ edit.expiredTime < now)

instance (edit : RedemptionEdit) (now : ℤ) : Decidable (edit.valid now) :=
  inferInstanceAs (Decidable (_ ∨ _))

/-- The first half of `UpdateRedemption`: the row as read, with the fields of the request. -/
def readForUpdate (edit : RedemptionEdit) (now : ℤ) (db : RedemptionDb) : Option Redemption :=
  if edit.id = 0 then none
  else
    match db.byId edit.id with
    | none => none
    | some clean =>
      if ¬ edit.valid now then none
      else if edit.statusOnly then some { clean with status := edit.status }
      else some { clean with
        name := edit.name, quota := edit.quota, expiredTime := edit.expiredTime }

/-- The columns `Redemption.Update` selects. -/
def Redemption.overwrite (current redemption : Redemption) : Redemption :=
  { current with
    name := redemption.name
    status := redemption.status
    quota := redemption.quota
    redeemedTime := redemption.redeemedTime
    expiredTime := redemption.expiredTime }

/-- The row `Redemption.Update`, the second half, overwrites; it may be gone. -/
def updateTarget (redemption : Redemption) (db : RedemptionDb) : Option Redemption :=
  if redemption.quota ≤ 0 ∨ redemption.quota > maxWalletQuota then none
  else db.byId redemption.id

/-- `Redemption.Update`, with whatever status the row read had. -/
def updateRedemption (redemption : Redemption) (db : RedemptionDb) : RedemptionDb :=
  match updateTarget redemption db with
  | none => db
  | some current => { db with codes := db.codes.save (current.overwrite redemption) }

/-! ## What the calls do -/

section

variable {env : TopUpEnv} {db db' : RedemptionDb} {key : String} {id userId q : ℤ}
  {r : Redemption}

theorem RedemptionDb.byId_eq_some :
    db.byId id = some r ↔ db.codes.find? id = some r ∧ r.deleted = false := by
  rw [byId, Option.filter_eq_some_iff]
  simp

/-- Ids being unique, the row found by its key is the one its id names. -/
theorem RedemptionDb.byId_of_byKey (h : db.byKey key = some r) : db.byId r.id = some r := by
  have hfound := List.find?_some h
  exact byId_eq_some.mpr ⟨Table.find?_of_mem (List.mem_of_find?_eq_some h), by simp_all⟩

theorem markUsed_eq_ok {u : Unit} (hr : db.byId id = some r)
    (h : markUsed env id userId db = (.ok u, db')) :
    db' = { db with codes := db.codes.save (r.redeemed env.now userId) } := by
  obtain ⟨-, h⟩ := refuse_bind_eq_ok.mp h
  rw [read_bind, hr] at h
  obtain ⟨-, h⟩ := refuse_bind_eq_ok.mp h
  exact (Prod.mk.inj h).2.symm

/-- **Everything a redemption that succeeds did.** -/
theorem redeem_eq_ok (h : redeem env key userId db = (.ok q, db')) :
    ∃ r users, db.byKey key = some r ∧ r.status = .enabled ∧ q = r.quota ∧
      creditTopUpQuota userId r.quota {} db.users = .ok users ∧
      db' = { codes := db.codes.save (r.redeemed env.now userId), users } := by
  obtain ⟨-, h⟩ := refuse_bind_eq_ok.mp h
  obtain ⟨-, h⟩ := refuse_bind_eq_ok.mp h
  rw [atomically_eq_ok, read_bind] at h
  cases hkey : db.byKey key with
  | none => rw [hkey] at h; cases h
  | some r =>
    rw [hkey] at h
    obtain ⟨hstatus, h⟩ := refuse_bind_eq_ok.mp h
    obtain ⟨-, h⟩ := refuse_bind_eq_ok.mp h
    obtain ⟨u, db₁, hmark, h⟩ := bind_eq_ok.mp h
    obtain ⟨-, h⟩ := refuse_bind_eq_ok.mp h
    rw [read_bind, lift_bind_eq_ok] at h
    obtain ⟨users, hcredit, h⟩ := h
    rw [modify_bind] at h
    obtain ⟨-, h⟩ := refuse_bind_eq_ok.mp h
    cases h
    rw [markUsed_eq_ok (RedemptionDb.byId_of_byKey hkey) hmark] at hcredit ⊢
    exact ⟨r, users, rfl, not_not.mp hstatus, rfl, mapError_eq_ok.mp hcredit, rfl⟩

theorem clean_redeem (env : TopUpEnv) (key : String) (userId : ℤ) : (redeem env key userId).Clean :=
  clean_refuse_bind (clean_refuse_bind (clean_atomically _))

end

end Wallet
