import NewApi.Batch.Queue
import NewApi.Wallet.Orders
import NewApi.Wallet.Redemption

/-!
# Wallet/Quota — every way quota enters and leaves a wallet

The top-up orders and redemption codes of the modules before, with the transfer of affiliate quota,
check-ins, `IncreaseUserQuota` and `DecreaseUserQuota`, and the batch queue their deltas may go to.
Some of these refuse an increase beyond the ceiling in the statement that makes it, some make it
unconditionally.
-/

namespace Wallet

open Billing (maxWalletQuota)

/-- The settings of the process. -/
structure WalletConfig where
  /-- `common.BatchUpdateEnabled`. -/
  batchUpdateEnabled : Bool := false
  /-- The main database is SQLite. -/
  sqlite : Bool := false

/-- Wallets, with the orders and codes that credit them. -/
structure WalletDb where
  quotaPerUnit : ℚ
  orders : Table TopUp TopUp.tradeNo := ∅
  codes : Table Redemption Redemption.id := ∅
  /-- The check-ins made: user and date, unique. -/
  checkins : List (ℤ × String) := []
  users : ℤ → Option WalletUser
  /-- The map of the batch queue for user quota … -/
  queue : Batch.Store := ∅
  /-- …and the rows of it that a flush has taken out and not written yet. -/
  flushing : List (ℤ × ℤ) := []

/-- Why a credit fails. -/
inductive WalletError where
  | topUp (e : TopUpError)
  | redeem (e : RedeemError)
  | belowMinimum
  | affQuotaInsufficient
  | alreadyCheckedIn
  | quotaNegative
  | quotaTooLarge
  | recordNotFound
  | walletQuotaLimitExceeded
  | database
  deriving DecidableEq

namespace WalletDb

/-- What top-ups see. -/
def topUps (db : WalletDb) : TopUpDb := ⟨db.quotaPerUnit, db.orders, db.users⟩

/-- …and leave. -/
def setTopUps (db : WalletDb) (t : TopUpDb) : WalletDb :=
  { db with orders := t.orders, users := t.users }

/-- What codes see. -/
def redemptions (db : WalletDb) : RedemptionDb := ⟨db.codes, db.users⟩

/-- …and leave. -/
def setRedemptions (db : WalletDb) (r : RedemptionDb) : WalletDb :=
  { db with codes := r.codes, users := r.users }

/-- A row of `users` is overwritten. -/
def setUser (db : WalletDb) (id : ℤ) (u : WalletUser) : WalletDb :=
  { db with users := Function.update db.users id (some u) }

end WalletDb

/-- `increaseUserQuota`: the ceiling is part of the statement. -/
def increaseUserQuota (id quota : ℤ) : Tx WalletDb WalletError Unit := do
  let db ← Tx.read
  match db.users id with
  | none => Tx.throw .recordNotFound
  | some u =>
    Tx.refuse (¬ u.quota ≤ maxWalletQuota - quota) .walletQuotaLimitExceeded
    Tx.modify fun db => db.setUser id { u with quota := u.quota + quota }

section

variable (cfg : WalletConfig) (env : TopUpEnv)

/-- `IncreaseUserQuota`; with the batch queue there is no check against the balance. -/
def increaseUserQuotaOrQueue (id quota : ℤ) (db : Bool) : Tx WalletDb WalletError Unit := do
  Tx.refuse (quota < 0) .quotaNegative
  Tx.refuse (quota > maxWalletQuota) .quotaTooLarge
  if !db && cfg.batchUpdateEnabled then
    Tx.modify fun db => { db with queue := db.queue.add id quota }
  else increaseUserQuota id quota

/-- `decreaseUserQuota`; a user that does not exist is no error. -/
def decreaseUserQuota (id quota : ℤ) : Tx WalletDb WalletError Unit := do
  let db ← Tx.read
  match db.users id with
  | none => pure ()
  | some u => Tx.modify fun db => db.setUser id { u with quota := u.quota - quota }

/-- `DecreaseUserQuota`. -/
def decreaseUserQuotaOrQueue (id quota : ℤ) (db : Bool) : Tx WalletDb WalletError Unit := do
  Tx.refuse (quota < 0) .quotaNegative
  if !db && cfg.batchUpdateEnabled then
    Tx.modify fun db => { db with queue := db.queue.add id (-quota) }
  else decreaseUserQuota id quota

/-- `TransferAffQuotaToQuota`: the user is read under a lock and saved whole. -/
def transferAffQuotaToQuota (id quota : ℤ) : Tx WalletDb WalletError Unit := do
  let db ← Tx.read
  Tx.refuse ((quota : ℚ) < db.quotaPerUnit) .belowMinimum
  Tx.atomically do
    match db.users id with
    | none => Tx.throw .recordNotFound
    | some user =>
      Tx.refuse (user.affQuota < quota) .affQuotaInsufficient
      Tx.refuse (env.failing = some .save) .database
      Tx.modify fun db => db.setUser id
        { user with affQuota := user.affQuota - quota, quota := user.quota + quota }
      Tx.refuse (env.failing = some .commit) .database

/-- The insert of the check-in record, which its unique index may reject. -/
def createCheckin (userId : ℤ) (date : String) : Tx WalletDb WalletError Unit := do
  let db ← Tx.read
  Tx.refuse (env.failing = some .save) .database
  Tx.refuse ((userId, date) ∈ db.checkins) .alreadyCheckedIn
  Tx.modify fun db => { db with checkins := (userId, date) :: db.checkins }

/-- `userCheckinWithTransaction`: the increase has no condition but the id. -/
def userCheckinWithTransaction (userId : ℤ) (date : String) (quotaAwarded : ℤ) :
    Tx WalletDb WalletError Unit :=
  Tx.atomically do
    createCheckin env userId date
    Tx.refuse (env.failing = some .credit) .database
    let db ← Tx.read
    match db.users userId with
    | none => pure ()
    | some u => Tx.modify fun db => db.setUser userId { u with quota := u.quota + quotaAwarded }
    Tx.refuse (env.failing = some .commit) .database

/-- `userCheckinWithoutTransaction`: the record is deleted again if the increase is refused. -/
def userCheckinWithoutTransaction (userId : ℤ) (date : String) (quotaAwarded : ℤ) :
    Tx WalletDb WalletError Unit := do
  createCheckin env userId date
  Tx.onError (increaseUserQuotaOrQueue cfg userId quotaAwarded true) fun db =>
    { db with checkins := db.checkins.erase (userId, date) }

/-- The end of `UserCheckin`, for the award drawn. -/
def userCheckin (userId : ℤ) (date : String) (quotaAwarded : ℤ) : Tx WalletDb WalletError Unit :=
  if cfg.sqlite then userCheckinWithoutTransaction cfg env userId date quotaAwarded
  else userCheckinWithTransaction env userId date quotaAwarded

/-- A flush takes the queue out. -/
def swapQueue : Tx WalletDb WalletError Unit :=
  Tx.modify fun db => { db with queue := ∅, flushing := db.flushing ++ db.queue.rows }

/-- The user part of the statement a flush makes for the `n`-th row it has taken out. -/
def writeQueued (n : ℕ) : Tx WalletDb WalletError Unit := do
  let db ← Tx.read
  match db.flushing[n]? with
  | none => pure ()
  | some (id, quota) =>
    Tx.modify fun db => { db with flushing := db.flushing.eraseIdx n }
    match db.users id with
    | none => pure ()
    | some u => Tx.modify fun db => db.setUser id { u with quota := u.quota + quota }

end

/-! ## Operations -/

/-- The calls that move quota. -/
inductive WalletOp where
  | topUp (env : TopUpEnv) (tradeNo : String) (call : TopUpCall)
  | redeem (env : TopUpEnv) (key : String) (userId : ℤ)
  | transfer (env : TopUpEnv) (userId quota : ℤ)
  | checkin (env : TopUpEnv) (userId : ℤ) (date : String) (quotaAwarded : ℤ)
  | increase (userId quota : ℤ) (db : Bool)
  | decrease (userId quota : ℤ) (db : Bool)
  | swapQueue
  | writeQueued (n : ℕ)

/-- What a call does. -/
def WalletOp.exec (cfg : WalletConfig) : WalletOp → Tx WalletDb WalletError Unit
  | .topUp env tradeNo call =>
    Tx.zoom WalletDb.topUps WalletDb.setTopUps .topUp (call.exec env tradeNo)
  | .redeem env key userId => do
    let _ ← Tx.zoom WalletDb.redemptions WalletDb.setRedemptions .redeem
      (Wallet.redeem env key userId)
  | .transfer env userId quota => transferAffQuotaToQuota env userId quota
  | .checkin env userId date quotaAwarded => userCheckin cfg env userId date quotaAwarded
  | .increase userId quota db => increaseUserQuotaOrQueue cfg userId quota db
  | .decrease userId quota db => decreaseUserQuotaOrQueue cfg userId quota db
  | .swapQueue => Wallet.swapQueue
  | .writeQueued n => Wallet.writeQueued n

end Wallet
