import NewApi.Wallet.Quota

/-!
# Wallet/Ceiling — no wallet exceeds `MaxWalletQuota`

Orders, codes and direct increases refuse what the ceiling does not leave room for.  A transfer of
affiliate quota, a check-in in a transaction and the write of a queued delta do not look; `Room`
asks that they find room.

* `WalletOp.exec_under` — one operation that succeeds keeps all wallets under the ceiling.
* `WalletOp.exec_error` — one that fails leaves everything as it was.
* `wallet_ceiling` — whole runs.
-/

namespace Wallet

open Prod Tx

open Billing (maxWalletQuota)

/-- All wallets are under the ceiling. -/
def Under (users : ℤ → Option WalletUser) : Prop :=
  ∀ id u, users id = some u → u.quota ≤ maxWalletQuota

theorem Under.update {users : ℤ → Option WalletUser} (h : Under users) (id : ℤ) {u : WalletUser}
    (hu : u.quota ≤ maxWalletQuota) : Under (Function.update users id (some u)) := by
  intro j v hv
  rw [Function.update_apply] at hv
  split at hv
  · cases hv; exact hu
  · exact h j v hv

theorem Under.credit {users users' : ℤ → Option WalletUser} (h : Under users) {id q : ℤ}
    {fields : UserFields} (hc : creditTopUpQuota id q fields users = .ok users') :
    Under users' := by
  obtain ⟨-, -, u, -, hroom, rfl⟩ := creditTopUpQuota_eq_ok.mp hc
  exact h.update id hroom

/-- A call on an order leaves the wallets alone or makes one credit. -/
theorem TopUpCall.under {env : TopUpEnv} {tradeNo : String} {call : TopUpCall} {db db' : TopUpDb}
    {u : Unit} (h : Under db.users) (hcall : call.exec env tradeNo db = (.ok u, db')) :
    Under db'.users := by
  by_cases hcloses : call.Closes
  · cases TopUpCall.settles hcloses hcall with
    | same => exact h
    | closed => exact h
    | credited _ _ _ _ _ hcredit => exact h.credit hcredit
  · cases call with
    | updateStatus expected target =>
      obtain ⟨-, -, -, rfl⟩ := updatePendingTopUpStatus_settles hcall
      exact h
    | _ => exact absurd trivial hcloses

/-! ## What the operations do -/

section

variable {cfg : WalletConfig} {env : TopUpEnv} {db db' : WalletDb} {id quota : ℤ} {u : Unit}
  {e : WalletError}

theorem increaseUserQuota_eq_ok (h : increaseUserQuota id quota db = (.ok u, db')) :
    ∃ user : WalletUser, user.quota + quota ≤ maxWalletQuota ∧
      db' = db.setUser id { user with quota := user.quota + quota } := by
  rw [increaseUserQuota, read_bind] at h
  cases hu : db.users id with
  | none => rw [hu] at h; cases h
  | some user =>
    rw [hu] at h
    obtain ⟨hroom, h⟩ := refuse_bind_eq_ok.mp h
    obtain ⟨-, rfl⟩ := mk.inj h
    exact ⟨user, by omega, rfl⟩

theorem clean_increaseUserQuota (id quota : ℤ) : (increaseUserQuota id quota).Clean := by
  refine clean_read_bind fun db => ?_
  cases db.users id with
  | none => exact clean_throw _
  | some user => exact clean_refuse_bind (clean_modify _)

theorem transferAffQuotaToQuota_eq_ok
    (h : transferAffQuotaToQuota env id quota db = (.ok u, db')) :
    ∃ user, db.users id = some user ∧ ¬ (quota : ℚ) < db.quotaPerUnit ∧ ¬ user.affQuota < quota ∧
      db' = db.setUser id
        { user with affQuota := user.affQuota - quota, quota := user.quota + quota } := by
  rw [transferAffQuotaToQuota, read_bind, refuse_bind_eq_ok, atomically_eq_ok] at h
  obtain ⟨hmin, h⟩ := h
  cases hu : db.users id with
  | none => rw [hu] at h; cases h
  | some user =>
    rw [hu] at h
    obtain ⟨haff, h⟩ := refuse_bind_eq_ok.mp h
    obtain ⟨-, h⟩ := refuse_bind_eq_ok.mp h
    rw [modify_bind, refuse_eq_ok] at h
    exact ⟨user, rfl, hmin, haff, h.2⟩

theorem increaseUserQuotaOrQueue_under {direct : Bool} (hunder : Under db.users)
    (h : increaseUserQuotaOrQueue cfg id quota direct db = (.ok u, db')) : Under db'.users := by
  obtain ⟨-, h⟩ := refuse_bind_eq_ok.mp h
  obtain ⟨-, h⟩ := refuse_bind_eq_ok.mp h
  split at h
  · obtain ⟨-, rfl⟩ := mk.inj h
    exact hunder
  · obtain ⟨user, hroom, rfl⟩ := increaseUserQuota_eq_ok h
    exact hunder.update id hroom

theorem clean_increaseUserQuotaOrQueue (cfg : WalletConfig) (id quota : ℤ) (direct : Bool) :
    (increaseUserQuotaOrQueue cfg id quota direct).Clean := by
  refine clean_refuse_bind (clean_refuse_bind ?_)
  split
  · exact clean_modify _
  · exact clean_increaseUserQuota id quota

theorem decreaseUserQuotaOrQueue_under {direct : Bool} (hunder : Under db.users)
    (h : decreaseUserQuotaOrQueue cfg id quota direct db = (.ok u, db')) : Under db'.users := by
  obtain ⟨hneg, h⟩ := refuse_bind_eq_ok.mp h
  split at h
  · obtain ⟨-, rfl⟩ := mk.inj h
    exact hunder
  · rw [decreaseUserQuota, read_bind] at h
    cases hu : db.users id with
    | none =>
      rw [hu] at h
      obtain ⟨-, rfl⟩ := mk.inj h
      exact hunder
    | some user =>
      rw [hu] at h
      obtain ⟨-, rfl⟩ := mk.inj h
      have := hunder id user hu
      exact hunder.update id (by dsimp only; omega)

theorem clean_decreaseUserQuotaOrQueue (cfg : WalletConfig) (id quota : ℤ) (direct : Bool) :
    (decreaseUserQuotaOrQueue cfg id quota direct).Clean := by
  refine clean_refuse_bind ?_
  split
  · exact clean_modify _
  · refine clean_read_bind fun db => ?_
    cases db.users id with
    | none => exact clean_pure _
    | some user => exact clean_modify _

variable {date : String}

theorem createCheckin_eq_ok (h : createCheckin env id date db = (.ok u, db')) :
    (id, date) ∉ db.checkins ∧ db' = { db with checkins := (id, date) :: db.checkins } := by
  obtain ⟨-, h⟩ := refuse_bind_eq_ok.mp h
  obtain ⟨hnew, h⟩ := refuse_bind_eq_ok.mp h
  exact ⟨hnew, (mk.inj h).2.symm⟩

theorem clean_createCheckin (env : TopUpEnv) (id : ℤ) (date : String) :
    (createCheckin env id date).Clean :=
  clean_read_bind fun _ => clean_refuse_bind (clean_refuse_bind (clean_modify _))

theorem userCheckinWithTransaction_under (hunder : Under db.users)
    (hroom : (id, date) ∉ db.checkins → ∀ user ∈ db.users id, user.quota + quota ≤ maxWalletQuota)
    (h : userCheckinWithTransaction env id date quota db = (.ok u, db')) : Under db'.users := by
  rw [userCheckinWithTransaction, atomically_eq_ok, bind_eq_ok] at h
  obtain ⟨_, db₁, hcreate, h⟩ := h
  obtain ⟨hnew, rfl⟩ := createCheckin_eq_ok hcreate
  obtain ⟨-, h⟩ := refuse_bind_eq_ok.mp h
  rw [read_bind] at h
  cases hu : db.users id with
  | none =>
    rw [hu] at h
    obtain ⟨-, rfl⟩ := refuse_eq_ok.mp h
    exact hunder
  | some user =>
    rw [hu] at h
    obtain ⟨-, rfl⟩ := refuse_eq_ok.mp h
    exact hunder.update id (hroom hnew user hu)

theorem userCheckinWithoutTransaction_under (hunder : Under db.users)
    (h : userCheckinWithoutTransaction cfg env id date quota db = (.ok u, db')) :
    Under db'.users := by
  obtain ⟨_, db₁, hcreate, h⟩ := bind_eq_ok.mp h
  obtain ⟨-, rfl⟩ := createCheckin_eq_ok hcreate
  rw [onError_eq_ok] at h
  exact increaseUserQuotaOrQueue_under (by exact hunder) h

/-- The record of a check-in whose increase is refused is deleted again. -/
theorem clean_userCheckinWithoutTransaction (cfg : WalletConfig) (env : TopUpEnv) (id : ℤ)
    (date : String) (quota : ℤ) : (userCheckinWithoutTransaction cfg env id date quota).Clean := by
  refine clean_bind_onError (clean_createCheckin env id date)
    (fun _ => clean_increaseUserQuotaOrQueue cfg id quota true) fun db u db' hcreate => ?_
  obtain ⟨-, rfl⟩ := createCheckin_eq_ok hcreate
  simp

theorem writeQueued_under {n : ℕ} (hunder : Under db.users)
    (hroom : ∀ row ∈ db.flushing[n]?, ∀ user ∈ db.users row.1,
      user.quota + row.2 ≤ maxWalletQuota)
    (h : writeQueued n db = (.ok u, db')) : Under db'.users := by
  rw [writeQueued, read_bind] at h
  cases hn : db.flushing[n]? with
  | none =>
    rw [hn] at h
    obtain ⟨-, rfl⟩ := mk.inj h
    exact hunder
  | some row =>
    rw [hn] at h
    dsimp only at h
    cases hu : db.users row.1 with
    | none =>
      rw [hu] at h
      obtain ⟨-, rfl⟩ := mk.inj h
      exact hunder
    | some user =>
      rw [hu] at h
      obtain ⟨-, rfl⟩ := mk.inj h
      exact hunder.update row.1 (hroom row hn user hu)

theorem clean_writeQueued (n : ℕ) : (writeQueued n).Clean := by
  refine clean_read_bind fun db => ?_
  cases db.flushing[n]? with
  | none => exact clean_pure _
  | some row =>
    intro s e s' h
    dsimp only at h
    cases hu : db.users row.1 with
    | none => rw [hu] at h; cases h
    | some user => rw [hu] at h; cases h

end

namespace WalletOp

variable (cfg : WalletConfig)

/-- The increases that do not look at the ceiling find room for what they add. -/
def Room (db : WalletDb) : WalletOp → Prop
  | .transfer _ id quota => ∀ user ∈ db.users id, ¬ (quota : ℚ) < db.quotaPerUnit →
      ¬ user.affQuota < quota → user.quota + quota ≤ maxWalletQuota
  | .checkin _ id date quotaAwarded => cfg.sqlite = false → (id, date) ∉ db.checkins →
      ∀ user ∈ db.users id, user.quota + quotaAwarded ≤ maxWalletQuota
  | .writeQueued n => ∀ row ∈ db.flushing[n]?, ∀ user ∈ db.users row.1,
      user.quota + row.2 ≤ maxWalletQuota
  | _ => True

instance : ∀ (db : WalletDb) (op : WalletOp), Decidable (op.Room cfg db)
  | _, .transfer _ _ _ => inferInstanceAs (Decidable (∀ user ∈ _, _ → _ → _))
  | _, .checkin _ _ _ _ => inferInstanceAs (Decidable (_ → _ → ∀ user ∈ _, _))
  | _, .writeQueued _ => inferInstanceAs (Decidable (∀ row ∈ _, ∀ user ∈ _, _))
  | _, .topUp _ _ _ => inferInstanceAs (Decidable True)
  | _, .redeem _ _ _ => inferInstanceAs (Decidable True)
  | _, .increase _ _ _ => inferInstanceAs (Decidable True)
  | _, .decrease _ _ _ => inferInstanceAs (Decidable True)
  | _, .swapQueue => inferInstanceAs (Decidable True)

variable {cfg} {db db' : WalletDb} {u : Unit}

/-- **An operation that succeeds** keeps all wallets under the ceiling. -/
theorem exec_under (op : WalletOp) (hunder : Under db.users) (hroom : op.Room cfg db)
    (h : op.exec cfg db = (.ok u, db')) : Under db'.users := by
  cases op with
  | topUp env tradeNo call =>
    obtain ⟨t, hcall, rfl⟩ := zoom_eq_ok h
    refine TopUpCall.under ?_ hcall
    exact hunder
  | redeem env key userId =>
    obtain ⟨q, db₁, hzoom, h⟩ := bind_eq_ok.mp h
    obtain ⟨t, hredeem, rfl⟩ := zoom_eq_ok hzoom
    obtain ⟨-, rfl⟩ := mk.inj h
    obtain ⟨r, users, -, -, -, hcredit, rfl⟩ := redeem_eq_ok hredeem
    exact hunder.credit hcredit
  | transfer env id quota =>
    obtain ⟨user, hu, hmin, haff, rfl⟩ := transferAffQuotaToQuota_eq_ok h
    exact hunder.update id (hroom user hu hmin haff)
  | checkin env id date quotaAwarded =>
    rw [exec, userCheckin] at h
    split at h
    · exact userCheckinWithoutTransaction_under hunder h
    · next hsqlite =>
      exact userCheckinWithTransaction_under hunder (hroom (by simpa using hsqlite)) h
  | increase id quota direct => exact increaseUserQuotaOrQueue_under hunder h
  | decrease id quota direct => exact decreaseUserQuotaOrQueue_under hunder h
  | swapQueue =>
    obtain ⟨-, rfl⟩ := mk.inj h
    exact hunder
  | writeQueued n => exact writeQueued_under hunder hroom h

/-- **An operation that fails** leaves everything as it was: the wallet, and the order, the code,
the affiliate quota or the check-in it was to be credited for. -/
theorem clean_exec (cfg : WalletConfig) (op : WalletOp) : (op.exec cfg).Clean := by
  cases op with
  | topUp env tradeNo call => exact clean_zoom (fun _ => rfl) (TopUpCall.clean_exec call)
  | redeem env key userId =>
    exact clean_bind_pure (clean_zoom (fun _ => rfl) (clean_redeem env key userId)) _
  | transfer env id quota =>
    exact clean_read_bind fun _ => clean_refuse_bind (clean_atomically _)
  | checkin env id date quotaAwarded =>
    rw [exec, userCheckin]
    split
    · exact clean_userCheckinWithoutTransaction cfg env id date quotaAwarded
    · exact clean_atomically _
  | increase id quota direct => exact clean_increaseUserQuotaOrQueue cfg id quota direct
  | decrease id quota direct => exact clean_decreaseUserQuotaOrQueue cfg id quota direct
  | swapQueue => exact clean_modify _
  | writeQueued n => exact clean_writeQueued n

/-- The database after an operation, made or refused. -/
def step (cfg : WalletConfig) (db : WalletDb) (op : WalletOp) : WalletDb := (op.exec cfg db).2

theorem step_under (cfg : WalletConfig) (db : WalletDb) (op : WalletOp) (hunder : Under db.users)
    (hroom : op.Room cfg db) : Under (step cfg db op).users := by
  rw [step]
  rcases h : op.exec cfg db with ⟨e | u, db'⟩
  · rw [clean_exec cfg op db e db' h]
    exact hunder
  · exact op.exec_under hunder hroom h

end WalletOp

/-- **Wallet ceiling.**  From wallets under the ceiling, any credits and decreases keep them there,
and one that fails leaves both the wallet and what it was credited for as they were, provided that
transfers, check-ins in a transaction and flushed deltas find room. -/
theorem wallet_ceiling (cfg : WalletConfig) {db : WalletDb} (hunder : Under db.users)
    (ops : List WalletOp)
    (hroom : Runs.Guarded (WalletOp.step cfg) (fun db op => op.Room cfg db) db ops) :
    let w := Runs.run (WalletOp.step cfg) db ops
    Under w.users ∧ ∀ op : WalletOp, (op.Room cfg w → Under (op.step cfg w).users) ∧
      ∀ e w', op.exec cfg w = (.error e, w') → w' = w := by
  intro w
  have hw : Under w.users := Runs.invariant (WalletOp.step_under cfg) hunder hroom
  exact ⟨hw, fun op => ⟨op.step_under cfg w hw, op.clean_exec cfg w⟩⟩

/-- A wallet with the given balance, and affiliate quota for one unit. -/
def oneWallet (balance : ℤ) : WalletDb where
  quotaPerUnit := 500000
  users := fun id => if id = 1 then some { quota := balance, affQuota := 500000 } else none

theorem under_oneWallet {balance : ℤ} (h : balance ≤ maxWalletQuota) :
    Under (oneWallet balance).users := by
  intro id u hu
  dsimp only [oneWallet] at hu
  split at hu
  · cases hu; exact h
  · cases hu

/-- A transfer into an empty wallet, and an increase that is refused at the ceiling. -/
theorem wallet_ceiling_refuses :
    Under (Runs.run (WalletOp.step {}) (oneWallet 0)
      [.transfer {} 1 500000, .increase 1 maxWalletQuota true]).users :=
  (wallet_ceiling {} (under_oneWallet (by decide)) _ (by decide +kernel)).1

/-- **A full wallet is filled further** by a transfer, by a check-in in a transaction, and by an
increase that went through the batch queue. -/
theorem wallet_ceiling_exceeded :
    let quota (w : WalletDb) : Option ℤ := (w.users 1).map (·.quota)
    let full := oneWallet maxWalletQuota
    quota (WalletOp.step {} full (.transfer {} 1 500000)) = some (maxWalletQuota + 500000) ∧
      quota (WalletOp.step {} full (.checkin {} 1 "2026-01-01" 1000)) =
        some (maxWalletQuota + 1000) ∧
      quota (Runs.run (WalletOp.step { batchUpdateEnabled := true }) full
        [.increase 1 1000 false, .swapQueue, .writeQueued 0]) = some (maxWalletQuota + 1000) := by
  decide +kernel

end Wallet
