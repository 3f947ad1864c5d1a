import NewApi.Machinery.Runs
import NewApi.Wallet.TopUp

/-!
# Wallet/Orders — one order under any interleaving of callbacks

Provider callbacks, manual completions and status updates on one order, in any order and any number,
with anything else happening to the rest of the database in between.

* `TopUpCall.settles` — everything a call that succeeds can have done.
* `TopUpCall.error_eq` — a call that fails has done nothing.
* `topUp_credited_once` — the order over whole runs.
-/

namespace Wallet

open TopUp Tx Prod

/-! ## The parts of a recharge -/

section

variable {env : TopUpEnv} {tradeNo : String} {db db' : TopUpDb} {topUp : TopUp} {α : Type} {a : α}

theorem lock_bind_eq_ok {f : TopUp → Tx TopUpDb TopUpError α} :
    (lock tradeNo >>= f) db = (.ok a, db') ↔
      ∃ topUp, db.orders.find? tradeNo = some topUp ∧ f topUp db = (.ok a, db') := by
  rw [bind_apply, lock, read_bind]
  cases db.orders.find? tradeNo <;> simp

theorem save_bind_eq_ok {f : Unit → Tx TopUpDb TopUpError α} :
    (save env topUp >>= f) db = (.ok a, db') ↔ env.failing ≠ some .save ∧
      f () { db with orders := db.orders.save topUp } = (.ok a, db') := by
  rw [bind_apply, save, refuse_bind]
  by_cases h : env.failing = some .save <;> simp [h]

theorem quota_bind_eq_ok {f : ℚ → ℚ} {g : ℤ → Tx TopUpDb TopUpError α} :
    (quota f >>= g) db = (.ok a, db') ↔
      ∃ q, topUpQuota (f db.quotaPerUnit) = .ok q ∧ g q db = (.ok a, db') := by
  rw [bind_apply, quota, read_bind, lift_apply]
  cases topUpQuota (f db.quotaPerUnit) <;> simp [Except.mapError]

theorem credit_eq_ok {q : ℤ} {fields : UserFields} {u : Unit}
    (h : credit env topUp q fields db = (.ok u, db')) :
    ∃ users, creditTopUpQuota topUp.userId q fields db.users = .ok users ∧
      db' = { db with users } := by
  rw [credit, refuse_bind_eq_ok] at h
  obtain ⟨-, h⟩ := h
  rw [read_bind, lift_bind_eq_ok] at h
  obtain ⟨users, hcredit, h⟩ := h
  obtain ⟨-, rfl⟩ := mk.inj h
  exact ⟨users, mapError_eq_ok.mp hcredit, rfl⟩

variable {x : Tx TopUpDb TopUpError α}

theorem transaction_eq_ok (h : transaction env x db = (.ok a, db')) : x db = (.ok a, db') := by
  rw [transaction, atomically_eq_ok, bind_eq_ok] at h
  obtain ⟨a', db₁, hx, h⟩ := h
  rw [refuse_bind_eq_ok] at h
  cases h.2
  exact hx

variable {e : TopUpError} {c : Prop}

/-- A call is refused for its argument, or runs as one transaction. -/
theorem call_eq_ok [Decidable c]
    (h : (do refuse c e; transaction env x : Tx TopUpDb TopUpError α) db = (.ok a, db')) :
    x db = (.ok a, db') :=
  transaction_eq_ok (refuse_bind_eq_ok.mp h).2

theorem clean_call [Decidable c] (x : Tx TopUpDb TopUpError α) :
    (do refuse c e; transaction env x : Tx TopUpDb TopUpError α).Clean :=
  clean_refuse_bind (clean_atomically _)

end

/-! ## What a call can have done -/

/-- What a call on the order `tradeNo` that succeeded did to the database. -/
inductive Settles (tradeNo : String) (db : TopUpDb) : TopUpDb → Prop where
  | same : Settles tradeNo db db
  | closed {topUp : TopUp} (found : db.orders.find? tradeNo = some topUp)
      (pending : topUp.status = .pending) {target : TopUpStatus}
      (unpaid : target = .failed ∨ target = .expired) :
      Settles tradeNo db { db with orders := db.orders.save { topUp with status := target } }
  | credited {topUp paid : TopUp} (found : db.orders.find? tradeNo = some topUp)
      (pending : topUp.status = .pending) (key : paid.tradeNo = topUp.tradeNo)
      (user : paid.userId = topUp.userId) (success : paid.status = .success) {q : ℤ}
      {fields : UserFields} {users : ℤ → Option WalletUser}
      (credit : creditTopUpQuota topUp.userId q fields db.users = .ok users) :
      Settles tradeNo db { db with orders := db.orders.save paid, users }

section

variable {env : TopUpEnv} {tradeNo : String} {db db' : TopUpDb} {topUp : TopUp} {u : Unit}

theorem updatePendingTopUpStatus_settles {expected : Option PaymentProvider} {target : TopUpStatus}
    (h : updatePendingTopUpStatus env tradeNo expected target db = (.ok u, db')) :
    ∃ topUp, db.orders.find? tradeNo = some topUp ∧ topUp.status = .pending ∧
      db' = { db with orders := db.orders.save { topUp with status := target } } := by
  obtain ⟨topUp, hfound, h⟩ := lock_bind_eq_ok.mp (call_eq_ok h)
  obtain ⟨-, h⟩ := refuse_bind_eq_ok.mp h
  obtain ⟨hpending, h⟩ := refuse_bind_eq_ok.mp h
  obtain ⟨-, h⟩ := refuse_bind_eq_ok.mp h
  obtain ⟨-, rfl⟩ := mk.inj h
  exact ⟨topUp, hfound, not_not.mp hpending, rfl⟩

variable {fields : UserFields}

/-- The end all recharges share: the quota is known, the order saved, the wallet credited. -/
theorem Settles.of_credit (hfound : db.orders.find? tradeNo = some topUp)
    (hpending : topUp.status = .pending) {paid : TopUp} {q : ℤ}
    (h : credit env topUp q fields { db with orders := db.orders.save paid } = (.ok u, db'))
    (hkey : paid.tradeNo = topUp.tradeNo) (huser : paid.userId = topUp.userId)
    (hsuccess : paid.status = .success) : Settles tradeNo db db' := by
  obtain ⟨users, hcredit, rfl⟩ := credit_eq_ok h
  exact .credited hfound hpending hkey huser hsuccess hcredit

theorem rechargeEpay_settles {method : String} {done : Bool}
    (h : rechargeEpay env tradeNo method db = (.ok done, db')) : Settles tradeNo db db' := by
  obtain ⟨topUp, hfound, h⟩ := lock_bind_eq_ok.mp (call_eq_ok h)
  obtain ⟨-, h⟩ := refuse_bind_eq_ok.mp h
  obtain ⟨-, h⟩ := refuse_bind_eq_ok.mp h
  split at h
  · obtain ⟨-, rfl⟩ := mk.inj h
    exact .same
  obtain ⟨hpending, h⟩ := refuse_bind_eq_ok.mp h
  obtain ⟨q, -, h⟩ := quota_bind_eq_ok.mp h
  obtain ⟨-, h⟩ := save_bind_eq_ok.mp h
  obtain ⟨u, db₁, hcredit, h⟩ := bind_eq_ok.mp h
  obtain ⟨-, rfl⟩ := mk.inj h
  exact .of_credit hfound (not_not.mp hpending) hcredit rfl rfl rfl

theorem recharge_settles {customerId : String}
    (h : recharge env tradeNo customerId db = (.ok u, db')) : Settles tradeNo db db' := by
  obtain ⟨topUp, hfound, h⟩ := lock_bind_eq_ok.mp (call_eq_ok h)
  obtain ⟨-, h⟩ := refuse_bind_eq_ok.mp h
  obtain ⟨hpending, h⟩ := refuse_bind_eq_ok.mp h
  obtain ⟨-, h⟩ := save_bind_eq_ok.mp h
  obtain ⟨q, -, h⟩ := quota_bind_eq_ok.mp h
  exact .of_credit hfound (not_not.mp hpending) h rfl rfl rfl

variable {email : String}

theorem creemFields_eq_ok (h : creemFields topUp email db = (.ok fields, db')) : db' = db := by
  unfold creemFields at h
  by_cases hemail : email = ""
  · rw [if_pos hemail] at h
    exact (mk.inj h).2.symm
  · rw [if_neg hemail, read_bind] at h
    cases hu : db.users topUp.userId with
    | none => rw [hu] at h; cases h
    | some user => rw [hu] at h; exact (mk.inj h).2.symm

theorem rechargeCreem_settles (h : rechargeCreem env tradeNo email db = (.ok u, db')) :
    Settles tradeNo db db' := by
  obtain ⟨topUp, hfound, h⟩ := lock_bind_eq_ok.mp (call_eq_ok h)
  obtain ⟨-, h⟩ := refuse_bind_eq_ok.mp h
  obtain ⟨hpending, h⟩ := refuse_bind_eq_ok.mp h
  obtain ⟨-, h⟩ := save_bind_eq_ok.mp h
  obtain ⟨q, -, h⟩ := quota_bind_eq_ok.mp h
  obtain ⟨fields, db₁, hfields, h⟩ := bind_eq_ok.mp h
  rw [creemFields_eq_ok hfields] at h
  exact .of_credit hfound (not_not.mp hpending) h rfl rfl rfl

theorem rechargeUnits_settles {provider : PaymentProvider}
    (h : rechargeUnits env provider tradeNo db = (.ok u, db')) : Settles tradeNo db db' := by
  obtain ⟨topUp, hfound, h⟩ := lock_bind_eq_ok.mp (call_eq_ok h)
  obtain ⟨-, h⟩ := refuse_bind_eq_ok.mp h
  split at h
  · obtain ⟨-, rfl⟩ := mk.inj h
    exact .same
  obtain ⟨hpending, h⟩ := refuse_bind_eq_ok.mp h
  obtain ⟨q, -, h⟩ := quota_bind_eq_ok.mp h
  obtain ⟨-, h⟩ := save_bind_eq_ok.mp h
  exact .of_credit hfound (not_not.mp hpending) h rfl rfl rfl

theorem manualCompleteTopUp_settles (h : manualCompleteTopUp env tradeNo db = (.ok u, db')) :
    Settles tradeNo db db' := by
  obtain ⟨topUp, hfound, h⟩ := lock_bind_eq_ok.mp (call_eq_ok h)
  split at h
  · obtain ⟨-, rfl⟩ := mk.inj h
    exact .same
  obtain ⟨hpending, h⟩ := refuse_bind_eq_ok.mp h
  obtain ⟨q, -, h⟩ := quota_bind_eq_ok.mp h
  obtain ⟨-, h⟩ := save_bind_eq_ok.mp h
  exact .of_credit hfound (not_not.mp hpending) h rfl rfl rfl

end

/-! ## Calls -/

/-- The calls that complete an order. -/
inductive TopUpCall where
  | updateStatus (expected : Option PaymentProvider) (target : TopUpStatus)
  | epay (actualPaymentMethod : String)
  | stripe (customerId : String)
  | creem (customerEmail : String)
  | waffo
  | waffoPancake
  | manual

namespace TopUpCall

/-- What a call does. -/
def exec (env : TopUpEnv) (tradeNo : String) : TopUpCall → Tx TopUpDb TopUpError Unit
  | .updateStatus expected target => updatePendingTopUpStatus env tradeNo expected target
  | .epay method => do let _ ← rechargeEpay env tradeNo method
  | .stripe customerId => recharge env tradeNo customerId
  | .creem email => rechargeCreem env tradeNo email
  | .waffo => rechargeWaffo env tradeNo
  | .waffoPancake => rechargeWaffoPancake env tradeNo
  | .manual => manualCompleteTopUp env tradeNo

/-- A status update closes an order as failed or expired: no caller asks for another status. -/
def Closes : TopUpCall → Prop
  | .updateStatus _ target => target = .failed ∨ target = .expired
  | _ => True

variable {env : TopUpEnv} {tradeNo : String} {db db' : TopUpDb} {call : TopUpCall}

/-- **Everything a call that succeeds can have done.** -/
theorem settles (hcloses : call.Closes) {u : Unit} (h : call.exec env tradeNo db = (.ok u, db')) :
    Settles tradeNo db db' := by
  cases call with
  | updateStatus expected target =>
    obtain ⟨topUp, hfound, hpending, rfl⟩ := updatePendingTopUpStatus_settles h
    exact .closed hfound hpending hcloses
  | epay method =>
    obtain ⟨done, db₁, hcall, h⟩ := bind_eq_ok.mp h
    cases h
    exact rechargeEpay_settles hcall
  | stripe customerId => exact recharge_settles h
  | creem email => exact rechargeCreem_settles h
  | waffo => exact rechargeUnits_settles h
  | waffoPancake => exact rechargeUnits_settles h
  | manual => exact manualCompleteTopUp_settles h

/-- **A call that fails has done nothing**, also where it had saved the order already. -/
theorem clean_exec (call : TopUpCall) : (call.exec env tradeNo).Clean := by
  cases call with
  | epay method => exact clean_bind_pure (clean_call _) _
  | _ => exact clean_call _

theorem error_eq {e : TopUpError} (h : call.exec env tradeNo db = (.error e, db')) : db' = db :=
  clean_exec call db e db' h

end TopUpCall

/-! ## Runs -/

/-- The database, and what has been seen of the order and of its user's wallet. -/
structure OrderRun where
  db : TopUpDb
  /-- How often the order has left `pending`. -/
  left : ℕ := 0
  /-- The changes its calls have made to the user's quota. -/
  credits : List ℤ := []

/-- What happens to orders. -/
inductive OrderOp where
  | call (env : TopUpEnv) (call : TopUpCall)
  /-- Anything else that happens to the database. -/
  | others (db : TopUpDb)

namespace OrderRun

variable (tradeNo : String)

/-- The status of the order. -/
def status (db : TopUpDb) : Option TopUpStatus := (db.orders.find? tradeNo).map (·.status)

/-- The quota of the order's user. -/
def balance (db : TopUpDb) : ℤ :=
  ((db.orders.find? tradeNo).bind fun topUp => (db.users topUp.userId).map (·.quota)).getD 0

/-- What is seen of one call. -/
def observe (w : OrderRun) (db : TopUpDb) : OrderRun where
  db
  left := if status tradeNo w.db = some .pending ∧ status tradeNo db ≠ some .pending then w.left + 1
    else w.left
  credits := if balance tradeNo db = balance tradeNo w.db then w.credits
    else (balance tradeNo db - balance tradeNo w.db) :: w.credits

/-- One call. -/
def step (w : OrderRun) : OrderOp → OrderRun
  | .call env call => w.observe tradeNo (call.exec env tradeNo w.db).2
  | .others db =>
    if db.orders.find? tradeNo = w.db.orders.find? tradeNo then { w with db } else w

/-- Where the order and its wallet stand. -/
inductive Stands (w : OrderRun) : Prop where
  | pending (status : status tradeNo w.db = some .pending) (left : w.left = 0)
      (credits : w.credits = [])
  | paid (status : status tradeNo w.db = some .success) (left : w.left = 1) {q : ℤ} (pos : 0 < q)
      (credits : w.credits = [q])
  | closed {s : TopUpStatus} (status : status tradeNo w.db = some s)
      (unpaid : s = .failed ∨ s = .expired) (left : w.left = 1) (credits : w.credits = [])

variable {tradeNo} {w : OrderRun} {db db' : TopUpDb}

theorem observe_same : w.observe tradeNo w.db = w := by
  simp [observe]

variable {topUp : TopUp}

theorem find?_paid (hfound : db.orders.find? tradeNo = some topUp) (paid : TopUp)
    (hkey : paid.tradeNo = topUp.tradeNo) (users : ℤ → Option WalletUser) :
    ({ db with orders := db.orders.save paid, users } : TopUpDb).orders.find? tradeNo =
      some paid := by
  have hname : topUp.tradeNo = tradeNo := Table.key_of_find? hfound
  rw [Table.find?_save, if_pos (by rw [hkey, hname]), hfound]
  rfl

section

variable (h : Stands tradeNo w) (hfound : w.db.orders.find? tradeNo = some topUp)
  (hp : topUp.status = .pending)

include h hfound hp

theorem Stands.pending_of : w.left = 0 ∧ w.credits = [] := by
  have hstatus : status tradeNo w.db = some .pending := by rw [status, hfound, ← hp]; rfl
  cases h with
  | pending _ hleft hcredits => exact ⟨hleft, hcredits⟩
  | paid hs => rw [hstatus] at hs; cases hs
  | closed hs hunpaid =>
    rw [hstatus] at hs
    cases hs
    simp at hunpaid

theorem Stands.observe_closed {target : TopUpStatus}
    (hunpaid : target = .failed ∨ target = .expired) :
    Stands tradeNo (w.observe tradeNo
      { w.db with orders := w.db.orders.save { topUp with status := target } }) := by
  obtain ⟨hleft, hcredits⟩ := h.pending_of hfound hp
  have hfind := find?_paid hfound { topUp with status := target } rfl w.db.users
  have hstatus : status tradeNo
      { w.db with orders := w.db.orders.save { topUp with status := target } } = some target := by
    rw [status, hfind]; rfl
  refine .closed hstatus hunpaid ?_ ?_
  · have hne : target ≠ .pending := by rcases hunpaid with rfl | rfl <;> decide
    rw [observe, hstatus, hleft]
    exact if_pos ⟨by rw [status, hfound, ← hp]; rfl, fun heq => hne (Option.some.inj heq)⟩
  · rw [observe, balance, balance, hfind, hfound, hcredits]
    exact if_pos rfl

theorem Stands.observe_credited {paid : TopUp} (hkey : paid.tradeNo = topUp.tradeNo)
    (huser : paid.userId = topUp.userId) (hsuccess : paid.status = .success) {q : ℤ}
    {fields : UserFields} {users : ℤ → Option WalletUser}
    (hcredit : creditTopUpQuota topUp.userId q fields w.db.users = .ok users) :
    Stands tradeNo (w.observe tradeNo
      { w.db with orders := w.db.orders.save paid, users }) := by
  obtain ⟨hleft, hcredits⟩ := h.pending_of hfound hp
  obtain ⟨hq, -, u, hu, -, hnew⟩ := creditTopUpQuota_eq_ok.mp hcredit
  have hfind := find?_paid hfound paid hkey users
  have hstatus : status tradeNo { w.db with orders := w.db.orders.save paid, users } =
      some .success := by
    rw [status, hfind, ← hsuccess]; rfl
  have hbefore : balance tradeNo w.db = u.quota := by simp [balance, hfound, hu]
  have hafter : balance tradeNo { w.db with orders := w.db.orders.save paid, users } =
      u.quota + q := by
    rw [balance, hfind]
    simp [huser, hnew, WalletUser.credited]
  refine .paid hstatus ?_ hq ?_
  · rw [observe, hstatus, hleft]
    exact if_pos ⟨by rw [status, hfound, ← hp]; rfl, by decide⟩
  · have hne : ¬ u.quota + q = u.quota := by omega
    rw [observe, hafter, hbefore, hcredits, if_neg hne, add_sub_cancel_left]

end

/-- **One step**: a call settles a pending order once, and leaves every other alone. -/
theorem step_stands (w : OrderRun) (op : OrderOp) (h : Stands tradeNo w)
    (hcloses : ∀ env call, op = .call env call → call.Closes) :
    Stands tradeNo (w.step tradeNo op) := by
  cases op with
  | others db =>
    rw [step]
    split
    · next hsame =>
      have hstatus : status tradeNo db = status tradeNo w.db := by rw [status, status, hsame]
      cases h with
      | pending hs hl hc => exact .pending (hstatus.trans hs) hl hc
      | paid hs hl hq hc => exact .paid (hstatus.trans hs) hl hq hc
      | closed hs hu hl hc => exact .closed (hstatus.trans hs) hu hl hc
    · exact h
  | call env call =>
    rw [step]
    rcases hcall : call.exec env tradeNo w.db with ⟨e | u, db'⟩
    · rw [TopUpCall.error_eq hcall, observe_same]
      exact h
    · cases TopUpCall.settles (hcloses env call rfl) hcall with
      | same => rw [observe_same]; exact h
      | closed hfound hp hunpaid => exact h.observe_closed hfound hp hunpaid
      | credited hfound hp hkey huser hsuccess hcredit =>
        exact h.observe_credited hfound hp hkey huser hsuccess hcredit

end OrderRun

/-- **Each order credits at most once and atomically.**  From a pending order, whatever calls are
made: it leaves `pending` at most once, its user's quota is changed at most once and then increased,
it is increased exactly if the order ends as a success, and a call that fails changes nothing. -/
theorem topUp_credited_once {tradeNo : String} {db : TopUpDb} {topUp : TopUp}
    (hfound : db.orders.find? tradeNo = some topUp) (hpending : topUp.status = .pending)
    (ops : List OrderOp) (hcloses : ∀ op ∈ ops, ∀ env call, op = .call env call → call.Closes) :
    let w := Runs.run (OrderRun.step tradeNo) { db } ops
    w.left ≤ 1 ∧ w.credits.length ≤ 1 ∧ (∀ q ∈ w.credits, 0 < q) ∧
      (w.credits ≠ [] ↔ OrderRun.status tradeNo w.db = some .success) ∧
      ∀ env (call : TopUpCall) e db', call.exec env tradeNo w.db = (.error e, db') → db' = w.db := by
  intro w
  have hstart : OrderRun.Stands tradeNo { db } :=
    .pending (by rw [OrderRun.status, hfound, ← hpending]; rfl) rfl rfl
  have hstands : OrderRun.Stands tradeNo w :=
    Runs.invariant OrderRun.step_stands hstart (Runs.guarded_of_forall_mem hcloses)
  refine ⟨?_, ?_, ?_, ?_, fun env call e db' h => TopUpCall.error_eq h⟩
  all_goals cases hstands with
    | pending hs hl hc => simp [hs, hl, hc]
    | paid hs hl hq hc => simp [hs, hl, hc, hq]
    | closed hs hu hl hc => rcases hu with rfl | rfl <;> simp [hs, hl, hc]

/-- One order of the user 7 with amount 100 and money 10, at 500000 quota a unit. -/
def oneOrder (provider : PaymentProvider) (balance : ℤ) : TopUpDb where
  quotaPerUnit := 500000
  orders := ⟨[{ userId := 7, amount := 100, money := 10, tradeNo := "t1",
                paymentProvider := provider }], List.nodup_singleton _⟩
  users := fun id => if id = 7 then some { quota := balance } else none

/-- A callback that fails, the same again twice, an expiry and a manual completion. -/
theorem topUp_credited_once_epay :
    let w := Runs.run (OrderRun.step "t1") { db := oneOrder .epay 0 }
      [.call { failing := some .commit } (.epay ""), .call {} (.epay ""), .call {} (.epay ""),
        .call {} (.updateStatus none .expired), .call {} .manual]
    w.left ≤ 1 ∧ w.credits = [50000000] :=
  ⟨(@topUp_credited_once "t1" (oneOrder .epay 0) _ rfl rfl _ (by simp [TopUpCall.Closes])).1,
    by decide +kernel⟩

end Wallet
