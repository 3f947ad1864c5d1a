import NewApi.Billing.Ledger

/-!
# Wallet/Credit — adding quota to a wallet under its ceiling

`creditTopUpQuota` and the conversions of `model/topup.go` and `common/quota_math.go`.  The ceiling
is checked in the statement that adds.

* `creditTopUpQuota_eq_ok` — what a credit that succeeds needed and did.
-/

namespace Wallet

open Billing (maxWalletQuota)

/-- The columns of `users` that credits read and write. -/
structure WalletUser where
  quota : ℤ
  affQuota : ℤ := 0
  email : String := ""
  stripeCustomer : String := ""
  deriving DecidableEq

/-- Why a wallet is not credited. -/
inductive CreditError where
  | invalidTopUpQuota
  | topUpQuotaLimitExceeded
  | recordNotFound
  deriving DecidableEq

/-! ## Converting an amount -/

/-- `decimal.Round(0)`: halves away from zero. -/
def roundAway (d : ℚ) : ℤ := if 0 ≤ d then ⌊d + 1 / 2⌋ else -⌊-d + 1 / 2⌋

theorem roundAway_intCast (n : ℤ) : roundAway n = n := by
  have hhalf : ⌊(1 / 2 : ℚ)⌋ = 0 := by decide +kernel
  unfold roundAway
  split
  · rw [Int.floor_intCast_add, hhalf, add_zero]
  · rw [← Int.cast_neg, Int.floor_intCast_add, hhalf, add_zero, neg_neg]

/-- `common.WalletQuotaFromDecimalStrict`; the values it accepts are exact in `float64`. -/
def walletQuotaFromDecimalStrict (d : ℚ) : Option ℤ :=
  if roundAway d > maxWalletQuota ∨ roundAway d < -maxWalletQuota then none else some (roundAway d)

/-- The check every recharge makes: `quotaErr != nil || quotaToAdd <= 0`. -/
def topUpQuota (d : ℚ) : Except CreditError ℤ :=
  match walletQuotaFromDecimalStrict d with
  | none => .error .invalidTopUpQuota
  | some quota => if quota ≤ 0 then .error .invalidTopUpQuota else .ok quota

theorem topUpQuota_eq (d : ℚ) : topUpQuota d =
    if 0 < roundAway d ∧ roundAway d ≤ maxWalletQuota then .ok (roundAway d)
    else .error .invalidTopUpQuota := by
  have hmax : maxWalletQuota = 2 ^ 53 - 1 := rfl
  unfold topUpQuota walletQuotaFromDecimalStrict
  split_ifs with h₁ h₂ h₂
  · omega
  · rfl
  · exact if_neg (by omega)
  · exact if_pos (by omega)

/-! ## Crediting -/

/-- The largest balance that still takes the credit. -/
def topUpQuotaMaxCurrent (creditedQuota : ℤ) : Except CreditError ℤ :=
  if creditedQuota ≤ 0 ∨ creditedQuota > maxWalletQuota then .error .invalidTopUpQuota
  else .ok (maxWalletQuota - creditedQuota)

/-- The other columns a credit writes along. -/
structure UserFields where
  email : Option String := none
  stripeCustomer : Option String := none

/-- The user with the credit. -/
def WalletUser.credited (u : WalletUser) (quota : ℤ) (fields : UserFields) : WalletUser :=
  { u with
    quota := u.quota + quota
    email := fields.email.getD u.email
    stripeCustomer := fields.stripeCustomer.getD u.stripeCustomer }

/-- `creditTopUpQuota`: the predicate and the increment are one `UPDATE`. -/
def creditTopUpQuota (userId creditedQuota : ℤ) (updates : UserFields)
    (users : ℤ → Option WalletUser) : Except CreditError (ℤ → Option WalletUser) :=
  match topUpQuotaMaxCurrent creditedQuota with
  | .error e => .error e
  | .ok maxCurrentQuota =>
    match users userId with
    | none => .error .recordNotFound
    | some u =>
      if u.quota ≤ maxCurrentQuota then
        .ok (Function.update users userId (some (u.credited creditedQuota updates)))
      else .error .topUpQuotaLimitExceeded

variable {users : ℤ → Option WalletUser} {fields : UserFields} {quota userId : ℤ}

theorem creditTopUpQuota_eq {u : WalletUser} (hu : users userId = some u) (hpos : 0 < quota)
    (hmax : quota ≤ maxWalletQuota) :
    creditTopUpQuota userId quota fields users =
      if u.quota + quota ≤ maxWalletQuota then
        .ok (Function.update users userId (some (u.credited quota fields)))
      else .error .topUpQuotaLimitExceeded := by
  have hvalid : ¬ (quota ≤ 0 ∨ quota > maxWalletQuota) := by omega
  rw [creditTopUpQuota, topUpQuotaMaxCurrent, if_neg hvalid]
  simp only [hu, le_sub_iff_add_le]

/-- **A credit that succeeds** is positive, finds its user and stays under the ceiling. -/
theorem creditTopUpQuota_eq_ok {users' : ℤ → Option WalletUser} :
    creditTopUpQuota userId quota fields users = .ok users' ↔
      0 < quota ∧ quota ≤ maxWalletQuota ∧ ∃ u, users userId = some u ∧
        u.quota + quota ≤ maxWalletQuota ∧
        users' = Function.update users userId (some (u.credited quota fields)) := by
  unfold creditTopUpQuota topUpQuotaMaxCurrent
  split_ifs with hq
  · simp only [false_iff]
    omega
  · cases hu : users userId with
    | none => simp
    | some u =>
      simp only [Option.some.injEq, exists_eq_left']
      split_ifs with hroom
      · simp only [Except.ok.injEq]
        constructor
        · rintro rfl
          exact ⟨by omega, by omega, by omega, rfl⟩
        · rintro ⟨-, -, -, rfl⟩
          rfl
      · simp only [false_iff]
        omega

end Wallet
