import NewApi.Machinery.Transaction
import NewApi.Wallet.Credit

/-!
# Wallet/TopUp — payment orders and the callbacks that settle them

The functions of `model/topup.go` that move a `top_ups` row out of `pending`.  Each runs in one
transaction that starts with a locking read of the row; some save the row before they know the quota
to credit, so that a refusal has a saved status to undo.
-/

namespace Wallet

/-- The status of an order. -/
inductive TopUpStatus where
  | pending | success | failed | expired
  deriving DecidableEq

/-- `payment_provider`; orders from before the column have none. -/
inductive PaymentProvider where
  | none | epay | stripe | creem | waffo | waffoPancake | balance
  deriving DecidableEq

/-- A row of `top_ups`. -/
structure TopUp where
  userId : ℤ
  amount : ℤ
  money : ℚ
  tradeNo : String
  paymentMethod : String := ""
  paymentProvider : PaymentProvider
  completeTime : ℤ := 0
  status : TopUpStatus := .pending
  deriving DecidableEq

/-- Orders and wallets. -/
structure TopUpDb where
  /-- `common.QuotaPerUnit`. -/
  quotaPerUnit : ℚ
  orders : Table TopUp TopUp.tradeNo
  users : ℤ → Option WalletUser

/-- Why an order is not completed. -/
inductive TopUpError where
  | tradeNoMissing
  | topUpNotFound
  | paymentMethodMismatch
  | topUpStatusInvalid
  | credit (e : CreditError)
  | database
  deriving DecidableEq

/-- The statements that may fail on their own account. -/
inductive Statement where
  | save | credit | commit
  deriving DecidableEq

/-- What a call meets besides the database. -/
structure TopUpEnv where
  now : ℤ := 0
  failing : Option Statement := none

namespace TopUp

variable (env : TopUpEnv)

/-- `lockForUpdate(tx).Where("trade_no = ?").First`. -/
def lock (tradeNo : String) : Tx TopUpDb TopUpError TopUp := do
  let db ← Tx.read
  match db.orders.find? tradeNo with
  | some topUp => pure topUp
  | none => Tx.throw .topUpNotFound

/-- `tx.Save(topUp)`. -/
def save (topUp : TopUp) : Tx TopUpDb TopUpError Unit := do
  Tx.refuse (env.failing = some .save) .database
  Tx.modify fun db => { db with orders := db.orders.save topUp }

/-- The order once it is paid. -/
def complete (topUp : TopUp) : TopUp := { topUp with completeTime := env.now, status := .success }

/-- The conversion to quota of the decimal `f` reads off the settings, refused as every recharge
refuses it. -/
def quota (f : ℚ → ℚ) : Tx TopUpDb TopUpError ℤ := do
  let db ← Tx.read
  Tx.lift ((topUpQuota (f db.quotaPerUnit)).mapError .credit)

/-- `creditTopUpQuota` on the order's user. -/
def credit (topUp : TopUp) (quota : ℤ) (fields : UserFields) : Tx TopUpDb TopUpError Unit := do
  Tx.refuse (env.failing = some .credit) .database
  let db ← Tx.read
  let users ← Tx.lift ((creditTopUpQuota topUp.userId quota fields db.users).mapError .credit)
  Tx.modify fun db => { db with users }

/-- `DB.Transaction`. -/
def transaction {α : Type} (x : Tx TopUpDb TopUpError α) : Tx TopUpDb TopUpError α :=
  Tx.atomically do
    let a ← x
    Tx.refuse (env.failing = some .commit) .database
    pure a

end TopUp

open TopUp

variable (env : TopUpEnv)

/-- `UpdatePendingTopUpStatus`; an empty expected provider accepts every order. -/
def updatePendingTopUpStatus (tradeNo : String) (expected : Option PaymentProvider)
    (targetStatus : TopUpStatus) : Tx TopUpDb TopUpError Unit := do
  Tx.refuse (tradeNo = "") .tradeNoMissing
  transaction env do
    let topUp ← lock tradeNo
    Tx.refuse (expected.isSome ∧ expected ≠ some topUp.paymentProvider) .paymentMethodMismatch
    Tx.refuse (topUp.status ≠ .pending) .topUpStatusInvalid
    save env { topUp with status := targetStatus }

/-- `operation_setting.IsUsdtPayMethod`. -/
def isUsdtPayMethod (method : String) : Bool := "usdt.".toList.isPrefixOf method.toList

/-- A callback verified by one of the two epay gateways names a method of the other. -/
def gatewayMismatch (actualPaymentMethod paymentMethod : String) : Prop :=
  actualPaymentMethod ≠ "" ∧ isUsdtPayMethod actualPaymentMethod ≠ isUsdtPayMethod paymentMethod

instance (a b : String) : Decidable (gatewayMismatch a b) := inferInstanceAs (Decidable (_ ∧ _))

/-- `RechargeEpay`: the reply is `alreadyDone`. -/
def rechargeEpay (tradeNo actualPaymentMethod : String) : Tx TopUpDb TopUpError Bool := do
  Tx.refuse (tradeNo = "") .tradeNoMissing
  transaction env do
    let topUp ← lock tradeNo
    Tx.refuse (topUp.paymentProvider ≠ .epay) .paymentMethodMismatch
    Tx.refuse (gatewayMismatch actualPaymentMethod topUp.paymentMethod) .paymentMethodMismatch
    if topUp.status = .success then pure true
    else
      Tx.refuse (topUp.status ≠ .pending) .topUpStatusInvalid
      let quotaToAdd ← quota fun perUnit => topUp.amount * perUnit
      save env (complete env { topUp with
        paymentMethod :=
          if actualPaymentMethod = "" then topUp.paymentMethod else actualPaymentMethod })
      credit env topUp quotaToAdd {}
      pure false

/-- `Recharge`, Stripe's: the order is saved before the quota is known. -/
def recharge (referenceId customerId : String) : Tx TopUpDb TopUpError Unit := do
  Tx.refuse (referenceId = "") .tradeNoMissing
  transaction env do
    let topUp ← lock referenceId
    Tx.refuse (topUp.paymentProvider ≠ .stripe) .paymentMethodMismatch
    Tx.refuse (topUp.status ≠ .pending) .topUpStatusInvalid
    save env (complete env topUp)
    let quota ← quota fun perUnit => topUp.money * perUnit
    credit env topUp quota { stripeCustomer := some customerId }

/-- The e-mail address a Creem payment sets, if the user has none; a user that does not exist is
noticed here already. -/
def creemFields (topUp : TopUp) (customerEmail : String) : Tx TopUpDb TopUpError UserFields := do
  if customerEmail = "" then pure {}
  else
    let db ← Tx.read
    match db.users topUp.userId with
    | none => Tx.throw (.credit .recordNotFound)
    | some user => pure { email := if user.email = "" then some customerEmail else none }

/-- `RechargeCreem`: `Amount` is the quota itself. -/
def rechargeCreem (referenceId customerEmail : String) : Tx TopUpDb TopUpError Unit := do
  Tx.refuse (referenceId = "") .tradeNoMissing
  transaction env do
    let topUp ← lock referenceId
    Tx.refuse (topUp.paymentProvider ≠ .creem) .paymentMethodMismatch
    Tx.refuse (topUp.status ≠ .pending) .topUpStatusInvalid
    save env (complete env topUp)
    let quota ← quota fun _ => topUp.amount
    let fields ← creemFields topUp customerEmail
    credit env topUp quota fields

/-- The body that `RechargeWaffo` and `RechargeWaffoPancake` share. -/
def rechargeUnits (provider : PaymentProvider) (tradeNo : String) : Tx TopUpDb TopUpError Unit := do
  Tx.refuse (tradeNo = "") .tradeNoMissing
  transaction env do
    let topUp ← lock tradeNo
    Tx.refuse (topUp.paymentProvider ≠ provider) .paymentMethodMismatch
    if topUp.status = .success then pure ()
    else
      Tx.refuse (topUp.status ≠ .pending) .topUpStatusInvalid
      let quotaToAdd ← quota fun perUnit => topUp.amount * perUnit
      save env (complete env topUp)
      credit env topUp quotaToAdd {}

/-- The callback of Waffo. -/
def rechargeWaffo : String → Tx TopUpDb TopUpError Unit := rechargeUnits env .waffo

/-- The callback of Waffo Pancake. -/
def rechargeWaffoPancake : String → Tx TopUpDb TopUpError Unit := rechargeUnits env .waffoPancake

/-- `ManualCompleteTopUp`: for Stripe `Money` counts the units, for every other provider `Amount`.
-/
def manualCompleteTopUp (tradeNo : String) : Tx TopUpDb TopUpError Unit := do
  Tx.refuse (tradeNo = "") .tradeNoMissing
  transaction env do
    let topUp ← lock tradeNo
    if topUp.status = .success then pure ()
    else
      Tx.refuse (topUp.status ≠ .pending) .topUpStatusInvalid
      let quotaToAdd ← quota fun perUnit =>
        (if topUp.paymentProvider = .stripe then topUp.money else topUp.amount) * perUnit
      save env (complete env topUp)
      credit env topUp quotaToAdd {}

end Wallet
