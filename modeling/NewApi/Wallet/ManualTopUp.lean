import NewApi.Wallet.Orders

/-!
# Wallet/ManualTopUp — manual completion against the gateway's own callback

Both convert the order to a quota and credit it.  They agree on the conversion for every provider
but Creem, whose callback takes `Amount` for the quota itself.
-/

namespace Wallet

open TopUp TopUpCall Tx
open Billing (maxWalletQuota)

/-! ## Evaluating a recharge on a pending order -/

section

variable {env : TopUpEnv} {tradeNo : String} {db : TopUpDb} {topUp : TopUp} {α : Type}

theorem lock_bind (hfound : db.orders.find? tradeNo = some topUp)
    (f : TopUp → Tx TopUpDb TopUpError α) : (lock tradeNo >>= f) db = f topUp db := by
  rw [bind_apply, lock, read_bind, hfound]
  rfl

theorem save_bind (hok : env.failing = none) (t : TopUp) (f : Unit → Tx TopUpDb TopUpError α) :
    (save env t >>= f) db = f () { db with orders := db.orders.save t } := by
  rw [bind_apply, save, refuse_bind, if_neg (by simp [hok])]
  rfl

theorem quota_bind (f : ℚ → ℚ) (g : ℤ → Tx TopUpDb TopUpError α) :
    (quota f >>= g) db = match topUpQuota (f db.quotaPerUnit) with
      | .ok q => g q db
      | .error e => (.error (.credit e), db) := by
  rw [bind_apply, quota, read_bind, lift_apply]
  cases topUpQuota (f db.quotaPerUnit) <;> rfl

theorem credit_apply (hok : env.failing = none) (q : ℤ) (fields : UserFields) :
    credit env topUp q fields db =
      match creditTopUpQuota topUp.userId q fields db.users with
      | .ok users => (.ok (), { db with users })
      | .error e => (.error (.credit e), db) := by
  rw [credit, refuse_bind, if_neg (by simp [hok]), read_bind, bind_apply, lift_apply]
  cases creditTopUpQuota topUp.userId q fields db.users <;> rfl

theorem transaction_apply (hok : env.failing = none) (x : Tx TopUpDb TopUpError α) :
    transaction env x db = match x db with
      | (.ok a, db') => (.ok a, db')
      | (.error e, _) => (.error e, db) := by
  rw [transaction, atomically, bind_apply]
  rcases x db with ⟨e | a, db'⟩
  · rfl
  · dsimp only
    rw [refuse_bind, if_neg (by simp [hok])]
    rfl

end

/-! ## What a call comes to -/

/-- A credit of some quota, a refusal on account of the quota, or another failure. -/
inductive Outcome where
  | credited (quota : ℤ)
  | quotaRefused
  | otherFailure
  deriving DecidableEq

/-- The outcome of a call for the wallet of `userId`. -/
def outcome {α : Type} (userId : ℤ) (db : TopUpDb) : Except TopUpError α × TopUpDb → Outcome
  | (.ok _, db') => .credited
      (((db'.users userId).map (·.quota)).getD 0 - ((db.users userId).map (·.quota)).getD 0)
  | (.error (.credit .invalidTopUpQuota), _) => .quotaRefused
  | (.error (.credit .topUpQuotaLimitExceeded), _) => .quotaRefused
  | (.error _, _) => .otherFailure

/-- `quota` can be credited to a wallet with this balance. -/
def Fits (balance quota : ℤ) : Prop :=
  0 < quota ∧ quota ≤ maxWalletQuota ∧ balance + quota ≤ maxWalletQuota

instance (balance quota : ℤ) : Decidable (Fits balance quota) := inferInstanceAs (Decidable (_ ∧ _))

/-- The credit, if the balance takes it. -/
def creditOutcome (balance quota : ℤ) : Outcome :=
  if Fits balance quota then .credited quota else .quotaRefused

/-- The end of a recharge, once the order may be paid: convert, then credit. -/
def payment (topUp : TopUp) (d : ℚ) (fields : UserFields) (orders : Table TopUp TopUp.tradeNo)
    (db : TopUpDb) : Except TopUpError Unit × TopUpDb :=
  match topUpQuota d with
  | .error e => (.error (.credit e), db)
  | .ok q =>
    match creditTopUpQuota topUp.userId q fields db.users with
    | .error e => (.error (.credit e), db)
    | .ok users => (.ok (), { db with orders, users })

variable {topUp : TopUp}

theorem outcome_payment {db : TopUpDb} {u : WalletUser} (hu : db.users topUp.userId = some u)
    (d : ℚ) (fields : UserFields) (orders : Table TopUp TopUp.tradeNo) :
    outcome topUp.userId db (payment topUp d fields orders db) =
      creditOutcome u.quota (roundAway d) := by
  rw [payment, topUpQuota_eq, creditOutcome]
  by_cases hvalid : 0 < roundAway d ∧ roundAway d ≤ maxWalletQuota
  · rw [if_pos hvalid]
    dsimp only
    rw [creditTopUpQuota_eq hu hvalid.1 hvalid.2]
    by_cases hroom : u.quota + roundAway d ≤ maxWalletQuota
    · rw [if_pos hroom, if_pos (show Fits _ _ from ⟨hvalid.1, hvalid.2, hroom⟩)]
      simp [outcome, hu, WalletUser.credited]
    · rw [if_neg hroom, if_neg fun hfits : Fits _ _ => hroom hfits.2.2]
      rfl
  · rw [if_neg hvalid, if_neg fun hfits : Fits _ _ => hvalid ⟨hfits.1, hfits.2.1⟩]
    rfl

/-! ## The recharges as payments -/

section

variable {tradeNo : String} {db : TopUpDb} {topUp : TopUp} {now : ℤ}

/-- The quota is converted before the order is saved … -/
theorem quota_first (f : ℚ → ℚ) (paid : TopUp) :
    transaction { now } (do
      let q ← quota f
      save { now } paid
      credit { now } topUp q {}) db =
      payment topUp (f db.quotaPerUnit) {} (db.orders.save paid) db := by
  rw [transaction_apply rfl, quota_bind, payment]
  cases topUpQuota (f db.quotaPerUnit) with
  | error e => rfl
  | ok q =>
    dsimp only
    rw [save_bind rfl, credit_apply rfl]
    cases creditTopUpQuota topUp.userId q {} db.users <;> rfl

theorem save_first (f : ℚ → ℚ) (paid : TopUp) (fields : UserFields) :
    transaction { now } (do
      save { now } paid
      let q ← quota f
      credit { now } topUp q fields) db =
      payment topUp (f db.quotaPerUnit) fields (db.orders.save paid) db := by
  rw [transaction_apply rfl, save_bind rfl, quota_bind, payment]
  cases topUpQuota (f db.quotaPerUnit) with
  | error e => rfl
  | ok q =>
    dsimp only
    rw [credit_apply rfl]
    cases creditTopUpQuota topUp.userId q fields db.users <;> rfl

/-- A call whose reply is dropped. -/
def discard {α : Type} : Except TopUpError α × TopUpDb → Except TopUpError Unit × TopUpDb
  | (.ok _, db) => (.ok (), db)
  | (.error e, db) => (.error e, db)

theorem transaction_discard {α : Type} (x : Tx TopUpDb TopUpError Unit) (a : α) :
    discard (transaction { now } (do x; pure a) db) = transaction { now } x db := by
  rw [transaction_apply rfl, transaction_apply rfl, bind_apply]
  rcases x db with ⟨e | ⟨⟩, db'⟩ <;> rfl

/-- A call on an order that exists runs on that order. -/
theorem call_apply {env : TopUpEnv} {α : Type} (htrade : tradeNo ≠ "")
    (hfound : db.orders.find? tradeNo = some topUp) {f : TopUp → Tx TopUpDb TopUpError α}
    {x : Tx TopUpDb TopUpError α} (hf : f topUp db = x db) :
    (do refuse (tradeNo = "") .tradeNoMissing
        transaction env (do let topUp ← lock tradeNo; f topUp) : Tx TopUpDb TopUpError α) db =
      transaction env x db := by
  have hbody : (lock tradeNo >>= f) db = x db := (lock_bind hfound f).trans hf
  rw [refuse_bind, if_neg htrade, transaction, transaction, atomically, atomically,
    bind_apply (lock tradeNo >>= f), bind_apply x, hbody]

variable (now) (htrade : tradeNo ≠ "") (hfound : db.orders.find? tradeNo = some topUp)
  (hpending : topUp.status = .pending)

include htrade hfound hpending

theorem manualCompleteTopUp_payment : ∃ orders, manualCompleteTopUp { now } tradeNo db =
    payment topUp ((if topUp.paymentProvider = .stripe then topUp.money else topUp.amount) *
      db.quotaPerUnit) {} orders db := by
  refine ⟨_, (call_apply htrade hfound ?_).trans (quota_first _ (complete { now } topUp))⟩
  simp only [hpending, refuse_bind, ne_eq, not_true, if_false, reduceCtorEq]

theorem rechargeUnits_payment {provider : PaymentProvider}
    (hprovider : topUp.paymentProvider = provider) : ∃ orders,
    rechargeUnits { now } provider tradeNo db =
      payment topUp (topUp.amount * db.quotaPerUnit) {} orders db := by
  refine ⟨_, (call_apply htrade hfound ?_).trans
    (quota_first (fun perUnit => topUp.amount * perUnit) (complete { now } topUp))⟩
  simp only [hpending, hprovider, refuse_bind, ne_eq, not_true, if_false, reduceCtorEq]

theorem recharge_payment (hprovider : topUp.paymentProvider = .stripe) (customerId : String) :
    ∃ fields orders, recharge { now } tradeNo customerId db =
      payment topUp (topUp.money * db.quotaPerUnit) fields orders db := by
  refine ⟨_, _, (call_apply htrade hfound ?_).trans
    (save_first (fun perUnit => topUp.money * perUnit) (complete { now } topUp)
      { stripeCustomer := some customerId })⟩
  simp only [hpending, hprovider, refuse_bind, ne_eq, not_true, if_false]

theorem rechargeCreem_payment (hprovider : topUp.paymentProvider = .creem) {u : WalletUser}
    (hu : db.users topUp.userId = some u) (email : String) :
    ∃ fields orders, rechargeCreem { now } tradeNo email db =
      payment topUp topUp.amount fields orders db := by
  have hfields : ∃ fields, ∀ orders,
      creemFields topUp email { db with orders } = (.ok fields, { db with orders }) := by
    by_cases hemail : email = ""
    · exact ⟨{}, fun orders => by simp [creemFields, hemail]⟩
    · exact ⟨{ email := if u.email = "" then some email else none }, fun orders => by
        simp [creemFields, hemail, hu]⟩
  obtain ⟨fields, hfields⟩ := hfields
  refine ⟨fields, _, (call_apply htrade hfound ?_).trans
    (save_first (fun _ => topUp.amount) (complete { now } topUp) fields)⟩
  simp only [hpending, hprovider, refuse_bind, ne_eq, not_true, if_false]
  rw [save_bind rfl, save_bind rfl, quota_bind, quota_bind]
  simp only [bind_apply, hfields]

theorem rechargeEpay_payment (hprovider : topUp.paymentProvider = .epay) {method : String}
    (hmethod : ¬ gatewayMismatch method topUp.paymentMethod) :
    ∃ orders, discard (rechargeEpay { now } tradeNo method db) =
      payment topUp (topUp.amount * db.quotaPerUnit) {} orders db := by
  refine ⟨_, (congrArg discard (call_apply htrade hfound ?_)).trans
    ((transaction_discard _ false).trans (quota_first (fun perUnit => topUp.amount * perUnit)
      (complete { now } { topUp with
        paymentMethod := if method = "" then topUp.paymentMethod else method })))⟩
  simp only [hpending, hprovider, hmethod, refuse_bind, ne_eq, not_true, if_false, reduceCtorEq]
  rw [quota_bind, bind_apply, quota_bind]
  cases topUpQuota (topUp.amount * db.quotaPerUnit) with
  | error e => rfl
  | ok q =>
    dsimp only
    rfl

end

/-- The gateway's own callback for an order. -/
def TopUpCall.For (topUp : TopUp) : TopUpCall → Prop
  | .epay method =>
    topUp.paymentProvider = .epay ∧ ¬ gatewayMismatch method topUp.paymentMethod
  | .stripe _ => topUp.paymentProvider = .stripe
  | .creem _ => topUp.paymentProvider = .creem
  | .waffo => topUp.paymentProvider = .waffo
  | .waffoPancake => topUp.paymentProvider = .waffoPancake
  | .manual => False
  | .updateStatus _ _ => False

/-- The decimal the callback of an order's provider converts. -/
def callbackAmount (topUp : TopUp) (perUnit : ℚ) : ℚ :=
  match topUp.paymentProvider with
  | .stripe => topUp.money * perUnit
  | .creem => topUp.amount
  | _ => topUp.amount * perUnit

/-- …and the one a manual completion converts. -/
def manualAmount (topUp : TopUp) (perUnit : ℚ) : ℚ :=
  (if topUp.paymentProvider = .stripe then topUp.money else topUp.amount) * perUnit

section

variable {tradeNo : String} {db : TopUpDb} {topUp : TopUp} {u : WalletUser} {call : TopUpCall}
  (htrade : tradeNo ≠ "") (hfound : db.orders.find? tradeNo = some topUp)
  (hpending : topUp.status = .pending) (hu : db.users topUp.userId = some u)

include htrade hfound hpending hu

theorem outcome_manual (now : ℤ) :
    outcome topUp.userId db (manual.exec { now } tradeNo db) =
      creditOutcome u.quota (roundAway (manualAmount topUp db.quotaPerUnit)) := by
  obtain ⟨orders, hpay⟩ := manualCompleteTopUp_payment now htrade hfound hpending
  rw [exec, hpay]
  exact outcome_payment hu _ _ _

theorem outcome_callback (hcall : call.For topUp) (now : ℤ) :
    outcome topUp.userId db (call.exec { now } tradeNo db) =
      creditOutcome u.quota (roundAway (callbackAmount topUp db.quotaPerUnit)) := by
  cases call with
  | updateStatus expected target => exact hcall.elim
  | manual => exact hcall.elim
  | epay method =>
    obtain ⟨hprovider, hmethod⟩ := hcall
    obtain ⟨orders, hpay⟩ := rechargeEpay_payment now htrade hfound hpending hprovider
      hmethod
    have hexec : (epay method).exec { now } tradeNo db =
        discard (rechargeEpay { now } tradeNo method db) := by
      rw [exec, bind_apply]
      rcases rechargeEpay { now } tradeNo method db with ⟨e | done, db'⟩ <;> rfl
    rw [hexec, hpay, callbackAmount, hprovider]
    exact outcome_payment hu _ _ _
  | stripe customerId =>
    obtain ⟨fields, orders, hpay⟩ := recharge_payment now htrade hfound hpending hcall
      customerId
    rw [exec, hpay, callbackAmount, hcall]
    exact outcome_payment hu _ _ _
  | creem email =>
    obtain ⟨fields, orders, hpay⟩ := rechargeCreem_payment now htrade hfound hpending hcall
      hu email
    rw [exec, hpay, callbackAmount, hcall]
    exact outcome_payment hu _ _ _
  | waffo =>
    obtain ⟨orders, hpay⟩ := rechargeUnits_payment now htrade hfound hpending hcall
    rw [exec, rechargeWaffo, hpay, callbackAmount, hcall]
    exact outcome_payment hu _ _ _
  | waffoPancake =>
    obtain ⟨orders, hpay⟩ := rechargeUnits_payment now htrade hfound hpending hcall
    rw [exec, rechargeWaffoPancake, hpay, callbackAmount, hcall]
    exact outcome_payment hu _ _ _

end

/-! ## Which of the two comes first -/

section

variable {tradeNo : String} {db : TopUpDb} {topUp : TopUp} {u : WalletUser} {call : TopUpCall}
  {env : TopUpEnv}

/-- Once an order is paid, no call on it does anything. -/
theorem exec_of_success (hcloses : call.Closes)
    (hstatus : OrderRun.status tradeNo db = some .success) :
    (call.exec env tradeNo db).2 = db := by
  rcases hcall : call.exec env tradeNo db with ⟨e | a, db'⟩
  · exact error_eq hcall
  · have hpaid : ∀ t, db.orders.find? tradeNo = some t → t.status ≠ .pending := by
      intro t hfound hp
      rw [OrderRun.status, hfound, Option.map_some, hp] at hstatus
      cases hstatus
    cases settles hcloses hcall with
    | same => rfl
    | closed hfound hp => exact absurd hp (hpaid _ hfound)
    | credited hfound hp => exact absurd hp (hpaid _ hfound)

theorem outcome_error_ne {α : Type} {userId q : ℤ} {e : TopUpError} {db' : TopUpDb} :
    outcome userId db ((.error e, db') : Except TopUpError α × TopUpDb) ≠ .credited q := by
  unfold outcome
  split <;> simp_all

/-- A call that finds the quota fitting pays the order; one that does not changes nothing. -/
theorem exec_of_creditOutcome (hcloses : call.Closes)
    (hfound : db.orders.find? tradeNo = some topUp) (hu : db.users topUp.userId = some u) {q : ℤ}
    (hout : outcome topUp.userId db (call.exec env tradeNo db) = creditOutcome u.quota q) :
    if Fits u.quota q then
      OrderRun.status tradeNo (call.exec env tradeNo db).2 = some .success ∧
        ((call.exec env tradeNo db).2.users topUp.userId).map (·.quota) = some (u.quota + q)
    else (call.exec env tradeNo db).2 = db := by
  rw [creditOutcome] at hout
  rcases hcall : call.exec env tradeNo db with ⟨e | a, db'⟩
  · rw [hcall] at hout
    split_ifs at hout ⊢
    · exact absurd hout outcome_error_ne
    · exact error_eq hcall
  · rw [hcall] at hout
    split_ifs at hout ⊢ with hfits
    · -- an order that stays unpaid would have credited nothing
      have hquota := Outcome.credited.inj hout
      cases settles hcloses hcall with
      | same => exact absurd hquota (by rw [sub_self]; exact hfits.1.ne)
      | closed => exact absurd hquota (by rw [sub_self]; exact hfits.1.ne)
      | @credited t paid found hp hkey huser hsuccess q' fields users hcredit =>
        obtain rfl := Option.some.inj (hfound.symm.trans found)
        obtain ⟨-, -, v, hv, -, rfl⟩ := creditTopUpQuota_eq_ok.mp hcredit
        obtain rfl := Option.some.inj (hu.symm.trans hv)
        have hq : q' = q := by simpa [hu, WalletUser.credited] using hquota
        refine ⟨?_, by simp [WalletUser.credited, hq]⟩
        rw [OrderRun.status, OrderRun.find?_paid found paid hkey, ← hsuccess]
        rfl
    · cases hout

end

/-- Crediting `a` and crediting `b` come to the same for a wallet with this balance. -/
def SameCredit (balance a b : ℤ) : Prop := a = b ∨ ¬ Fits balance a ∧ ¬ Fits balance b

theorem creditOutcome_eq_iff {balance a b : ℤ} :
    creditOutcome balance a = creditOutcome balance b ↔ SameCredit balance a b := by
  unfold creditOutcome SameCredit
  by_cases ha : Fits balance a <;> by_cases hb : Fits balance b
  · simp [ha, hb]
  · simp only [ha, hb, if_true, if_false, reduceCtorEq, false_iff]
    rintro (rfl | h)
    · exact hb ha
    · exact h.1 trivial
  · simp only [ha, hb, if_true, if_false, reduceCtorEq, false_iff]
    rintro (rfl | h)
    · exact ha hb
    · exact h.2 trivial
  · simp [ha, hb]

/-- For every provider but Creem the two amounts are one. -/
theorem callbackAmount_eq (h : topUp.paymentProvider ≠ .creem) (perUnit : ℚ) :
    callbackAmount topUp perUnit = manualAmount topUp perUnit := by
  unfold callbackAmount manualAmount
  cases hp : topUp.paymentProvider <;> simp_all

/-- The quota of `userId` after two calls on an order. -/
def quotaAfter (userId : ℤ) (tradeNo : String) (first second : TopUpEnv × TopUpCall)
    (db : TopUpDb) : Option ℤ :=
  let db₁ := (first.2.exec first.1 tradeNo db).2
  ((second.2.exec second.1 tradeNo db₁).2.users userId).map (·.quota)

/-- The first call whose quota fits pays the order, and the other finds it paid. -/
theorem quotaAfter_eq {tradeNo : String} {db : TopUpDb} {u : WalletUser}
    {first second : TopUpEnv × TopUpCall} {a b : ℤ} (hfirst : first.2.Closes)
    (hsecond : second.2.Closes) (hfound : db.orders.find? tradeNo = some topUp)
    (hu : db.users topUp.userId = some u)
    (ha : outcome topUp.userId db (first.2.exec first.1 tradeNo db) = creditOutcome u.quota a)
    (hb : outcome topUp.userId db (second.2.exec second.1 tradeNo db) = creditOutcome u.quota b) :
    quotaAfter topUp.userId tradeNo first second db =
      some (u.quota + if Fits u.quota a then a else if Fits u.quota b then b else 0) := by
  have h₁ := exec_of_creditOutcome hfirst hfound hu ha
  have h₂ := exec_of_creditOutcome hsecond hfound hu hb
  unfold quotaAfter
  by_cases hfa : Fits u.quota a
  · rw [if_pos hfa] at h₁ ⊢
    dsimp only
    rw [exec_of_success hsecond h₁.1, h₁.2]
  · rw [if_neg hfa] at h₁ ⊢
    dsimp only
    rw [h₁]
    by_cases hfb : Fits u.quota b
    · rw [if_pos hfb] at h₂ ⊢
      exact h₂.2
    · rw [if_neg hfb] at h₂ ⊢
      rw [h₂, hu]
      simp

theorem TopUpCall.For.closes {call : TopUpCall} (h : call.For topUp) : call.Closes := by
  cases call with
  | updateStatus expected target => exact h.elim
  | _ => trivial

theorem sameCredit_amounts_iff (topUp : TopUp) (balance : ℤ) (perUnit : ℚ) :
    SameCredit balance (roundAway (manualAmount topUp perUnit))
        (roundAway (callbackAmount topUp perUnit)) ↔
      (topUp.paymentProvider = .creem →
        SameCredit balance (roundAway (topUp.amount * perUnit)) topUp.amount) := by
  by_cases hp : topUp.paymentProvider = .creem
  · have hmanual : manualAmount topUp perUnit = topUp.amount * perUnit := by
      simp [manualAmount, hp]
    have hcallback : callbackAmount topUp perUnit = topUp.amount := by
      simp [callbackAmount, hp]
    rw [hmanual, hcallback, roundAway_intCast]
    exact ⟨fun h _ => h, fun h => h hp⟩
  · rw [callbackAmount_eq hp]
    exact ⟨fun _ h => absurd h hp, fun _ => .inl rfl⟩

/-- **Manual completion agrees with the gateway's own callback** on a pending order, unless it is a
Creem order whose `Amount` the conversion to units changes: then the one credits another quota than
the other, or only one of them is refused.  Where they agree, it does not matter which is first. -/
theorem manual_agrees_iff {tradeNo : String} {db : TopUpDb} {topUp : TopUp} {u : WalletUser}
    {call : TopUpCall} (htrade : tradeNo ≠ "") (hfound : db.orders.find? tradeNo = some topUp)
    (hpending : topUp.status = .pending) (hu : db.users topUp.userId = some u)
    (hcall : call.For topUp) (now now' : ℤ) :
    let agrees := outcome topUp.userId db (TopUpCall.manual.exec { now } tradeNo db) =
      outcome topUp.userId db (call.exec { now := now' } tradeNo db)
    (agrees ↔ (topUp.paymentProvider = .creem →
      SameCredit u.quota (roundAway (topUp.amount * db.quotaPerUnit)) topUp.amount)) ∧
    (agrees → quotaAfter topUp.userId tradeNo ({ now }, .manual) ({ now := now' }, call) db =
      quotaAfter topUp.userId tradeNo ({ now := now' }, call) ({ now }, .manual) db) := by
  intro agrees
  have hmanual := outcome_manual htrade hfound hpending hu now
  have hcallback := outcome_callback htrade hfound hpending hu hcall now'
  have hagrees : agrees ↔ SameCredit u.quota (roundAway (manualAmount topUp db.quotaPerUnit))
      (roundAway (callbackAmount topUp db.quotaPerUnit)) := by
    rw [← creditOutcome_eq_iff, ← hmanual, ← hcallback]
  refine ⟨hagrees.trans (sameCredit_amounts_iff topUp u.quota db.quotaPerUnit), fun h => ?_⟩
  have hfirst : quotaAfter topUp.userId tradeNo ({ now }, .manual) ({ now := now' }, call) db = _ :=
    quotaAfter_eq trivial hcall.closes hfound hu hmanual hcallback
  have hsecond :
      quotaAfter topUp.userId tradeNo ({ now := now' }, call) ({ now }, .manual) db = _ :=
    quotaAfter_eq hcall.closes trivial hfound hu hcallback hmanual
  rw [hfirst, hsecond]
  rcases hagrees.mp h with heq | ⟨hna, hnb⟩
  · rw [heq]
  · simp only [hna, hnb, if_false]

theorem manual_agrees_iff_stripe :
    outcome 7 (oneOrder .stripe 0) (TopUpCall.manual.exec {} "t1" (oneOrder .stripe 0)) =
      outcome 7 (oneOrder .stripe 0)
        ((TopUpCall.stripe "cus").exec {} "t1" (oneOrder .stripe 0)) :=
  (@manual_agrees_iff "t1" (oneOrder .stripe 0) _ _ (.stripe "cus") (by decide) rfl rfl rfl rfl
    0 0).1.mpr (fun h => absurd h (by decide))

/-- A Creem order over a quota of 100 is completed by hand with 50000000. -/
theorem manual_creem_credits_units :
    outcome 7 (oneOrder .creem 0) (TopUpCall.manual.exec {} "t1" (oneOrder .creem 0)) =
        .credited 50000000 ∧
      outcome 7 (oneOrder .creem 0) ((TopUpCall.creem "").exec {} "t1" (oneOrder .creem 0)) =
        .credited 100 := by
  decide +kernel

end Wallet
