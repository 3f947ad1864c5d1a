import NewApi.Billing.Ledger

/-!
# Billing/Session — funding sources and the billing session

`service/funding_source.go`, `service/billing_session.go` and `service/billing.go`.  A session takes
a reservation from a funding source (the user's wallet or a subscription) and from the token, raises
it, and ends it by settling at the actual price or by refunding.

The methods run under the session's mutex, so each is one function from the session and the database
to a reply and what it left of both, whether it succeeds or not.  `Refund` hands its database work
to a goroutine; `PendingRefund` is what that closure captured.
-/

namespace Billing

open Subscription (SubError PreConsumeEnv RefundFault)

/-- The codes of a refused request. -/
inductive ErrorCode where
  | insufficientUserQuota
  | updateDataError
  | preConsumeTokenQuotaFailed
  | queryDataError
  | modelPriceError
  deriving DecidableEq

/-- Why a funding source refuses. -/
inductive FundingError where
  | insufficientWalletQuota
  | quota (e : QuotaError)
  | subscription (e : SubError)
  /-- `PostConsumeQuota` on a subscription that is not named. -/
  | subscriptionIdMissing
  deriving DecidableEq

/-- What pays. -/
inductive BillingSource where
  | wallet | subscription
  deriving DecidableEq

/-- The fields of the request's `RelayInfo` that billing reads, and those `syncRelayInfo` writes. -/
structure RelayInfo where
  userId : ℤ
  requestId : String
  isPlayground : Bool := false
  tokenUnlimited : Bool := false
  forcePreConsume : Bool := false
  /-- `Request` is a `*dto.ImageRequest`. -/
  requestIsImage : Bool := false
  imageRequestCount : ℤ := 0
  userQuota : ℤ := 0
  /-- The context's `token_quota`. -/
  tokenQuota : ℤ := 0
  billingPreference : String := ""
  /-- `QuotaClamp != nil`. -/
  quotaClamped : Bool := false
  finalPreConsumedQuota : ℤ := 0
  billingSource : Option BillingSource := none
  subscriptionId : ℤ := 0
  subscriptionPreConsumed : ℤ := 0
  subscriptionPostDelta : ℤ := 0
  subscriptionAmountTotal : ℤ := 0
  subscriptionAmountUsedAfterPreConsume : ℤ := 0

/-- The request asks for images. -/
def RelayInfo.isImageRequest (info : RelayInfo) : Bool :=
  info.requestIsImage || decide (info.imageRequestCount > 0)

/-- What the calls of one method meet. -/
structure Calls where
  /-- `TrustQuotaUSD * QuotaPerUnit`, `none` when it is not a finite number. -/
  trustQuota : Option ℚ := none
  fundingCache : CacheQuotaResult := .miss
  funding : Reply := .ok
  preConsumeEnv : PreConsumeEnv := { now := 0 }
  tokenCache : CacheQuotaResult := .miss
  token : Reply := .ok
  rollback : Reply := .ok

/-! ## Funding sources -/

/-- What the wallet has given. -/
structure WalletFunding where
  consumed : ℤ := 0
  deriving DecidableEq

/-- What a subscription has given, and by which record. -/
structure SubscriptionFunding where
  requestId : String
  userId : ℤ
  amount : ℤ
  subscriptionId : ℤ := 0
  preConsumed : ℤ := 0
  amountTotal : ℤ := 0
  amountUsedAfter : ℤ := 0
  deriving DecidableEq

/-- The wallet or a subscription. -/
inductive FundingSource where
  | wallet (w : WalletFunding)
  | subscription (f : SubscriptionFunding)
  deriving DecidableEq

/-- The wallet gives the amount. -/
def WalletFunding.preConsume (amount : ℤ) (c : Calls) (w : WalletFunding) (db : Db) :
    Except FundingError WalletFunding × Db :=
  if amount ≤ 0 then (.ok w, db)
  else match tryReserveUserQuota amount c.fundingCache c.funding db with
    | (.error e, db) => (.error (.quota e), db)
    | (.ok false, db) => (.error .insufficientWalletQuota, db)
    | (.ok true, db) => (.ok { w with consumed := amount }, db)

/-- `SubscriptionFunding.PreConsume`: the argument is ignored for the amount fixed at construction.
-/
def SubscriptionFunding.preConsume (c : Calls) (f : SubscriptionFunding) (db : Db) :
    Except FundingError SubscriptionFunding × Db :=
  if c.funding = .err then (.error (.subscription .database), db.fail)
  else match Subscription.preConsumeUserSubscription c.preConsumeEnv f.requestId f.userId f.amount
      db.store with
    | .error e => (.error (.subscription e), db)
    | .ok (res, st) =>
      (.ok { f with
          subscriptionId := res.userSubscriptionId
          preConsumed := res.preConsumed
          amountTotal := res.amountTotal
          amountUsedAfter := res.amountUsedAfter }, db.setStore st)

/-- `PostConsumeUserSubscriptionDelta` as a call: the code's own refusals are not failures of the
database. -/
def postConsumeDelta (id delta : ℤ) (reply : Reply) (db : Db) : Except FundingError Unit × Db :=
  if reply = .err then (.error (.subscription .database), db.fail)
  else match Subscription.postConsumeUserSubscriptionDelta id delta db.store with
    | .error e => (.error (.subscription e), db)
    | .ok st => (.ok (), db.setStore st)

/-- The error of a quota call, as one of funding. -/
def quotaCall (r : Except QuotaError Unit × Db) : Except FundingError Unit × Db :=
  (r.1.mapError .quota, r.2)

namespace FundingSource

/-- Which source it is. -/
def source : FundingSource → BillingSource
  | .wallet _ => .wallet
  | .subscription _ => .subscription

/-- The amount is taken before the request is relayed. -/
def preConsume (amount : ℤ) (c : Calls) : FundingSource → Db →
    Except FundingError FundingSource × Db
  | .wallet w, db => ((w.preConsume amount c db).1.map .wallet, (w.preConsume amount c db).2)
  | .subscription f, db => ((f.preConsume c db).1.map .subscription, (f.preConsume c db).2)

/-- Adjust by the difference: positive takes more, negative gives back. -/
def settle (delta : ℤ) (reply : Reply) : FundingSource → Db → Except FundingError Unit × Db
  | .wallet _, db =>
    if delta = 0 then (.ok (), db)
    else if delta > 0 then quotaCall (decreaseUserQuota delta reply db)
    else quotaCall (increaseUserQuota (-delta) reply db)
  | .subscription f, db =>
    if delta = 0 then (.ok (), db) else postConsumeDelta f.subscriptionId delta reply db

end FundingSource

/-- What the calls of an asynchronous refund meet. -/
structure RefundCalls where
  wallet : Reply := .ok
  faults : ℕ → RefundFault := fun _ => .none
  extra : Reply := .ok
  token : Reply := .ok

/-- `funding.Refund()`; an error is only logged. -/
def FundingSource.refund (c : RefundCalls) : FundingSource → Db → Db
  | .wallet w, db => if w.consumed ≤ 0 then db else (increaseUserQuota w.consumed c.wallet db).2
  | .subscription f, db =>
    if f.preConsumed ≤ 0 then db
    else match Subscription.refundWithRetry c.faults f.requestId db.store with
      | (.ok _, st) => if c.faults 0 = .none then db.setStore st else (db.setStore st).fail
      | (.error _, st) => (db.setStore st).fail

/-! ## The session -/

/-- One request from its pre-consume to its settlement. -/
structure BillingSession where
  relayInfo : RelayInfo
  funding : FundingSource
  preConsumedQuota : ℤ := 0
  tokenConsumed : ℤ := 0
  extraReserved : ℤ := 0
  trusted : Bool := false
  fundingSettled : Bool := false
  settled : Bool := false
  refunded : Bool := false

/-- `PreConsumeTokenQuota`: a playground request has no token. -/
def preConsumeTokenQuota (info : RelayInfo) (n : ℤ) (c : Calls) (db : Db) :
    Except ErrorCode Unit × Db :=
  if n < 0 then (.error .preConsumeTokenQuotaFailed, db)
  else if info.isPlayground then (.ok (), db)
  else match tryReserveTokenQuota n info.tokenUnlimited c.tokenCache c.token db with
    | (.ok true, db) => (.ok (), db)
    | (_, db) => (.error .preConsumeTokenQuotaFailed, db)

namespace BillingSession

variable (s : BillingSession)

/-- The request is told what was taken from where. -/
def syncRelayInfo : BillingSession :=
  let info := { s.relayInfo with
    finalPreConsumedQuota := s.preConsumedQuota
    billingSource := some s.funding.source }
  { s with relayInfo := match s.funding with
    | .subscription f => { info with
        subscriptionId := f.subscriptionId
        subscriptionPreConsumed := f.preConsumed + s.extraReserved
        subscriptionPostDelta := 0
        subscriptionAmountTotal := f.amountTotal
        subscriptionAmountUsedAfterPreConsume := f.amountUsedAfter + s.extraReserved }
    | .wallet _ => { info with subscriptionId := 0, subscriptionPreConsumed := 0 } }

@[simp] theorem syncRelayInfo_isPlayground :
    s.syncRelayInfo.relayInfo.isPlayground = s.relayInfo.isPlayground := by
  unfold syncRelayInfo; cases s.funding <;> rfl

theorem syncRelayInfo_subscriptionId {f : SubscriptionFunding} (h : s.funding = .subscription f) :
    s.syncRelayInfo.relayInfo.subscriptionId = f.subscriptionId := by
  simp only [syncRelayInfo, h]

/-- The trust bypass: neither asynchronous tasks nor subscriptions qualify. -/
def shouldTrust (c : Calls) : Bool :=
  if s.relayInfo.forcePreConsume then false
  else match c.trustQuota, s.funding with
    | some trust, .wallet _ =>
      decide (0 < trust) &&
        (s.relayInfo.tokenUnlimited || decide (trust < s.relayInfo.tokenQuota)) &&
        decide (trust < s.relayInfo.userQuota)
    | _, _ => false

/-- The code a client sees. -/
def fundingErrorCode : FundingError → ErrorCode
  | .insufficientWalletQuota => .insufficientUserQuota
  | .subscription .noActiveSubscription => .insufficientUserQuota
  | .subscription (.quotaInsufficient _) => .insufficientUserQuota
  | _ => .updateDataError

/-- After a refused funding source: give the token back what it was charged.  The call's error is
only logged, and the session forgets the charge either way. -/
def rollbackToken (c : Calls) (db : Db) : BillingSession × Db :=
  if 0 < s.tokenConsumed ∧ s.relayInfo.isPlayground = false then
    ({ s with tokenConsumed := 0 }, (increaseTokenQuota s.tokenConsumed c.rollback db).2)
  else (s, db)

/-- The token and funding steps of `preConsume`, once the effective quota is known. -/
def consume (effective : ℤ) (c : Calls) (db : Db) : Except ErrorCode Unit × BillingSession × Db :=
  match if 0 < effective then preConsumeTokenQuota s.relayInfo effective c db else (.ok (), db) with
  | (.error e, db) => (.error e, s, db)
  | (.ok _, db) =>
    let s := if 0 < effective then { s with tokenConsumed := effective } else s
    match s.funding.preConsume effective c db with
    | (.error e, db) => (.error (fundingErrorCode e), s.rollbackToken c db)
    | (.ok funding, db) =>
      (.ok (), ({ s with funding, preConsumedQuota := effective }).syncRelayInfo, db)

/-- The amount is taken before the request is relayed. -/
def preConsume (quota : ℤ) (c : Calls) (db : Db) : Except ErrorCode Unit × BillingSession × Db :=
  if s.shouldTrust c then ({ s with trusted := true }).consume 0 c db else s.consume quota c db

/-- `reserveFunding`: an image request must find the difference in the wallet, any other request may
run into debt. -/
def reserveFunding (delta : ℤ) (image : Bool) (c : Calls) (db : Db) :
    Except ErrorCode FundingSource × Db :=
  match s.funding with
  | .wallet w =>
    if image then
      match w.preConsume delta c db with
      | (.error e, db) => (.error (fundingErrorCode e), db)
      | (.ok w, db) => (.ok (.wallet w), db)
    else match decreaseUserQuota delta c.funding db with
      | (.error _, db) => (.error .updateDataError, db)
      | (.ok _, db) => (.ok (.wallet { w with consumed := w.consumed + delta }), db)
  | .subscription f =>
    match postConsumeDelta f.subscriptionId delta c.funding db with
    | (.error _, db) => (.error .insufficientUserQuota, db)
    | (.ok _, db) => (.ok (.subscription f), db)

/-- The token gives more. -/
def reserveToken (delta : ℤ) (c : Calls) (db : Db) : Except ErrorCode Unit × Db :=
  if delta ≤ 0 ∨ s.relayInfo.isPlayground then (.ok (), db)
  else preConsumeTokenQuota s.relayInfo delta c db

end BillingSession

/-- `rollbackFundingReserve`. -/
def FundingSource.rollbackReserve (delta : ℤ) (c : Calls) : FundingSource → Db → FundingSource × Db
  | .wallet w, db =>
    match increaseUserQuota delta c.rollback db with
    | (.ok _, db) => (.wallet { w with consumed := w.consumed - delta }, db)
    | (.error _, db) => (.wallet w, db)
  | .subscription f, db =>
    (.subscription f, (postConsumeDelta f.subscriptionId (-delta) c.rollback db).2)

namespace BillingSession

variable (s : BillingSession)

/-- `Reserve` has nothing to do. -/
def reserveIdle (target : ℤ) : Bool :=
  s.settled || s.refunded || (s.trusted && !s.relayInfo.isImageRequest) ||
    decide (target ≤ s.preConsumedQuota)

/-- Another funding source. -/
def withFunding (funding : FundingSource) : BillingSession := { s with funding }

/-- The session once both the funding source and the token have given `delta` more. -/
def raised (funding : FundingSource) (delta : ℤ) : BillingSession :=
  ({ s with
    funding
    preConsumedQuota := s.preConsumedQuota + delta
    tokenConsumed := s.tokenConsumed + delta
    extraReserved := s.extraReserved + delta
    trusted := s.trusted && !s.relayInfo.isImageRequest }).syncRelayInfo

/-- `Reserve`: raise the reservation to `target`. -/
def reserve (target : ℤ) (c : Calls) (db : Db) : Except ErrorCode Unit × BillingSession × Db :=
  if s.reserveIdle target then (.ok (), s, db)
  else
    let delta := target - s.preConsumedQuota
    match s.reserveFunding delta s.relayInfo.isImageRequest c db with
    | (.error e, db) => (.error e, s, db)
    | (.ok funding, db) =>
      match s.reserveToken delta c db with
      | (.error e, db) =>
        let r := funding.rollbackReserve delta c db
        (.error e, s.withFunding r.1, r.2)
      | (.ok _, db) => (.ok (), s.raised funding delta, db)

/-- The token's part of a settlement. -/
def settleToken (delta : ℤ) (c : Calls) (db : Db) : Except FundingError Unit × Db :=
  if s.relayInfo.isPlayground then (.ok (), db)
  else if delta > 0 then quotaCall (decreaseTokenQuota delta c.token db)
  else quotaCall (increaseTokenQuota (-delta) c.token db)

/-- `Settle` at the actual price.  Once the funding source has been adjusted the session is settled,
even if the token could not be. -/
def settle (actual : ℤ) (c : Calls) (db : Db) : Except FundingError Unit × BillingSession × Db :=
  if s.settled then (.ok (), s, db)
  else
    let delta := actual - s.preConsumedQuota
    if delta = 0 then (.ok (), { s with settled := true }, db)
    else match if s.fundingSettled then (.ok (), db) else s.funding.settle delta c.funding db with
      | (.error e, db) => (.error e, s, db)
      | (.ok _, db) =>
        let token := s.settleToken delta c db
        let info := if s.funding.source = .subscription then
          { s.relayInfo with subscriptionPostDelta := s.relayInfo.subscriptionPostDelta + delta }
          else s.relayInfo
        (token.1, { s with relayInfo := info, fundingSettled := true, settled := true }, token.2)

/-- Something was taken, and neither settled nor refunded. -/
def needsRefund : Bool :=
  if s.settled || s.refunded || s.fundingSettled then false
  else decide (0 < s.tokenConsumed) || match s.funding with
    | .subscription f => decide (0 < f.preConsumed)
    | .wallet _ => false

end BillingSession

/-- What the goroutine of `Refund` captured. -/
structure PendingRefund where
  funding : FundingSource
  tokenConsumed : ℤ
  extraReserved : ℤ
  subscriptionId : ℤ
  isPlayground : Bool

/-- `Refund`, up to the start of its goroutine. -/
def BillingSession.refund (s : BillingSession) : BillingSession × Option PendingRefund :=
  if s.needsRefund then
    ({ s with refunded := true },
      some ⟨s.funding, s.tokenConsumed, s.extraReserved, s.relayInfo.subscriptionId,
        s.relayInfo.isPlayground⟩)
  else (s, none)

/-- The body of the goroutine. -/
def PendingRefund.run (p : PendingRefund) (c : RefundCalls) (db : Db) : Db :=
  let db := p.funding.refund c db
  let db := if 0 < p.extraReserved ∧ p.funding.source = .subscription ∧ 0 < p.subscriptionId then
      (postConsumeDelta p.subscriptionId (-p.extraReserved) c.extra db).2
    else db
  if 0 < p.tokenConsumed ∧ p.isPlayground = false then
    (increaseTokenQuota p.tokenConsumed c.token db).2
  else db

/-! ## Opening a session -/

/-- Which source is asked first. -/
inductive BillingPreference where
  | subscriptionFirst | walletFirst | subscriptionOnly | walletOnly
  deriving DecidableEq

/-- The preference that a text stands for. -/
def normalizeBillingPreference (pref : String) : BillingPreference :=
  if Text.trimsTo pref "wallet_first" then .walletFirst
  else if Text.trimsTo pref "subscription_only" then .subscriptionOnly
  else if Text.trimsTo pref "wallet_only" then .walletOnly
  else .subscriptionFirst

/-- What opening a session meets; the wallet and the subscription are tried with calls of their
own. -/
structure OpenCalls where
  /-- The reply of `GetUserQuota`, `none` on an error. -/
  userQuota : Option ℤ
  now : ℤ := 0
  query : Reply := .ok
  wallet : Calls := {}
  subscription : Calls := {}

/-- A session that is paid from the wallet. -/
def openWallet (info : RelayInfo) (quota : ℤ) (c : OpenCalls) (db : Db) :
    Except ErrorCode BillingSession × Db :=
  match c.userQuota with
  | none => (.error .queryDataError, db)
  | some userQuota =>
    if userQuota ≤ 0 ∨ userQuota - quota < 0 then (.error .insufficientUserQuota, db)
    else
      let s : BillingSession :=
        { relayInfo := { info with userQuota }, funding := .wallet {} }
      match s.preConsume quota c.wallet db with
      | (.error e, _, db) => (.error e, db)
      | (.ok _, s, db) => (.ok s, db)

/-- A subscription is charged at least `1`, so that there is a record to settle against. -/
def openSubscription (info : RelayInfo) (quota : ℤ) (c : OpenCalls) (db : Db) :
    Except ErrorCode BillingSession × Db :=
  let subConsume := if quota ≤ 0 then 1 else quota
  let s : BillingSession :=
    { relayInfo := info
      funding := .subscription
        { requestId := info.requestId, userId := info.userId, amount := subConsume } }
  match s.preConsume subConsume c.subscription db with
  | (.error e, _, db) => (.error e, db)
  | (.ok _, s, db) => (.ok s, db)

/-- The first source that can pay opens the session. -/
def newBillingSession (info : RelayInfo) (quota : ℤ) (c : OpenCalls) (db : Db) :
    Except ErrorCode BillingSession × Db :=
  match normalizeBillingPreference info.billingPreference with
  | .subscriptionOnly => openSubscription info quota c db
  | .walletOnly => openWallet info quota c db
  | .walletFirst =>
    match openWallet info quota c db with
    | (.error .insufficientUserQuota, db) => openSubscription info quota c db
    | r => r
  | .subscriptionFirst =>
    if c.query = .err then (.error .queryDataError, db)
    else match db.store.hasActiveUserSubscription info.userId c.now with
      | .error _ => (.error .queryDataError, db)
      | .ok false => openWallet info quota c db
      | .ok true =>
        match openSubscription info quota c db with
        | (.error .insufficientUserQuota, db) =>
          match db.store.userActiveSubscriptionsAllowWalletOverflow info.userId c.now with
          | .error _ => (.error .queryDataError, db)
          | .ok true => openWallet info quota c db
          | .ok false => (.error .insufficientUserQuota, db)
        | r => r

/-- A request without a price opens no session. -/
def preConsumeBilling (quota : ℤ) (info : RelayInfo) (c : OpenCalls) (db : Db) :
    Except ErrorCode BillingSession × Db :=
  if info.quotaClamped then (.error .modelPriceError, db)
  else if quota < 0 then (.error .modelPriceError, db)
  else newBillingSession info quota c db

end Billing
