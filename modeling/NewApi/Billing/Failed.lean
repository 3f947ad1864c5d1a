import NewApi.Billing.Session

/-!
# Billing/Failed — a failed call is not forgotten

`failed` is set by every call that reports an error and cleared by none.  So a run that ends with
`failed = false` had no failing call at any point of it.
-/

namespace Billing

open FundingSource

variable {db : Db} (hf : db.failed = true)

include hf

/-! ## The ledger -/

variable (n : ℤ) (reply : Reply)

/-- A call that fails or moves an amount. -/
theorem failed_of_moved {α : Type} {x : Except QuotaError α × Db} {a : α} {k m : ℤ}
    (h : (∃ e, x = (.error e, db.fail)) ∨ ∃ db', x = (.ok a, db') ∧ Moved k m db db') :
    x.2.failed = true := by
  rcases h with ⟨e, rfl⟩ | ⟨db', rfl, hm⟩
  · rfl
  · exact hm.failed hf

/-- …and one that may also be refused. -/
theorem failed_of_reserved {α : Type} {x : Except QuotaError α × Db} {a b : α} {k m : ℤ}
    (h : (∃ e, x = (.error e, db.fail)) ∨ x = (.ok b, db) ∨
      ∃ db', x = (.ok a, db') ∧ Moved k m db db') : x.2.failed = true := by
  rcases h with ⟨e, rfl⟩ | rfl | ⟨db', rfl, hm⟩
  · rfl
  · exact hf
  · exact hm.failed hf

theorem increaseUserQuota_failed : (increaseUserQuota n reply db).2.failed = true :=
  failed_of_moved hf (increaseUserQuota_cases n reply db)

theorem decreaseUserQuota_failed : (decreaseUserQuota n reply db).2.failed = true :=
  failed_of_moved hf (decreaseUserQuota_cases n reply db)

theorem increaseTokenQuota_failed : (increaseTokenQuota n reply db).2.failed = true :=
  failed_of_moved hf (increaseTokenQuota_cases n reply db)

theorem decreaseTokenQuota_failed : (decreaseTokenQuota n reply db).2.failed = true :=
  failed_of_moved hf (decreaseTokenQuota_cases n reply db)

theorem tryReserveUserQuota_failed (cache : CacheQuotaResult) (reply : Reply) :
    (tryReserveUserQuota n cache reply db).2.failed = true :=
  failed_of_reserved hf (tryReserveUserQuota_cases n reply cache db)

theorem tryReserveTokenQuota_failed (unlimited : Bool) (cache : CacheQuotaResult) (reply : Reply) :
    (tryReserveTokenQuota n unlimited cache reply db).2.failed = true :=
  failed_of_reserved hf (tryReserveTokenQuota_cases n reply cache db unlimited)

/-! ## Funding sources -/

theorem postConsumeDelta_failed (id delta : ℤ) (reply : Reply) :
    (postConsumeDelta id delta reply db).2.failed = true := by
  unfold postConsumeDelta
  split
  · rfl
  split <;> exact hf

/-- Whatever pays. -/
theorem FundingSource.preConsume_failed (c : Calls) (f : FundingSource) :
    (f.preConsume n c db).2.failed = true := by
  cases f with
  | wallet w =>
    rw [FundingSource.preConsume]
    have h := tryReserveUserQuota_failed hf n c.fundingCache c.funding
    unfold WalletFunding.preConsume
    split
    · exact hf
    split <;> next heq => rw [heq] at h; exact h
  | subscription f =>
    rw [FundingSource.preConsume]
    unfold SubscriptionFunding.preConsume
    split
    · rfl
    split <;> exact hf

theorem FundingSource.settle_failed (delta : ℤ) (reply : Reply) (f : FundingSource) :
    (f.settle delta reply db).2.failed = true := by
  cases f with
  | wallet w =>
    rw [settle]
    split
    · exact hf
    split
    · exact decreaseUserQuota_failed hf ..
    · exact increaseUserQuota_failed hf ..
  | subscription f =>
    rw [settle]
    split
    · exact hf
    · exact postConsumeDelta_failed hf ..

theorem FundingSource.refund_failed (c : RefundCalls) (f : FundingSource) :
    (f.refund c db).failed = true := by
  cases f with
  | wallet w =>
    rw [refund]
    split
    · exact hf
    · exact increaseUserQuota_failed hf ..
  | subscription f =>
    rw [refund]
    split
    · exact hf
    split
    · split
      · exact hf
      · rfl
    · rfl

theorem FundingSource.rollbackReserve_failed (delta : ℤ) (c : Calls) (f : FundingSource) :
    (f.rollbackReserve delta c db).2.failed = true := by
  cases f with
  | wallet w =>
    rw [rollbackReserve]
    have h := increaseUserQuota_failed hf delta c.rollback
    split <;> next heq => rw [heq] at h; exact h
  | subscription f => exact postConsumeDelta_failed hf ..

/-! ## The session -/

variable (info : RelayInfo)

theorem preConsumeTokenQuota_failed (n : ℤ) (c : Calls) :
    (preConsumeTokenQuota info n c db).2.failed = true := by
  have h := tryReserveTokenQuota_failed hf n info.tokenUnlimited c.tokenCache c.token
  unfold preConsumeTokenQuota
  split
  · exact hf
  split
  · exact hf
  split <;> next heq => rw [heq] at h; exact h

namespace BillingSession

variable (s : BillingSession)

theorem rollbackToken_failed (c : Calls) : (s.rollbackToken c db).2.failed = true := by
  unfold rollbackToken
  split
  · exact increaseTokenQuota_failed hf ..
  · exact hf

theorem consume_failed (effective : ℤ) (c : Calls) : (s.consume effective c db).2.2.failed = true := by
  have htoken : (if 0 < effective then preConsumeTokenQuota s.relayInfo effective c db
      else (.ok (), db)).2.failed = true := by
    split
    · exact preConsumeTokenQuota_failed hf ..
    · exact hf
  unfold consume
  split
  · next heq => rw [heq] at htoken; exact htoken
  · next heq =>
    rw [heq] at htoken
    dsimp only
    generalize (if 0 < effective then { s with tokenConsumed := effective } else s) = s₁
    have hfund := FundingSource.preConsume_failed htoken effective c s₁.funding
    split
    · next heq => rw [heq] at hfund; exact s₁.rollbackToken_failed hfund c
    · next heq => rw [heq] at hfund; exact hfund

theorem preConsume_failed (quota : ℤ) (c : Calls) : (s.preConsume quota c db).2.2.failed = true := by
  unfold preConsume
  split <;> exact consume_failed hf ..

theorem reserveFunding_failed (delta : ℤ) (image : Bool) (c : Calls) :
    (s.reserveFunding delta image c db).2.failed = true := by
  unfold reserveFunding
  split
  · next w _ =>
    split
    · have h := FundingSource.preConsume_failed hf delta c (.wallet w)
      rw [FundingSource.preConsume] at h
      split <;> next heq => rw [heq] at h; exact h
    · have h := decreaseUserQuota_failed hf delta c.funding
      split <;> next heq => rw [heq] at h; exact h
  · next f _ =>
    have h := postConsumeDelta_failed hf f.subscriptionId delta c.funding
    split <;> next heq => rw [heq] at h; exact h

theorem reserveToken_failed (delta : ℤ) (c : Calls) : (s.reserveToken delta c db).2.failed = true := by
  unfold reserveToken
  split
  · exact hf
  · exact preConsumeTokenQuota_failed hf ..

/-- **Reserving more.** -/
theorem reserve_failed (target : ℤ) (c : Calls) : (s.reserve target c db).2.2.failed = true := by
  unfold reserve
  split
  · exact hf
  dsimp only
  have h := s.reserveFunding_failed hf (target - s.preConsumedQuota) s.relayInfo.isImageRequest c
  split
  · next heq => rw [heq] at h; exact h
  · next db₁ heq =>
    rw [heq] at h
    have h' := s.reserveToken_failed h (target - s.preConsumedQuota) c
    split
    · next heq => rw [heq] at h'; exact rollbackReserve_failed h' ..
    · next heq => rw [heq] at h'; exact h'

theorem settleToken_failed (delta : ℤ) (c : Calls) : (s.settleToken delta c db).2.failed = true := by
  unfold settleToken
  split
  · exact hf
  split
  · exact decreaseTokenQuota_failed hf ..
  · exact increaseTokenQuota_failed hf ..

/-- **Settling it.** -/
theorem settle_failed (actual : ℤ) (c : Calls) : (s.settle actual c db).2.2.failed = true := by
  have hfund : (if s.fundingSettled then (.ok (), db)
      else s.funding.settle (actual - s.preConsumedQuota) c.funding db).2.failed = true := by
    split
    · exact hf
    · exact FundingSource.settle_failed hf ..
  unfold settle
  split
  · exact hf
  dsimp only
  split
  · exact hf
  split
  · next heq => rw [heq] at hfund; exact hfund
  · next heq =>
    rw [heq] at hfund
    exact s.settleToken_failed hfund ..

end BillingSession

theorem PendingRefund.run_failed (p : PendingRefund) (c : RefundCalls) :
    (p.run c db).failed = true := by
  have hfund := refund_failed hf c p.funding
  have hextra : (if 0 < p.extraReserved ∧ p.funding.source = .subscription ∧ 0 < p.subscriptionId then
      (postConsumeDelta p.subscriptionId (-p.extraReserved) c.extra (p.funding.refund c db)).2
      else p.funding.refund c db).failed = true := by
    split
    · exact postConsumeDelta_failed hfund ..
    · exact hfund
  unfold PendingRefund.run
  dsimp only
  split
  · exact increaseTokenQuota_failed hextra ..
  · exact hextra

/-! ## Opening a session -/

variable (quota : ℤ) (c : OpenCalls)

theorem openWallet_failed : (openWallet info quota c db).2.failed = true := by
  unfold openWallet
  split
  · exact hf
  next userQuota _ =>
  split
  · exact hf
  dsimp only
  have h := BillingSession.preConsume_failed hf
    { relayInfo := { info with userQuota }, funding := .wallet {} } quota c.wallet
  split <;> next heq => rw [heq] at h; exact h

theorem openSubscription_failed : (openSubscription info quota c db).2.failed = true := by
  unfold openSubscription
  dsimp only
  generalize (if quota ≤ 0 then 1 else quota) = n
  have h := BillingSession.preConsume_failed hf
    { relayInfo := info
      funding := .subscription { requestId := info.requestId, userId := info.userId, amount := n } }
    n c.subscription
  split <;> next heq => rw [heq] at h; exact h

/-- **Opening a session.** -/
theorem newBillingSession_failed : (newBillingSession info quota c db).2.failed = true := by
  have hwallet := openWallet_failed hf info quota c
  have hsub := openSubscription_failed hf info quota c
  unfold newBillingSession
  split
  · exact hsub
  · exact hwallet
  · split
    · next heq => rw [heq] at hwallet; exact openSubscription_failed hwallet ..
    · exact hwallet
  · split
    · exact hf
    split
    · exact hf
    · exact hwallet
    split
    · next heq =>
      rw [heq] at hsub
      split
      · exact hsub
      · exact openWallet_failed hsub ..
      · exact hsub
    · exact hsub

theorem preConsumeBilling_failed (info : RelayInfo) (c : OpenCalls) :
    (preConsumeBilling quota info c db).2.failed = true := by
  unfold preConsumeBilling
  split
  · exact hf
  split
  · exact hf
  · exact newBillingSession_failed hf ..

end Billing
