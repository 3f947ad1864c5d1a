import NewApi.Billing.FinalCharge

/-!
# Billing/Settlement — ending the billing of a request

`SettleBilling` (`service/billing.go`) ends a request through its session, or, where the request
never opened one, charges the price outright with `PostConsumeQuota` (`service/quota.go`).

* `Holding.reserve` — a reservation that was raised covers its target.
* `Holding.settle_covered` — settling at a price the reservation covers charges that price.
* `Holding.refund_charged` — `Refund` and its goroutine leave nothing charged.
* `settleBilling_none` — without a session, the wallet and the token give the price.
-/

namespace Billing

open BillingSession

/-- `PostConsumeQuota`: a price charged outright, or given back when it is negative. -/
def postConsumeQuota (info : RelayInfo) (quota : ℤ) (c : Calls) (db : Db) :
    Except FundingError Unit × Db :=
  let funding :=
    if info.billingSource = some .subscription then
      if info.subscriptionId = 0 then (.error .subscriptionIdMissing, db)
      else if quota ≠ 0 then postConsumeDelta info.subscriptionId quota c.funding db
      else (.ok (), db)
    else if quota > 0 then quotaCall (decreaseUserQuota quota c.funding db)
    else quotaCall (increaseUserQuota (-quota) c.funding db)
  match funding with
  | (.error e, db) => (.error e, db)
  | (.ok _, db) =>
    if info.isPlayground then (.ok (), db)
    else if quota > 0 then quotaCall (decreaseTokenQuota quota c.token db)
    else quotaCall (increaseTokenQuota (-quota) c.token db)

/-- The session is settled, or the difference posted without one. -/
def settleBilling (info : RelayInfo) (billing : Option BillingSession) (actual : ℤ) (c : Calls)
    (db : Db) : Except FundingError Unit × Option BillingSession × Db :=
  match billing with
  | some s =>
    let out := s.settle actual c db
    (out.1, some out.2.1, out.2.2)
  | none =>
    let quotaDelta := actual - info.finalPreConsumedQuota
    if quotaDelta ≠ 0 then
      let out := postConsumeQuota info quotaDelta c db
      (out.1, none, out.2)
    else (.ok (), none, db)

/-- The goroutine of a `Refund`, if it started one. -/
def runPending (p : Option PendingRefund) (c : RefundCalls) (db : Db) : Db :=
  match p with
  | none => db
  | some p => p.run c db

variable {b : Baseline} {s s' : BillingSession} {db db' : Db} {c : Calls}

/-! ## The baseline is the session's -/

theorem BillingSession.baseline_congr (hp : s'.relayInfo.isPlayground = s.relayInfo.isPlayground)
    (hf : s'.funding = s.funding) (db : Db) : s'.baseline db = s.baseline db := by
  unfold BillingSession.baseline
  rw [hp, hf]

variable {target : ℤ}

/-- Raising a reservation does not touch what was there before. -/
theorem ReserveOutcome.baseline (h : ReserveOutcome s target c db s' db') (db₀ : Db) :
    s'.baseline db₀ = s.baseline db₀ := by
  cases h with
  | kept => rfl
  | raised =>
    unfold BillingSession.baseline BillingSession.raised
    cases hf : s.funding <;> simp [syncRelayInfo, FundingSource.raised]
  | rolledBack =>
    unfold BillingSession.baseline withFunding
    cases hf : s.funding <;> simp [FundingSource.raised, FundingSource.lowered]
  | stuck =>
    unfold BillingSession.baseline withFunding
    cases hf : s.funding <;> simp [FundingSource.raised]

theorem ReserveOutcome.plain (h : ReserveOutcome s target c db s' db') (ht : s.trusted = false) :
    s'.relayInfo.isImageRequest = s.relayInfo.isImageRequest ∧ s'.trusted = false := by
  cases h with
  | kept => exact ⟨rfl, ht⟩
  | raised =>
    refine ⟨syncRelayInfo_isImageRequest _, ?_⟩
    change (s.trusted && !s.relayInfo.isImageRequest) = false
    rw [ht, Bool.false_and]
  | rolledBack => exact ⟨rfl, ht⟩
  | stuck => exact ⟨rfl, ht⟩

theorem BillingSession.settle_funding (s : BillingSession) (actual : ℤ) (c : Calls) (db : Db) :
    (s.settle actual c db).2.1.funding = s.funding ∧
      (s.settle actual c db).2.1.relayInfo.isPlayground = s.relayInfo.isPlayground := by
  unfold settle
  split
  · exact ⟨rfl, rfl⟩
  dsimp only
  split
  · exact ⟨rfl, rfl⟩
  split
  · exact ⟨rfl, rfl⟩
  · exact ⟨rfl, by dsimp only; split <;> rfl⟩

theorem BillingSession.refund_funding (s : BillingSession) :
    s.refund.1.funding = s.funding ∧
      s.refund.1.relayInfo.isPlayground = s.relayInfo.isPlayground := by
  unfold BillingSession.refund
  split <;> exact ⟨rfl, rfl⟩

/-! ## Raising -/

/-- An open session that is not trusted is raised to its target, or reports an error. -/
theorem BillingSession.reserve_covers (hs : s.settled = false) (hr : s.refunded = false)
    (ht : s.trusted = false) (hok : (s.reserve target c db).1 = .ok ()) :
    target ≤ (s.reserve target c db).2.1.preConsumedQuota := by
  unfold reserve at hok ⊢
  split at hok
  · next hidle =>
    rw [if_pos hidle]
    simpa [reserveIdle, hs, hr, ht] using hidle
  next hidle =>
  rw [if_neg hidle]
  dsimp only at hok ⊢
  split at hok
  · cases hok
  split at hok
  · cases hok
  change target ≤ s.preConsumedQuota + (target - s.preConsumedQuota)
  omega

theorem Holding.reserve (h : Holding b s db) (himage : s.relayInfo.isImageRequest = false)
    (target : ℤ) (c : Calls) (hok : (s.reserve target c db).2.2.failed = false) :
    Holding b (s.reserve target c db).2.1 (s.reserve target c db).2.2 :=
  h.of_outcome (s.reserve_outcome target c h.backed)
    (fun _ hi => absurd hi (by simp [himage])) hok

/-! ## Ending a session -/

theorem Holding.baseline_nonneg (h : Holding b s db) (hs : s.funding.source = .subscription) :
    0 ≤ b.funding := by
  have hsource := h.source
  cases hf : s.funding with
  | wallet w => rw [hf] at hs; cases hs
  | subscription f =>
    rw [hf] at hsource
    exact hsource.2.2.2.1

/-- **A price the reservation covers is what settling charges.** -/
theorem Holding.settle_covered (h : Holding b s db) {actual : ℤ} (hnonneg : 0 ≤ actual)
    (hcover : actual ≤ s.preConsumedQuota) (c : Calls)
    (hok : (s.settle actual c db).2.2.failed = false) :
    Charged b actual (s.settle actual c db).2.1 (s.settle actual c db).2.2 := by
  have hroom (hs : s.funding.source = .subscription) :
      0 ≤ taken s.funding db + (actual - s.preConsumedQuota) := by
    have hbase := h.baseline_nonneg hs
    rw [h.funding]
    omega
  rcases h.settle c hroom hok with ⟨-, -, hlt⟩ | hdone
  · exact absurd hcover (not_le.mpr hlt)
  · exact ⟨hdone.funding, hdone.token⟩

/-- **A refund that has run leaves nothing charged**, also when there was nothing to run. -/
theorem Holding.refund_charged (h : Holding b s db) (c : RefundCalls)
    (hok : (runPending s.refund.2 c db).failed = false) :
    Charged b 0 s.refund.1 (runPending s.refund.2 c db) := by
  unfold BillingSession.refund at hok ⊢
  by_cases hneeds : s.needsRefund = true
  · rw [if_pos hneeds] at hok ⊢
    obtain ⟨hfund, htok⟩ := h.refund c hok
    exact ⟨hfund.trans (add_zero _).symm, fun hp => (htok hp).trans (sub_zero _).symm⟩
  · rw [if_neg hneeds]
    have hzero := h.needsRefund (by simpa using hneeds)
    exact ⟨h.funding.trans (by rw [hzero]), fun hp => (h.token hp).trans (by rw [hzero])⟩

theorem runPending_failed (hf : db.failed = true) (p : Option PendingRefund) (c : RefundCalls) :
    (runPending p c db).failed = true := by
  unfold runPending
  split
  · exact hf
  · exact PendingRefund.run_failed hf ..

/-! ## Charging outright -/

theorem postConsumeQuota_failed (hf : db.failed = true) (info : RelayInfo) (quota : ℤ) (c : Calls) :
    (postConsumeQuota info quota c db).2.failed = true := by
  unfold postConsumeQuota
  dsimp only
  generalize hfund : (if info.billingSource = some .subscription then _ else _ :
    Except FundingError Unit × Db) = funding
  have hlate : funding.2.failed = true := by
    rw [← hfund]
    split
    · split
      · exact hf
      split
      · exact postConsumeDelta_failed hf ..
      · exact hf
    split
    · exact decreaseUserQuota_failed hf ..
    · exact increaseUserQuota_failed hf ..
  split
  · exact hlate
  split
  · exact hlate
  split
  · exact decreaseTokenQuota_failed hlate ..
  · exact increaseTokenQuota_failed hlate ..

variable {info : RelayInfo}

/-- Outside subscriptions, charging outright is what settling a wallet session does. -/
theorem postConsumeQuota_eq (hsource : info.billingSource = none) {quota : ℤ} (hq : quota ≠ 0)
    (c : Calls) (db : Db) :
    postConsumeQuota info quota c db =
      match FundingSource.settle quota c.funding (.wallet {}) db with
      | (.error e, db) => (.error e, db)
      | (.ok _, db) => (fresh info (.wallet {}) false).settleToken quota c db := by
  rw [postConsumeQuota, FundingSource.settle, if_neg (by simp [hsource]), if_neg hq]
  rfl

/-- **Charged outright**, the wallet and the token give the price. -/
theorem postConsumeQuota_took (hsource : info.billingSource = none) {quota : ℤ} (hq : quota ≠ 0)
    (c : Calls) (hok : (postConsumeQuota info quota c db).2.failed = false) :
    Took (.wallet {}) quota (info.tokenPart quota) db (postConsumeQuota info quota c db).2 := by
  rw [postConsumeQuota_eq hsource hq] at hok ⊢
  rcases FundingSource.settle_wallet {} quota c.funding db with ⟨e, hfail⟩ | ⟨db₁, h₁, ht₁⟩
  · rw [hfail] at hok
    cases hok
  rw [h₁] at hok ⊢
  dsimp only at hok ⊢
  rcases (fresh info (.wallet {}) false).settleToken_cases quota c (.wallet {}) db₁
    with ⟨e, db₂, h₂, -, hfail⟩ | ⟨db₂, h₂, ht₂⟩
  · rw [h₂, hfail] at hok
    cases hok
  · rw [h₂]
    simpa [fresh] using ht₁.trans ht₂

/-! ## `SettleBilling` -/

theorem settleBilling_failed (hf : db.failed = true) (info : RelayInfo)
    (billing : Option BillingSession) (actual : ℤ) (c : Calls) :
    (settleBilling info billing actual c db).2.2.failed = true := by
  unfold settleBilling
  split
  · exact settle_failed hf ..
  · dsimp only
    split
    · exact postConsumeQuota_failed hf ..
    · exact hf

/-- **Without a session**, the wallet and the token give the price. -/
theorem settleBilling_none (hsource : info.billingSource = none)
    (hpre : info.finalPreConsumedQuota = 0) (actual : ℤ) (c : Calls)
    (hok : (settleBilling info none actual c db).2.2.failed = false) :
    (settleBilling info none actual c db).2.1 = none ∧
      Took (.wallet {}) actual (info.tokenPart actual) db
        (settleBilling info none actual c db).2.2 := by
  unfold settleBilling at hok ⊢
  rw [hpre, sub_zero] at hok ⊢
  dsimp only at hok ⊢
  by_cases hq : actual = 0
  · rw [if_neg (not_not.mpr hq)]
    refine ⟨rfl, ?_⟩
    rw [hq, RelayInfo.tokenPart, ite_self]
    exact Took.refl _ db
  · rw [if_pos hq] at hok ⊢
    exact ⟨rfl, postConsumeQuota_took hsource hq c hok⟩

end Billing
