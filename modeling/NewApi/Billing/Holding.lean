import NewApi.Billing.WalletSession

/-!
# Billing/Holding — what an open session holds, for either funding source

`Holding b s db`: the session is open, the funding source and the token have each given exactly
`preConsumedQuota` since the baseline `b`, and the session's counters say so.  For a subscription
this includes that the request's record is still open and charged the row the session adjusts.

* `Holding.of_outcome` — raising keeps it.
* `Holding.settle` — settling at `actual` leaves exactly `actual` taken.
* `Holding.refund` — the refund's goroutine leaves nothing taken.
-/

namespace Billing

open BillingSession FundingSource

open Subscription (SubscriptionPreConsumeRecord UserSubscription)

/-- What the funding source and the token had given before the session. -/
structure Baseline where
  playground : Bool
  funding : ℤ
  token : ℤ

/-- The counters of the funding source. -/
def SourceHolds (b : Baseline) (s : BillingSession) (db : Db) : FundingSource → Prop
  | .wallet w => w.consumed = s.preConsumedQuota
  | .subscription f =>
    f.preConsumed + s.extraReserved = s.preConsumedQuota ∧ 0 ≤ s.extraReserved ∧
      s.relayInfo.subscriptionId = f.subscriptionId ∧ 0 ≤ b.funding ∧
      ∃ r sub, db.store.Open f.requestId r sub ∧ r.preConsumed = f.preConsumed ∧
        r.userSubscriptionId = f.subscriptionId

/-- The reservation that an open session holds, and what it has taken. -/
structure Holding (b : Baseline) (s : BillingSession) (db : Db) : Prop where
  play : s.relayInfo.isPlayground = b.playground
  settled : s.settled = false
  refunded : s.refunded = false
  fundingSettled : s.fundingSettled = false
  nonneg : 0 ≤ s.preConsumedQuota
  tokenConsumed : s.tokenConsumed = s.preConsumedQuota
  funding : taken s.funding db = b.funding + s.preConsumedQuota
  token : b.playground = false → db.token.balance = b.token - s.preConsumedQuota
  source : SourceHolds b s db s.funding

variable {b : Baseline} {s s' : BillingSession} {db db' : Db}

theorem Holding.backed (h : Holding b s db) : Backed s.funding db := by
  have hsrc := h.source
  cases hf : s.funding with
  | wallet w => trivial
  | subscription f =>
    rw [hf] at hsrc
    obtain ⟨-, -, -, -, r, sub, hopen, -, hid⟩ := hsrc
    exact ⟨sub, hid ▸ hopen.row, hopen.valid⟩

variable {r : SubscriptionPreConsumeRecord} {sub : UserSubscription} {f : SubscriptionFunding}
  {m : ℤ}

/-- An open record stays open while its row stays valid. -/
theorem Took.open {n : ℤ} (h : Took (.subscription f) n m db db')
    (ho : db.store.Open f.requestId r sub) (hid : r.userSubscriptionId = f.subscriptionId) :
    ∃ sub', db'.store.Open f.requestId r sub' := by
  obtain ⟨sub', hrow, hvalid⟩ := h.backed ⟨sub, hid ▸ ho.row, ho.valid⟩
  exact ⟨sub', ho.named, by rw [h.records]; exact ho.record, ho.consumed, ho.key, ho.pos,
    by rw [hid]; exact hrow, hvalid⟩

/-- A call that took nothing changes nothing of what the session holds. -/
theorem Holding.of_took (h : Holding b s db) (ht : Took s.funding 0 0 db db') : Holding b s db' := by
  refine ⟨h.play, h.settled, h.refunded, h.fundingSettled, h.nonneg, h.tokenConsumed, ?_,
    fun hp => ?_, ?_⟩
  · rw [ht.funding, h.funding, add_zero]
  · rw [ht.token, h.token hp, sub_zero]
  · have hsource := h.source
    cases hf : s.funding with
    | wallet w => rw [hf] at hsource; exact hsource
    | subscription f =>
      rw [hf] at hsource ht
      obtain ⟨h₁, h₂, h₃, h₄, r, sub, ho, hr, hid⟩ := hsource
      obtain ⟨sub', ho'⟩ := ht.open ho hid
      exact ⟨h₁, h₂, h₃, h₄, r, sub', ho', hr, hid⟩

/-! ## Raising -/

variable {delta : ℤ} {image : Bool}

/-- The counters of the source after a raise that is added to them. -/
theorem SourceHolds.raised {f : FundingSource} (h : SourceHolds b s db f) (hd : 0 < delta)
    (hset : f.source = .wallet → image = true → f.walletConsumed = 0)
    (took : Took f delta m db db') :
    SourceHolds b (s.raised (f.raised image delta) delta) db' (f.raised image delta) := by
  cases f with
  | wallet w =>
    have hadd := walletConsumed_raised (f := .wallet w) rfl (hset rfl) delta
    exact hadd.trans (congrArg (· + delta) h)
  | subscription f =>
    obtain ⟨h₁, h₂, h₃, h₄, r, sub, ho, hr, hid⟩ := h
    obtain ⟨sub', ho'⟩ := took.open ho hid
    refine ⟨?_, ?_, syncRelayInfo_subscriptionId _ rfl, h₄, r, sub', ho', hr, hid⟩
    · change f.preConsumed + (s.extraReserved + delta) = s.preConsumedQuota + delta
      omega
    · change 0 ≤ s.extraReserved + delta
      omega

theorem SourceHolds.rolledBack {f : FundingSource} (h : SourceHolds b s db f)
    (hset : f.source = .wallet → image = true → f.walletConsumed = 0) (took : Took f 0 0 db db') :
    SourceHolds b (s.withFunding ((f.raised image delta).lowered delta)) db'
      ((f.raised image delta).lowered delta) := by
  cases f with
  | wallet w =>
    exact (walletConsumed_lowered (f := .wallet w) rfl (hset rfl) delta).trans h
  | subscription f =>
    obtain ⟨h₁, h₂, h₃, h₄, r, sub, ho, hr, hid⟩ := h
    obtain ⟨sub', ho'⟩ := took.open ho hid
    exact ⟨h₁, h₂, h₃, h₄, r, sub', ho', hr, hid⟩

theorem Holding.raised (h : Holding b s db) (hd : 0 < delta)
    (hset : s.funding.source = .wallet → s.relayInfo.isImageRequest = true →
      s.funding.walletConsumed = 0)
    (took : Took s.funding delta (s.relayInfo.tokenPart delta) db db') :
    Holding b (s.raised (s.funding.raised s.relayInfo.isImageRequest delta) delta) db' := by
  have hfund := h.funding
  have hn := h.nonneg
  have htok := h.tokenConsumed
  refine ⟨by simpa [BillingSession.raised] using h.play, h.settled, h.refunded, h.fundingSettled,
    ?_, ?_, ?_, fun hp => ?_, h.source.raised hd hset took⟩
  · change 0 ≤ s.preConsumedQuota + delta
    omega
  · change s.tokenConsumed + delta = s.preConsumedQuota + delta
    omega
  · change taken (s.funding.raised _ _) db' = b.funding + (s.preConsumedQuota + delta)
    rw [taken_raised, took.funding, hfund, add_assoc]
  · change db'.token.balance = b.token - (s.preConsumedQuota + delta)
    rw [took.token, h.token hp, RelayInfo.tokenPart, if_neg (by simp [h.play, hp])]
    omega

/-- A raise that was rolled back leaves the hold as it was. -/
theorem Holding.rolledBack (h : Holding b s db)
    (hset : s.funding.source = .wallet → s.relayInfo.isImageRequest = true →
      s.funding.walletConsumed = 0) (took : Took s.funding 0 0 db db') :
    Holding b (s.withFunding ((s.funding.raised s.relayInfo.isImageRequest delta).lowered delta))
      db' := by
  refine ⟨h.play, h.settled, h.refunded, h.fundingSettled, h.nonneg, h.tokenConsumed, ?_,
    (h.of_took took).token, h.source.rolledBack hset took⟩
  change taken (lowered _ (s.funding.raised _ _)) db' = b.funding + s.preConsumedQuota
  rw [taken_lowered, taken_raised]
  exact (h.of_took took).funding

/-- **Raising keeps the hold**, unless it overwrites the wallet's `consumed` or one of its calls
fails. -/
theorem Holding.of_outcome {target : ℤ} {c : Calls} (h : Holding b s db)
    (hout : ReserveOutcome s target c db s' db')
    (hset : s.reserveIdle target = false → s.relayInfo.isImageRequest = true →
      walletGrants (target - s.preConsumedQuota) c db → s.funding.walletConsumed = 0)
    (hok : db'.failed = false) : Holding b s' db' := by
  cases hout with
  | kept took => exact h.of_took took
  | raised busy granted took =>
    exact h.raised (reserveIdle_false busy) (fun hw hi => hset busy hi (granted hw hi)) took
  | rolledBack busy granted took =>
    exact h.rolledBack (fun hw hi => hset busy hi (granted hw hi)) took
  | stuck busy granted took failed lost =>
    rw [hok] at failed
    cases failed

/-! ## Settling -/

/-- The session ended by settling, with `actual` taken. -/
structure SettledAt (b : Baseline) (actual : ℤ) (s : BillingSession) (db : Db) : Prop where
  settled : s.settled = true
  funding : taken s.funding db = b.funding + actual
  token : b.playground = false → db.token.balance = b.token - actual

/-- **Settling leaves exactly `actual` taken**, or is refused by the funding source and leaves the
hold as it was; only a subscription without room refuses a raise, and nothing but a failing call
refuses a give-back. -/
theorem Holding.settle (h : Holding b s db) {actual : ℤ} (c : Calls)
    (hn : s.funding.source = .subscription →
      0 ≤ taken s.funding db + (actual - s.preConsumedQuota))
    (hok : (s.settle actual c db).2.2.failed = false) :
    ((s.settle actual c db).2.1 = s ∧ Holding b s (s.settle actual c db).2.2 ∧
        s.preConsumedQuota < actual) ∨
      SettledAt b actual (s.settle actual c db).2.1 (s.settle actual c db).2.2 := by
  have hfund := h.funding
  unfold BillingSession.settle at hok ⊢
  rw [if_neg (by simp [h.settled])] at hok ⊢
  dsimp only at hok ⊢
  split at hok
  · next hd =>
    rw [if_pos hd]
    have hpre : actual = s.preConsumedQuota := by omega
    subst hpre
    exact .inr ⟨rfl, hfund, h.token⟩
  next hd =>
  rw [if_neg hd]
  rw [if_neg (by simp [h.fundingSettled])] at hok ⊢
  rcases settle_cases c.funding h.backed hn with
    ⟨e, db₁, h₁, ht₁, hfail⟩ | ⟨db₁, h₁, ht₁⟩
  · rw [h₁] at hok ⊢
    refine .inl ⟨rfl, h.of_took ht₁, ?_⟩
    by_contra hle
    have hf : db₁.failed = true := hfail (by omega)
    exact absurd hf (by simpa using hok)
  · rw [h₁] at hok ⊢
    rcases s.settleToken_cases (actual - s.preConsumedQuota) c s.funding db₁ with
      ⟨e, db₂, h₂, -, hfail⟩ | ⟨db₂, h₂, ht₂⟩
    · simp only [h₂] at hok
      exact absurd hfail (by simpa using hok)
    · simp only [h₂]
      have ht := ht₁.trans ht₂
      refine .inr ⟨rfl, ?_, fun hp => ?_⟩
      · change taken s.funding db₂ = _
        rw [ht.funding, hfund]
        ring
      · rw [ht.token, h.token hp, RelayInfo.tokenPart, if_neg (by simp [h.play, hp])]
        ring

/-! ## Refunding -/

/-- What the funding source still holds once `funding.Refund()` has run: the raises of a
subscription are returned separately. -/
def BillingSession.leftover (s : BillingSession) : ℤ :=
  if s.funding.source = .subscription then s.extraReserved else 0

/-- `funding.Refund()` on an open record: the row loses what was pre-consumed. -/
theorem FundingSource.refund_subscription (ho : db.store.Open f.requestId r sub)
    (hr : r.preConsumed = f.preConsumed) (hid : r.userSubscriptionId = f.subscriptionId)
    (hle : f.preConsumed ≤ sub.amountUsed) (c : RefundCalls)
    (hok : (refund c (.subscription f) db).failed = false) :
    let db' := refund c (.subscription f) db
    taken (.subscription f) db' = sub.amountUsed - f.preConsumed ∧ db'.token = db.token ∧
      Backed (.subscription f) db' := by
  have hpos : ¬ f.preConsumed ≤ 0 := by have := ho.pos; omega
  rw [refund, if_neg hpos] at hok ⊢
  by_cases hfault : c.faults 0 = .none
  · have hback := ho.giveBack.row
    rw [hid, hr] at hback
    rw [ho.refundWithRetry_clean hfault, hr]
    simp only [if_pos hfault]
    refine ⟨?_, rfl, _, hback, hr ▸ ho.giveBack.valid⟩
    have hmax : Subscription.giveBack f.preConsumed sub.amountUsed
        = sub.amountUsed - f.preConsumed := max_eq_left (by omega)
    simp only [taken, Db.setStore, Subscription.Store.used?, Subscription.Store.saveRecord_sub?,
      hback, Option.map_some, Option.getD_some, UserSubscription.withUsed_amountUsed]
    exact hmax
  · rcases hres : Subscription.refundWithRetry c.faults f.requestId db.store with ⟨res, st⟩
    rw [hres] at hok
    cases res with
    | ok u => simp [hfault, Db.fail] at hok
    | error e => simp [Db.fail] at hok

/-- **`funding.Refund()` returns the source's own counter.** -/
theorem Holding.refund_funding (h : Holding b s db) (c : RefundCalls)
    (hok : (s.funding.refund c db).failed = false) :
    taken s.funding (s.funding.refund c db) = b.funding + s.leftover ∧
      (s.funding.refund c db).token.balance = db.token.balance ∧
      Backed s.funding (s.funding.refund c db) := by
  have hsource := h.source
  have hfund := h.funding
  have hn := h.nonneg
  unfold leftover
  cases hf : s.funding with
  | wallet w =>
    rw [hf] at hsource hok hfund
    have hc : w.consumed = s.preConsumedQuota := hsource
    have hm := refund_wallet w (by omega) c hok
    refine ⟨?_, by rw [hm.token, add_zero], trivial⟩
    simp only [taken, hm.wallet, FundingSource.source, reduceCtorEq, if_false] at hfund ⊢
    omega
  | subscription f =>
    rw [hf] at hsource hok hfund
    obtain ⟨hsum, hex, -, hbase, r, sub, ho, hr, hid⟩ := hsource
    have hused : taken (.subscription f) db = sub.amountUsed := by
      simp [taken, Subscription.Store.used?, ← hid, ho.row]
    obtain ⟨h₁, h₂, h₃⟩ := refund_subscription ho hr hid (by omega) c hok
    refine ⟨?_, by rw [h₂], h₃⟩
    rw [h₁, FundingSource.source, if_pos rfl]
    omega

/-- The goroutine returns the raises of a subscription. -/
theorem Holding.refund_extra (h : Holding b s db) {db₁ : Db} (c : RefundCalls)
    (hfund : taken s.funding db₁ = b.funding + s.leftover) (hb : Backed s.funding db₁)
    {db₂ : Db} (hrun : db₂ = if 0 < s.extraReserved ∧ s.funding.source = .subscription ∧
        0 < s.relayInfo.subscriptionId then
      (postConsumeDelta s.relayInfo.subscriptionId (-s.extraReserved) c.extra db₁).2 else db₁)
    (hok : db₂.failed = false) :
    taken s.funding db₂ = b.funding ∧ db₂.token.balance = db₁.token.balance := by
  have hsource := h.source
  unfold leftover at hfund
  cases hf : s.funding with
  | wallet w =>
    rw [hf] at hfund hrun
    simp only [FundingSource.source, reduceCtorEq, false_and, and_false, if_false, add_zero]
      at hfund hrun
    subst hrun
    exact ⟨hfund, rfl⟩
  | subscription f =>
    rw [hf] at hsource hfund hb hrun
    obtain ⟨-, hex, hsync, hbase, r, sub, ho, -, hid⟩ := hsource
    rw [FundingSource.source, if_pos rfl] at hfund
    have hidpos : 0 < s.relayInfo.subscriptionId := by
      have := ho.valid.id_pos
      rwa [ho.id_eq, hid, ← hsync] at this
    by_cases hpos : 0 < s.extraReserved
    · rw [if_pos ⟨hpos, rfl, hidpos⟩, hsync] at hrun
      have hroom : 0 ≤ taken (.subscription f) db₁ + -s.extraReserved := by omega
      rcases postConsumeDelta_cases c.extra hb hroom with
        ⟨e, db', h', -, hfail⟩ | ⟨db', h', ht⟩
      · rw [h'] at hrun
        subst hrun
        exact absurd (hfail (by omega)) (by simpa using hok)
      · rw [h'] at hrun
        subst hrun
        exact ⟨by rw [ht.funding]; omega, by rw [ht.token, sub_zero]⟩
    · rw [if_neg (fun h => hpos h.1)] at hrun
      subst hrun
      exact ⟨by omega, rfl⟩

/-- The goroutine `Refund` starts for the session. -/
def BillingSession.pendingRefund (s : BillingSession) : PendingRefund :=
  ⟨s.funding, s.tokenConsumed, s.extraReserved, s.relayInfo.subscriptionId,
    s.relayInfo.isPlayground⟩

/-- **The goroutine of `Refund` leaves nothing taken**, if none of its calls fails. -/
theorem Holding.refund (h : Holding b s db) (c : RefundCalls)
    (hok : (s.pendingRefund.run c db).failed = false) :
    taken s.funding (s.pendingRefund.run c db) = b.funding ∧
      (b.playground = false → (s.pendingRefund.run c db).token.balance = b.token) := by
  unfold PendingRefund.run pendingRefund at hok ⊢
  dsimp only at hok ⊢
  generalize hdb₁ : s.funding.refund c db = db₁ at hok ⊢
  generalize hdb₂ : (if 0 < s.extraReserved ∧ s.funding.source = .subscription ∧
      0 < s.relayInfo.subscriptionId then
      (postConsumeDelta s.relayInfo.subscriptionId (-s.extraReserved) c.extra db₁).2 else db₁) = db₂
    at hok ⊢
  have htok := h.tokenConsumed
  have hn := h.nonneg
  have hm := refundToken_moved (by omega) s.relayInfo.isPlayground c.token hok
  have hok₂ := not_failed_of_moved hm hok
  have hok₁ : db₁.failed = false := by
    by_contra hcon
    rw [← hdb₂] at hok₂
    split at hok₂
    · rw [postConsumeDelta_failed (by simpa using hcon) _ _ _] at hok₂; cases hok₂
    · exact hcon hok₂
  subst hdb₁
  obtain ⟨h₁, h₂, h₃⟩ := h.refund_funding c hok₁
  obtain ⟨h₄, h₅⟩ := h.refund_extra c h₁ h₃ hdb₂.symm hok₂
  refine ⟨by rw [(hm.took s.funding).funding, h₄, add_zero], fun hp => ?_⟩
  rw [hm.token, h₅, h₂, h.token hp, if_neg (by simp [h.play, hp])]
  omega

/-- A session whose `Refund` has nothing to do holds nothing. -/
theorem Holding.needsRefund (h : Holding b s db) (hneeds : s.needsRefund = false) :
    s.preConsumedQuota = 0 := by
  have htok := h.tokenConsumed
  have hn := h.nonneg
  unfold BillingSession.needsRefund at hneeds
  rw [if_neg (by simp [h.settled, h.refunded, h.fundingSettled])] at hneeds
  have hle : ¬ 0 < s.tokenConsumed := by
    intro hpos
    simp [hpos] at hneeds
  omega

end Billing
