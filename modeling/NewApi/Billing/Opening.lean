import NewApi.Billing.Holding

/-!
# Billing/Opening — a session that opens holds its reservation

`PreConsumeBilling` tries the wallet, a subscription, or one after the other.  An attempt that is
refused has taken nothing, unless a call failed; the one that succeeds leaves a session that holds
exactly what it pre-consumed, over the baseline it found.

* `openWallet_holding`, `openSubscription_holding` — one attempt.
* `preConsumeBilling_holding` — all of them.
-/

namespace Billing

open BillingSession Moved

open Subscription (SubscriptionPreConsumeRecord UserSubscription Store)

variable {info : RelayInfo} {quota : ℤ} {c : OpenCalls} {s : BillingSession} {db db' : Db}

/-- What the session's funding source and the token had given before `db` was charged.  For a
subscription the reply of the pre-consume tells. -/
def BillingSession.baseline (s : BillingSession) (db : Db) : Baseline where
  playground := s.relayInfo.isPlayground
  funding := match s.funding with
    | .wallet _ => -db.wallet.balance
    | .subscription f => f.amountUsedAfter - f.preConsumed
  token := db.token.balance

/-- Taking nothing from wallet or token leaves the baseline. -/
theorem BillingSession.baseline_of_moved (s : BillingSession) (hm : Moved 0 0 db db') :
    s.baseline db' = s.baseline db := by
  unfold baseline
  rw [hm.wallet, hm.token, add_zero, add_zero]

/-! ## Refused attempts -/

variable {e : ErrorCode} {calls : Calls}

/-- A refused pre-consume has taken nothing, unless a call failed. -/
theorem BillingSession.preConsume_error (hs : s.tokenConsumed = 0) {n : ℤ} {s' : BillingSession}
    (h : s.preConsume n calls db = (.error e, s', db')) : Moved 0 0 db db' ∨ db'.failed = true := by
  have hconsume (s₀ : BillingSession) (hs₀ : s₀.tokenConsumed = 0) (n₀ : ℤ)
      (h₀ : s₀.consume n₀ calls db = (.error e, s', db')) : Moved 0 0 db db' ∨ db'.failed = true := by
    have hout := s₀.consume_outcome n₀ calls db hs₀
    rw [h₀] at hout
    cases hout with
    | tokenRefused hm => exact .inl hm
    | fundingRefused _ _ hm => exact .inl hm
    | tokenLost _ hfail _ => exact .inr hfail
  unfold preConsume at h
  split at h
  · exact hconsume { s with trusted := true } hs _ h
  · exact hconsume s hs _ h

theorem openWallet_error (h : openWallet info quota c db = (.error e, db')) :
    Moved 0 0 db db' ∨ db'.failed = true := by
  unfold openWallet at h
  split at h
  · exact .inl ((Prod.mk.inj h).2 ▸ refl db)
  split at h
  · exact .inl ((Prod.mk.inj h).2 ▸ refl db)
  dsimp only at h
  split at h
  · next hpre =>
    obtain ⟨-, rfl⟩ := Prod.mk.inj h
    exact preConsume_error rfl hpre
  · cases h

theorem openSubscription_error (h : openSubscription info quota c db = (.error e, db')) :
    Moved 0 0 db db' ∨ db'.failed = true := by
  unfold openSubscription at h
  dsimp only at h
  split at h
  · next hpre =>
    obtain ⟨-, rfl⟩ := Prod.mk.inj h
    exact preConsume_error rfl hpre
  · cases h

/-! ## Opening on the wallet -/

/-- Opening leaves the request as it was. -/
structure Opened (info : RelayInfo) (s : BillingSession) : Prop where
  play : s.relayInfo.isPlayground = info.isPlayground
  image : s.relayInfo.isImageRequest = info.isImageRequest
  trusted : info.forcePreConsume = true → s.trusted = false

theorem BillingSession.syncRelayInfo_isImageRequest (s : BillingSession) :
    s.syncRelayInfo.relayInfo.isImageRequest = s.relayInfo.isImageRequest := by
  unfold syncRelayInfo
  cases s.funding <;> rfl

/-- A session before its pre-consume. -/
def BillingSession.fresh (info : RelayInfo) (funding : FundingSource) (trusted : Bool) :
    BillingSession :=
  { relayInfo := info, funding, trusted }

theorem BillingSession.consume_wallet_holding (info : RelayInfo) (trusted : Bool) {n : ℤ}
    (hn : 0 ≤ n) {u : Unit} (h : (fresh info (.wallet {}) trusted).consume n calls db
      = (.ok u, s, db')) :
    Holding (s.baseline db) s db' ∧ s.relayInfo.isPlayground = info.isPlayground ∧
      s.relayInfo.isImageRequest = info.isImageRequest ∧ s.trusted = trusted := by
  have hout := (fresh info (.wallet {}) trusted).consume_outcome n calls db rfl
  rw [h] at hout
  cases hout with
  | opened htok hsrc =>
    obtain ⟨rfl, hm⟩ := wallet_preConsume_ok hsrc
    rw [max_eq_left hn] at htok hm ⊢
    have hall := htok.trans hm
    refine ⟨⟨rfl, rfl, rfl, rfl, hn, rfl, ?_, fun hp => ?_, rfl⟩, rfl, rfl, rfl⟩
    · change -db'.wallet.balance = -db.wallet.balance + n
      rw [hall.wallet]
      ring
    · have hp' : info.isPlayground = false := hp
      change db'.token.balance = db.token.balance - n
      rw [hall.token, RelayInfo.tokenPart, fresh, if_neg (by simp [hp'])]
      ring

theorem openWallet_holding (hq : 0 ≤ quota) (h : openWallet info quota c db = (.ok s, db')) :
    Holding (s.baseline db) s db' ∧ Opened info s := by
  unfold openWallet at h
  split at h
  · cases h
  next userQuota _ =>
  split at h
  · cases h
  dsimp only at h
  split at h
  · cases h
  next hpre =>
  obtain ⟨hs, rfl⟩ := Prod.mk.inj h
  obtain rfl := Except.ok.inj hs
  unfold preConsume at hpre
  split at hpre
  · next htrust =>
    obtain ⟨hh, hp, hi, -⟩ := consume_wallet_holding
      { info with userQuota } true le_rfl hpre
    refine ⟨hh, hp, hi, fun hforce => ?_⟩
    simp [shouldTrust, hforce] at htrust
  · obtain ⟨hh, hp, hi, ht⟩ := consume_wallet_holding
      { info with userQuota } false hq hpre
    exact ⟨hh, hp, hi, fun _ => ht⟩

/-! ## Opening on a subscription -/

/-- **A first pre-consume opens a record.**  The request id has no record yet, so the reply is not a
replay: a row was charged the full amount, and the record names it. -/
theorem SubscriptionFunding.preConsume_open {f f' : SubscriptionFunding}
    (hfresh : db.store.records f.requestId = none)
    (hrows : ∀ i sub, db.store.sub? i = some sub → sub.Valid)
    (h : f.preConsume calls db = (.ok f', db')) :
    f'.requestId = f.requestId ∧ f'.preConsumed = f.amount ∧ 0 ≤ f'.amountUsedAfter - f'.preConsumed ∧
      taken (.subscription f') db' = f'.amountUsedAfter ∧ db'.token = db.token ∧
      ∃ r sub, db'.store.Open f'.requestId r sub ∧ r.preConsumed = f'.preConsumed ∧
        r.userSubscriptionId = f'.subscriptionId := by
  unfold SubscriptionFunding.preConsume at h
  split at h
  · cases h
  split at h
  · cases h
  next res st hpre =>
  obtain ⟨hf, rfl⟩ := Prod.mk.inj h
  obtain rfl := Except.ok.inj hf
  obtain ⟨⟨res', t, st'⟩, htx, heq⟩ := Subscription.exists_of_map_eq_ok hpre
  obtain ⟨rfl, rfl⟩ := Prod.mk.inj heq
  obtain ⟨-, hnamed, hpos⟩ := Subscription.preConsumeTx_args htx
  have hspec := Subscription.preConsumeTx_preConsumed htx
  have hcharged : ∃ i, t.charged = some i := by
    by_contra hcon
    obtain ⟨r, hr, -⟩ := hspec.replay (Option.eq_none_iff_forall_ne_some.mpr (not_exists.mp hcon))
    rw [hfresh] at hr
    cases hr
  obtain ⟨i, hi⟩ := hcharged
  obtain ⟨-, a, ha, rfl⟩ := hspec.charge i hi
  have hrow := hspec.rows i
  rw [ha, if_pos hi] at hrow
  generalize hb : db.store.sub? i = o at hrow
  cases hrow with
  | @some b _ hrow =>
    have hvalid := hrows i b hb
    have hid : a.id = b.id := (Table.key_of_find? ha).trans (Table.key_of_find? hb).symm
    have hused : 0 ≤ a.amountUsed - f.amount := by
      have := hvalid.nonneg
      rw [hrow.used]
      split <;> omega
    have hrec : st'.records f.requestId = some ⟨f.requestId, f.userId, i, f.amount, .consumed⟩ := by
      rw [hspec.records, hi]
      exact Function.update_self ..
    refine ⟨rfl, rfl, hused, ?_, rfl, _, a, ⟨hnamed, hrec, rfl, rfl, hpos, ha, ?_⟩, rfl, rfl⟩
    · simp [taken, Db.setStore, Store.used?, ha]
    · exact ⟨hid ▸ hvalid.id_pos, by omega, fun ht => hrow.fits hpos.ne' ht⟩

theorem BillingSession.consume_subscription_holding {f₀ : SubscriptionFunding}
    (hpos : 0 < f₀.amount) (hfresh : db.store.records f₀.requestId = none)
    (hrows : ∀ i sub, db.store.sub? i = some sub → sub.Valid) {u : Unit}
    (h : (fresh info (.subscription f₀) false).consume f₀.amount calls db
      = (.ok u, s, db')) : Holding (s.baseline db) s db' ∧ Opened info s := by
  have hout := (fresh info (.subscription f₀) false).consume_outcome f₀.amount calls
    db rfl
  rw [h] at hout
  cases hout with
  | opened htok hsrc =>
    rw [max_eq_left hpos.le] at htok ⊢
    change FundingSource.preConsume f₀.amount calls (.subscription f₀) _ = _ at hsrc
    obtain ⟨hmap, hdb⟩ := Prod.mk.inj hsrc
    obtain ⟨f', hf', rfl⟩ := Subscription.exists_of_map_eq_ok hmap
    obtain ⟨hreq, hamt, hbase, htaken, htoken, r, sub, ho, hr, hid⟩ :=
      SubscriptionFunding.preConsume_open (by rw [htok.store]; exact hfresh)
        (by rw [htok.store]; exact hrows) (Prod.ext hf' hdb)
    refine ⟨⟨rfl, rfl, rfl, rfl, hpos.le, rfl, ?_, fun hp => ?_, ?_, le_rfl, rfl, hbase, r, sub, ho,
      hr, hid⟩, rfl, rfl, fun _ => rfl⟩
    · change taken (.subscription f') _ = f'.amountUsedAfter - f'.preConsumed + f₀.amount
      omega
    · have hp' : info.isPlayground = false := hp
      change _ = db.token.balance - f₀.amount
      rw [htoken, htok.token, RelayInfo.tokenPart, fresh, if_neg (by simp [hp'])]
      ring
    · change f'.preConsumed + 0 = f₀.amount
      omega

/-- A subscription is never trusted. -/
theorem BillingSession.shouldTrust_subscription (info : RelayInfo) (f : SubscriptionFunding)
    (calls : Calls) :
    (fresh info (.subscription f) false).shouldTrust calls = false := by
  unfold shouldTrust fresh
  cases info.forcePreConsume <;> cases calls.trustQuota <;> rfl

theorem openSubscription_holding (hfresh : db.store.records info.requestId = none)
    (hrows : ∀ i sub, db.store.sub? i = some sub → sub.Valid)
    (h : openSubscription info quota c db = (.ok s, db')) :
    Holding (s.baseline db) s db' ∧ Opened info s := by
  unfold openSubscription at h
  dsimp only at h
  split at h
  · cases h
  next hpre =>
  obtain ⟨hs, rfl⟩ := Prod.mk.inj h
  obtain rfl := Except.ok.inj hs
  generalize hn : (if quota ≤ 0 then 1 else quota) = n at hpre
  have hpos : 0 < n := by rw [← hn]; split <;> omega
  have hplain := shouldTrust_subscription info
    { requestId := info.requestId, userId := info.userId, amount := n } c.subscription
  rw [preConsume, if_neg (by rw [← fresh, hplain]; decide)] at hpre
  exact consume_subscription_holding hpos hfresh hrows hpre

/-! ## Opening on either -/

variable {db₁ : Db}

section

variable (hfirst : Moved 0 0 db db₁ ∨ db₁.failed = true)

include hfirst

/-- An attempt that was refused took nothing, if the next one ends without a failure. -/
theorem moved_of_refused (hmono : db₁.failed = true → db'.failed = true) (hok : db'.failed = false) :
    Moved 0 0 db db₁ := by
  refine hfirst.resolve_right fun hfail => ?_
  rw [hmono hfail] at hok
  cases hok

theorem openWallet_holding_after (hq : 0 ≤ quota) (h : openWallet info quota c db₁ = (.ok s, db'))
    (hok : db'.failed = false) : Holding (s.baseline db) s db' ∧ Opened info s := by
  have hmono (hf : db₁.failed = true) : db'.failed = true := by
    have hlate := openWallet_failed hf info quota c
    rwa [h] at hlate
  have hm := moved_of_refused hfirst hmono hok
  rw [← s.baseline_of_moved hm]
  exact openWallet_holding hq h

theorem openSubscription_holding_after (hfresh : db.store.records info.requestId = none)
    (hrows : ∀ i sub, db.store.sub? i = some sub → sub.Valid)
    (h : openSubscription info quota c db₁ = (.ok s, db')) (hok : db'.failed = false) :
    Holding (s.baseline db) s db' ∧ Opened info s := by
  have hmono (hf : db₁.failed = true) : db'.failed = true := by
    have hlate := openSubscription_failed hf info quota c
    rwa [h] at hlate
  have hm := moved_of_refused hfirst hmono hok
  rw [← s.baseline_of_moved hm]
  exact openSubscription_holding (by rw [hm.store]; exact hfresh) (by rw [hm.store]; exact hrows) h

end

/-- **A session that opens holds its reservation**, given that no call failed on the way, the
request id has no record yet and the rows are valid. -/
theorem preConsumeBilling_holding (hfresh : db.store.records info.requestId = none)
    (hrows : ∀ i sub, db.store.sub? i = some sub → sub.Valid)
    (h : preConsumeBilling quota info c db = (.ok s, db')) (hok : db'.failed = false) :
    Holding (s.baseline db) s db' ∧ Opened info s := by
  unfold preConsumeBilling at h
  split at h
  · cases h
  split at h
  · cases h
  next hq =>
  replace hq : 0 ≤ quota := not_lt.mp hq
  unfold newBillingSession at h
  split at h
  · exact openSubscription_holding hfresh hrows h
  · exact openWallet_holding hq h
  · split at h
    · next hwallet =>
      exact openSubscription_holding_after (openWallet_error hwallet) hfresh hrows h hok
    · exact openWallet_holding hq h
  · split at h
    · cases h
    split at h
    · cases h
    · exact openWallet_holding hq h
    split at h
    · next hsub =>
      split at h
      · cases h
      · exact openWallet_holding_after (openSubscription_error hsub) hq h hok
      · cases h
    · exact openSubscription_holding hfresh hrows h

/-! ## Nothing is taken by a request that is refused -/

theorem moved_or_failed (hfirst : Moved 0 0 db db₁ ∨ db₁.failed = true)
    (hmono : db₁.failed = true → db'.failed = true) (hnext : Moved 0 0 db₁ db' ∨ db'.failed = true) :
    Moved 0 0 db db' ∨ db'.failed = true := by
  rcases hfirst with hm | hfail
  · exact hnext.imp_left fun hm' => hm.trans hm'
  · exact .inr (hmono hfail)

/-- **A refused `PreConsumeBilling` has taken nothing**, unless a call failed. -/
theorem preConsumeBilling_error (h : preConsumeBilling quota info c db = (.error e, db')) :
    Moved 0 0 db db' ∨ db'.failed = true := by
  unfold preConsumeBilling at h
  split at h
  · exact .inl ((Prod.mk.inj h).2 ▸ refl db)
  split at h
  · exact .inl ((Prod.mk.inj h).2 ▸ refl db)
  unfold newBillingSession at h
  split at h
  · exact openSubscription_error h
  · exact openWallet_error h
  · split at h
    · next db₁ hwallet =>
      refine moved_or_failed (openWallet_error hwallet) (fun hf => ?_) (openSubscription_error h)
      have hlate := openSubscription_failed hf info quota c
      rwa [h] at hlate
    · exact openWallet_error h
  · split at h
    · exact .inl ((Prod.mk.inj h).2 ▸ refl db)
    split at h
    · exact .inl ((Prod.mk.inj h).2 ▸ refl db)
    · exact openWallet_error h
    split at h
    · next db₁ hsub =>
      split at h
      · exact (Prod.mk.inj h).2 ▸ openSubscription_error hsub
      · refine moved_or_failed (openSubscription_error hsub) (fun hf => ?_) (openWallet_error h)
        have hlate := openWallet_failed hf info quota c
        rwa [h] at hlate
      · exact (Prod.mk.inj h).2 ▸ openSubscription_error hsub
    · exact openSubscription_error h

end Billing
