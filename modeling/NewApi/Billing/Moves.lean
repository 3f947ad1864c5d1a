import NewApi.Billing.Failed

/-!
# Billing/Moves — what the session's calls take from the funding source and the token

`taken` is what a funding source has given, up to a constant: the wallet's balance counted
downwards, or the subscription's usage.  `Took f n m db db'` says that between two states `n` was
taken from `f` and `m` from the token.  One lemma per call lists its outcomes; `reserve_outcome`
does so for `Reserve`.
-/

namespace Billing

open BillingSession RelayInfo

open Subscription (UserSubscription)

/-- What the funding source has given so far, up to a constant. -/
def taken : FundingSource → Db → ℤ
  | .wallet _, db => -db.wallet.balance
  | .subscription f, db => (db.store.used? f.subscriptionId).getD 0

/-- A subscription source points at a valid row. -/
def Backed : FundingSource → Db → Prop
  | .wallet _, _ => True
  | .subscription f, db => ∃ sub, db.store.sub? f.subscriptionId = some sub ∧ sub.Valid

/-- `n` was taken from `f` and `m` from the token. -/
structure Took (f : FundingSource) (n m : ℤ) (db db' : Db) : Prop where
  funding : taken f db' = taken f db + n
  token : db'.token.balance = db.token.balance - m
  failed : db.failed → db'.failed
  records : db'.store.records = db.store.records
  backed : Backed f db → Backed f db'
  batch : db'.batchUpdateEnabled = db.batchUpdateEnabled
  /-- Without batch updates, what a wallet source gave came off the row itself. -/
  row : f.source = .wallet → db.batchUpdateEnabled = false →
    db'.wallet.quota = db.wallet.quota - n

namespace Took

variable {f : FundingSource} {n n' m m' : ℤ} {db db₁ db₂ : Db}

theorem trans (h : Took f n m db db₁) (h' : Took f n' m' db₁ db₂) :
    Took f (n + n') (m + m') db db₂ where
  funding := by rw [h'.funding, h.funding, add_assoc]
  token := by rw [h'.token, h.token]; ring
  failed := h'.failed ∘ h.failed
  records := h'.records.trans h.records
  backed := h'.backed ∘ h.backed
  batch := h'.batch.trans h.batch
  row hf hb := by rw [h'.row hf (h.batch.trans hb), h.row hf hb]; ring

/-- The source may be replaced by one that points at the same money. -/
theorem congr (f' : FundingSource) (ht : taken f' = taken f) (hb : Backed f' = Backed f)
    (hs : f'.source = f.source) (h : Took f n m db db₁) : Took f' n m db db₁ where
  funding := by rw [ht]; exact h.funding
  token := h.token
  failed := h.failed
  records := h.records
  backed := by rw [hb]; exact h.backed
  batch := h.batch
  row := by rw [hs]; exact h.row

end Took

variable {f : FundingSource} {db db' : Db} {n : ℤ} {m : ℤ}

theorem Moved.took_wallet (h : Moved n m db db') (w : WalletFunding) :
    Took (.wallet w) (-n) (-m) db db' where
  funding := by simp only [taken, h.wallet]; ring
  token := by rw [h.token]; ring
  failed := h.failed
  records := by rw [h.store]
  backed := id
  batch := h.batch
  row _ hb := by rw [h.row hb]; ring

theorem Moved.took (h : Moved 0 m db db') (f : FundingSource) : Took f 0 (-m) db db' := by
  cases f with
  | wallet w => simpa using h.took_wallet w
  | subscription f =>
    refine ⟨?_, by rw [h.token]; ring, h.failed, by rw [h.store], ?_, h.batch, fun hf => by cases hf⟩
    · simp only [taken, h.store, add_zero]
    · simp only [Backed, h.store, imp_self]

theorem Took.refl (f : FundingSource) (db : Db) : Took f 0 0 db db := by
  simpa using (Moved.refl db).took f

theorem Took.fail (f : FundingSource) (db : Db) : Took f 0 0 db db.fail := by
  simpa using (Moved.fail db).took f

theorem Backed.taken_nonneg (hb : Backed f db) (hs : f.source = .subscription) : 0 ≤ taken f db := by
  cases f with
  | wallet w => cases hs
  | subscription f =>
    obtain ⟨sub, hsub, hvalid⟩ := hb
    simpa [taken, Subscription.Store.used?, hsub] using hvalid.nonneg

/-! ## Subscription deltas -/

variable {delta : ℤ}

/-- A delta that the clamp does not cut is taken in full; one that gives back is refused only by a
failing call. -/
theorem postConsumeDelta_cases {f : SubscriptionFunding} (reply : Reply)
    (hb : Backed (.subscription f) db) (hn : 0 ≤ taken (.subscription f) db + delta) :
    (∃ e db', postConsumeDelta f.subscriptionId delta reply db = (.error e, db') ∧
        Took (.subscription f) 0 0 db db' ∧ (delta ≤ 0 → db'.failed)) ∨
      ∃ db', postConsumeDelta f.subscriptionId delta reply db = (.ok (), db') ∧
        Took (.subscription f) delta 0 db db' := by
  obtain ⟨sub, hsub, hvalid⟩ := hb
  have hid : sub.id = f.subscriptionId := Table.key_of_find? hsub
  have hpos := hvalid.id_pos
  have htaken : taken (.subscription f) db = sub.amountUsed := by
    simp [taken, Subscription.Store.used?, hsub]
  unfold postConsumeDelta
  split
  · exact .inl ⟨_, _, rfl, Took.fail _ db, fun _ => rfl⟩
  split
  · next e he =>
    refine .inl ⟨_, _, rfl, Took.refl _ db, fun hd => ?_⟩
    -- a delta that gives back cannot exceed the total
    have hle := hvalid.le_total
    unfold Subscription.postConsumeUserSubscriptionDelta at he
    rw [if_neg (by omega), hsub] at he
    split at he
    · cases he
    simp only at he
    rw [if_neg (by omega)] at he
    cases he
  · next st hst =>
    refine .inr ⟨_, rfl, ?_⟩
    obtain ⟨-, ⟨rfl, rfl⟩ | ⟨sub', hsub', -, hfit, rfl⟩⟩ := Subscription.postConsume_eq hst
    · exact Took.refl _ db
    obtain rfl := Option.some.inj (hsub.symm.trans hsub')
    rw [htaken] at hn
    have hmax : max (sub.amountUsed + delta) 0 = sub.amountUsed + delta := max_eq_left hn
    rw [hmax] at hfit ⊢
    have hrow : (db.store.saveSub (sub.withUsed (sub.amountUsed + delta))).sub? f.subscriptionId
        = some (sub.withUsed (sub.amountUsed + delta)) := by
      rw [← hid]
      exact db.store.saveSub_sub?_self (sub.withUsed _) (hid ▸ hsub)
    refine ⟨?_, by simp [Db.setStore], id, rfl, fun _ => ⟨_, hrow, hpos, hn, hfit⟩, rfl,
      fun h => by cases h⟩
    rw [htaken]
    simp [taken, Db.setStore, Subscription.Store.used?, hrow]

/-! ## The session's steps -/

/-- A wallet gives what it is asked for, unless the call fails. -/
theorem FundingSource.settle_wallet (w : WalletFunding) (delta : ℤ) (reply : Reply) (db : Db) :
    (∃ e, FundingSource.settle delta reply (.wallet w) db = (.error e, db.fail)) ∨
      ∃ db', FundingSource.settle delta reply (.wallet w) db = (.ok (), db') ∧
        Took (.wallet w) delta 0 db db' := by
  rw [FundingSource.settle]
  split
  · next h => subst h; exact .inr ⟨db, rfl, Took.refl _ db⟩
  split
  · rcases decreaseUserQuota_cases delta reply db with ⟨e, h⟩ | ⟨db', h, hm⟩
    · rw [h]; exact .inl ⟨_, rfl⟩
    · rw [h]; exact .inr ⟨_, rfl, by simpa using hm.took_wallet w⟩
  · rcases increaseUserQuota_cases (-delta) reply db with ⟨e, h⟩ | ⟨db', h, hm⟩
    · rw [h]; exact .inl ⟨_, rfl⟩
    · rw [h]; exact .inr ⟨_, rfl, by simpa using hm.took_wallet w⟩

/-- A settlement takes exactly its delta, or is refused and takes nothing; one that gives back is
refused only by a failing call. -/
theorem FundingSource.settle_cases (reply : Reply) (hb : Backed f db)
    (hn : f.source = .subscription → 0 ≤ taken f db + delta) :
    (∃ e db', f.settle delta reply db = (.error e, db') ∧ Took f 0 0 db db' ∧
        (delta ≤ 0 → db'.failed)) ∨
      ∃ db', f.settle delta reply db = (.ok (), db') ∧ Took f delta 0 db db' := by
  cases f with
  | wallet w =>
    rcases FundingSource.settle_wallet w delta reply db with ⟨e, h⟩ | h
    · exact .inl ⟨e, _, h, Took.fail _ db, fun _ => rfl⟩
    · exact .inr h
  | subscription f =>
    rw [FundingSource.settle]
    split
    · next h => subst h; exact .inr ⟨db, rfl, Took.refl _ db⟩
    · rcases postConsumeDelta_cases reply hb (hn rfl) with ⟨e, db', h, ht, hf⟩ | ⟨db', h, ht⟩
      · exact .inl ⟨e, db', h, ht, hf⟩
      · exact .inr ⟨db', h, ht⟩

/-- The part of a token movement that reaches a token: none in the playground. -/
def RelayInfo.tokenPart (info : RelayInfo) (n : ℤ) : ℤ := if info.isPlayground then 0 else n

theorem preConsumeTokenQuota_cases (info : RelayInfo) (hn : 0 < n) (c : Calls) (db : Db) :
    (∃ e db', preConsumeTokenQuota info n c db = (.error e, db') ∧ Moved 0 0 db db' ∧
        info.isPlayground = false) ∨
      ∃ db', preConsumeTokenQuota info n c db = (.ok (), db') ∧
        Moved 0 (-info.tokenPart n) db db' := by
  unfold preConsumeTokenQuota
  rw [if_neg (not_lt.mpr hn.le)]
  split
  · next hpg => exact .inr ⟨db, rfl, by simpa [tokenPart, hpg] using Moved.refl db⟩
  next hpg =>
  have hpg' : info.isPlayground = false := by simpa using hpg
  rcases tryReserveTokenQuota_cases n c.token c.tokenCache db info.tokenUnlimited with
    ⟨e, h⟩ | h | ⟨db', h, hm⟩
  · rw [h]; exact .inl ⟨_, _, rfl, Moved.fail db, hpg'⟩
  · rw [h]; exact .inl ⟨_, _, rfl, Moved.refl db, hpg'⟩
  · rw [h]; exact .inr ⟨db', rfl, by simpa [tokenPart, hpg'] using hm⟩

variable (s : BillingSession)

theorem BillingSession.settleToken_cases (delta : ℤ) (c : Calls) (f : FundingSource) (db : Db) :
    (∃ e db', s.settleToken delta c db = (.error e, db') ∧ Took f 0 0 db db' ∧ db'.failed) ∨
      ∃ db', s.settleToken delta c db = (.ok (), db') ∧
        Took f 0 (s.relayInfo.tokenPart delta) db db' := by
  unfold settleToken
  split
  · next hpg => exact .inr ⟨db, rfl, by simpa [tokenPart, hpg] using Took.refl f db⟩
  next hpg =>
  have hpart : s.relayInfo.tokenPart delta = delta := if_neg hpg
  split
  · rcases decreaseTokenQuota_cases delta c.token db with ⟨e, h⟩ | ⟨db', h, hm⟩
    · rw [h]; exact .inl ⟨_, _, rfl, Took.fail f db, rfl⟩
    · rw [h, hpart]; exact .inr ⟨_, rfl, by simpa using hm.took f⟩
  · rcases increaseTokenQuota_cases (-delta) c.token db with ⟨e, h⟩ | ⟨db', h, hm⟩
    · rw [h]; exact .inl ⟨_, _, rfl, Took.fail f db, rfl⟩
    · rw [h, hpart]; exact .inr ⟨_, rfl, by simpa using hm.took f⟩

/-! ## Raising the reservation -/

namespace FundingSource

/-- The source after it has given `delta` more.  An image request goes through
`WalletFunding.PreConsume`, which sets the counter instead of adding to it. -/
def raised (image : Bool) (delta : ℤ) : FundingSource → FundingSource
  | .wallet w => .wallet ⟨if image then delta else w.consumed + delta⟩
  | .subscription f => .subscription f

/-- The source after `delta` was given back to it. -/
def lowered (delta : ℤ) : FundingSource → FundingSource
  | .wallet w => .wallet ⟨w.consumed - delta⟩
  | .subscription f => .subscription f

variable (f : FundingSource) (image : Bool) (delta : ℤ)

@[simp] theorem taken_raised : taken (f.raised image delta) = taken f := by
  cases f <;> rfl

@[simp] theorem backed_raised : Backed (f.raised image delta) = Backed f := by
  cases f <;> rfl

@[simp] theorem source_raised : (f.raised image delta).source = f.source := by
  cases f <;> rfl

@[simp] theorem source_lowered : (f.lowered delta).source = f.source := by
  cases f <;> rfl

@[simp] theorem taken_lowered : taken (f.lowered delta) = taken f := by
  cases f <;> rfl

end FundingSource

/-- The session's wallet reservation for an image request would be granted. -/
def walletGrants (delta : ℤ) (c : Calls) (db : Db) : Prop :=
  (tryReserveUserQuota delta c.fundingCache c.funding db).1 = .ok true

instance (delta : ℤ) (c : Calls) (db : Db) : Decidable (walletGrants delta c db) :=
  inferInstanceAs (Decidable (_ = _))

theorem BillingSession.reserveFunding_cases (hd : 0 < delta) (image : Bool) (c : Calls)
    (hb : Backed s.funding db) :
    (∃ e db', s.reserveFunding delta image c db = (.error e, db') ∧ Took s.funding 0 0 db db') ∨
      ∃ db', s.reserveFunding delta image c db = (.ok (s.funding.raised image delta), db') ∧
        Took s.funding delta 0 db db' ∧
        (s.funding.source = .wallet → image = true → walletGrants delta c db) := by
  unfold reserveFunding
  cases hf : s.funding with
  | wallet w =>
    cases image with
    | true =>
      have hd' : ¬ delta ≤ 0 := not_le.mpr hd
      simp only [WalletFunding.preConsume, if_neg hd', if_true]
      rcases tryReserveUserQuota_cases delta c.funding c.fundingCache db with
        ⟨e, h⟩ | h | ⟨db', h, hm⟩
      · rw [h]; exact .inl ⟨_, _, rfl, Took.fail _ db⟩
      · rw [h]; exact .inl ⟨_, _, rfl, Took.refl _ db⟩
      · have hg : walletGrants delta c db := by rw [walletGrants, h]
        rw [h]; exact .inr ⟨db', rfl, by simpa using hm.took_wallet w, fun _ _ => hg⟩
    | false =>
      rcases decreaseUserQuota_cases delta c.funding db with ⟨e, h⟩ | ⟨db', h, hm⟩
      · rw [h]; exact .inl ⟨_, _, rfl, Took.fail _ db⟩
      · rw [h]; exact .inr ⟨db', rfl, by simpa using hm.took_wallet w, fun _ h => by cases h⟩
  | subscription f =>
    rw [hf] at hb
    have hn : 0 ≤ taken (.subscription f) db + delta := by
      have := hb.taken_nonneg rfl
      omega
    rcases postConsumeDelta_cases c.funding hb hn with
      ⟨e, db', h, ht, -⟩ | ⟨db', h, ht⟩
    · simp only [h]; exact .inl ⟨_, db', rfl, ht⟩
    · simp only [h]; exact .inr ⟨db', rfl, ht, fun h => by cases h⟩

/-- Giving a raise back succeeds unless its call fails. -/
theorem FundingSource.rollbackReserve_cases (f : FundingSource) (hd : 0 < delta) (c : Calls)
    (hb : Backed f db) (hn : f.source = .subscription → delta ≤ taken f db) :
    (∃ db', f.rollbackReserve delta c db = (f.lowered delta, db') ∧ Took f (-delta) 0 db db') ∨
      ∃ db', f.rollbackReserve delta c db = (f, db') ∧ Took f 0 0 db db' ∧ db'.failed ∧
        (f.source = .wallet → (increaseUserQuota delta c.rollback db).1 ≠ .ok ()) := by
  cases f with
  | wallet w =>
    rw [FundingSource.rollbackReserve]
    rcases increaseUserQuota_cases delta c.rollback db with ⟨e, h⟩ | ⟨db', h, hm⟩
    · rw [h]; exact .inr ⟨_, rfl, Took.fail _ db, rfl, fun _ h => by cases h⟩
    · rw [h]; exact .inl ⟨db', rfl, by simpa using hm.took_wallet w⟩
  | subscription f =>
    have hn' : 0 ≤ taken (.subscription f) db + -delta := by have := hn rfl; omega
    rw [FundingSource.rollbackReserve]
    rcases postConsumeDelta_cases c.rollback hb hn' with ⟨e, db', h, ht, hfail⟩ | ⟨db', h, ht⟩
    · rw [h]; exact .inr ⟨db', rfl, ht, hfail (by omega), fun h => by cases h⟩
    · rw [h]; exact .inl ⟨db', rfl, ht⟩

/-- If a raise by `delta` has to be given back to the wallet, the call that does so succeeds. -/
def RollbackOk (delta : ℤ) (c : Calls) (db : Db) : Prop :=
  delta ≤ maxWalletQuota ∧
    (db.batchUpdateEnabled ∨ (c.rollback = .ok ∧ db.wallet.quota ≤ maxWalletQuota))

instance (delta : ℤ) (c : Calls) (db : Db) : Decidable (RollbackOk delta c db) :=
  inferInstanceAs (Decidable (_ ∧ _))

/-- How a `Reserve` of `target` can end. -/
inductive ReserveOutcome (s : BillingSession) (target : ℤ) (c : Calls) (db : Db) :
    BillingSession → Db → Prop where
  /-- There was nothing to do, or the funding source refused. -/
  | kept {db' : Db} (took : Took s.funding 0 0 db db') : ReserveOutcome s target c db s db'
  /-- The source and the token both gave the difference. -/
  | raised {db' : Db} (busy : s.reserveIdle target = false)
      (granted : s.funding.source = .wallet → s.relayInfo.isImageRequest = true →
        walletGrants (target - s.preConsumedQuota) c db)
      (took : Took s.funding (target - s.preConsumedQuota)
        (s.relayInfo.tokenPart (target - s.preConsumedQuota)) db db') :
      ReserveOutcome s target c db
        (s.raised (s.funding.raised s.relayInfo.isImageRequest (target - s.preConsumedQuota))
          (target - s.preConsumedQuota)) db'
  /-- The token refused, and the source was given its part back. -/
  | rolledBack {db' : Db} (busy : s.reserveIdle target = false)
      (granted : s.funding.source = .wallet → s.relayInfo.isImageRequest = true →
        walletGrants (target - s.preConsumedQuota) c db)
      (took : Took s.funding 0 0 db db') :
      ReserveOutcome s target c db
        (s.withFunding ((s.funding.raised s.relayInfo.isImageRequest
          (target - s.preConsumedQuota)).lowered (target - s.preConsumedQuota))) db'
  /-- The token refused, and giving the source its part back failed. -/
  | stuck {db' : Db} (busy : s.reserveIdle target = false)
      (granted : s.funding.source = .wallet → s.relayInfo.isImageRequest = true →
        walletGrants (target - s.preConsumedQuota) c db)
      (took : Took s.funding (target - s.preConsumedQuota) 0 db db') (failed : db'.failed)
      (lost : s.funding.source = .wallet → ¬ RollbackOk (target - s.preConsumedQuota) c db) :
      ReserveOutcome s target c db
        (s.withFunding (s.funding.raised s.relayInfo.isImageRequest
          (target - s.preConsumedQuota))) db'

theorem BillingSession.reserveToken_cases (hd : 0 < delta) (c : Calls) (f : FundingSource) (db : Db) :
    (∃ e db', s.reserveToken delta c db = (.error e, db') ∧ Took f 0 0 db db') ∨
      ∃ db', s.reserveToken delta c db = (.ok (), db') ∧
        Took f 0 (s.relayInfo.tokenPart delta) db db' := by
  unfold reserveToken
  split
  · next h =>
    have hpg : s.relayInfo.isPlayground = true := h.resolve_left (not_le.mpr hd)
    exact .inr ⟨db, rfl, by simpa [tokenPart, hpg] using Took.refl f db⟩
  · rcases preConsumeTokenQuota_cases s.relayInfo hd c db with ⟨e, db', h, hm, -⟩ | ⟨db', h, hm⟩
    · exact .inl ⟨e, db', h, by simpa using hm.took f⟩
    · exact .inr ⟨db', h, by simpa using hm.took f⟩

variable {s : BillingSession} {target : ℤ}

theorem reserveIdle_false (h : s.reserveIdle target = false) : 0 < target - s.preConsumedQuota := by
  simp only [reserveIdle, Bool.or_eq_false_iff, decide_eq_false_iff_not] at h
  omega

variable {c : Calls}

/-- What `Reserve` leaves when the token refuses, the source having given its part. -/
theorem ReserveOutcome.of_rollback (busy : s.reserveIdle target = false) (hb : Backed s.funding db)
    (hg : s.funding.source = .wallet → s.relayInfo.isImageRequest = true →
      walletGrants (target - s.preConsumedQuota) c db)
    (ht : Took s.funding (target - s.preConsumedQuota) 0 db db') :
    ReserveOutcome s target c db
      (s.withFunding ((s.funding.raised s.relayInfo.isImageRequest
        (target - s.preConsumedQuota)).rollbackReserve (target - s.preConsumedQuota) c db').1)
      ((s.funding.raised s.relayInfo.isImageRequest
        (target - s.preConsumedQuota)).rollbackReserve (target - s.preConsumedQuota) c db').2 := by
  have hd := reserveIdle_false busy
  have hroom : (s.funding.raised s.relayInfo.isImageRequest
      (target - s.preConsumedQuota)).source = .subscription →
      target - s.preConsumedQuota ≤ taken (s.funding.raised s.relayInfo.isImageRequest
        (target - s.preConsumedQuota)) db' := by
    intro hs
    rw [FundingSource.source_raised] at hs
    rw [FundingSource.taken_raised, ht.funding]
    have := hb.taken_nonneg hs
    omega
  rcases FundingSource.rollbackReserve_cases _ hd c
    (by rw [FundingSource.backed_raised]; exact ht.backed hb) hroom with
    ⟨db₃, h₃, ht₃⟩ | ⟨db₃, h₃, ht₃, hfail, hlost⟩
  · rw [h₃]
    have ht₃' := ht₃.congr s.funding (by simp) (by simp) (by simp)
    exact .rolledBack busy hg (by simpa using ht.trans ht₃')
  · rw [h₃]
    have ht₃' := ht₃.congr s.funding (by simp) (by simp) (by simp)
    refine .stuck busy hg (by simpa using ht.trans ht₃') hfail fun hw hok => ?_
    refine hlost (by simpa using hw) (increaseUserQuota_ok hd.le hok.1 ?_)
    rw [ht.batch]
    by_cases hbatch : db.batchUpdateEnabled
    · exact .inl hbatch
    · obtain ⟨hreply, hrow⟩ := hok.2.resolve_left hbatch
      rw [ht.row hw (by simpa using hbatch)]
      exact .inr ⟨hreply, by omega⟩

/-- **What `Reserve` can do.** -/
theorem BillingSession.reserve_outcome (s : BillingSession) (target : ℤ) (c : Calls)
    (hb : Backed s.funding db) :
    ReserveOutcome s target c db (s.reserve target c db).2.1 (s.reserve target c db).2.2 := by
  unfold reserve
  split
  · exact .kept (Took.refl _ db)
  next hidle =>
  have hbusy : s.reserveIdle target = false := by simpa using hidle
  have hd := reserveIdle_false hbusy
  simp only
  rcases s.reserveFunding_cases hd s.relayInfo.isImageRequest c hb with
    ⟨e, db₁, h₁, ht₁⟩ | ⟨db₁, h₁, ht₁, hg⟩
  · rw [h₁]; exact .kept ht₁
  rw [h₁]
  rcases s.reserveToken_cases hd c s.funding db₁ with ⟨e, db₂, h₂, ht₂⟩ | ⟨db₂, h₂, ht₂⟩
  · simp only [h₂]
    exact .of_rollback hbusy hb hg (by simpa using ht₁.trans ht₂)
  · simp only [h₂]
    exact .raised hbusy hg (by simpa using ht₁.trans ht₂)

/-! ## Opening the reservation -/

theorem WalletFunding.preConsume_cases (w : WalletFunding) {amount : ℤ} (ha : 0 < amount) (c : Calls)
    (db : Db) :
    (∃ e db', w.preConsume amount c db = (.error e, db') ∧ Moved 0 0 db db') ∨
      ∃ db', w.preConsume amount c db = (.ok ⟨amount⟩, db') ∧ Moved (-amount) 0 db db' := by
  unfold WalletFunding.preConsume
  rw [if_neg (not_le.mpr ha)]
  rcases tryReserveUserQuota_cases amount c.funding c.fundingCache db with ⟨e, h⟩ | h | ⟨db', h, hm⟩
  · rw [h]; exact .inl ⟨_, _, rfl, Moved.fail db⟩
  · rw [h]; exact .inl ⟨_, _, rfl, Moved.refl db⟩
  · rw [h]; exact .inr ⟨db', rfl, hm⟩

/-- How `consume`, on a session that has not charged its token yet, can end. -/
inductive ConsumeOutcome (s : BillingSession) (effective : ℤ) (c : Calls) (db : Db) :
    Except ErrorCode Unit → BillingSession → Db → Prop where
  | tokenRefused {e : ErrorCode} {db' : Db} (moved : Moved 0 0 db db') :
      ConsumeOutcome s effective c db (.error e) s db'
  /-- The funding source refused, and the token has its charge back. -/
  | fundingRefused {e : ErrorCode} {db' : Db} {n : ℤ} (nonneg : 0 ≤ n)
      (forgotten : s.relayInfo.isPlayground = false → n = 0) (moved : Moved 0 0 db db') :
      ConsumeOutcome s effective c db (.error e) { s with tokenConsumed := n } db'
  /-- The funding source refused, and giving the token its charge back failed. -/
  | tokenLost {e : ErrorCode} {db' : Db} (moved : Moved 0 (-effective) db db') (failed : db'.failed)
      (lost : c.rollback = .err ∧ db.batchUpdateEnabled = false) :
      ConsumeOutcome s effective c db (.error e) { s with tokenConsumed := 0 } db'
  | opened {funding : FundingSource} {db₁ db' : Db}
      (token : Moved 0 (-s.relayInfo.tokenPart (max effective 0)) db db₁)
      (source : s.funding.preConsume effective c db₁ = (.ok funding, db')) :
      ConsumeOutcome s effective c db (.ok ())
        ({ s with
          funding
          preConsumedQuota := effective
          tokenConsumed := max effective 0 } : BillingSession).syncRelayInfo db'

theorem writeQuota_eq_ok (write : Db → Db) {reply : Reply} {db : Db} (hn : 0 ≤ n)
    (h : reply = .ok ∨ db.batchUpdateEnabled) :
    writeQuota n write reply db = (.ok (), write db) := by
  unfold writeQuota
  rw [if_neg (not_lt.mpr hn)]
  split
  · rfl
  next hb =>
  rw [if_neg (by rw [h.resolve_right hb]; decide)]

variable {effective : ℤ}

/-- A source that refuses to pre-consume has given nothing. -/
theorem FundingSource.preConsume_error {e : FundingError}
    (h : f.preConsume effective c db = (.error e, db')) : Moved 0 0 db db' := by
  cases f with
  | wallet w =>
    rcases lt_or_ge 0 effective with hpos | hneg
    · rw [FundingSource.preConsume] at h
      rcases w.preConsume_cases hpos c db with ⟨e, db₁, h₁, hm⟩ | ⟨db₁, h₁, hm⟩
      · rw [h₁] at h
        exact (Prod.mk.inj h).2 ▸ hm
      · rw [h₁] at h
        cases h
    · rw [FundingSource.preConsume, WalletFunding.preConsume, if_pos hneg] at h
      cases h
  | subscription f =>
    rw [FundingSource.preConsume] at h
    unfold SubscriptionFunding.preConsume at h
    split at h
    · exact (Prod.mk.inj h).2 ▸ Moved.fail db
    split at h
    · exact (Prod.mk.inj h).2 ▸ Moved.refl db
    · cases h

/-- What `consume` leaves when the funding source refuses, the token having given its part. -/
theorem ConsumeOutcome.of_rollback {db₁ db₂ : Db} (e : ErrorCode) (hpos : 0 < effective)
    (htok : Moved 0 (-s.relayInfo.tokenPart effective) db db₁) (hsrc : Moved 0 0 db₁ db₂) :
    ConsumeOutcome s effective c db (.error e)
      (({ s with tokenConsumed := effective } : BillingSession).rollbackToken c db₂).1
      (({ s with tokenConsumed := effective } : BillingSession).rollbackToken c db₂).2 := by
  simp only [rollbackToken]
  by_cases hpg : s.relayInfo.isPlayground = false
  · have hpart : s.relayInfo.tokenPart effective = effective := by simp [tokenPart, hpg]
    rw [if_pos ⟨hpos, hpg⟩]
    rw [hpart] at htok
    rcases increaseTokenQuota_cases effective c.rollback db₂ with ⟨e', h₃⟩ | ⟨db₃, h₃, hm₃⟩
    · rw [h₃]
      have hall : Moved 0 (-effective) db db₂.fail := by
        simpa using (htok.trans hsrc).trans (Moved.fail db₂)
      refine .tokenLost hall rfl ?_
      by_contra hcon
      have hreply : c.rollback = .ok ∨ db₂.batchUpdateEnabled = true := by
        rw [hsrc.batch, htok.batch]
        rcases not_and_or.mp hcon with hr | hb
        · left; cases hreply : c.rollback <;> simp_all
        · right; simpa using hb
      have hok := writeQuota_eq_ok (·.moveToken effective) hpos.le hreply
      rw [increaseTokenQuota, hok] at h₃
      cases h₃
    · rw [h₃]
      have hall : Moved 0 0 db db₃ := by simpa using (htok.trans hsrc).trans hm₃
      exact .fundingRefused le_rfl (fun _ => rfl) hall
  · have hpart : s.relayInfo.tokenPart effective = 0 := by simp [tokenPart, hpg]
    rw [if_neg (fun h => hpg h.2)]
    rw [hpart] at htok
    exact .fundingRefused hpos.le (fun h => absurd h hpg) (by simpa using htok.trans hsrc)

/-- **What `consume` can do.** -/
theorem BillingSession.consume_outcome (s : BillingSession) (effective : ℤ) (c : Calls) (db : Db)
    (hs : s.tokenConsumed = 0) :
    ConsumeOutcome s effective c db (s.consume effective c db).1 (s.consume effective c db).2.1
      (s.consume effective c db).2.2 := by
  unfold consume
  rcases lt_or_ge 0 effective with hpos | hneg
  · simp only [if_pos hpos]
    rcases preConsumeTokenQuota_cases s.relayInfo hpos c db with
      ⟨e, db₁, h₁, hm₁, -⟩ | ⟨db₁, h₁, hm₁⟩
    · rw [h₁]; exact .tokenRefused hm₁
    rw [h₁]
    simp only
    rcases h₂ : s.funding.preConsume effective c db₁ with ⟨r, db₂⟩
    cases r with
    | ok funding =>
      have := ConsumeOutcome.opened (s := s) (by rw [max_eq_left hpos.le]; exact hm₁) h₂
      rwa [max_eq_left hpos.le] at this
    | error e => exact .of_rollback _ hpos hm₁ (FundingSource.preConsume_error h₂)
  · simp only [if_neg (not_lt.mpr hneg)]
    rcases h₂ : s.funding.preConsume effective c db with ⟨r, db₂⟩
    cases r with
    | ok funding =>
      have := ConsumeOutcome.opened (s := s)
        (by simpa [tokenPart, max_eq_right hneg] using Moved.refl db) h₂
      rwa [max_eq_right hneg, ← hs] at this
    | error e =>
      have hm₂ : Moved 0 0 db db₂ := FundingSource.preConsume_error h₂
      simp only [rollbackToken]
      rw [if_neg (fun h => by omega)]
      have : ConsumeOutcome s effective c db (.error (fundingErrorCode e))
          { s with tokenConsumed := 0 } db₂ := .fundingRefused le_rfl (fun _ => rfl) hm₂
      rwa [← hs] at this

end Billing
