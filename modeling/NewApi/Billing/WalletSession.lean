import NewApi.Machinery.Runs
import NewApi.Billing.Moves

/-!
# Billing/WalletSession — a wallet session returns exactly what it took

A session on the wallet pre-consumes once and then raises its reservation any number of times, each
call succeeding or failing.  `Exact` is what it has to keep for `Refund` to give back everything:
`consumed` is what the wallet lacks, `tokenConsumed` is what the token lacks, and the wallet lacks
nothing while the token lacks nothing (an untouched token is how `Refund` recognises an untouched
session).

* `Exact.reserve` — one raise keeps it, unless it overwrites `consumed` or strands a wallet debit.
* `wallet_session_exact` — so does every run of such raises, and `Refund` restores both balances.
-/

namespace Billing

open BillingSession FundingSource

/-- A session and the database it works on. -/
structure World where
  session : BillingSession
  db : Db

/-- A call of `Reserve`.  Image requests refresh `ImageRequestCount` before it. -/
structure ReserveCall where
  target : ℤ
  imageCount : ℤ := 0
  calls : Calls := {}

/-- The request for so many images. -/
def BillingSession.withImageCount (s : BillingSession) (count : ℤ) : BillingSession :=
  { s with relayInfo := { s.relayInfo with imageRequestCount := count } }

/-- The `consumed` counter of a wallet source. -/
def FundingSource.walletConsumed : FundingSource → ℤ
  | .wallet w => w.consumed
  | .subscription _ => 0

variable {f : FundingSource}

/-- A raise adds to `consumed`, given that one that sets it finds it at zero. -/
theorem FundingSource.walletConsumed_raised (hf : f.source = .wallet) {image : Bool}
    (hz : image = true → f.walletConsumed = 0) (delta : ℤ) :
    (f.raised image delta).walletConsumed = f.walletConsumed + delta := by
  cases f with
  | wallet w =>
    cases image with
    | true => simpa [raised, walletConsumed] using hz rfl
    | false => rfl
  | subscription f => cases hf

theorem FundingSource.walletConsumed_lowered (hf : f.source = .wallet) {image : Bool}
    (hz : image = true → f.walletConsumed = 0) (delta : ℤ) :
    ((f.raised image delta).lowered delta).walletConsumed = f.walletConsumed := by
  have hadd := walletConsumed_raised hf hz delta
  cases f with
  | wallet w =>
    change (raised image delta (.wallet w)).walletConsumed - delta = _
    rw [hadd, add_sub_cancel_right]
  | subscription f => cases hf

namespace World

/-- A fresh session on the wallet, after `preConsume`. -/
def opened (info : RelayInfo) (quota : ℤ) (c : Calls) (db : Db) : World :=
  let r := ({ relayInfo := info, funding := .wallet {} } : BillingSession).preConsume quota c db
  ⟨r.2.1, r.2.2⟩

/-- `Reserve`, with the count that its request has by then. -/
def reserve (w : World) (r : ReserveCall) : World :=
  let out := (w.session.withImageCount r.imageCount).reserve r.target r.calls w.db
  ⟨out.2.1, out.2.2⟩

/-- `Refund` and its goroutine; `failed` tells whether one of its own calls has failed. -/
def refund (w : World) (c : RefundCalls) : Db :=
  match w.session.refund.2 with
  | none => { w.db with failed := false }
  | some p => p.run c { w.db with failed := false }

end World

/-- The conditions under which a raise keeps the books: one that goes through to the wallet on
behalf of an image request finds nothing consumed, and a wallet debit whose token part is refused
either can be given back or stands beside a token debit. -/
def ReserveCall.Admitted (w : World) (r : ReserveCall) : Prop :=
  let s := w.session.withImageCount r.imageCount
  let delta := r.target - s.preConsumedQuota
  s.reserveIdle r.target = false →
    (s.relayInfo.isImageRequest = true → walletGrants delta r.calls w.db → s.funding.walletConsumed = 0) ∧
    (RollbackOk delta r.calls w.db ∨ 0 < s.tokenConsumed)

instance (w : World) (r : ReserveCall) : Decidable (r.Admitted w) :=
  inferInstanceAs (Decidable (_ → _))

/-- The session `w` accounts for a wallet that had `wallet` and, outside the playground, a token
that had `token`. -/
structure Exact (playground : Bool) (wallet token : ℤ) (w : World) : Prop where
  play : w.session.relayInfo.isPlayground = playground
  source : w.session.funding.source = .wallet
  consumed : w.session.funding.walletConsumed = wallet - w.db.wallet.balance
  nonneg : 0 ≤ w.session.funding.walletConsumed
  token_nonneg : 0 ≤ w.session.tokenConsumed
  token : playground = false → w.session.tokenConsumed = token - w.db.token.balance
  covered : w.session.tokenConsumed = 0 → w.session.funding.walletConsumed = 0
  settled : w.session.settled = false
  refunded : w.session.refunded = false
  fundingSettled : w.session.fundingSettled = false

variable {db db' : Db} {n m : ℤ}

theorem Took.wallet_balance (h : Took f n m db db') (hf : f.source = .wallet) :
    db'.wallet.balance = db.wallet.balance - n := by
  cases f with
  | wallet w => have := h.funding; simp only [taken] at this; omega
  | subscription f => cases hf

theorem backed_of_wallet (hf : f.source = .wallet) (db : Db) : Backed f db := by
  cases f with
  | wallet w => trivial
  | subscription f => cases hf

/-! ## Opening -/

variable {s : BillingSession}

/-- A session that has taken nothing from the wallet and `n` from the token. -/
theorem Exact.of_untouched (hf : s.funding = .wallet {}) (hn : 0 ≤ s.tokenConsumed)
    (hpg : s.relayInfo.isPlayground = false → s.tokenConsumed = 0) (h₁ : s.settled = false)
    (h₂ : s.refunded = false) (h₃ : s.fundingSettled = false) (hm : Moved 0 0 db db') :
    Exact s.relayInfo.isPlayground db.wallet.balance db.token.balance ⟨s, db'⟩ where
  play := rfl
  source := by rw [hf]; rfl
  consumed := by simp [walletConsumed, hf, hm.wallet]
  nonneg := by simp [walletConsumed, hf]
  token_nonneg := hn
  token hp := by simp [hpg hp, hm.token]
  covered _ := by simp [walletConsumed, hf]
  settled := h₁
  refunded := h₂
  fundingSettled := h₃

/-- The wallet source of a fresh session takes what is asked of it. -/
theorem wallet_preConsume_ok {effective : ℤ} {c : Calls}
    (h : (wallet {}).preConsume effective c db = (.ok f, db')) :
    f = .wallet ⟨max effective 0⟩ ∧ Moved (-max effective 0) 0 db db' := by
  rw [FundingSource.preConsume] at h
  rcases lt_or_ge 0 effective with hpos | hneg
  · rcases WalletFunding.preConsume_cases {} hpos c db with ⟨e, db₁, h₁, -⟩ | ⟨db₁, h₁, hm⟩
    · rw [h₁] at h; cases h
    · rw [h₁] at h
      obtain ⟨hf, rfl⟩ := Prod.mk.inj h
      rw [max_eq_left hpos.le]
      exact ⟨(Except.ok.inj hf).symm, hm⟩
  · rw [WalletFunding.preConsume, if_pos hneg] at h
    obtain ⟨hf, rfl⟩ := Prod.mk.inj h
    rw [max_eq_right hneg]
    exact ⟨(Except.ok.inj hf).symm, by simpa using Moved.refl db⟩

theorem Exact.consume (hf : s.funding = .wallet {}) (ht : s.tokenConsumed = 0)
    (h₁ : s.settled = false) (h₂ : s.refunded = false) (h₃ : s.fundingSettled = false)
    (effective : ℤ) (c : Calls) (db : Db) (hc : c.rollback = .ok ∨ db.batchUpdateEnabled) :
    Exact s.relayInfo.isPlayground db.wallet.balance db.token.balance
      ⟨(s.consume effective c db).2.1, (s.consume effective c db).2.2⟩ := by
  have hout := s.consume_outcome effective c db ht
  generalize (s.consume effective c db).1 = r at hout
  generalize (s.consume effective c db).2.1 = s' at hout ⊢
  generalize (s.consume effective c db).2.2 = db' at hout ⊢
  cases hout with
  | tokenRefused hm => exact .of_untouched hf ht.ge (fun _ => ht) h₁ h₂ h₃ hm
  | @fundingRefused _ _ k hn hpg hm =>
    exact .of_untouched (s := { s with tokenConsumed := k }) hf hn hpg h₁ h₂ h₃ hm
  | tokenLost hm hfail hlost =>
    rw [hlost.1, hlost.2] at hc
    rcases hc with h | h <;> cases h
  | opened htok hsrc =>
    rw [hf] at hsrc
    obtain ⟨rfl, hm⟩ := wallet_preConsume_ok hsrc
    have hall := htok.trans hm
    have hmax : 0 ≤ max effective 0 := le_max_right _ _
    exact {
      play := by simp
      source := rfl
      consumed := by rw [hall.wallet]; simp [walletConsumed, syncRelayInfo]
      nonneg := hmax
      token_nonneg := hmax
      token := fun hpg => by
        rw [hall.token]
        simp [syncRelayInfo, RelayInfo.tokenPart, hpg]
      covered := id
      settled := h₁
      refunded := h₂
      fundingSettled := h₃ }

/-- A pre-consume on a fresh session keeps the books, unless the token's give-back is lost. -/
theorem Exact.opened (info : RelayInfo) (quota : ℤ) (c : Calls) (db : Db)
    (hc : c.rollback = .ok ∨ db.batchUpdateEnabled) :
    Exact info.isPlayground db.wallet.balance db.token.balance (World.opened info quota c db) := by
  unfold World.opened BillingSession.preConsume
  split
  · exact Exact.consume (s := { relayInfo := info, funding := .wallet {}, trusted := true })
      rfl rfl rfl rfl rfl 0 c db hc
  · exact Exact.consume (s := { relayInfo := info, funding := .wallet {} })
      rfl rfl rfl rfl rfl quota c db hc

/-! ## Raising -/

variable {playground : Bool} {wallet token : ℤ} {w : World}

section

variable (h : Exact playground wallet token ⟨s, db⟩)

include h

/-- A call that took nothing leaves the books as they are. -/
theorem Exact.kept (took : Took s.funding 0 0 db db') : Exact playground wallet token ⟨s, db'⟩ := by
  have hsrc : s.funding.source = .wallet := h.source
  have hc : s.funding.walletConsumed = wallet - db.wallet.balance := h.consumed
  have hb := took.wallet_balance hsrc
  refine ⟨h.play, hsrc, by simp only; omega, h.nonneg, h.token_nonneg, fun hp => ?_, h.covered,
    h.settled, h.refunded, h.fundingSettled⟩
  simpa only [took.token, sub_zero] using h.token hp

/-- A raise by `delta` that both sides gave is on the books, if it is added to `consumed`. -/
theorem Exact.raised {delta : ℤ} (hd : 0 < delta)
    (hset : s.relayInfo.isImageRequest = true → s.funding.walletConsumed = 0)
    (took : Took s.funding delta (s.relayInfo.tokenPart delta) db db') :
    Exact playground wallet token
      ⟨s.raised (s.funding.raised s.relayInfo.isImageRequest delta) delta, db'⟩ := by
  have hsrc : s.funding.source = .wallet := h.source
  have hc : s.funding.walletConsumed = wallet - db.wallet.balance := h.consumed
  have hn : 0 ≤ s.funding.walletConsumed := h.nonneg
  have htn : 0 ≤ s.tokenConsumed := h.token_nonneg
  have hadd := walletConsumed_raised hsrc hset delta
  have hb := took.wallet_balance hsrc
  refine ⟨by simpa [BillingSession.raised] using h.play,
    (source_raised ..).trans hsrc, ?_, ?_, ?_, fun hp => ?_, fun h0 => ?_,
    h.settled, h.refunded, h.fundingSettled⟩
  · change (s.funding.raised _ _).walletConsumed = _
    rw [hadd, hb]; omega
  · change 0 ≤ (s.funding.raised _ _).walletConsumed
    rw [hadd]; omega
  · change 0 ≤ s.tokenConsumed + _
    omega
  · have hp' : s.relayInfo.isPlayground = false := h.play.trans hp
    have htok : s.tokenConsumed = token - db.token.balance := h.token hp
    change s.tokenConsumed + _ = token - db'.token.balance
    rw [took.token, RelayInfo.tokenPart, if_neg (by simp [hp'])]
    omega
  · change s.tokenConsumed + _ = 0 at h0
    omega

theorem Exact.rolledBack (hset : s.relayInfo.isImageRequest = true → s.funding.walletConsumed = 0)
    (delta : ℤ) (took : Took s.funding 0 0 db db') :
    Exact playground wallet token
      ⟨s.withFunding ((s.funding.raised s.relayInfo.isImageRequest delta).lowered delta), db'⟩ := by
  have hkept := h.kept took
  have hsrc : s.funding.source = .wallet := h.source
  have hsub := walletConsumed_lowered hsrc hset delta
  exact ⟨h.play, by simpa [withFunding] using hsrc, hsub.trans hkept.consumed,
    hsub.ge.trans' h.nonneg, h.token_nonneg, hkept.token, fun h0 => hsub.trans (h.covered h0),
    h.settled, h.refunded, h.fundingSettled⟩

/-- Every end of a raise keeps the books, unless it overwrites `consumed` or strands a debit. -/
theorem Exact.of_outcome {s' : BillingSession} {target : ℤ} {c : Calls}
    (hout : ReserveOutcome s target c db s' db') (hset : s.relayInfo.isImageRequest = true →
      walletGrants (target - s.preConsumedQuota) c db → s.funding.walletConsumed = 0)
    (hback : RollbackOk (target - s.preConsumedQuota) c db ∨ 0 < s.tokenConsumed) :
    Exact playground wallet token ⟨s', db'⟩ := by
  have hsrc : s.funding.source = .wallet := h.source
  cases hout with
  | kept took => exact h.kept took
  | raised busy granted took =>
    exact h.raised (reserveIdle_false busy) (fun hi => hset hi (granted hsrc hi)) took
  | rolledBack busy granted took =>
    exact h.rolledBack (fun hi => hset hi (granted hsrc hi)) _ took
  | stuck busy granted took failed lost =>
    have hc : s.funding.walletConsumed = wallet - db.wallet.balance := h.consumed
    have hn : 0 ≤ s.funding.walletConsumed := h.nonneg
    have hadd := walletConsumed_raised hsrc (fun hi => hset hi (granted hsrc hi))
      (target - s.preConsumedQuota)
    have hb := took.wallet_balance hsrc
    have hd := reserveIdle_false busy
    have htpos : 0 < s.tokenConsumed := hback.resolve_left (lost hsrc)
    refine ⟨h.play, (source_raised ..).trans hsrc, ?_, ?_, htpos.le, fun hp => ?_,
      fun h0 => absurd h0 htpos.ne', h.settled, h.refunded, h.fundingSettled⟩
    · exact hadd.trans (by simp only; omega)
    · exact hadd.ge.trans' (by omega)
    · simpa only [withFunding, took.token, sub_zero] using h.token hp

end

/-- **One admitted raise keeps the books.** -/
theorem Exact.reserve (w : World) (r : ReserveCall) (h : Exact playground wallet token w)
    (hr : r.Admitted w) : Exact playground wallet token (w.reserve r) := by
  have hkeep : Exact playground wallet token ⟨w.session.withImageCount r.imageCount, w.db⟩ :=
    ⟨h.1, h.2, h.3, h.4, h.5, h.6, h.7, h.8, h.9, h.10⟩
  by_cases hidle : (w.session.withImageCount r.imageCount).reserveIdle r.target = true
  · unfold World.reserve BillingSession.reserve
    rw [if_pos hidle]
    exact hkeep
  · obtain ⟨hset, hback⟩ := hr (by simpa using hidle)
    exact hkeep.of_outcome (reserve_outcome _ _ _ (backed_of_wallet h.source w.db))
      hset hback

/-! ## Refunding -/

theorem not_failed_of_moved (hm : Moved n m db db') (h : db'.failed = false) : db.failed = false := by
  cases hf : db.failed with
  | false => rfl
  | true => rw [hm.failed hf] at h; cases h

/-- What `funding.Refund()` gives back to the wallet. -/
theorem FundingSource.refund_wallet (w : WalletFunding) (hn : 0 ≤ w.consumed) (c : RefundCalls)
    (hok : (refund c (.wallet w) db).failed = false) :
    Moved w.consumed 0 db (refund c (.wallet w) db) := by
  rw [refund] at hok ⊢
  split at hok
  · next h0 =>
    have hzero : w.consumed = 0 := le_antisymm h0 hn
    rw [if_pos h0, hzero]
    exact Moved.refl db
  · next h0 =>
    rw [if_neg h0]
    rcases increaseUserQuota_cases w.consumed c.wallet db with ⟨e, h⟩ | ⟨db₁, h, hm⟩
    · rw [h] at hok; cases hok
    · rw [h]; exact hm

theorem refundToken_moved {k : ℤ} (hk : 0 ≤ k) (playground : Bool) (reply : Reply)
    (hok : (if 0 < k ∧ playground = false then (increaseTokenQuota k reply db).2
      else db).failed = false) :
    Moved 0 (if playground then 0 else k) db
      (if 0 < k ∧ playground = false then (increaseTokenQuota k reply db).2 else db) := by
  by_cases hif : 0 < k ∧ playground = false
  · rw [if_pos hif] at hok ⊢
    rcases increaseTokenQuota_cases k reply db with ⟨e, h⟩ | ⟨db₁, h, hm⟩
    · rw [h] at hok; cases hok
    · rw [h, if_neg (by simp [hif.2])]; exact hm
  · have hzero : (if playground then 0 else k) = 0 := by
      split
      · rfl
      · next hp =>
        have hle : ¬ 0 < k := fun h => hif ⟨h, eq_false_of_ne_true hp⟩
        omega
    rw [if_neg hif, hzero]
    exact Moved.refl db

/-- The goroutine of a wallet session gives back both counters, unless one of its calls fails. -/
theorem PendingRefund.run_wallet (p : PendingRefund) (c : RefundCalls)
    (hs : p.funding.source = .wallet) (hn : 0 ≤ p.funding.walletConsumed)
    (ht : 0 < p.tokenConsumed) (hok : (p.run c db).failed = false) :
    Moved p.funding.walletConsumed (if p.isPlayground then 0 else p.tokenConsumed) db
      (p.run c db) := by
  obtain ⟨funding, tokenConsumed, extraReserved, subscriptionId, isPlayground⟩ := p
  cases funding with
  | subscription f => cases hs
  | wallet w =>
    unfold PendingRefund.run at hok ⊢
    simp only [source, reduceCtorEq, false_and, and_false, if_false] at hok ⊢
    have htok := refundToken_moved ht.le isPlayground c.token hok
    have hfund := refund_wallet w hn c (not_failed_of_moved htok hok)
    simpa [walletConsumed] using hfund.trans htok

/-- **`Refund` gives back what an exact session took**, if none of its calls fails. -/
theorem Exact.refund (h : Exact playground wallet token w) {c : RefundCalls}
    (hok : (w.refund c).failed = false) :
    (w.refund c).wallet.balance = wallet ∧
      (playground = false → (w.refund c).token.balance = token) := by
  have hc := h.consumed
  have hneeds : w.session.needsRefund = decide (0 < w.session.tokenConsumed) := by
    have hsrc := h.source
    unfold needsRefund
    rw [h.settled, h.refunded, h.fundingSettled]
    cases hf : w.session.funding with
    | wallet w => simp
    | subscription f => rw [hf] at hsrc; cases hsrc
  unfold World.refund BillingSession.refund at hok ⊢
  rw [hneeds] at hok ⊢
  by_cases ht : 0 < w.session.tokenConsumed
  · rw [if_pos (by simpa using ht)] at hok ⊢
    have hm := PendingRefund.run_wallet _ c h.source h.nonneg ht hok
    refine ⟨?_, fun hp => ?_⟩
    · rw [hm.wallet]; simp only; omega
    · have htok := h.token hp
      rw [hm.token]
      simp only [h.play, hp, Bool.false_eq_true, if_false]
      omega
  · rw [if_neg (by simpa using ht)] at hok ⊢
    have h0 : w.session.tokenConsumed = 0 := le_antisymm (not_lt.mp ht) h.token_nonneg
    have hz := h.covered h0
    refine ⟨by simp only; omega, fun hp => ?_⟩
    have htok := h.token hp
    simp only
    omega

/-- **A wallet session returns exactly what it took.**  In every state that admitted raises lead to,
`consumed` is what the wallet lacks; and a `Refund` there whose calls succeed restores the wallet
and, outside the playground, the token. -/
theorem wallet_session_exact (info : RelayInfo) (quota : ℤ) (c : Calls) (db : Db)
    (rs : List ReserveCall) (hc : c.rollback = .ok ∨ db.batchUpdateEnabled)
    (hrs : Runs.Guarded World.reserve (fun w r => r.Admitted w) (.opened info quota c db) rs) :
    let w := Runs.run World.reserve (.opened info quota c db) rs
    w.session.funding.walletConsumed = db.wallet.balance - w.db.wallet.balance ∧
      ∀ rc : RefundCalls, (w.refund rc).failed = false →
        (w.refund rc).wallet.balance = db.wallet.balance ∧
          (info.isPlayground = false → (w.refund rc).token.balance = db.token.balance) := by
  have hinv : Exact info.isPlayground db.wallet.balance db.token.balance
      (Runs.run World.reserve (.opened info quota c db) rs) :=
    Runs.invariant Exact.reserve (Exact.opened info quota c db hc) hrs
  exact ⟨hinv.consumed, fun rc hok => hinv.refund hok⟩

/-! ## An image request whose reservation is raised twice -/

/-- A request for images. -/
def imageInfo : RelayInfo where
  userId := 1
  requestId := "img"
  requestIsImage := true

/-- A wallet and a token. -/
def imageDb : Db where
  wallet := { quota := 1000 }
  token := { remainQuota := 1000 }
  store := Subscription.openStore

theorem wallet_session_exact_image :
    let w := Runs.run World.reserve (.opened imageInfo 0 {} imageDb) [{ target := 150 }]
    w.session.funding.walletConsumed = 1000 - w.db.wallet.balance ∧
      ∀ rc : RefundCalls, (w.refund rc).failed = false →
        (w.refund rc).wallet.balance = 1000 ∧
          (false = false → (w.refund rc).token.balance = 1000) :=
  wallet_session_exact imageInfo 0 {} imageDb [{ target := 150 }] (.inl rfl) (by decide)

/-- Pre-consumed at 100 and raised to 150, the session remembers the last 50 only; 100 stay lost. -/
theorem image_raise_loses_reservation :
    let w := Runs.run World.reserve (.opened imageInfo 100 {} imageDb) [{ target := 150 }]
    (w.session.funding.walletConsumed, w.db.wallet.balance) = (50, 850) ∧
      (w.refund {}).failed = false ∧ (w.refund {}).wallet.balance = 900 ∧
      (w.refund {}).token.balance = 1000 := by
  decide

end Billing
