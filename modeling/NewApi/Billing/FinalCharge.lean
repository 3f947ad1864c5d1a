import NewApi.Machinery.Hold
import NewApi.Billing.Opening

/-!
# Billing/FinalCharge — what a session charges in the end

Any interleaving of `Reserve`, `Settle` and `Refund` on one session, with the goroutine of `Refund`
running at any later moment.  The session is an implementation of a hold (`Machinery/Hold`):
`Tracks` relates the two, and `Tracks.step` answers each call by an operation of the hold, or by
none.

`Settle` does not look at `refunded`.  So the calls that are answered are those that do not settle a
refunded session, do not overwrite the wallet's `consumed` on behalf of an image request, and do not
settle below what the subscription's usage can return.

* `session_final_charge` — at most one `Settle` or `Refund` takes effect, and it decides the charge.
-/

namespace Billing

open BillingSession Runs

/-- A call that closed the session. -/
inductive Effect where
  | settled (actual : ℤ)
  | refunded
  deriving DecidableEq

/-- A session in use: the goroutines of `Refund` that have not run yet, and the calls that took
effect so far. -/
structure SessionRun extends World where
  pending : List PendingRefund := []
  effects : List Effect := []

/-- The calls on a session, and the body of a refund. -/
inductive SessionCall where
  | reserve (r : ReserveCall)
  | settle (actual : ℤ) (c : Calls)
  | refund
  /-- The goroutine of an earlier `Refund` runs. -/
  | refundBody (c : RefundCalls)

namespace SessionRun

/-- A session that was just opened. -/
def start (s : BillingSession) (db : Db) : SessionRun := { session := s, db }

/-- `Settle` takes effect when it turns `settled` on. -/
def settle (w : SessionRun) (actual : ℤ) (c : Calls) : SessionRun :=
  let out := w.session.settle actual c w.db
  { w with
    session := out.2.1
    db := out.2.2
    effects := if w.session.settled = false ∧ out.2.1.settled = true then
      w.effects ++ [.settled actual] else w.effects }

/-- `Refund`: its body is left to run later. -/
def refund (w : SessionRun) : SessionRun :=
  match w.session.refund with
  | (s, none) => { w with session := s }
  | (s, some p) =>
    { w with session := s, pending := w.pending ++ [p], effects := w.effects ++ [.refunded] }

/-- The body of the refund that was asked for first. -/
def refundBody (w : SessionRun) (c : RefundCalls) : SessionRun :=
  match w.pending with
  | [] => w
  | p :: rest => { w with db := p.run c w.db, pending := rest }

/-- One call. -/
def step (w : SessionRun) : SessionCall → SessionRun
  | .reserve r => { w with toWorld := w.toWorld.reserve r }
  | .settle actual c => w.settle actual c
  | .refund => w.refund
  | .refundBody c => w.refundBody c

end SessionRun

/-- The condition on a call in the state it is made in. -/
def SessionCall.Admitted (w : SessionRun) : SessionCall → Prop
  | .reserve r =>
    let s := w.session.withImageCount r.imageCount
    s.reserveIdle r.target = false → s.relayInfo.isImageRequest = true →
      walletGrants (r.target - s.preConsumedQuota) r.calls w.db → s.funding.walletConsumed = 0
  | .settle actual _ =>
    w.session.settled = false → w.session.refunded = false ∧
      (w.session.funding.source = .subscription →
        0 ≤ taken w.session.funding w.db + (actual - w.session.preConsumedQuota))
  | .refund => True
  | .refundBody _ => True

instance (w : SessionRun) : (call : SessionCall) → Decidable (call.Admitted w)
  | .reserve r => by unfold SessionCall.Admitted; infer_instance
  | .settle actual c => by unfold SessionCall.Admitted; infer_instance
  | .refund => .isTrue trivial
  | .refundBody _ => .isTrue trivial

/-- None of the database calls made for `call` fails. -/
def SessionCall.Clean (w : SessionRun) (call : SessionCall) : Prop := (w.step call).db.failed = false

instance (w : SessionRun) (call : SessionCall) : Decidable (call.Clean w) :=
  inferInstanceAs (Decidable (_ = _))

/-! ## The session implements a hold -/

/-- `n` is taken from the funding source and, outside the playground, from the token. -/
structure Charged (b : Baseline) (n : ℤ) (s : BillingSession) (db : Db) : Prop where
  funding : taken s.funding db = b.funding + n
  token : b.playground = false → db.token.balance = b.token - n

/-- A session in use and the hold it implements. -/
inductive Tracks (b : Baseline) : SessionRun → Hold.State ℤ → Prop where
  | opened {s : BillingSession} {db : Db} (holds : Holding b s db) :
      Tracks b ⟨⟨s, db⟩, [], []⟩ (.opened s.preConsumedQuota)
  | settled {s : BillingSession} {db : Db} {actual : ℤ} (closed : s.settled = true)
      (charged : Charged b actual s db) : Tracks b ⟨⟨s, db⟩, [], [.settled actual]⟩ (.settled actual)
  /-- The goroutine has not run: the database still shows what the session held. -/
  | releasing {s s₀ : BillingSession} {db : Db} (settled : s.settled = false)
      (closed : s.refunded = true) (source : s.funding = s₀.funding) (holds : Holding b s₀ db) :
      Tracks b ⟨⟨s, db⟩, [s₀.pendingRefund], [.refunded]⟩ .released
  | released {s : BillingSession} {db : Db} (settled : s.settled = false) (closed : s.refunded = true)
      (charged : Charged b 0 s db) : Tracks b ⟨⟨s, db⟩, [], [.refunded]⟩ .released

variable {b : Baseline} {w : SessionRun} {h : Hold.State ℤ}

theorem Holding.withImageCount {s : BillingSession} {db : Db} (h : Holding b s db) (count : ℤ) :
    Holding b (s.withImageCount count) db := by
  refine ⟨h.play, h.settled, h.refunded, h.fundingSettled, h.nonneg, h.tokenConsumed, h.funding,
    h.token, ?_⟩
  have hsource := h.source
  change SourceHolds b (s.withImageCount count) db s.funding
  cases hf : s.funding with
  | wallet w => rw [hf] at hsource; exact hsource
  | subscription f => rw [hf] at hsource; exact hsource

/-- A closed session does not raise its reservation. -/
theorem World.reserve_closed {w : World} (r : ReserveCall)
    (hclosed : w.session.settled = true ∨ w.session.refunded = true) :
    w.reserve r = ⟨w.session.withImageCount r.imageCount, w.db⟩ := by
  have hidle : (w.session.withImageCount r.imageCount).reserveIdle r.target = true := by
    unfold reserveIdle withImageCount
    rcases hclosed with hs | hr
    · simp [hs]
    · simp [hr]
  unfold World.reserve BillingSession.reserve
  rw [if_pos hidle]

theorem SessionRun.refund_closed (hclosed : w.session.settled = true ∨ w.session.refunded = true) :
    w.refund = w := by
  have hneeds : w.session.needsRefund = false := by
    unfold needsRefund
    rcases hclosed with hs | hr
    · simp [hs]
    · simp [hr]
  unfold SessionRun.refund BillingSession.refund
  rw [if_neg (by simp [hneeds])]

theorem SessionRun.settle_closed (hclosed : w.session.settled = true) (actual : ℤ) (c : Calls) :
    w.settle actual c = w := by
  unfold SessionRun.settle BillingSession.settle
  simp [hclosed]

/-! ## Each call is answered by the hold -/

section

variable (ht : Tracks b w h)

include ht

theorem Tracks.reserve (r : ReserveCall) (ha : (SessionCall.reserve r).Admitted w)
    (hc : (SessionCall.reserve r).Clean w) :
    ∃ ops, Tracks b (w.step (.reserve r)) (run Hold.step h ops) := by
  rw [SessionRun.step]
  cases ht with
  | @opened s db holds =>
    have holds' := holds.withImageCount r.imageCount
    have hout := reserve_outcome (s.withImageCount r.imageCount) r.target r.calls
      holds'.backed
    have hkeep := Tracks.opened (holds'.of_outcome hout ha hc)
    refine ⟨[.raise (((s.withImageCount r.imageCount).reserve r.target r.calls
      db).2.1.preConsumedQuota - s.preConsumedQuota)], ?_⟩
    simpa [Hold.step, World.reserve] using hkeep
  | settled closed charged =>
    rw [World.reserve_closed r (.inl closed)]
    exact ⟨[], .settled closed ⟨charged.1, charged.2⟩⟩
  | releasing settled closed source holds =>
    rw [World.reserve_closed r (.inr closed)]
    exact ⟨[], .releasing settled closed source holds⟩
  | released settled closed charged =>
    rw [World.reserve_closed r (.inr closed)]
    exact ⟨[], .released settled closed ⟨charged.1, charged.2⟩⟩

theorem Tracks.settle (actual : ℤ) (c : Calls) (ha : (SessionCall.settle actual c).Admitted w)
    (hc : (SessionCall.settle actual c).Clean w) :
    ∃ ops, Tracks b (w.step (.settle actual c)) (run Hold.step h ops) := by
  rw [SessionRun.step]
  cases ht with
  | @opened s db holds =>
    have hroom := (ha holds.settled).2
    rcases holds.settle c hroom hc with ⟨hs, hkeep, -⟩ | hdone
    · refine ⟨[], ?_⟩
      unfold SessionRun.settle
      dsimp only
      rw [hs, if_neg (by simp [holds.settled])]
      exact .opened hkeep
    · refine ⟨[.settle actual], ?_⟩
      unfold SessionRun.settle
      dsimp only
      rw [if_pos ⟨holds.settled, hdone.settled⟩]
      exact .settled hdone.settled ⟨hdone.funding, hdone.token⟩
  | settled closed charged =>
    rw [SessionRun.settle_closed closed]
    exact ⟨[], .settled closed charged⟩
  | releasing settled closed source holds =>
    exact absurd (ha settled).1 (by simp [closed])
  | released settled closed charged =>
    exact absurd (ha settled).1 (by simp [closed])

theorem Tracks.refund : ∃ ops, Tracks b (w.step .refund) (run Hold.step h ops) := by
  rw [SessionRun.step]
  cases ht with
  | @opened s db holds =>
    unfold SessionRun.refund BillingSession.refund
    by_cases hneeds : s.needsRefund = true
    · refine ⟨[.release], ?_⟩
      simp only [hneeds, if_true]
      exact .releasing holds.settled rfl rfl holds
    · refine ⟨[], ?_⟩
      simp only [hneeds]
      exact .opened holds
  | settled closed charged =>
    rw [SessionRun.refund_closed (.inl closed)]
    exact ⟨[], .settled closed charged⟩
  | releasing settled closed source holds =>
    rw [SessionRun.refund_closed (.inr closed)]
    exact ⟨[], .releasing settled closed source holds⟩
  | released settled closed charged =>
    rw [SessionRun.refund_closed (.inr closed)]
    exact ⟨[], .released settled closed charged⟩

theorem Tracks.refundBody (c : RefundCalls) (hc : (SessionCall.refundBody c).Clean w) :
    ∃ ops, Tracks b (w.step (.refundBody c)) (run Hold.step h ops) := by
  cases ht with
  | opened holds => exact ⟨[], .opened holds⟩
  | settled closed charged => exact ⟨[], .settled closed charged⟩
  | releasing settled closed source holds =>
    obtain ⟨hfund, htok⟩ := holds.refund c hc
    refine ⟨[], .released settled closed ⟨?_, fun hp => ?_⟩⟩
    · rw [source, hfund, add_zero]
    · rw [htok hp, sub_zero]
  | released settled closed charged => exact ⟨[], .released settled closed charged⟩

end

/-- **The session implements a hold**: every admitted call is answered by operations of the hold. -/
theorem Tracks.step (w : SessionRun) (h : Hold.State ℤ) (call : SessionCall) (ht : Tracks b w h)
    (hg : call.Admitted w ∧ call.Clean w) :
    ∃ ops, Tracks b (w.step call) (run Hold.step h ops) := by
  obtain ⟨ha, hc⟩ := hg
  cases call with
  | reserve r => exact ht.reserve r ha hc
  | settle actual c => exact ht.settle actual c ha hc
  | refund => exact ht.refund
  | refundBody c => exact ht.refundBody c hc

/-! ## The final charge -/

/-- The charge the effects so far decide: the first of them, or the reservation while there is
none. -/
def finalCharge (held : ℤ) : List Effect → ℤ
  | [] => held
  | .settled actual :: _ => actual
  | .refunded :: _ => 0

theorem Tracks.effects_length (ht : Tracks b w h) : w.effects.length ≤ 1 := by
  cases ht <;> simp

theorem Tracks.charged (ht : Tracks b w h) (hp : w.pending = []) :
    Charged b (finalCharge w.session.preConsumedQuota w.effects) w.session w.db := by
  cases ht with
  | opened holds => exact ⟨holds.funding, holds.token⟩
  | settled closed charged => exact charged
  | releasing settled closed source holds => cases hp
  | released settled closed charged => exact charged

/-- **The final charge of a session.**  However the calls on a session are interleaved, at most one
`Settle` or `Refund` takes effect, and once no refund is pending the funding source and the token
have given what that one decides: nothing, or the argument of `Settle`. -/
theorem session_final_charge {info : RelayInfo} {quota : ℤ} {c : OpenCalls} {db db' : Db}
    {s : BillingSession} (hopen : preConsumeBilling quota info c db = (.ok s, db'))
    (hok : db'.failed = false) (hfresh : db.store.records info.requestId = none)
    (hrows : ∀ i sub, db.store.sub? i = some sub → sub.Valid) (cs : List SessionCall)
    (hg : Runs.Guarded SessionRun.step (fun w call => call.Admitted w ∧ call.Clean w)
      (.start s db') cs) :
    let w := Runs.run SessionRun.step (.start s db') cs
    w.effects.length ≤ 1 ∧ (w.pending = [] → Charged (s.baseline db)
      (finalCharge w.session.preConsumedQuota w.effects) w.session w.db) := by
  have hstart := Tracks.opened (preConsumeBilling_holding hfresh hrows hopen hok).1
  obtain ⟨ops, hops⟩ := simulates Tracks.step hstart hg
  exact ⟨hops.effects_length, hops.charged⟩

/-! ## Settling after a refund -/

/-- A request that is paid from the wallet. -/
def chatInfo : RelayInfo where
  userId := 1
  requestId := "chat"
  billingPreference := "wallet_only"

/-- Reserved, refunded and reserved again. -/
theorem session_final_charge_chat :
    ∃ s db', preConsumeBilling 100 chatInfo { userQuota := some 1000 } imageDb = (.ok s, db') ∧
      let w := run SessionRun.step (.start s db')
        [.reserve { target := 150 }, .refund, .refundBody {}, .reserve { target := 200 }]
      w.effects.length ≤ 1 ∧ (w.pending = [] → Charged (s.baseline imageDb)
        (finalCharge w.session.preConsumedQuota w.effects) w.session w.db) :=
  ⟨_, _, rfl, @session_final_charge chatInfo 100 { userQuota := some 1000 } imageDb _ _ rfl rfl
    (by decide) (fun i sub h => by
      obtain ⟨hm, -⟩ := Table.find?_eq_some_iff.mp h
      obtain rfl : sub = Subscription.openSub := by
        simpa [imageDb, Subscription.openStore] using hm
      exact ⟨by decide, by decide, by decide⟩) _ (by decide)⟩

/-- Refunded in full and then settled at 40, the session pays 60 out. -/
theorem settle_after_refund_pays_out :
    ∃ s db', preConsumeBilling 100 chatInfo { userQuota := some 1000 } imageDb = (.ok s, db') ∧
      let w := run SessionRun.step (.start s db') [.refund, .refundBody {}, .settle 40 {}]
      w.effects = [.refunded, .settled 40] ∧ w.pending = [] ∧ w.db.failed = false ∧
        (w.db.wallet.balance, w.db.token.balance) = (1060, 1060) :=
  ⟨_, _, rfl, by decide⟩

end Billing
