import NewApi.Billing.Settlement

/-!
# Billing/Replay — sessions opened again under a used request id

`PreConsumeUserSubscription` is idempotent in the request id: a record of the first charge answers
every later call.  The session built on the reply keeps the amount it asked for, and a call whose
lookup missed the record answers with the candidate it had reached.

* `Replay.run_charges` — an id is charged at most once, whatever the calls.
* `openSubscription_matches_iff` — when the session opened by a replay agrees with the record.
* `replay_settles_record` — sessions that agree settle the request at the price they are given.
-/

namespace Subscription

/-- The candidate a pre-consume ends on: the first with room, each being reset on the way. -/
def firstWithRoom (env : PreConsumeEnv) (amount : ℤ) (st : Store) : List UserSubscription → Option ℤ
  | [] => none
  | candidate :: rest =>
    match st.getSubscriptionPlanById candidate.planId with
    | .error _ => none
    | .ok plan =>
      match maybeResetUserSubscription st.loc plan env.now env.fuel candidate with
      | none => none
      | some (sub, _) =>
        if sub.amountTotal > 0 ∧ sub.amountTotal - sub.amountUsed < amount then
          firstWithRoom env amount st rest
        else some sub.id

theorem firstWithRoom_saveSub (env : PreConsumeEnv) (amount : ℤ) (st : Store)
    (sub : UserSubscription) (cs : List UserSubscription) :
    firstWithRoom env amount (st.saveSub sub) cs = firstWithRoom env amount st cs := by
  induction cs with
  | nil => rfl
  | cons c cs ih => rw [firstWithRoom, firstWithRoom, ih]; rfl

section

variable {env : PreConsumeEnv} {requestId : String} {userId amount : ℤ} {st st' : Store}
  {res : SubscriptionPreConsumeResult} {t : ConsumeTrace}

theorem chargeCandidate_id {sub : UserSubscription}
    (h : chargeCandidate env requestId userId amount sub st = .ok (res, t, st')) :
    res.userSubscriptionId = sub.id := by
  unfold chargeCandidate at h
  split at h
  · split at h
    · cases h
    split at h
    · cases h
    · cases h; rfl
  · cases h; rfl

/-- The loop replies with the candidate it ends on, also when the record names another. -/
theorem consumeFrom_id : ∀ {cs : List UserSubscription} {st : Store}
    {res : SubscriptionPreConsumeResult} {t : ConsumeTrace} {st' : Store},
    consumeFrom env requestId userId amount cs st = .ok (res, t, st') →
    firstWithRoom env amount st cs = some res.userSubscriptionId
  | [], _, _, _, _, h => by cases h
  | c :: cs, st, res, t, st', h => by
    unfold consumeFrom at h
    split at h
    · cases h
    next plan hplan =>
    split at h
    · cases h
    next sub advanced hreset =>
    obtain ⟨⟨res₁, t₁, st₁⟩, hr, heq⟩ := exists_of_map_eq_ok h
    cases heq
    rw [firstWithRoom, hplan]
    dsimp only
    rw [hreset]
    dsimp only
    split at hr
    · next hfull =>
      rw [if_pos hfull, ← firstWithRoom_saveSub env amount st sub cs]
      exact consumeFrom_id hr
    · next hroom => rw [if_neg hroom, chargeCandidate_id hr]

/-- How a successful pre-consume relates to the record it leaves. -/
inductive Recorded (env : PreConsumeEnv) (requestId : String) (userId amount : ℤ) (st : Store)
    (res : SubscriptionPreConsumeResult) (t : ConsumeTrace) (r : SubscriptionPreConsumeRecord) :
    Prop where
  | charged (fresh : st.records requestId = none) (charged : t.charged = some r.userSubscriptionId)
      (amount_eq : r.preConsumed = amount) (id_eq : res.userSubscriptionId = r.userSubscriptionId)
  | repeated (found : st.records requestId = some r) (charged : t.charged = none)
      (seen : env.raced = false → res.userSubscriptionId = r.userSubscriptionId)
      (raced : env.raced = true →
        firstWithRoom env amount st (st.activeSubs userId env.now) = some res.userSubscriptionId)

/-- **Success leaves an unrefunded record**, whose amount the reply repeats. -/
theorem preConsumeTx_recorded
    (h : preConsumeTx env requestId userId amount st = .ok (res, t, st')) :
    ∃ r, st'.records requestId = some r ∧ r.status = .consumed ∧ res.preConsumed = r.preConsumed ∧
      Recorded env requestId userId amount st res t r := by
  have hspec := preConsumeTx_preConsumed h
  cases hc : t.charged with
  | some i =>
    obtain ⟨hfresh, a, -, rfl⟩ := hspec.charge i hc
    refine ⟨⟨requestId, userId, i, amount, .consumed⟩, ?_, rfl, rfl, .charged hfresh hc rfl rfl⟩
    rw [hspec.records, hc]
    exact Function.update_self ..
  | none =>
    obtain ⟨r, hr, hs, hpre⟩ := hspec.replay hc
    refine ⟨r, by rw [hspec.records, hc]; exact hr, hs, hpre, .repeated hr hc ?_ ?_⟩
    · intro hraced
      unfold preConsumeTx at h
      rw [hraced, hr] at h
      simp only [Bool.false_eq_true, if_false, hs, reduceCtorEq] at h
      split at h
      · cases h
      split at h
      · cases h
      split at h
      · cases h
      split at h
      · cases h
      · next sub hsub =>
        cases h
        change sub.id = _
        exact Table.key_of_find? hsub
    · intro hraced
      unfold preConsumeTx at h
      rw [hraced] at h
      simp only [if_true] at h
      split at h
      · cases h
      split at h
      · cases h
      split at h
      · cases h
      split at h
      · cases h
      · exact consumeFrom_id h

end

/-- Nothing that is done about a request changes what its record charged, or where. -/
def SameCharge (r r' : SubscriptionPreConsumeRecord) : Prop :=
  r'.userSubscriptionId = r.userSubscriptionId ∧ r'.preConsumed = r.preConsumed

theorem refund_sameCharge {fault : RefundFault} {requestId : String} {st : Store}
    {r : SubscriptionPreConsumeRecord} (hr : st.records requestId = some r) :
    ∃ r', (refundSubscriptionPreConsume fault requestId st).2.records requestId = some r' ∧
      SameCharge r r' := by
  have hsave (st' : Store) (h : st'.records = st.records) :
      ∃ r', (st'.saveRecord { r with status := .refunded }).records requestId = some r' ∧
        SameCharge r r' := by
    by_cases hk : requestId = r.requestId
    · subst hk
      exact ⟨_, st'.saveRecord_records_self { r with status := .refunded }, rfl, rfl⟩
    · refine ⟨r, ?_, rfl, rfl⟩
      exact (Function.update_of_ne hk _ _).trans (by rw [h]; exact hr)
  have hkeep : ∃ r', st.records requestId = some r' ∧ SameCharge r r' := ⟨r, hr, rfl, rfl⟩
  unfold refundSubscriptionPreConsume
  split
  · exact hkeep
  split
  · exact hkeep
  rw [hr]
  dsimp only
  split
  · split <;> exact hkeep
  split
  · split
    · exact hkeep
    · exact hsave st rfl
  split
  · exact hkeep
  split
  · exact hkeep
  next st₁ hpost =>
  have hrec : st₁.records = st.records := by
    obtain ⟨-, ⟨-, rfl⟩ | ⟨sub, -, -, -, rfl⟩⟩ := postConsume_eq hpost <;> rfl
  split
  · exact ⟨r, by rw [hrec]; exact hr, rfl, rfl⟩
  · exact hsave st₁ hrec

/-- The charge that the record of an id stands for. -/
def Store.recordedCharge (requestId : String) (st : Store) : List (ℤ × ℤ) :=
  (st.records requestId).toList.map fun r => (r.userSubscriptionId, r.preConsumed)

/-- What a refund gave back of the charge that is recorded. -/
def Store.givenBack (requestId : String) (st st' : Store) : ℤ :=
  (st.records requestId).elim 0 fun r =>
    (st.used? r.userSubscriptionId).getD 0 - (st'.used? r.userSubscriptionId).getD 0

theorem refund_recordedCharge (fault : RefundFault) (requestId : String) (st : Store) :
    (refundSubscriptionPreConsume fault requestId st).2.recordedCharge requestId =
      st.recordedCharge requestId := by
  cases hr : st.records requestId with
  | some r =>
    obtain ⟨r', hr', hid, hamount⟩ := @refund_sameCharge fault _ _ _ hr
    rw [Store.recordedCharge, Store.recordedCharge, hr, hr', Option.toList_some, List.map_singleton,
      hid, hamount]
    rfl
  | none =>
    unfold refundSubscriptionPreConsume
    rw [hr]
    split
    · rfl
    split <;> rfl

theorem postConsume_used {id delta u : ℤ} {st st' : Store}
    (h : postConsumeUserSubscriptionDelta id delta st = .ok st') (hu : st.used? id = some u)
    (hroom : 0 ≤ u + delta) : st'.used? id = some (u + delta) := by
  obtain ⟨-, ⟨rfl, rfl⟩ | ⟨sub, hsub, -, -, rfl⟩⟩ := postConsume_eq h
  · rw [add_zero]; exact hu
  have hused : sub.amountUsed = u := by simpa [Store.used?, hsub] using hu
  have hid : sub.id = id := Table.key_of_find? hsub
  have hself := st.saveSub_sub?_self (sub.withUsed (max (sub.amountUsed + delta) 0))
    (show st.sub? sub.id = some sub from hid ▸ hsub)
  rw [UserSubscription.withUsed_id, hid] at hself
  rw [Store.used?, hself, hused, max_eq_left hroom]
  rfl

end Subscription

namespace Billing

open Subscription (PreConsumeEnv SubscriptionPreConsumeRecord SubscriptionPreConsumeResult
  ConsumeTrace RefundFault preConsumeTx firstWithRoom SameCharge)

/-! ## Opening on a used id -/

/-- What a session asks a subscription for. -/
def subConsume (quota : ℤ) : ℤ := if quota ≤ 0 then 1 else quota

variable {info : RelayInfo} {quota : ℤ} {c : OpenCalls} {db db' : Db} {s : BillingSession}

/-- The session that `openSubscription` builds on a reply. -/
structure BuiltOn (quota : ℤ) (res : SubscriptionPreConsumeResult) (s : BillingSession) : Prop where
  preConsumedQuota : s.preConsumedQuota = subConsume quota
  funding : ∃ f, s.funding = .subscription f ∧ f.subscriptionId = res.userSubscriptionId
  unsettled : s.settled = false ∧ s.fundingSettled = false

/-- **What opening on a subscription can do to the store**: nothing, or one pre-consume. -/
theorem openSubscription_cases (info : RelayInfo) (quota : ℤ) (c : OpenCalls) (db : Db) :
    (∃ e db', openSubscription info quota c db = (.error e, db') ∧ db'.store = db.store) ∨
      ∃ s db' res t, openSubscription info quota c db = (.ok s, db') ∧
        preConsumeTx c.subscription.preConsumeEnv info.requestId info.userId (subConsume quota)
          db.store = .ok (res, t, db'.store) ∧ BuiltOn quota res s := by
  let f₀ : SubscriptionFunding :=
    { requestId := info.requestId, userId := info.userId, amount := subConsume quota }
  have hplain := BillingSession.shouldTrust_subscription info f₀ c.subscription
  have hout := (BillingSession.fresh info (.subscription f₀) false).consume_outcome
    (subConsume quota) c.subscription db rfl
  have hpre : (BillingSession.fresh info (.subscription f₀) false).preConsume (subConsume quota)
      c.subscription db = (BillingSession.fresh info (.subscription f₀) false).consume
        (subConsume quota) c.subscription db := by
    rw [BillingSession.preConsume, if_neg (by rw [hplain]; decide)]
  rw [← hpre] at hout
  unfold openSubscription
  dsimp only
  generalize hpaid : (BillingSession.fresh info (.subscription f₀) false).preConsume
    (subConsume quota) c.subscription db = out at hout
  dsimp only [f₀, BillingSession.fresh, subConsume] at hpaid
  rw [hpaid]
  obtain ⟨reply, s, db'⟩ := out
  cases hout with
  | tokenRefused hm => exact .inl ⟨_, _, rfl, hm.store⟩
  | fundingRefused _ _ hm => exact .inl ⟨_, _, rfl, hm.store⟩
  | tokenLost hm => exact .inl ⟨_, _, rfl, hm.store⟩
  | opened htok hsrc =>
    obtain ⟨hmap, hdb⟩ := Prod.mk.inj hsrc
    obtain ⟨f', hf', rfl⟩ := Subscription.exists_of_map_eq_ok hmap
    have hpre : f₀.preConsume c.subscription _ = (.ok f', db') := Prod.ext hf' hdb
    unfold SubscriptionFunding.preConsume at hpre
    split at hpre
    · cases hpre
    split at hpre
    · cases hpre
    next res st hcall =>
    obtain ⟨hf, rfl⟩ := Prod.mk.inj hpre
    obtain rfl := Except.ok.inj hf
    obtain ⟨⟨res', t, st'⟩, htx, hres⟩ := Subscription.exists_of_map_eq_ok hcall
    obtain ⟨rfl, rfl⟩ := Prod.mk.inj hres
    rw [htok.store] at htx
    exact .inr ⟨_, _, res', t, rfl, htx, rfl, ⟨_, rfl, rfl⟩, rfl, rfl⟩

/-- The session and the record agree on the amount and on the subscription. -/
structure Matches (r : SubscriptionPreConsumeRecord) (s : BillingSession) : Prop where
  preConsumedQuota : s.preConsumedQuota = r.preConsumed
  funding : ∃ f, s.funding = .subscription f ∧ f.subscriptionId = r.userSubscriptionId
  unsettled : s.settled = false ∧ s.fundingSettled = false

theorem Matches.congr {r r' : SubscriptionPreConsumeRecord} (h : Matches r s)
    (hr : SameCharge r r') : Matches r' s := by
  obtain ⟨f, hf, hid⟩ := h.funding
  exact ⟨h.preConsumedQuota.trans hr.2.symm, ⟨f, hf, hid.trans hr.1.symm⟩, h.unsettled⟩

/-- A call that finds the record of its id asks for the amount recorded, and, where its lookup
misses the record, ends on the subscription recorded. -/
def Repeats (store : Subscription.Store) (requestId : String) (userId quota : ℤ)
    (env : PreConsumeEnv) : Prop :=
  ∀ r ∈ store.records requestId, r.preConsumed = subConsume quota ∧
    (env.raced = true → firstWithRoom env (subConsume quota) store
      (store.activeSubs userId env.now) = some r.userSubscriptionId)

instance (store : Subscription.Store) (requestId : String) (userId quota : ℤ)
    (env : PreConsumeEnv) : Decidable (Repeats store requestId userId quota env) :=
  inferInstanceAs (Decidable (∀ r ∈ store.records requestId, _))

/-- **When a session agrees with the record of its id.** -/
theorem openSubscription_matches_iff (h : openSubscription info quota c db = (.ok s, db')) :
    ∃ r, db'.store.records info.requestId = some r ∧ r.status = .consumed ∧
      (Matches r s ↔
        Repeats db.store info.requestId info.userId quota c.subscription.preConsumeEnv) := by
  obtain ⟨e, _, he, -⟩ | ⟨s', db₁, res, t, hs, htx, hbuilt⟩ :=
    openSubscription_cases info quota c db
  · rw [he] at h; cases h
  rw [hs] at h
  cases h
  obtain ⟨r, hr, hcons, -, hrec⟩ := Subscription.preConsumeTx_recorded htx
  obtain ⟨f, hf, hid⟩ := hbuilt.funding
  refine ⟨r, hr, hcons, ?_⟩
  cases hrec with
  | charged hfresh _ hamount hres =>
    refine iff_of_true ⟨hbuilt.preConsumedQuota.trans hamount.symm,
      ⟨f, hf, hid.trans hres⟩, hbuilt.unsettled⟩ ?_
    intro r' hr'
    rw [hfresh] at hr'
    simp at hr'
  | repeated hfound _ hseen hraced =>
    constructor
    · rintro ⟨hquota, ⟨f', hf', hid'⟩, -⟩ r' hr'
      obtain rfl := Option.some.inj (hfound.symm.trans hr')
      obtain rfl := FundingSource.subscription.inj (hf.symm.trans hf')
      refine ⟨hquota.symm.trans hbuilt.preConsumedQuota, fun hrace => ?_⟩
      rw [hraced hrace, ← hid, hid']
    · intro hrep
      obtain ⟨hamount, hroom⟩ := hrep r hfound
      refine ⟨hbuilt.preConsumedQuota.trans hamount.symm, ⟨f, hf, hid.trans ?_⟩,
        hbuilt.unsettled⟩
      cases hrace : c.subscription.preConsumeEnv.raced with
      | false => exact hseen hrace
      | true => exact Option.some.inj ((hraced hrace).symm.trans (hroom hrace))

theorem BillingSession.settleToken_store (s : BillingSession) (delta : ℤ) (c : Calls) (db : Db) :
    (s.settleToken delta c db).2.store = db.store := by
  unfold BillingSession.settleToken
  split
  · rfl
  split
  · rcases decreaseTokenQuota_cases delta c.token db with ⟨e, h⟩ | ⟨db', h, hm⟩
    · rw [h]; rfl
    · rw [h]; exact hm.store
  · rcases increaseTokenQuota_cases (-delta) c.token db with ⟨e, h⟩ | ⟨db', h, hm⟩
    · rw [h]; rfl
    · rw [h]; exact hm.store

/-- **A session that agrees with the record settles the request**: with the record's charge on the
row, settling at `a` leaves `a` of it, if the row still has it to give back. -/
theorem Matches.settle {r : SubscriptionPreConsumeRecord} (h : Matches r s) {a u : ℤ}
    {calls : Calls} (hu : db.store.used? r.userSubscriptionId = some u)
    (hroom : 0 ≤ u + (a - r.preConsumed))
    (hdone : (s.settle a calls db).2.1.settled = true) :
    (s.settle a calls db).2.2.store.used? r.userSubscriptionId =
      some (u + (a - r.preConsumed)) := by
  obtain ⟨f, hf, hid⟩ := h.funding
  unfold BillingSession.settle at hdone ⊢
  rw [if_neg (by simp [h.unsettled.1])] at hdone ⊢
  dsimp only at hdone ⊢
  rw [h.preConsumedQuota] at hdone ⊢
  split at hdone
  · next hzero => rw [if_pos hzero, hzero, add_zero]; exact hu
  next hne =>
  rw [if_neg (by simp [h.unsettled.2]), hf, FundingSource.settle, if_neg hne] at hdone
  rw [if_neg hne, if_neg (by simp [h.unsettled.2]), hf, FundingSource.settle, if_neg hne]
  split at hdone
  · simp [h.unsettled.1] at hdone
  next db₁ hcall =>
  rw [BillingSession.settleToken_store]
  unfold postConsumeDelta at hcall
  split at hcall
  · cases hcall
  split at hcall
  · cases hcall
  next st hst =>
  obtain ⟨-, rfl⟩ := Prod.mk.inj hcall
  rw [hid] at hst
  exact Subscription.postConsume_used hst hu hroom

/-! ## Runs -/

/-- The database, with what was charged to subscriptions under one request id and the sessions that
were opened under it. -/
structure Replay where
  db : Db
  /-- The subscription and the amount of each charge. -/
  charges : List (ℤ × ℤ) := []
  sessions : List BillingSession := []
  /-- What refunds gave back of them. -/
  returned : ℤ := 0

/-- What is done under the request id, and around it. -/
inductive ReplayCall where
  | preConsume (env : PreConsumeEnv) (userId amount : ℤ)
  | openSession (info : RelayInfo) (quota : ℤ) (c : OpenCalls)
  | refund (fault : RefundFault)
  /-- Anything else that is done to the database, on behalf of other requests. -/
  | others (db : Db)

namespace Replay

/-- What a pre-consume of `amount` charged. -/
def chargesOf (amount : ℤ) (tx : Except Subscription.SubError
    (SubscriptionPreConsumeResult × ConsumeTrace × Subscription.Store)) : List (ℤ × ℤ) :=
  match tx with
  | .error _ => []
  | .ok (_, t, _) => t.charged.toList.map fun id => (id, amount)

variable (requestId : String)

/-- A record that is there stands for a charge that was made. -/
def start (db : Db) : Replay := { db, charges := db.store.recordedCharge requestId }

/-- One call. -/
def step (w : Replay) : ReplayCall → Replay
  | .preConsume env userId amount =>
    match preConsumeTx env requestId userId amount w.db.store with
    | .error _ => w
    | .ok (res, t, st) =>
      { w with
        db := w.db.setStore st
        charges := chargesOf amount (.ok (res, t, st)) ++ w.charges }
  | .openSession info quota c =>
    match openSubscription { info with requestId } quota c w.db with
    | (.error _, db) => { w with db }
    | (.ok s, db) =>
      { w with
        db
        charges := chargesOf (subConsume quota) (preConsumeTx c.subscription.preConsumeEnv requestId
          info.userId (subConsume quota) w.db.store) ++ w.charges
        sessions := s :: w.sessions }
  | .refund fault =>
    let st := (Subscription.refundSubscriptionPreConsume fault requestId w.db.store).2
    { w with
      db := w.db.setStore st
      returned := w.returned + w.db.store.givenBack requestId st }
  | .others db =>
    if db.store.records requestId = w.db.store.records requestId then { w with db } else w

/-- Every session is opened for the amount and the subscription of the record it finds. -/
def Admits (w : Replay) : ReplayCall → Prop
  | .openSession info quota c =>
    Repeats w.db.store requestId info.userId quota c.subscription.preConsumeEnv
  | _ => True

instance (w : Replay) (call : ReplayCall) : Decidable (w.Admits requestId call) :=
  match call with
  | .preConsume .. | .refund _ | .others _ => inferInstanceAs (Decidable True)
  | .openSession .. => inferInstanceAs (Decidable (Repeats ..))

/-- What was charged under the id is what its record says. -/
def ChargedOnce (w : Replay) : Prop := w.charges = w.db.store.recordedCharge requestId

/-- Every session agrees with the record. -/
def SessionsMatch (w : Replay) : Prop :=
  ∀ s ∈ w.sessions, ∃ r, w.db.store.records requestId = some r ∧ Matches r s

theorem chargedOnce_recorded {w : Replay} {env : PreConsumeEnv} {userId amount : ℤ}
    {res : SubscriptionPreConsumeResult} {t : ConsumeTrace} {st : Subscription.Store}
    (h : preConsumeTx env requestId userId amount w.db.store = .ok (res, t, st))
    (hw : w.ChargedOnce requestId) {w' : Replay} (hst : w'.db.store = st)
    (hcharges : w'.charges = chargesOf amount (.ok (res, t, st)) ++ w.charges) :
    w'.ChargedOnce requestId := by
  obtain ⟨r, hr, -, -, hrec⟩ := Subscription.preConsumeTx_recorded h
  rw [ChargedOnce, hcharges, hw, hst]
  unfold Subscription.Store.recordedCharge
  rw [hr]
  cases hrec with
  | charged hfresh hc hamount _ => simp [chargesOf, hc, hfresh, hamount]
  | repeated hfound hc _ _ => simp [chargesOf, hc, hfound]

/-- A record, once written, keeps what it charged. -/
theorem step_sameCharge (w : Replay) (call : ReplayCall) {r : SubscriptionPreConsumeRecord}
    (hr : w.db.store.records requestId = some r) :
    ∃ r', (w.step requestId call).db.store.records requestId = some r' ∧ SameCharge r r' := by
  have hkeep {st : Subscription.Store} {res : SubscriptionPreConsumeResult} {t : ConsumeTrace}
      {env : PreConsumeEnv} {userId amount : ℤ}
      (h : preConsumeTx env requestId userId amount w.db.store = .ok (res, t, st)) :
      ∃ r', st.records requestId = some r' ∧ SameCharge r r' := by
    obtain ⟨r', hr', -, -, hrec⟩ := Subscription.preConsumeTx_recorded h
    cases hrec with
    | charged hfresh => rw [hfresh] at hr; cases hr
    | repeated hfound =>
      obtain rfl := Option.some.inj (hr.symm.trans hfound)
      exact ⟨r, hr', rfl, rfl⟩
  cases call with
  | preConsume env userId amount =>
    rw [step]
    split
    · exact ⟨r, hr, rfl, rfl⟩
    · next h => exact hkeep h
  | openSession info quota c =>
    rw [step]
    obtain ⟨e, db', h, hst⟩ | ⟨s, db', res, t, h, htx, -⟩ :=
      openSubscription_cases { info with requestId } quota c w.db
    · rw [h]
      exact ⟨r, by rw [hst]; exact hr, rfl, rfl⟩
    · rw [h]
      exact hkeep htx
  | refund fault => exact Subscription.refund_sameCharge hr
  | others db =>
    rw [step]
    split
    · next h => exact ⟨r, by rw [h]; exact hr, rfl, rfl⟩
    · exact ⟨r, hr, rfl, rfl⟩

theorem step_chargedOnce (w : Replay) (call : ReplayCall) (hw : w.ChargedOnce requestId) :
    (w.step requestId call).ChargedOnce requestId := by
  cases call with
  | preConsume env userId amount =>
    cases h : preConsumeTx env requestId userId amount w.db.store with
    | error e =>
      rw [step, h]
      exact hw
    | ok out => exact chargedOnce_recorded requestId h hw (by rw [step, h]; rfl) (by rw [step, h])
  | openSession info quota c =>
    obtain ⟨e, db', h, hst⟩ | ⟨s, db', res, t, h, htx, -⟩ :=
      openSubscription_cases { info with requestId } quota c w.db
    · rw [step, h, ChargedOnce]
      exact hw.trans (by rw [hst])
    · exact chargedOnce_recorded requestId htx hw (by rw [step, h])
        (by rw [step, h]; exact congrArg (chargesOf _ · ++ w.charges) htx)
  | refund fault =>
    exact hw.trans (Subscription.refund_recordedCharge fault requestId w.db.store).symm
  | others db =>
    rw [step]
    split
    · next h =>
      rw [ChargedOnce, Subscription.Store.recordedCharge, h]
      exact hw
    · exact hw

/-- **An id is charged at most once**, and then what its record says. -/
theorem run_charges (db : Db) (calls : List ReplayCall) :
    (Runs.run (step requestId) (start requestId db) calls).ChargedOnce requestId :=
  Runs.stable (step_chargedOnce requestId)
    (show (start requestId db).ChargedOnce requestId from rfl) calls

/-- What the request has put on rows so far, settlements apart. -/
def net (w : Replay) : ℤ := (w.charges.map Prod.snd).sum - w.returned

variable {requestId} in
theorem ChargedOnce.net_eq {w : Replay} (h : w.ChargedOnce requestId)
    {r : SubscriptionPreConsumeRecord} (hr : w.db.store.records requestId = some r) :
    w.net = r.preConsumed - w.returned := by
  rw [net, h, Subscription.Store.recordedCharge, hr]
  simp

theorem step_sessionsMatch (w : Replay) (call : ReplayCall) (hw : w.SessionsMatch requestId)
    (hg : w.Admits requestId call) : (w.step requestId call).SessionsMatch requestId := by
  have hold (s : BillingSession) (hs : s ∈ w.sessions) :
      ∃ r, (w.step requestId call).db.store.records requestId = some r ∧ Matches r s := by
    obtain ⟨r, hr, hm⟩ := hw s hs
    obtain ⟨r', hr', hsame⟩ := step_sameCharge requestId w call hr
    exact ⟨r', hr', hm.congr hsame⟩
  cases call with
  | preConsume env userId amount =>
    refine fun s hs => hold s ?_
    rw [step] at hs
    split at hs <;> exact hs
  | openSession info quota c =>
    obtain ⟨e, db', h, -⟩ | ⟨s, db', -, -, h, -⟩ :=
      openSubscription_cases { info with requestId } quota c w.db
    · exact fun s hs => hold s (by rw [step, h] at hs; exact hs)
    · intro s' hs'
      have hmem : s' = s ∨ s' ∈ w.sessions := by
        rw [step, h] at hs'
        exact List.mem_cons.mp hs'
      rcases hmem with rfl | hmem
      · obtain ⟨r, hr, -, hiff⟩ := openSubscription_matches_iff h
        exact ⟨r, by rw [step, h]; exact hr, hiff.mpr hg⟩
      · exact hold s' hmem
  | refund fault => exact fun s hs => hold s hs
  | others db =>
    refine fun s hs => hold s ?_
    rw [step] at hs
    split at hs <;> exact hs

theorem run_sessionsMatch {db : Db} {calls : List ReplayCall}
    (hg : Runs.Guarded (step requestId) (Admits requestId) (start requestId db) calls) :
    (Runs.run (step requestId) (start requestId db) calls).SessionsMatch requestId :=
  Runs.invariant (step_sessionsMatch requestId) (fun s hs => by cases hs) hg

end Replay

/-- A subscription that has room for one charge. -/
def replaySub (id : ℤ) : Subscription.UserSubscription where
  id
  userId := 1
  planId := 1
  amountTotal := 100
  endTime := 1000 + id

/-- A user with two subscriptions of 100. -/
def replayDb : Db where
  wallet := { quota := 0 }
  token := { remainQuota := 0 }
  store :=
    { loc := Calendar.utc
      plans := fun id => if id = 1 then some { id := 1, quotaResetPeriod := "never" } else none
      subs := ⟨[replaySub 1, replaySub 2], by decide⟩
      records := fun _ => none }

/-- A request without a token. -/
def replayInfo : RelayInfo := { userId := 1, requestId := "q", isPlayground := true }

/-- Opening for `quota`, with the lookup of the record missing a concurrent insert if `raced`. -/
def replayOpen (quota : ℤ) (raced : Bool) : ReplayCall :=
  .openSession replayInfo quota
    { userQuota := none, subscription := { preConsumeEnv := { now := 0, raced } } }

end Billing
