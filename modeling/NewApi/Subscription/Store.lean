import NewApi.Machinery.Table
import NewApi.Subscription.ResetTime
import Mathlib.Data.List.Sort

/-!
# Subscription/Store — consuming, adjusting and resetting subscription usage

The functions of `model/subscription.go` that move `user_subscriptions.amount_used`:
`PreConsumeUserSubscription`, `PostConsumeUserSubscriptionDelta` and `ResetDueSubscriptions`.  Each
runs in one transaction: an error leaves the store it was given.

* `preConsumeTx_preConsumed` — everything a successful pre-consume can have done.
* `postConsume_eq` — a successful delta writes `max (used + delta) 0`, within the total.
-/

open Calendar

namespace Subscription

open List

/-- The status of a record. -/
inductive RecordStatus where
  | consumed | refunded
  deriving DecidableEq

/-- The record that makes a charge idempotent. -/
structure SubscriptionPreConsumeRecord where
  requestId : String
  userId : ℤ
  userSubscriptionId : ℤ
  preConsumed : ℤ
  status : RecordStatus
  deriving DecidableEq

/-- The tables of subscriptions. -/
structure Store where
  loc : Location
  plans : ℤ → Option SubscriptionPlan
  subs : Table UserSubscription UserSubscription.id
  /-- `subscription_pre_consume_records`, under its unique index on `request_id`. -/
  records : String → Option SubscriptionPreConsumeRecord

/-- Why a call on subscriptions fails. -/
inductive SubError where
  | invalidUserId
  | requestIdEmpty
  | amountNotPositive
  | invalidPlanId
  | alreadyRefunded
  | noActiveSubscription
  | quotaInsufficient (need : ℤ)
  | invalidUserSubscriptionId
  | usedExceedsTotal (used total : ℤ)
  | recordNotFound
  /-- A statement or a commit failed. -/
  | database
  /-- The reset walk of a candidate has not ended. -/
  | resetRunning
  deriving DecidableEq

namespace Store

variable (st : Store)

/-- The row with an id. -/
def sub? (id : ℤ) : Option UserSubscription := st.subs.find? id

/-- `tx.Save(&sub)`. -/
def saveSub (sub : UserSubscription) : Store := { st with subs := st.subs.save sub }

/-- A record is written. -/
def saveRecord (r : SubscriptionPreConsumeRecord) : Store :=
  { st with records := Function.update st.records r.requestId (some r) }

variable (r : SubscriptionPreConsumeRecord)

@[simp] theorem saveRecord_sub? (id : ℤ) : (st.saveRecord r).sub? id = st.sub? id := rfl

@[simp] theorem saveRecord_records_self :
    (st.saveRecord r).records r.requestId = some r := Function.update_self ..

theorem saveSub_sub?_self (sub : UserSubscription) {old : UserSubscription}
    (h : st.sub? sub.id = some old) :
    (st.saveSub sub).sub? sub.id = some sub := Table.find?_save_self h

theorem saveSub_sub?_of_ne (sub : UserSubscription) {id : ℤ} (h : id ≠ sub.id) :
    (st.saveSub sub).sub? id = st.sub? id := st.subs.find?_save_of_ne h

/-- `getSubscriptionPlanByIdTx`. -/
def getSubscriptionPlanById (id : ℤ) : Except SubError SubscriptionPlan :=
  if id ≤ 0 then .error .invalidPlanId
  else match st.plans id with
    | none => .error .recordNotFound
    | some plan => .ok plan

/-- `user_id = ? AND status = 'active' AND end_time > now`. -/
def isActiveFor (userId now : ℤ) (sub : UserSubscription) : Bool :=
  sub.userId == userId && sub.status == .active && decide (now < sub.endTime)

/-- The candidates of a pre-consume: `ORDER BY end_time ASC, id ASC`. -/
def activeSubs (userId now : ℤ) : List UserSubscription :=
  (st.subs.rows.filter (isActiveFor userId now)).insertionSort fun a b =>
    a.endTime < b.endTime ∨ (a.endTime = b.endTime ∧ a.id ≤ b.id)

theorem sub?_of_mem_activeSubs {userId now : ℤ} {sub : UserSubscription}
    (h : sub ∈ st.activeSubs userId now) : st.sub? sub.id = some sub := by
  rw [activeSubs, mem_insertionSort, mem_filter] at h
  exact Table.find?_of_mem h.1

/-- The user has a subscription that runs. -/
def hasActiveUserSubscription (userId now : ℤ) : Except SubError Bool :=
  if userId ≤ 0 then .error .invalidUserId
  else .ok (st.subs.rows.any (isActiveFor userId now))

/-- `UserActiveSubscriptionsAllowWalletOverflow`: one strict active subscription blocks it. -/
def userActiveSubscriptionsAllowWalletOverflow (userId now : ℤ) : Except SubError Bool :=
  if userId ≤ 0 then .error .invalidUserId
  else .ok !(st.subs.rows.any fun sub => isActiveFor userId now sub && !sub.allowWalletOverflow)

end Store

/-! ## Pre-consuming -/

/-- What a charge reports. -/
structure SubscriptionPreConsumeResult where
  userSubscriptionId : ℤ
  preConsumed : ℤ
  amountTotal : ℤ
  amountUsedBefore : ℤ
  amountUsedAfter : ℤ
  deriving DecidableEq

/-- What a pre-consume meets besides its arguments. -/
structure PreConsumeEnv where
  now : ℤ
  /-- Iterations each reset walk may make. -/
  fuel : ℕ := 1000
  /-- The lookup of the request id ran before a concurrent insert of the same id was visible, so
  that only the unique index notices it. -/
  raced : Bool := false
  /-- The rejected insert has aborted the transaction (PostgreSQL), so the follow-up read fails. -/
  aborted : Bool := false

/-- What a committed pre-consume did to usage: the subscriptions it reset on its way, and the one it
charged (none on a replay). -/
structure ConsumeTrace where
  resets : List ℤ := []
  charged : Option ℤ := none

/-- A reset that zeroed the usage is noted. -/
def ConsumeTrace.addReset (t : ConsumeTrace) (id : ℤ) (advanced : Bool) : ConsumeTrace :=
  if advanced then { t with resets := id :: t.resets } else t

@[simp] theorem ConsumeTrace.addReset_charged (t : ConsumeTrace) (id : ℤ) (advanced : Bool) :
    (t.addReset id advanced).charged = t.charged := by
  unfold addReset; split <;> rfl

theorem ConsumeTrace.mem_addReset {t : ConsumeTrace} {id i : ℤ} {advanced : Bool} :
    i ∈ (t.addReset id advanced).resets ↔ (advanced = true ∧ i = id) ∨ i ∈ t.resets := by
  unfold addReset; cases advanced <;> simp

/-- The end of the loop body, on a candidate with room: insert the record and charge.  A record that
is already there (only a raced call gets here with one) ends in a replay. -/
def chargeCandidate (env : PreConsumeEnv) (requestId : String) (userId amount : ℤ)
    (sub : UserSubscription) (st : Store) :
    Except SubError (SubscriptionPreConsumeResult × ConsumeTrace × Store) :=
  match st.records requestId with
  | some dup =>
    if env.aborted then .error .database
    else if dup.status = .refunded then .error .alreadyRefunded
    else .ok (⟨sub.id, dup.preConsumed, sub.amountTotal, sub.amountUsed, sub.amountUsed⟩, {}, st)
  | none =>
    let record : SubscriptionPreConsumeRecord := ⟨requestId, userId, sub.id, amount, .consumed⟩
    let charged := sub.withUsed (sub.amountUsed + amount)
    .ok (⟨sub.id, amount, sub.amountTotal, sub.amountUsed, charged.amountUsed⟩,
      { charged := some sub.id }, (st.saveRecord record).saveSub charged)

/-- The loop over candidates: reset each one lazily, and charge the first that has room. -/
def consumeFrom (env : PreConsumeEnv) (requestId : String) (userId amount : ℤ) :
    List UserSubscription → Store →
      Except SubError (SubscriptionPreConsumeResult × ConsumeTrace × Store)
  | [], _ => .error (.quotaInsufficient amount)
  | candidate :: rest, st =>
    match st.getSubscriptionPlanById candidate.planId with
    | .error e => .error e
    | .ok plan =>
      match maybeResetUserSubscription st.loc plan env.now env.fuel candidate with
      | none => .error .resetRunning
      | some (sub, advanced) =>
        let st := st.saveSub sub
        (if sub.amountTotal > 0 ∧ sub.amountTotal - sub.amountUsed < amount then
          consumeFrom env requestId userId amount rest st
        else chargeCandidate env requestId userId amount sub st).map
          fun r => (r.1, r.2.1.addReset sub.id advanced, r.2.2)

/-- `PreConsumeUserSubscription`, with the trace of what it did to usage. -/
def preConsumeTx (env : PreConsumeEnv) (requestId : String) (userId amount : ℤ) (st : Store) :
    Except SubError (SubscriptionPreConsumeResult × ConsumeTrace × Store) :=
  if userId ≤ 0 then .error .invalidUserId
  else if Text.trimsTo requestId "" then .error .requestIdEmpty
  else if amount ≤ 0 then .error .amountNotPositive
  else
    match if env.raced then none else st.records requestId with
    | some existing =>
      if existing.status = .refunded then .error .alreadyRefunded
      else match st.sub? existing.userSubscriptionId with
        | none => .error .recordNotFound
        | some sub =>
          .ok (⟨sub.id, existing.preConsumed, sub.amountTotal, sub.amountUsed, sub.amountUsed⟩,
            {}, st)
    | none =>
      let subs := st.activeSubs userId env.now
      if subs = [] then .error .noActiveSubscription
      else consumeFrom env requestId userId amount subs st

/-- The first subscription with room is charged. -/
def preConsumeUserSubscription (env : PreConsumeEnv) (requestId : String) (userId amount : ℤ)
    (st : Store) : Except SubError (SubscriptionPreConsumeResult × Store) :=
  (preConsumeTx env requestId userId amount st).map fun r => (r.1, r.2.2)

/-! ## Adjusting -/

/-- `PostConsumeUserSubscriptionDelta`: positive consumes more, negative returns. -/
def postConsumeUserSubscriptionDelta (userSubscriptionId delta : ℤ) (st : Store) :
    Except SubError Store :=
  if userSubscriptionId ≤ 0 then .error .invalidUserSubscriptionId
  else if delta = 0 then .ok st
  else match st.sub? userSubscriptionId with
    | none => .error .recordNotFound
    | some sub =>
      let newUsed := max (sub.amountUsed + delta) 0
      if sub.amountTotal > 0 ∧ newUsed > sub.amountTotal then
        .error (.usedExceedsTotal newUsed sub.amountTotal)
      else .ok (st.saveSub (sub.withUsed newUsed))

/-! ## Scheduled resets -/

/-- The transaction `ResetDueSubscriptions` makes for one subscription it found due: the row is read
again under lock, and left alone if it is no longer due.  The reply is `none` for a row left alone,
and otherwise `advanced`. -/
def resetDueSubscription (now : ℤ) (fuel : ℕ) (id : ℤ) (st : Store) :
    Except SubError (Option Bool × Store) :=
  match st.sub? id with
  | none => .ok (none, st)
  | some sub =>
    match st.getSubscriptionPlanById sub.planId with
    | .error _ => .ok (none, st)
    | .ok plan =>
      if 0 < sub.nextResetTime ∧ sub.nextResetTime ≤ now then
        match maybeResetUserSubscription st.loc plan now fuel sub with
        | none => .error .resetRunning
        | some (sub, advanced) => .ok (some advanced, st.saveSub sub)
      else .ok (none, st)

/-- The rows `ResetDueSubscriptions` starts from. -/
def Store.dueSubs (st : Store) (now : ℤ) (limit : ℤ) : List UserSubscription :=
  ((st.subs.rows.filter fun sub =>
      decide (0 < sub.nextResetTime ∧ sub.nextResetTime ≤ now) && sub.status == .active).insertionSort
    fun a b => a.nextResetTime ≤ b.nextResetTime).take (if limit ≤ 0 then 200 else limit).toNat

/-- One transaction per due row; the first error ends the pass, with what came before committed. -/
def resetEach (now : ℤ) (fuel : ℕ) : List ℤ → ℕ → Store → ℕ × Option SubError × Store
  | [], count, st => (count, none, st)
  | id :: ids, count, st =>
    match resetDueSubscription now fuel id st with
    | .error e => (count, some e, st)
    | .ok (reply, st) => resetEach now fuel ids (if reply.isSome then count + 1 else count) st

/-- The scheduled pass over rows that are due. -/
def resetDueSubscriptions (now : ℤ) (fuel : ℕ) (limit : ℤ) (st : Store) :
    ℕ × Option SubError × Store :=
  resetEach now fuel ((st.dueSubs now limit).map (·.id)) 0 st

/-! ## What the operations do to a row -/

/-- `a` is the row `b` after a reset (if `reset`) and a charge that fits under the total. -/
structure RowStep (reset : Prop) [Decidable reset] (charge : ℤ) (b a : UserSubscription) :
    Prop where
  total : a.amountTotal = b.amountTotal
  used : a.amountUsed = (if reset then 0 else b.amountUsed) + charge
  fits : charge ≠ 0 → 0 < a.amountTotal → a.amountUsed ≤ a.amountTotal

theorem RowStep.refl {reset : Prop} [Decidable reset] (h : ¬ reset) (a : UserSubscription) :
    RowStep reset 0 a a :=
  ⟨rfl, by simp [h], fun h => absurd rfl h⟩

/-- What a pre-consume of `amount` for `requestId` that replied `res` and traced `t` did. -/
structure PreConsumed (requestId : String) (userId amount : ℤ) (st : Store)
    (res : SubscriptionPreConsumeResult) (t : ConsumeTrace) (st' : Store) : Prop where
  rows : ∀ i, Option.Rel (RowStep (i ∈ t.resets) (if t.charged = some i then amount else 0))
    (st.sub? i) (st'.sub? i)
  records : st'.records = match t.charged with
    | none => st.records
    | some i => Function.update st.records requestId
        (some ⟨requestId, userId, i, amount, .consumed⟩)
  /-- A charge is made once per request id, and the reply shows the row it left. -/
  charge : ∀ i, t.charged = some i → st.records requestId = none ∧
    ∃ a, st'.sub? i = some a ∧ res = ⟨i, amount, a.amountTotal, a.amountUsed - amount, a.amountUsed⟩
  /-- A success without a charge repeats an unrefunded record. -/
  replay : t.charged = none → ∃ r, st.records requestId = some r ∧ r.status = .consumed ∧
    res.preConsumed = r.preConsumed

theorem activeSubs_nodup (st : Store) (userId now : ℤ) :
    ((st.activeSubs userId now).map (·.id)).Nodup := by
  have hperm := (st.subs.rows.filter (Store.isActiveFor userId now)).perm_insertionSort
    fun a b => a.endTime < b.endTime ∨ (a.endTime = b.endTime ∧ a.id ≤ b.id)
  rw [Store.activeSubs, (hperm.map _).nodup_iff]
  exact st.subs.nodup.sublist (filter_sublist.map _)

theorem exists_of_map_eq_ok {ε α β : Type*} {f : α → β} {x : Except ε α} {b : β}
    (h : x.map f = .ok b) : ∃ a, x = .ok a ∧ f a = b := by
  cases x with
  | error e => cases h
  | ok a => exact ⟨a, rfl, Except.ok.inj h⟩

theorem optionRel_refl {r : UserSubscription → UserSubscription → Prop} (h : ∀ a, r a a)
    (o : Option UserSubscription) : Option.Rel r o o := by
  cases o with
  | none => exact .none
  | some a => exact .some (h a)

theorem optionRel_mono {r r' : UserSubscription → UserSubscription → Prop}
    (h : ∀ b a, r b a → r' b a) {o o' : Option UserSubscription} (ho : Option.Rel r o o') :
    Option.Rel r' o o' := by
  cases ho with
  | none => exact .none
  | some hba => exact .some (h _ _ hba)

section

variable {env : PreConsumeEnv} {requestId : String} {userId amount : ℤ} {st st' : Store}
  {res : SubscriptionPreConsumeResult} {t : ConsumeTrace}

/-- A success that leaves the store alone and repeats an unrefunded record. -/
theorem PreConsumed.of_replay {r : SubscriptionPreConsumeRecord} (hr : st.records requestId = some r)
    (hs : r.status ≠ .refunded) (hres : res.preConsumed = r.preConsumed) :
    PreConsumed requestId userId amount st res {} st where
  rows i := optionRel_refl (RowStep.refl (by simp)) _
  records := rfl
  charge i h := by cases h
  replay _ := ⟨r, hr, by cases h : r.status <;> simp_all, hres⟩

theorem chargeCandidate_preConsumed {sub : UserSubscription} (hsub : st.sub? sub.id = some sub)
    (hfit : ¬ (sub.amountTotal > 0 ∧ sub.amountTotal - sub.amountUsed < amount))
    (h : chargeCandidate env requestId userId amount sub st = .ok (res, t, st')) :
    PreConsumed requestId userId amount st res t st' := by
  unfold chargeCandidate at h
  split at h
  · next dup hdup =>
    split at h
    · cases h
    split at h
    · cases h
    · next hs => cases h; exact .of_replay hdup hs rfl
  · next hnone =>
    cases h
    set charged := sub.withUsed (sub.amountUsed + amount) with hcharged
    have hself : (st.saveSub charged).sub? sub.id = some charged :=
      st.saveSub_sub?_self charged hsub
    refine ⟨fun i => ?_, rfl, fun i hi => ⟨hnone, charged, ?_, ?_⟩, fun h => by cases h⟩
    · by_cases hi : i = sub.id
      · subst hi
        change Option.Rel _ (st.sub? sub.id) ((st.saveSub charged).sub? sub.id)
        rw [hsub, hself]
        refine .some ⟨rfl, by simp [hcharged], fun _ ht => ?_⟩
        rw [hcharged, UserSubscription.withUsed_amountTotal] at ht ⊢
        rw [UserSubscription.withUsed_amountUsed]
        omega
      · change Option.Rel _ (st.sub? i) ((st.saveSub charged).sub? i)
        have hne : some sub.id ≠ some i := fun h => hi (Option.some.inj h).symm
        rw [st.saveSub_sub?_of_ne charged hi]
        simp only [if_neg hne]
        exact optionRel_refl (RowStep.refl (by simp)) _
    · cases hi; exact hself
    · cases hi; simp [hcharged]

/-- Resetting a row first composes with what the rest of the loop does to it. -/
theorem RowStep.after_reset {sub c a : UserSubscription} (advanced : Bool) {reset reset' : Prop}
    [Decidable reset] [Decidable reset'] {charge : ℤ} (hc : sub.amountTotal = c.amountTotal)
    (hu : sub.amountUsed = if advanced then 0 else c.amountUsed)
    (hr : reset' ↔ (advanced = true ∨ reset)) (h : RowStep reset charge sub a) :
    RowStep reset' charge c a := by
  refine ⟨h.total.trans hc, ?_, h.fits⟩
  rw [h.used, hu]
  cases advanced <;> by_cases hres : reset <;> simp_all

/-- A pre-consume that starts from a lazily reset row is one that starts from the row itself. -/
theorem PreConsumed.after_reset {sub c : UserSubscription} {advanced : Bool}
    (hid : sub.id = c.id) (hc : sub.amountTotal = c.amountTotal)
    (hu : sub.amountUsed = if advanced then 0 else c.amountUsed) (hcs : st.sub? c.id = some c)
    (h : PreConsumed requestId userId amount (st.saveSub sub) res t st') :
    PreConsumed requestId userId amount st res (t.addReset sub.id advanced) st' := by
  refine ⟨fun i => ?_, ?_, fun i hi => h.charge i ?_, fun hi => h.replay ?_⟩
  · have hrow := h.rows i
    simp only [ConsumeTrace.addReset_charged]
    by_cases hi : i = sub.id
    · subst hi
      rw [st.saveSub_sub?_self sub (hid ▸ hcs)] at hrow
      rw [hid, hcs, ← hid]
      generalize st'.sub? sub.id = o at hrow ⊢
      cases hrow with
      | some hrow =>
        exact .some (hrow.after_reset advanced hc hu (by simp [ConsumeTrace.mem_addReset]))
    · rw [st.saveSub_sub?_of_ne sub hi] at hrow
      exact optionRel_mono (fun b a hba => hba.after_reset false rfl rfl
        (by simp [ConsumeTrace.mem_addReset, hi])) hrow
  · rw [h.records, ConsumeTrace.addReset_charged]; rfl
  · simpa using hi
  · simpa using hi

/-- **The loop does what a pre-consume may do.**  Induction on the candidates: each is still the row
the store holds, their ids being distinct. -/
theorem consumeFrom_preConsumed :
    ∀ {cs : List UserSubscription} {st : Store} {res : SubscriptionPreConsumeResult}
      {t : ConsumeTrace} {st' : Store},
      (∀ c ∈ cs, st.sub? c.id = some c) → (cs.map (·.id)).Nodup →
      consumeFrom env requestId userId amount cs st = .ok (res, t, st') →
      PreConsumed requestId userId amount st res t st'
  | [], _, _, _, _, _, _, h => by cases h
  | c :: cs, st, res, t, st', hcs, hnd, h => by
    unfold consumeFrom at h
    split at h
    · cases h
    split at h
    · cases h
    next _ _ sub advanced hreset =>
    obtain ⟨⟨res₁, t₁, st₁⟩, hr, heq⟩ := exists_of_map_eq_ok h
    cases heq
    obtain ⟨last, next, hsub⟩ := maybeReset_eq hreset
    have hid : sub.id = c.id := by rw [hsub]
    have hc : st.sub? c.id = some c := hcs c (by simp)
    rw [map_cons, nodup_cons] at hnd
    refine .after_reset hid (by rw [hsub]) (by rw [hsub]) hc ?_
    split at hr
    · refine consumeFrom_preConsumed (fun d hd => ?_) hnd.2 hr
      have hne : d.id ≠ sub.id := fun h => hnd.1 (mem_map.mpr ⟨d, hd, h.trans hid⟩)
      rw [st.saveSub_sub?_of_ne _ hne]
      exact hcs d (by simp [hd])
    · next hfit =>
      exact chargeCandidate_preConsumed (st.saveSub_sub?_self _ (hid ▸ hc)) hfit hr

section

variable (h : preConsumeTx env requestId userId amount st = .ok (res, t, st'))

include h

theorem preConsumeTx_preConsumed : PreConsumed requestId userId amount st res t st' := by
  unfold preConsumeTx at h
  split at h
  · cases h
  split at h
  · cases h
  split at h
  · cases h
  split at h
  · next existing hex =>
    have hrec : st.records requestId = some existing := by
      cases hr : env.raced <;> simp_all
    split at h
    · cases h
    · next hs =>
      split at h
      · cases h
      · cases h; exact .of_replay hrec hs rfl
  · dsimp only at h
    split at h
    · cases h
    · exact consumeFrom_preConsumed (fun c hc => st.sub?_of_mem_activeSubs hc)
        (activeSubs_nodup st _ _) h

/-- A pre-consume that succeeds had well-formed arguments. -/
theorem preConsumeTx_args : 0 < userId ∧ Text.trimsTo requestId "" = false ∧ 0 < amount := by
  unfold preConsumeTx at h
  split at h
  · cases h
  next hu =>
  split at h
  · cases h
  next hq =>
  split at h
  · cases h
  next ha => exact ⟨not_le.mp hu, by simpa using hq, not_le.mp ha⟩

end

end

/-- **A successful delta** writes `max (used + delta) 0`, within the total. -/
theorem postConsume_eq {id delta : ℤ} {st st' : Store}
    (h : postConsumeUserSubscriptionDelta id delta st = .ok st') :
    0 < id ∧ ((delta = 0 ∧ st' = st) ∨
      ∃ sub, st.sub? id = some sub ∧ delta ≠ 0 ∧
        (0 < sub.amountTotal → max (sub.amountUsed + delta) 0 ≤ sub.amountTotal) ∧
        st' = st.saveSub (sub.withUsed (max (sub.amountUsed + delta) 0))) := by
  unfold postConsumeUserSubscriptionDelta at h
  split at h
  · cases h
  next hid =>
  refine ⟨by omega, ?_⟩
  split at h
  · next hd => cases h; exact .inl ⟨hd, rfl⟩
  next hd =>
  split at h
  · cases h
  next sub hsub =>
  dsimp only at h
  split at h
  · cases h
  next hfit =>
  cases h
  exact .inr ⟨sub, hsub, hd, fun ht => by_contra fun hc => hfit ⟨ht, by omega⟩, rfl⟩

/-- **A scheduled reset** leaves its row alone, or resets it as the lazy reset does. -/
theorem resetDue_eq {now : ℤ} {fuel : ℕ} {id : ℤ} {st st' : Store} {reply : Option Bool}
    (h : resetDueSubscription now fuel id st = .ok (reply, st')) :
    (reply = none ∧ st' = st) ∨
      ∃ b a advanced, reply = some advanced ∧ st.sub? id = some b ∧ st' = st.saveSub a ∧
        a.id = b.id ∧ a.amountTotal = b.amountTotal ∧
        a.amountUsed = if advanced then 0 else b.amountUsed := by
  unfold resetDueSubscription at h
  split at h
  · cases h; exact .inl ⟨rfl, rfl⟩
  next b hb =>
  split at h
  · cases h; exact .inl ⟨rfl, rfl⟩
  split at h
  · split at h
    · cases h
    next a advanced hreset =>
    cases h
    obtain ⟨last, next, rfl⟩ := maybeReset_eq hreset
    exact .inr ⟨b, _, advanced, rfl, hb, rfl, rfl, rfl, rfl⟩
  · cases h; exact .inl ⟨rfl, rfl⟩

end Subscription
