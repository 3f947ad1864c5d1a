import NewApi.Machinery.Retry
import NewApi.Subscription.Store
import Mathlib.Tactic

/-!
# Subscription/Refund — returning a pre-consume, under failures

`RefundSubscriptionPreConsume` locks the record, returns its amount and marks it refunded.  The
amount is returned by `PostConsumeUserSubscriptionDelta`, which opens a transaction of its own: a
failure after it has committed rolls back the mark and not the amount.  `refundWithRetry` then tries
again.

* `Store.Open.refundAttempt` — the three ends of an attempt on an unrefunded record.
* `Store.Open.refundWithRetry` — after a whole retry the usage is `max (used - k * preConsumed) 0`,
  where `k` counts the attempts that got past the inner transaction.
-/

namespace Subscription

/-- Where an attempt fails. -/
inductive RefundFault where
  | none
  /-- The locking read of the record. -/
  | lockRead
  /-- The transaction that returns the amount. -/
  | innerTx
  /-- The save of the record, with the amount already returned. -/
  | saveRecord
  /-- The commit of the outer transaction. -/
  | commit
  deriving DecidableEq

/-- The attempt reaches the end of the inner transaction. -/
def RefundFault.pastInner : RefundFault → Bool
  | .none | .saveRecord | .commit => true
  | .lockRead | .innerTx => false

/-- The charge of a record is given back, once. -/
def refundSubscriptionPreConsume (fault : RefundFault) (requestId : String) (st : Store) :
    Except SubError Unit × Store :=
  if Text.trimsTo requestId "" then (.error .requestIdEmpty, st)
  else if fault = .lockRead then (.error .database, st)
  else match st.records requestId with
    | none => (.error .recordNotFound, st)
    | some record =>
      let refunded := { record with status := .refunded }
      if record.status = .refunded then
        (if fault = .commit then .error .database else .ok (), st)
      else if record.preConsumed ≤ 0 then
        if fault = .saveRecord ∨ fault = .commit then (.error .database, st)
        else (.ok (), st.saveRecord refunded)
      else if fault = .innerTx then (.error .database, st)
      else match postConsumeUserSubscriptionDelta record.userSubscriptionId (-record.preConsumed) st with
        | .error e => (.error e, st)
        | .ok st' =>
          if fault = .saveRecord ∨ fault = .commit then (.error .database, st')
          else (.ok (), st'.saveRecord refunded)

/-- How often a refund is tried. -/
def maxAttempts : ℕ := 3

/-- `refundWithRetry` around `RefundSubscriptionPreConsume`; `faults i` is what attempt `i` meets.
-/
def refundWithRetry (faults : ℕ → RefundFault) (requestId : String) (st : Store) :
    Except SubError Unit × Store :=
  Retry.retry (fun i => refundSubscriptionPreConsume (faults i) requestId) maxAttempts st

/-! ## Valid rows and open records -/

/-- Usage is not negative, and a limited subscription does not exceed its total. -/
structure UserSubscription.Valid (sub : UserSubscription) : Prop where
  id_pos : 0 < sub.id
  nonneg : 0 ≤ sub.amountUsed
  le_total : 0 < sub.amountTotal → sub.amountUsed ≤ sub.amountTotal

/-- Request `requestId` has the unrefunded record `r`, which charged the row `sub`. -/
structure Store.Open (st : Store) (requestId : String) (r : SubscriptionPreConsumeRecord)
    (sub : UserSubscription) : Prop where
  named : Text.trimsTo requestId "" = false
  record : st.records requestId = some r
  consumed : r.status = .consumed
  key : r.requestId = requestId
  pos : 0 < r.preConsumed
  row : st.sub? r.userSubscriptionId = some sub
  valid : sub.Valid

variable {st : Store} {requestId : String} {r : SubscriptionPreConsumeRecord}
  {sub : UserSubscription}

theorem Store.Open.id_eq (h : st.Open requestId r sub) : sub.id = r.userSubscriptionId :=
  Table.key_of_find? h.row

/-- What is left of `used` once `amount` is given back. -/
def giveBack (amount used : ℤ) : ℤ := max (used - amount) 0

theorem UserSubscription.Valid.giveBack (h : sub.Valid) {amount : ℤ} (ha : 0 < amount) :
    (sub.withUsed (giveBack amount sub.amountUsed)).Valid := by
  have hn := h.nonneg
  refine ⟨h.id_pos, le_max_right _ _, fun ht => ?_⟩
  have ht' := h.le_total ht
  change max (sub.amountUsed - amount) 0 ≤ sub.amountTotal
  omega

section

variable (h : st.Open requestId r sub)

include h

theorem Store.Open.postConsume :
    postConsumeUserSubscriptionDelta r.userSubscriptionId (-r.preConsumed) st =
      .ok (st.saveSub (sub.withUsed (giveBack r.preConsumed sub.amountUsed))) := by
  have hid := h.valid.id_pos
  have hp := h.pos
  have hback := (h.valid.giveBack h.pos).le_total
  rw [h.id_eq] at hid
  unfold postConsumeUserSubscriptionDelta
  rw [if_neg (by omega), if_neg (by omega), h.row]
  exact if_neg fun ⟨ht, hgt⟩ => absurd (hback ht) (not_le.mpr hgt)

/-- Giving back leaves the record open, over the smaller usage. -/
theorem Store.Open.giveBack :
    (st.saveSub (sub.withUsed (giveBack r.preConsumed sub.amountUsed))).Open requestId r
      (sub.withUsed (Subscription.giveBack r.preConsumed sub.amountUsed)) where
  named := h.named
  record := h.record
  consumed := h.consumed
  key := h.key
  pos := h.pos
  row := by
    rw [← h.id_eq]
    exact st.saveSub_sub?_self (sub.withUsed _) (h.id_eq ▸ h.row)
  valid := h.valid.giveBack h.pos

/-- **An attempt on an open record** ends in success, or fails with the amount returned, or fails
with nothing done. -/
theorem Store.Open.refundAttempt (fault : RefundFault) :
    refundSubscriptionPreConsume fault requestId st =
      let back := st.saveSub (sub.withUsed (Subscription.giveBack r.preConsumed sub.amountUsed))
      match fault with
      | .none => (.ok (), back.saveRecord { r with status := .refunded })
      | .lockRead | .innerTx => (.error .database, st)
      | .saveRecord | .commit => (.error .database, back) := by
  have hp : ¬ r.preConsumed ≤ 0 := not_le.mpr h.pos
  unfold refundSubscriptionPreConsume
  rw [h.named, h.record]
  cases fault <;> simp [h.consumed, hp, h.postConsume]

/-- A retry whose first attempt meets no fault ends there. -/
theorem Store.Open.refundWithRetry_clean {faults : ℕ → RefundFault} (hf : faults 0 = .none) :
    Subscription.refundWithRetry faults requestId st = (.ok (),
      (st.saveSub (sub.withUsed (Subscription.giveBack r.preConsumed sub.amountUsed))).saveRecord
        { r with status := .refunded }) := by
  have hattempt := h.refundAttempt (faults 0)
  rw [hf] at hattempt
  unfold Subscription.refundWithRetry Retry.retry maxAttempts
  rw [Retry.loop, hf, hattempt]

end

/-- **A refund without faults** returns the amount of an unrefunded record that has one, and
otherwise touches no row. -/
theorem refund_eq {st' : Store} {u : Unit} (hr : st.records requestId = some r)
    (h : refundSubscriptionPreConsume .none requestId st = (.ok u, st')) :
    (r.status = .consumed ∧ 0 < r.preConsumed ∧ ∃ st₁, postConsumeUserSubscriptionDelta
        r.userSubscriptionId (-r.preConsumed) st = .ok st₁ ∧
        st' = st₁.saveRecord { r with status := .refunded }) ∨
      (¬ (r.status = .consumed ∧ 0 < r.preConsumed) ∧ st'.subs = st.subs) := by
  unfold refundSubscriptionPreConsume at h
  rw [hr] at h
  simp only [reduceCtorEq, if_false, or_self] at h
  split at h
  · cases h
  split at h
  · next hs =>
    obtain rfl := (Prod.mk.inj h).2
    exact .inr ⟨fun hc => (by simp [hc.1] at hs), rfl⟩
  next hs =>
  have hcons : r.status = .consumed := by cases hst : r.status <;> simp_all
  split at h
  · next hp =>
    obtain rfl := (Prod.mk.inj h).2
    exact .inr ⟨fun hc => absurd hc.2 (not_lt.mpr hp), rfl⟩
  next hp =>
  split at h
  · cases h
  next st₁ hpost =>
  obtain rfl := (Prod.mk.inj h).2
  exact .inl ⟨hcons, not_le.mp hp, st₁, hpost, rfl⟩

/-! ## Whole retries -/

/-- Of the attempts `i, i + 1, …` that `n` more allow, those made (none follows a success) that get
past the inner transaction. -/
def innerCommits (faults : ℕ → RefundFault) : ℕ → ℕ → ℕ
  | 0, _ => 0
  | n + 1, i =>
    if faults i = .none then 1
    else (if (faults i).pastInner then 1 else 0) + innerCommits faults n (i + 1)

/-- The usage of a row. -/
def Store.used? (st : Store) (id : ℤ) : Option ℤ := (st.sub? id).map (·.amountUsed)

theorem giveBack_giveBack {amount used : ℤ} (ha : 0 < amount) (d : ℕ) :
    giveBack amount (giveBack (d * amount) used) = giveBack ((d + 1 : ℕ) * amount) used := by
  have hd : ((d + 1 : ℕ) : ℤ) * amount = d * amount + amount := by push_cast; ring
  unfold giveBack
  omega

/-- **The usage after a whole retry** is what `innerCommits` returns of the amount leave, and a
success has marked the record. -/
theorem Store.Open.refundWithRetry (h : st.Open requestId r sub) (faults : ℕ → RefundFault) :
    let out := Subscription.refundWithRetry faults requestId st
    out.2.used? r.userSubscriptionId =
        some (Subscription.giveBack (innerCommits faults maxAttempts 0 * r.preConsumed) sub.amountUsed) ∧
      (out.1 = .ok () → 0 < innerCommits faults maxAttempts 0 ∧
        out.2.records requestId = some { r with status := .refunded }) := by
  generalize htotal : innerCommits faults maxAttempts 0 = total
  -- before attempt `i`, `d` of the commits are behind and the record is open over what they left
  have key := Retry.retry_rule (fun i => refundSubscriptionPreConsume (faults i) requestId)
    (P := fun n i s => ∃ (d : ℕ) (sub' : UserSubscription), s.Open requestId r sub' ∧
      sub'.amountUsed = Subscription.giveBack (d * r.preConsumed) sub.amountUsed ∧
      d + innerCommits faults n i = total)
    (Q := fun res s => s.used? r.userSubscriptionId =
        some (Subscription.giveBack (total * r.preConsumed) sub.amountUsed) ∧
      (res = .ok () → 0 < total ∧ s.records requestId = some { r with status := .refunded }))
    ?_ ?_ ?_ 2 st ⟨0, sub, h, ?_, by rw [← htotal]; exact Nat.zero_add _⟩
  · exact key
  · rintro n i s s' ⟨d, sub', ho, hu, hd⟩ hok
    rw [ho.refundAttempt] at hok
    rw [innerCommits] at hd
    cases hf : faults i <;> simp only [hf] at hok <;> cases hok
    rw [if_pos hf] at hd
    subst hd
    refine ⟨?_, fun _ => ⟨by omega, ?_⟩⟩
    · rw [Store.used?, Store.saveRecord_sub?, ho.giveBack.row, Option.map_some,
        ← giveBack_giveBack h.pos, ← hu]
      rfl
    · rw [← ho.key]; exact Store.saveRecord_records_self _ _
  · rintro n i s e s' ⟨d, sub', ho, hu, hd⟩ herr
    rw [ho.refundAttempt] at herr
    rw [innerCommits] at hd
    cases hf : faults i <;> simp only [hf] at herr <;> cases herr <;>
      simp only [hf, RefundFault.pastInner, reduceCtorEq, if_false, if_true, Bool.false_eq_true] at hd
    · exact ⟨d, sub', ho, hu, by omega⟩
    · exact ⟨d, sub', ho, hu, by omega⟩
    · exact ⟨d + 1, _, ho.giveBack, by rw [← giveBack_giveBack h.pos, ← hu]; rfl, by omega⟩
    · exact ⟨d + 1, _, ho.giveBack, by rw [← giveBack_giveBack h.pos, ← hu]; rfl, by omega⟩
  · rintro i s e ⟨d, sub', ho, hu, hd⟩
    rw [innerCommits, Nat.add_zero] at hd
    subst hd
    exact ⟨by rw [Store.used?, ho.row, Option.map_some, hu], fun h => by cases h⟩
  · have := h.valid.nonneg
    simp only [Subscription.giveBack, Nat.cast_zero, zero_mul]
    omega

/-- Over the attempts of one retry, the amount is returned at most once, and exactly once, with the
record marked, if one of them succeeds. -/
def RefundsOnce (faults : ℕ → RefundFault) (requestId : String) (st : Store)
    (r : SubscriptionPreConsumeRecord) (used : ℤ) : Prop :=
  let out := refundWithRetry faults requestId st
  (out.2.used? r.userSubscriptionId = some used ∨
    out.2.used? r.userSubscriptionId = some (giveBack r.preConsumed used)) ∧
  (out.1 = .ok () → out.2.used? r.userSubscriptionId = some (giveBack r.preConsumed used) ∧
    out.2.records requestId = some { r with status := .refunded })

/-- **A retried refund returns the amount once exactly when** at most one attempt gets past the
inner transaction, or the usage is not above the amount, so that the clamp hides the repetition. -/
theorem refundsOnce_iff (h : st.Open requestId r sub) (faults : ℕ → RefundFault) :
    RefundsOnce faults requestId st r sub.amountUsed ↔
      innerCommits faults maxAttempts 0 ≤ 1 ∨ sub.amountUsed ≤ r.preConsumed := by
  obtain ⟨hused, hok⟩ := h.refundWithRetry faults
  have hp := h.pos
  have hn := h.valid.nonneg
  set k := innerCommits faults maxAttempts 0
  simp only [RefundsOnce, hused, Option.some.injEq]
  constructor
  · rintro ⟨honce, -⟩
    by_contra hcon
    rw [not_or, not_le, not_le] at hcon
    have hk : 2 * r.preConsumed ≤ k * r.preConsumed :=
      mul_le_mul_of_nonneg_right (by exact_mod_cast hcon.1) hp.le
    unfold giveBack at honce
    omega
  · intro hcond
    have hcase : k = 0 ∨ giveBack (k * r.preConsumed) sub.amountUsed
        = giveBack r.preConsumed sub.amountUsed := by
      rcases Nat.lt_or_ge k 2 with hk | hk
      · interval_cases k
        · exact .inl rfl
        · exact .inr (by simp)
      · have hk' : 2 * r.preConsumed ≤ k * r.preConsumed :=
          mul_le_mul_of_nonneg_right (by exact_mod_cast hk) hp.le
        refine .inr ?_
        unfold giveBack
        omega
    refine ⟨hcase.imp (fun h0 => ?_) id, fun hsucc => ⟨?_, (hok hsucc).2⟩⟩
    · rw [h0]
      unfold giveBack
      simp only [Nat.cast_zero, zero_mul]
      omega
    · exact hcase.resolve_left (hok hsucc).1.ne'

/-- A subscription that has used 300 of its 1000. -/
def openSub : UserSubscription where
  id := 1
  userId := 1
  planId := 1
  amountTotal := 1000
  amountUsed := 300
  endTime := 100

/-- …with a record of 100 on it. -/
def openStore : Store where
  loc := Calendar.utc
  plans _ := none
  subs := ⟨[openSub], by decide⟩
  records := Function.update (fun _ => none) "req" (some ⟨"req", 1, 1, 100, .consumed⟩)

theorem openStore_open : openStore.Open "req" ⟨"req", 1, 1, 100, .consumed⟩ openSub where
  named := by decide
  record := by decide
  consumed := rfl
  key := rfl
  pos := by decide
  row := by decide
  valid := ⟨by decide, by decide, by decide⟩

theorem refundsOnce_of_clean_retry :
    RefundsOnce (fun i => if i = 0 then .innerTx else .none) "req" openStore
      ⟨"req", 1, 1, 100, .consumed⟩ 300 :=
  (refundsOnce_iff openStore_open _).mpr (.inl (by decide))

/-- The save of the record fails once: the second attempt returns the 100 again. -/
theorem not_refundsOnce_of_failed_save :
    ¬ RefundsOnce (fun i => if i = 0 then .saveRecord else .none) "req" openStore
      ⟨"req", 1, 1, 100, .consumed⟩ 300 := by
  have hused : (refundWithRetry (fun i => if i = 0 then .saveRecord else .none) "req"
      openStore).2.used? 1 = some 100 := by decide
  intro h
  simp [RefundsOnce, hused, giveBack] at h

end Subscription
