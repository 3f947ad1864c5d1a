import NewApi.Machinery.Runs
import NewApi.Subscription.Refund

/-!
# Subscription/Usage — usage over whole runs

Runs of pre-consumes, settlement deltas, refunds and resets, in any order.  Beside the store a run
keeps, for each subscription, the *period*: the requests pre-consumed since its last reset and every
change of its usage since then, with the request on whose behalf it was made.  A settlement delta
reaches the code without a request id; its label carries the one it settles.

* `Usage.step_inv` — no operation takes usage below what the period's entries moved.
* `usage_covers_period` — usage covers the net charges of the period, except for what was taken off
  on behalf of requests of an earlier period.
* `resetDueSubscriptions_rows` — a scheduled pass resets the due rows and touches no other.
-/

namespace Subscription

open Table

/-- A change of usage: what was asked for, and what the clamp at zero let through. -/
structure Entry where
  request : String
  delta : ℤ
  moved : ℤ

/-- A subscription's history since its last reset. -/
structure Period where
  opened : List String := []
  entries : List Entry := []

namespace Period

variable (p : Period)

/-- The net charges (pre-consume, settlement and refund) of the requests opened in this period. -/
def net : ℤ := (p.entries.map fun e => if e.request ∈ p.opened then e.delta else 0).sum

/-- What was taken off usage on behalf of any other request. -/
def handedBack : ℤ :=
  (p.entries.map fun e => if e.request ∈ p.opened then 0 else max (-e.moved) 0).sum

/-- What the period has moved. -/
def moved : ℤ := (p.entries.map (·.moved)).sum

/-- One move more. -/
def add (e : Entry) : Period := { p with entries := e :: p.entries }

/-- A pre-consume opens its request. -/
def charge (request : String) (amount : ℤ) : Period where
  opened := request :: p.opened
  entries := ⟨request, amount, amount⟩ :: p.entries

@[simp] theorem moved_add (e : Entry) : (p.add e).moved = e.moved + p.moved := rfl

@[simp] theorem moved_charge (request : String) (amount : ℤ) :
    (p.charge request amount).moved = amount + p.moved := rfl

/-- The clamp only ever takes off less than was asked for. -/
def Clamped : Prop := ∀ e ∈ p.entries, e.delta ≤ e.moved

/-- **Net charges exceed what was moved by no more than was handed back.** -/
theorem net_le {p : Period} (h : p.Clamped) : p.net ≤ p.moved + p.handedBack := by
  unfold net moved handedBack
  rw [← List.sum_map_add]
  refine List.sum_le_sum fun e he => ?_
  have hclamp := h e he
  split <;> omega

end Period

/-! ## Runs -/

/-- The store, with what each row's period has seen. -/
structure Usage where
  store : Store
  period : ℤ → Period

/-- The calls that move usage. -/
inductive UsageOp where
  | preConsume (env : PreConsumeEnv) (requestId : String) (userId amount : ℤ)
  /-- `PostConsumeUserSubscriptionDelta`, settling or adjusting the charge of `requestId`. -/
  | postConsume (requestId : String) (userSubscriptionId delta : ℤ)
  | refund (requestId : String)
  /-- The transaction of the scheduled reset on one subscription. -/
  | resetDue (now : ℤ) (fuel : ℕ) (userSubscriptionId : ℤ)

namespace Usage

/-- Every subscription at the start of a period. -/
def start (st : Store) : Usage := ⟨st, fun _ => {}⟩

/-- A delta on `id` led to the store `st`. -/
def adjust (u : Usage) (request : String) (id delta : ℤ) (st : Store) : Usage where
  store := st
  period := Function.update u.period id ((u.period id).add
    ⟨request, delta, (st.used? id).getD 0 - (u.store.used? id).getD 0⟩)

/-- One call. -/
def step (u : Usage) : UsageOp → Usage
  | .preConsume env requestId userId amount =>
    match preConsumeTx env requestId userId amount u.store with
    | .error _ => u
    | .ok (_, t, st) =>
      { store := st
        period := fun i =>
          let p := if i ∈ t.resets then {} else u.period i
          if t.charged = some i then p.charge requestId amount else p }
  | .postConsume requestId id delta =>
    match postConsumeUserSubscriptionDelta id delta u.store with
    | .error _ => u
    | .ok st => u.adjust requestId id delta st
  | .refund requestId =>
    match u.store.records requestId, refundSubscriptionPreConsume .none requestId u.store with
    | some r, (.ok _, st) =>
      if r.status = .consumed ∧ 0 < r.preConsumed then
        u.adjust requestId r.userSubscriptionId (-r.preConsumed) st
      else ⟨st, u.period⟩
    | _, _ => u
  | .resetDue now fuel id =>
    match resetDueSubscription now fuel id u.store with
    | .ok (some true, st) => ⟨st, Function.update u.period id {}⟩
    | .ok (_, st) => ⟨st, u.period⟩
    | .error _ => u

/-- A valid row whose usage covers what the period moved. -/
structure RowInv (p : Period) (sub : UserSubscription) : Prop where
  valid : sub.Valid
  covers : p.moved ≤ sub.amountUsed
  clamped : p.Clamped

/-- Every row has used what its period has moved. -/
def Inv (u : Usage) : Prop := ∀ i sub, u.store.sub? i = some sub → RowInv (u.period i) sub

variable {st : Store}

theorem inv_start (h : ∀ i sub, st.sub? i = some sub → sub.Valid) :
    (start st).Inv := fun i sub hsub =>
  ⟨h i sub hsub, (h i sub hsub).nonneg, fun e he => by simp [start] at he⟩

/-! ## One step -/

variable {p : Period} {b : UserSubscription}

theorem RowInv.reset {a : UserSubscription} (h : RowInv p b) (hid : a.id = b.id)
    (hu : a.amountUsed = 0) :
    RowInv {} a where
  valid := ⟨hid ▸ h.valid.id_pos, hu.ge, fun hpos => hu ▸ hpos.le⟩
  covers := hu.ge
  clamped := fun e he => by cases he

theorem RowInv.keep {a : UserSubscription} (h : RowInv p b) (hid : a.id = b.id)
    (ht : a.amountTotal = b.amountTotal) (hu : a.amountUsed = b.amountUsed) :
    RowInv p a where
  valid := ⟨hid ▸ h.valid.id_pos, hu ▸ h.valid.nonneg, by rw [ht, hu]; exact h.valid.le_total⟩
  covers := hu ▸ h.covers
  clamped := h.clamped

theorem RowInv.charge {amount : ℤ} (request : String) (ha : 0 < amount)
    (hfit : 0 < b.amountTotal → b.amountUsed + amount ≤ b.amountTotal) (h : RowInv p b) :
    RowInv (p.charge request amount) (b.withUsed (b.amountUsed + amount)) where
  valid := ⟨h.valid.id_pos, add_nonneg h.valid.nonneg ha.le, hfit⟩
  covers := by
    have hcov := h.covers
    rw [Period.moved_charge, UserSubscription.withUsed_amountUsed]
    omega
  clamped := fun e he => by
    rcases List.mem_cons.mp he with rfl | he
    · exact le_rfl
    · exact h.clamped e he

theorem RowInv.adjust (request : String) (delta : ℤ)
    (hfit : 0 < b.amountTotal → max (b.amountUsed + delta) 0 ≤ b.amountTotal) (h : RowInv p b) :
    RowInv (p.add ⟨request, delta, max (b.amountUsed + delta) 0 - b.amountUsed⟩)
      (b.withUsed (max (b.amountUsed + delta) 0)) where
  valid := ⟨h.valid.id_pos, le_max_right _ _, hfit⟩
  covers := by
    have hcov := h.covers
    rw [Period.moved_add, UserSubscription.withUsed_amountUsed]
    dsimp only
    omega
  clamped := fun e he => by
    rcases List.mem_cons.mp he with rfl | he
    · dsimp only
      omega
    · exact h.clamped e he

variable {u : Usage}

theorem Inv.adjust (hu : u.Inv) (request : String) {id delta : ℤ}
    (h : postConsumeUserSubscriptionDelta id delta u.store = .ok st) :
    (u.adjust request id delta st).Inv := by
  intro i sub hsub
  obtain ⟨-, ⟨rfl, rfl⟩ | ⟨b, hb, -, hfit, rfl⟩⟩ := postConsume_eq h
  · have hrow := hu i sub hsub
    by_cases hi : i = id
    · subst hi
      have hnn := hrow.valid.nonneg
      have hmax : max (sub.amountUsed + 0) 0 = sub.amountUsed := by omega
      have key := hrow.adjust request 0 (by rw [hmax]; exact hrow.valid.le_total)
      rw [hmax, sub_self] at key
      simpa [Usage.adjust] using key.keep (a := sub) rfl rfl rfl
    · simpa [Usage.adjust, hi] using hrow
  · have hbid : b.id = id := key_of_find? hb
    change (u.store.saveSub _).sub? i = some sub at hsub
    by_cases hi : i = id
    · subst hi
      have hself : (u.store.saveSub (b.withUsed (max (b.amountUsed + delta) 0))).sub? i
          = some (b.withUsed (max (b.amountUsed + delta) 0)) := by
        rw [← hbid]
        exact u.store.saveSub_sub?_self (b.withUsed _) (hbid ▸ hb)
      obtain rfl := Option.some.inj (hself.symm.trans hsub)
      have key := (hu i b hb).adjust request delta hfit
      simpa [Usage.adjust, Store.used?, hself, hb] using key
    · rw [u.store.saveSub_sub?_of_ne _ (by simpa [hbid] using hi)] at hsub
      simpa [Usage.adjust, hi] using hu i sub hsub

theorem Inv.preConsume (hu : u.Inv) {env : PreConsumeEnv} {requestId : String} {userId amount : ℤ} :
    (u.step (.preConsume env requestId userId amount)).Inv := by
  rw [step]
  split
  · exact hu
  next res t st h =>
  have hspec := preConsumeTx_preConsumed h
  have ha := (preConsumeTx_args h).2.2
  intro i a hsub
  have hrow := hspec.rows i
  rw [hsub] at hrow
  generalize hb : u.store.sub? i = o at hrow
  cases hrow with
  | some hrow =>
    next b =>
    have hid : a.id = b.id := (key_of_find? hsub).trans (key_of_find? hb).symm
    have hinv : RowInv (if i ∈ t.resets then {} else u.period i)
        (a.withUsed (if i ∈ t.resets then 0 else b.amountUsed)) := by
      split
      · exact (hu i b hb).reset hid rfl
      · exact (hu i b hb).keep hid hrow.total rfl
    have hused := hrow.used
    dsimp only
    by_cases hc : t.charged = some i
    · have hfit := hrow.fits (by rw [if_pos hc]; exact ha.ne')
      rw [if_pos hc] at hused ⊢
      have key := hinv.charge requestId ha (fun ht => by
        rw [UserSubscription.withUsed_amountUsed, ← hused]
        exact hfit ht)
      exact key.keep rfl rfl hused
    · rw [if_neg hc, add_zero] at hused
      rw [if_neg hc]
      exact hinv.keep rfl rfl hused

theorem Inv.refund (hu : u.Inv) {requestId : String} : (u.step (.refund requestId)).Inv := by
  rw [step]
  split
  · next r _ st hr hst =>
    rcases refund_eq hr hst with ⟨hs, hp, st₁, hpost, rfl⟩ | ⟨hn, hsubs⟩
    · rw [if_pos ⟨hs, hp⟩]
      exact fun i sub hsub => hu.adjust requestId hpost i sub hsub
    · rw [if_neg hn]
      intro i sub hsub
      refine hu i sub ?_
      rw [← hsub, Store.sub?, Store.sub?, hsubs]
  · exact hu

theorem Inv.resetDue (hu : u.Inv) {now : ℤ} {fuel : ℕ} {id : ℤ} :
    (u.step (.resetDue now fuel id)).Inv := by
  cases h : resetDueSubscription now fuel id u.store with
  | error e => rw [step, h]; exact hu
  | ok r =>
    obtain ⟨reply, st⟩ := r
    rcases resetDue_eq h with ⟨rfl, rfl⟩ | ⟨b, a, advanced, rfl, hb, rfl, hid, ht, hused⟩
    · rw [step, h]; exact hu
    · have hself : (u.store.saveSub a).sub? id = some a := by
        rw [← key_of_find? hb, ← hid]
        exact u.store.saveSub_sub?_self _ (by rw [hid, key_of_find? hb]; exact hb)
      have hother : ∀ i ≠ id, (u.store.saveSub a).sub? i = u.store.sub? i := fun i hi =>
        u.store.saveSub_sub?_of_ne _ (by rwa [hid, key_of_find? hb])
      cases advanced with
      | true =>
        rw [step, h]
        intro i sub hsub
        by_cases hi : i = id
        · subst hi
          obtain rfl := Option.some.inj (hself.symm.trans hsub)
          simpa using (hu i b hb).reset hid (by simpa using hused)
        · simpa [hi] using hu i sub ((hother i hi).symm.trans hsub)
      | false =>
        rw [step, h]
        intro i sub hsub
        by_cases hi : i = id
        · subst hi
          obtain rfl := Option.some.inj (hself.symm.trans hsub)
          exact (hu i b hb).keep hid ht (by simpa using hused)
        · exact hu i sub ((hother i hi).symm.trans hsub)

/-- **No operation takes usage below what its period moved.** -/
theorem step_inv (u : Usage) (op : UsageOp) (hu : u.Inv) : (u.step op).Inv := by
  cases op with
  | preConsume env requestId userId amount => exact hu.preConsume
  | postConsume requestId id delta =>
    rw [step]
    split
    · exact hu
    · next h => exact hu.adjust _ h
  | refund requestId => exact hu.refund
  | resetDue now fuel id => exact hu.resetDue

theorem run_inv (h : ∀ i sub, st.sub? i = some sub → sub.Valid) (ops : List UsageOp) :
    (Runs.run step (start st) ops).Inv :=
  Runs.stable step_inv (inv_start h) ops

end Usage

/-- **Usage accounting over whole runs.**  Usage is never negative and never above a positive total;
and it covers the net charges of the requests pre-consumed since the last reset, up to what was
taken off since then on behalf of other requests. -/
theorem usage_covers_period {st : Store} (h : ∀ i sub, st.sub? i = some sub → sub.Valid)
    (ops : List UsageOp) {i : ℤ} {sub : UserSubscription}
    (hsub : (Runs.run Usage.step (.start st) ops).store.sub? i = some sub) :
    0 ≤ sub.amountUsed ∧ (0 < sub.amountTotal → sub.amountUsed ≤ sub.amountTotal) ∧
      ((Runs.run Usage.step (.start st) ops).period i).net ≤
        sub.amountUsed + ((Runs.run Usage.step (.start st) ops).period i).handedBack := by
  have hrow := Usage.run_inv h ops i sub hsub
  have hnet := Period.net_le hrow.clamped
  have hcov := hrow.covers
  exact ⟨hrow.valid.nonneg, hrow.valid.le_total, by omega⟩

/-! ## A refund that arrives after the reset -/

/-- A subscription of 1000 on a daily plan. -/
def dailySub : UserSubscription where
  id := 1
  userId := 1
  planId := 1
  amountTotal := 1000
  endTime := 1000000
  nextResetTime := 86400

/-- A plan with daily resets and one row. -/
def dailyStore : Store where
  loc := Calendar.utc
  plans id := if id = 1 then some { id := 1, quotaResetPeriod := "daily" } else none
  subs := ⟨[dailySub], by decide⟩
  records _ := none

/-- Request `a` is pre-consumed on the first day and refunded on the second, after `b` was. -/
def lateRefund : List UsageOp :=
  [.preConsume { now := 1000, fuel := 2 } "a" 1 100,
    .preConsume { now := 90000, fuel := 2 } "b" 1 100, .refund "a"]

theorem usage_covers_period_lateRefund :
    (0 : ℤ) ≤ 0 ∧ ((0 : ℤ) < 1000 → (0 : ℤ) ≤ 1000) ∧
      ((Runs.run Usage.step (.start dailyStore) lateRefund).period 1).net ≤
        0 + ((Runs.run Usage.step (.start dailyStore) lateRefund).period 1).handedBack :=
  @usage_covers_period dailyStore
    (fun i sub h => by
      obtain ⟨hm, -⟩ := find?_eq_some_iff.mp h
      obtain rfl : sub = dailySub := by simpa [dailyStore] using hm
      exact ⟨by decide, by decide, by decide⟩)
    lateRefund 1
    { dailySub with amountUsed := 0, lastResetTime := 86400, nextResetTime := 172800 } (by decide)

/-- Refunding `a` takes off the 100 that `b` was charged in the new period. -/
theorem lateRefund_uncovers_period :
    (Runs.run Usage.step (.start dailyStore) lateRefund).store.used? 1 = some 0 ∧
      ((Runs.run Usage.step (.start dailyStore) lateRefund).period 1).net = 100 := by
  decide

/-! ## Scheduled passes -/

/-- What a lazy reset makes of a row, where its plan is found. -/
def Store.resetRow (st : Store) (now : ℤ) (fuel : ℕ) (sub : UserSubscription) : UserSubscription :=
  match st.getSubscriptionPlanById sub.planId with
  | .error _ => sub
  | .ok plan => (maybeResetUserSubscription st.loc plan now fuel sub).elim sub Prod.fst

/-- Whether a row is counted as reset. -/
def Store.planFound (st : Store) (sub : UserSubscription) : Bool :=
  (st.getSubscriptionPlanById sub.planId).toBool

theorem Store.sub?_of_mem_dueSubs {st : Store} {now limit : ℤ} {sub : UserSubscription}
    (h : sub ∈ st.dueSubs now limit) :
    st.sub? sub.id = some sub ∧ 0 < sub.nextResetTime ∧ sub.nextResetTime ≤ now := by
  have hmem := List.mem_of_mem_take h
  rw [List.mem_insertionSort, List.mem_filter, Bool.and_eq_true, decide_eq_true_iff] at hmem
  exact ⟨find?_of_mem hmem.1, hmem.2.1⟩

theorem Store.nodup_dueSubs (st : Store) (now limit : ℤ) :
    ((st.dueSubs now limit).map (·.id)).Nodup := by
  have hrows : (st.subs.rows.map (·.id)).Nodup := st.subs.nodup
  refine ((((List.perm_insertionSort _ _).map _).nodup_iff).2 ?_).sublist
    ((List.take_sublist _ _).map _)
  exact hrows.sublist (List.filter_sublist.map _)

variable {st : Store} {now : ℤ} (fuel : ℕ)

/-- A transaction resets one row, and leaves plans and location alone. -/
structure ResetsRow (now : ℤ) (fuel : ℕ) (st : Store) (sub : UserSubscription) (st' : Store) :
    Prop where
  rows : ∀ id, st'.sub? id = if id = sub.id then some (st.resetRow now fuel sub) else st.sub? id
  planFound : st'.planFound = st.planFound
  resetRow : st'.resetRow now fuel = st.resetRow now fuel

/-- **One transaction**: the row is as it was selected, so it is due. -/
theorem resetDueSubscription_eq {sub : UserSubscription} (hsub : st.sub? sub.id = some sub)
    (hdue : 0 < sub.nextResetTime ∧ sub.nextResetTime ≤ now) :
    (∃ e, resetDueSubscription now fuel sub.id st = .error e) ∨
      ∃ reply st', resetDueSubscription now fuel sub.id st = .ok (reply, st') ∧
        reply.isSome = st.planFound sub ∧ ResetsRow now fuel st sub st' := by
  unfold resetDueSubscription
  rw [hsub]
  dsimp only
  cases hplan : st.getSubscriptionPlanById sub.planId with
  | error e =>
    refine .inr ⟨none, st, rfl, by rw [Store.planFound, hplan]; rfl, fun id => ?_, rfl, rfl⟩
    split_ifs with hid
    · rw [hid, hsub, Store.resetRow, hplan]
    · rfl
  | ok plan =>
    dsimp only
    rw [if_pos hdue]
    cases hreset : maybeResetUserSubscription st.loc plan now fuel sub with
    | none => exact .inl ⟨_, rfl⟩
    | some result =>
      obtain ⟨sub', advanced⟩ := result
      obtain ⟨last, next, hrow⟩ := maybeReset_eq hreset
      have hid' : sub'.id = sub.id := by rw [hrow]
      have hrow' : st.resetRow now fuel sub = sub' := by
        rw [Store.resetRow, hplan]
        dsimp only
        rw [hreset]
        rfl
      refine .inr ⟨_, _, rfl, by rw [Store.planFound, hplan]; rfl, fun id => ?_, rfl, rfl⟩
      rw [hrow']
      split_ifs with hid
      · rw [hid, ← hid']
        exact st.saveSub_sub?_self sub' (hid' ▸ hsub)
      · exact st.saveSub_sub?_of_ne sub' (hid' ▸ hid)

/-- **The loop of a pass**, over rows that are due: those it reaches before an error are reset, and
no other row changes. -/
theorem resetEach_rows (subs : List UserSubscription) (count : ℕ) (st : Store)
    (hnodup : (subs.map (·.id)).Nodup)
    (hdue : ∀ sub ∈ subs, st.sub? sub.id = some sub ∧
      0 < sub.nextResetTime ∧ sub.nextResetTime ≤ now) :
    ∃ n, ((resetEach now fuel (subs.map (·.id)) count st).2.1 = none → n = subs.length) ∧
      (resetEach now fuel (subs.map (·.id)) count st).1 =
        count + (subs.take n).countP st.planFound ∧
      ∀ id, (resetEach now fuel (subs.map (·.id)) count st).2.2.sub? id =
        (st.sub? id).map fun sub =>
          if sub ∈ subs.take n then st.resetRow now fuel sub else sub := by
  induction subs generalizing count st with
  | nil => exact ⟨0, fun _ => rfl, rfl, fun id => by simp [resetEach]⟩
  | cons sub subs ih =>
    obtain ⟨hsub, hdue₀⟩ := hdue sub List.mem_cons_self
    obtain ⟨hfresh, hnodup'⟩ := List.nodup_cons.1 hnodup
    have hne {other : UserSubscription} (ho : other ∈ subs) : other.id ≠ sub.id :=
      fun heq => hfresh (List.mem_map.2 ⟨other, ho, heq⟩)
    rw [List.map_cons, resetEach]
    obtain ⟨e, herror⟩ | ⟨reply, st', hok, hreply, hreset⟩ :=
      resetDueSubscription_eq fuel hsub hdue₀
    · rw [herror]
      exact ⟨0, nofun, rfl, fun id => by simp⟩
    · rw [hok]
      dsimp only
      obtain ⟨n, hall, hcount, hrows⟩ := ih (if reply.isSome then count + 1 else count) st' hnodup'
        fun other ho => by
          rw [hreset.rows, if_neg (hne ho)]
          exact hdue other (List.mem_cons_of_mem _ ho)
      refine ⟨n + 1, fun hnone => congrArg (· + 1) (hall hnone), ?_, fun id => ?_⟩
      · rw [hcount, hreset.planFound, hreply, List.take_succ_cons, List.countP_cons]
        split_ifs <;> omega
      · rw [hrows, hreset.rows, hreset.resetRow, List.take_succ_cons]
        split_ifs with hid
        · -- the row that was reset is not met again
          have hreset_id : (st.resetRow now fuel sub).id = sub.id :=
            key_of_find? ((hreset.rows sub.id).trans (if_pos rfl))
          have hmem : st.resetRow now fuel sub ∉ subs.take n :=
            fun h => hne (List.mem_of_mem_take h) hreset_id
          rw [hid, hsub, Option.map_some, Option.map_some, if_neg hmem,
            if_pos List.mem_cons_self]
        · cases hrow : st.sub? id with
          | none => rfl
          | some other =>
            have hother : other ≠ sub := fun heq => hid (heq ▸ (key_of_find? hrow).symm)
            simp [hother]

end Subscription
