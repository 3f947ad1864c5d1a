import NewApi.Billing.Ledger
import NewApi.Machinery.Runs
import NewApi.Machinery.Tally

/-!
# Wallet/CachedQuota — one user's balance in the cache, the database and the batch queue

A reservation is taken from the cached balance and persisted afterwards; increases and decreases
write the database or the queue and update the cache from a goroutine of their own; a cache that has
expired is filled from the database.  Every script, statement and goroutine is a step of its own.

* `QuotaRun.step_balanced` — what one step keeps, if a fill finds the ledger up to date.
* `cached_quota_matches` — the cached balance over whole runs.
* `cached_quota_drifts` — a fill from a database that the queue, or a delayed cache update, is ahead
  of.
-/

namespace Wallet

open List

open Billing (maxWalletQuota)

/-- The rest of a call that has begun. -/
inductive QuotaTask where
  /-- `cacheTryReserveUserQuota`, before or after the fill. -/
  | tryReserve (quota : ℤ) (hydrated : Bool)
  /-- `GetUserCache`, for a reservation or for a reader. -/
  | getUserCache (reserving : Option ℤ)
  /-- `populateUserCache` with the balance read. -/
  | populate (snapshot : ℤ) (reserving : Option ℤ)
  /-- `reserveUserQuotaDB`, the fallback. -/
  | reserveUserQuotaDB (quota : ℤ)
  /-- `persistUserQuotaDelta` of what the cache has been charged. -/
  | persist (delta : ℤ)
  /-- The database side of `DecreaseUserQuota`. -/
  | decrease (quota : ℤ) (db : Bool)
  /-- `cacheApplyUserQuotaDelta`. -/
  | cacheDelta (delta : ℤ)
  deriving DecidableEq

/-- The three places of a balance, and what is under way. -/
structure QuotaRun where
  /-- `users.quota`. -/
  quota : ℤ
  /-- The user's entry of the batch queue … -/
  queue : ℤ := 0
  /-- …and those a flush has taken out and not written yet. -/
  flushing : List ℤ := []
  /-- The `Quota` field of the cached hash, if there is one. -/
  cached : Option ℤ := none
  tasks : List QuotaTask := []

/-- The steps of routines and requests. -/
inductive QuotaOp where
  | tryReserveUserQuota (quota : ℤ)
  | increaseUserQuota (quota : ℤ) (db : Bool)
  | decreaseUserQuota (quota : ℤ) (db : Bool)
  | getUserCache
  /-- The next step of a call; if `failing`, the statement it makes fails. -/
  | advance (k : ℕ) (failing : Bool)
  | expire
  | swapQueue
  | writeQueued (n : ℕ)
  deriving DecidableEq

namespace QuotaRun

variable (batchUpdateEnabled : Bool)

/-- A delta to the queue or to the row, as `batchUpdateEnabled` and the caller's `db` have it. -/
def record (w : QuotaRun) (delta : ℤ) (db : Bool) : QuotaRun :=
  if !db && batchUpdateEnabled then { w with queue := w.queue + delta }
  else { w with quota := w.quota + delta }

/-- Routines are started. -/
def spawn (w : QuotaRun) (tasks : List QuotaTask) : QuotaRun := { w with tasks := w.tasks ++ tasks }

/-- What a reservation does when the cache had nothing and the fill is over. -/
def retry : Option ℤ → List QuotaTask
  | none => []
  | some quota => [.tryReserve quota true]

/-- …or when the fill failed. -/
def fallback : Option ℤ → List QuotaTask
  | none => []
  | some quota => [.reserveUserQuotaDB quota]

/-- One step of a call. -/
def perform (w : QuotaRun) (failing : Bool) : QuotaTask → QuotaRun
  | .tryReserve quota hydrated =>
    match w.cached with
    | none =>
      w.spawn (if hydrated then [.reserveUserQuotaDB quota] else [.getUserCache (some quota)])
    | some balance =>
      if balance < quota then w
      else { w with cached := some (balance - quota) }.spawn [.persist (-quota)]
  | .getUserCache reserving =>
    -- a hash that is there may be rejected for its version, and the row is read then too
    w.spawn (if w.cached.isSome && !failing then retry reserving
      else if w.cached.isNone && failing then fallback reserving
      else [.populate w.quota reserving])
  | .populate snapshot reserving =>
    if failing then w.spawn (fallback reserving)
    else { w with cached := w.cached.orElse fun _ => some snapshot }.spawn (retry reserving)
  | .reserveUserQuotaDB quota =>
    if quota ≤ w.quota then { w with quota := w.quota - quota } else w
  | .persist delta =>
    if failing then w.spawn [.cacheDelta (-delta)] else w.record batchUpdateEnabled delta false
  | .decrease quota db => w.record batchUpdateEnabled (-quota) db
  | .cacheDelta delta => { w with cached := w.cached.map (· + delta) }

/-- One step. -/
def step (w : QuotaRun) : QuotaOp → QuotaRun
  | .tryReserveUserQuota quota => if quota ≤ 0 then w else w.spawn [.tryReserve quota false]
  | .increaseUserQuota quota db =>
    if quota < 0 ∨ quota > maxWalletQuota then w
    else if !db && batchUpdateEnabled then
      { w with queue := w.queue + quota }.spawn [.cacheDelta quota]
    else if w.quota ≤ maxWalletQuota - quota then
      { w with quota := w.quota + quota }.spawn [.cacheDelta quota]
    else w
  | .decreaseUserQuota quota db =>
    if quota < 0 then w else w.spawn [.cacheDelta (-quota), .decrease quota db]
  | .getUserCache => w.spawn [.getUserCache none]
  | .advance k failing =>
    match w.tasks[k]? with
    | none => w
    | some task =>
      { w with tasks := w.tasks.eraseIdx k }.perform batchUpdateEnabled failing task
  | .expire => { w with cached := none }
  | .swapQueue => { w with queue := 0, flushing := w.flushing ++ [w.queue] }
  | .writeQueued n =>
    match w.flushing[n]? with
    | none => w
    | some delta => { w with quota := w.quota + delta, flushing := w.flushing.eraseIdx n }

/-- The balance as the books have it: the row and the deltas on their way to it. -/
def ledger (w : QuotaRun) : ℤ := w.quota + w.queue + w.flushing.sum

end QuotaRun

/-! ## What a call still owes -/

namespace QuotaTask

/-- What a call will still add to the ledger. -/
def unpersisted : QuotaTask → ℤ
  | .persist delta => delta
  | .decrease quota _ => -quota
  | _ => 0

/-- …and to the cache. -/
def uncached : QuotaTask → ℤ
  | .cacheDelta delta => delta
  | _ => 0

/-- The routine moves the cache. -/
def isCacheDelta : QuotaTask → Bool
  | .cacheDelta _ => true
  | _ => false

/-- By how much a call will bring the cache closer to the ledger. -/
def lead (task : QuotaTask) : ℤ := task.uncached - task.unpersisted

/-- The amounts of a call have the sign its first check asks for. -/
def Signed : QuotaTask → Prop
  | .tryReserve quota _ => 0 < quota
  | .getUserCache reserving => ∀ quota ∈ reserving, 0 < quota
  | .populate _ reserving => ∀ quota ∈ reserving, 0 < quota
  | .reserveUserQuotaDB quota => 0 < quota
  | .persist delta => delta ≤ 0
  | .decrease quota _ => 0 ≤ quota
  | .cacheDelta _ => True

theorem Signed.unpersisted_nonpos {task : QuotaTask} (h : task.Signed) : task.unpersisted ≤ 0 := by
  cases task with
  | persist delta => exact h
  | decrease quota db => exact Int.neg_nonpos_of_nonneg h
  | _ => exact le_rfl

end QuotaTask

namespace QuotaRun

open QuotaTask

/-- With `owed` more to come, the cached balance is the ledger's. -/
def Balanced (owed : ℤ) (w : QuotaRun) : Prop :=
  ∀ balance ∈ w.cached, balance + (w.tasks.map lead).sum + owed = w.ledger

/-- A fill writes a balance that is up to date, not counting the cache updates under way; and the
fallback to the database finds no cached balance that it would leave behind. -/
def FindsUpToDate (w : QuotaRun) (failing : Bool) : QuotaTask → Prop
  | .populate snapshot _ =>
    failing = false → w.cached = none → snapshot + (w.tasks.map lead).sum = w.ledger
  | .reserveUserQuotaDB quota => quota ≤ w.quota → w.cached = none
  | _ => True

/-- A fill finds no write that the cache has missed. -/
def UpToDate (w : QuotaRun) : QuotaOp → Prop
  | .advance k failing => ∀ task ∈ w.tasks[k]?, w.FindsUpToDate failing task
  | _ => True

instance (w : QuotaRun) (failing : Bool) : ∀ task, Decidable (w.FindsUpToDate failing task)
  | .populate _ _ => inferInstanceAs (Decidable (_ → _ → _))
  | .reserveUserQuotaDB _ => inferInstanceAs (Decidable (_ → _))
  | .tryReserve _ _ => inferInstanceAs (Decidable True)
  | .getUserCache _ => inferInstanceAs (Decidable True)
  | .persist _ => inferInstanceAs (Decidable True)
  | .decrease _ _ => inferInstanceAs (Decidable True)
  | .cacheDelta _ => inferInstanceAs (Decidable True)

instance (w : QuotaRun) : ∀ op, Decidable (w.UpToDate op)
  | .advance k failing =>
    inferInstanceAs (Decidable (∀ task ∈ w.tasks[k]?, w.FindsUpToDate failing task))
  | .tryReserveUserQuota _ => inferInstanceAs (Decidable True)
  | .increaseUserQuota _ _ => inferInstanceAs (Decidable True)
  | .decreaseUserQuota _ _ => inferInstanceAs (Decidable True)
  | .getUserCache => inferInstanceAs (Decidable True)
  | .expire => inferInstanceAs (Decidable True)
  | .swapQueue => inferInstanceAs (Decidable True)
  | .writeQueued _ => inferInstanceAs (Decidable True)

variable {batchUpdateEnabled : Bool} {owed : ℤ} {w : QuotaRun} {tasks : List QuotaTask}

theorem balanced_spawn :
    Balanced owed (w.spawn tasks) ↔ Balanced (owed + (tasks.map lead).sum) w := by
  simp only [Balanced, spawn, ledger, map_append, sum_append]
  refine forall₂_congr fun balance _ => ?_
  constructor <;> intro h <;> omega

theorem ledger_record (delta : ℤ) (db : Bool) :
    (w.record batchUpdateEnabled delta db).ledger = w.ledger + delta := by
  unfold record ledger
  split <;> dsimp only <;> omega

variable {w' : QuotaRun} {delta : ℤ}

section

variable (h : Balanced owed w) (hcached : w'.cached = w.cached) (htasks : w'.tasks = w.tasks)

include h hcached htasks

/-- What a write adds to the books alone is owed from then on. -/
theorem balanced_of_ledger (hledger : w'.ledger = w.ledger + delta) :
    Balanced (owed + delta) w' := by
  intro balance hb
  rw [hcached] at hb
  have := h balance hb
  rw [htasks, hledger]
  omega

/-- …and moving quota within the books owes nothing. -/
theorem balanced_of_ledger_eq (hledger : w'.ledger = w.ledger) : Balanced owed w' := by
  rw [← add_zero owed]
  exact balanced_of_ledger h hcached htasks (hledger.trans (add_zero _).symm)

end

theorem cached_record (delta : ℤ) (db : Bool) :
    (w.record batchUpdateEnabled delta db).cached = w.cached := by
  unfold record
  split <;> rfl

theorem tasks_record (delta : ℤ) (db : Bool) :
    (w.record batchUpdateEnabled delta db).tasks = w.tasks := by
  unfold record
  split <;> rfl

theorem balanced_record {db : Bool} (h : Balanced (owed - delta) w) :
    Balanced owed (w.record batchUpdateEnabled delta db) := by
  have hmoved := balanced_of_ledger h (cached_record delta db) (tasks_record delta db)
    (@ledger_record batchUpdateEnabled w delta db)
  rwa [sub_add_cancel] at hmoved

theorem sum_retry (reserving : Option ℤ) : ((retry reserving).map lead).sum = 0 := by
  cases reserving <;> rfl

theorem sum_fallback (reserving : Option ℤ) : ((fallback reserving).map lead).sum = 0 := by
  cases reserving <;> rfl

/-! ## One step of a call -/

variable {failing : Bool} {quota : ℤ} {hydrated : Bool}

theorem balanced_tryReserve (h : Balanced 0 w) :
    Balanced 0 (w.perform batchUpdateEnabled failing (.tryReserve quota hydrated)) := by
  rw [perform]
  split
  · rw [balanced_spawn]
    split <;> exact h
  · next balance hcached =>
    split
    · exact h
    · rw [balanced_spawn]
      intro b hb
      obtain rfl := Option.mem_some_iff.mp hb
      have := h balance hcached
      simp only [lead, uncached, unpersisted, map_cons, map_nil, sum_cons,
        sum_nil, ledger] at this ⊢
      omega

variable {reserving : Option ℤ}

/-- A fill that is refused changes nothing; one that is made has to be up to date. -/
theorem balanced_populate {snapshot : ℤ} (h : Balanced 0 w)
    (hfill : failing = false → w.cached = none →
      snapshot + (w.tasks.map lead).sum = w.ledger) :
    Balanced 0 (w.perform batchUpdateEnabled failing (.populate snapshot reserving)) := by
  rw [perform]
  split
  · rw [balanced_spawn, sum_fallback]
    exact h
  · next hok =>
    rw [balanced_spawn, sum_retry]
    cases hcached : w.cached with
    | some balance =>
      intro b hb
      exact h b (by rw [hcached]; exact hb)
    | none =>
      intro b hb
      obtain rfl := Option.mem_some_iff.mp hb
      simpa [ledger] using hfill (by simpa using hok) hcached

variable {task : QuotaTask}

/-- **One step of a call**: what it owed is settled, or owed by what is left of it. -/
theorem perform_balanced (h : Balanced task.lead w)
    (hfill : ∀ snapshot reserving, task = .populate snapshot reserving → failing = false →
      w.cached = none → snapshot + (w.tasks.map lead).sum = w.ledger)
    (hdb : ∀ quota, task = .reserveUserQuotaDB quota → quota ≤ w.quota → w.cached = none) :
    Balanced 0 (w.perform batchUpdateEnabled failing task) := by
  cases task with
  | tryReserve quota hydrated => exact balanced_tryReserve h
  | getUserCache reserving =>
    rw [perform, balanced_spawn]
    split_ifs
    · rw [sum_retry]
      exact h
    · rw [sum_fallback]
      exact h
    · exact h
  | populate snapshot reserving => exact balanced_populate h (hfill snapshot reserving rfl)
  | reserveUserQuotaDB quota =>
    rw [perform]
    split
    · next hle =>
      intro b hb
      rw [hdb quota rfl hle] at hb
      cases hb
    · exact h
  | persist delta =>
    rw [perform]
    split
    · rw [balanced_spawn]
      simpa [lead, uncached, unpersisted] using h
    · exact balanced_record (by simpa [lead, uncached, unpersisted] using h)
  | decrease quota db =>
    exact balanced_record (by simpa [lead, uncached, unpersisted] using h)
  | cacheDelta delta =>
    intro b hb
    obtain ⟨balance, hbalance, rfl⟩ := Option.mem_map.mp hb
    have := h balance hbalance
    simp only [lead, uncached, unpersisted, perform, ledger] at this ⊢
    omega

/-! ## One step of the run -/

/-- A quota added to the books is owed to the cache. -/
theorem balanced_increase (h : Balanced 0 w) (hcached : w'.cached = w.cached)
    (htasks : w'.tasks = w.tasks) (hledger : w'.ledger = w.ledger + quota) :
    Balanced 0 (w'.spawn [.cacheDelta quota]) := by
  rw [balanced_spawn]
  simpa [lead, uncached, unpersisted] using balanced_of_ledger h hcached htasks hledger

variable {k : ℕ}

/-- A call that is taken up takes what it owes out of the sum. -/
theorem balanced_eraseIdx (hk : w.tasks[k]? = some task) (h : Balanced 0 w) :
    Balanced task.lead { w with tasks := w.tasks.eraseIdx k } := by
  intro b hb
  have := h b hb
  rw [Tally.sum_map_eraseIdx _ hk]
  simp only [ledger] at this ⊢
  omega

theorem balanced_advance (hk : w.tasks[k]? = some task) (h : Balanced 0 w)
    (hup : w.FindsUpToDate failing task) :
    Balanced 0
      ({ w with tasks := w.tasks.eraseIdx k }.perform batchUpdateEnabled failing task) := by
  refine perform_balanced (balanced_eraseIdx hk h) ?_ ?_
  · rintro snapshot reserving rfl hok hcached
    rw [Tally.sum_map_eraseIdx _ hk, show lead (.populate snapshot reserving) = 0 from rfl,
      sub_zero]
    exact hup hok hcached
  · rintro quota rfl hle
    exact hup hle

/-- **One step** keeps the cached balance with the ledger. -/
theorem step_balanced (w : QuotaRun) (op : QuotaOp) (h : Balanced 0 w) (hup : UpToDate w op) :
    Balanced 0 (w.step batchUpdateEnabled op) := by
  cases op with
  | tryReserveUserQuota quota =>
    rw [step]
    split
    · exact h
    · exact balanced_spawn.mpr h
  | increaseUserQuota quota db =>
    rw [step]
    split_ifs
    · exact h
    · exact balanced_increase h rfl rfl (by simp only [ledger]; omega)
    · exact balanced_increase h rfl rfl (by simp only [ledger]; omega)
    · exact h
  | decreaseUserQuota quota db =>
    rw [step]
    split
    · exact h
    · rw [balanced_spawn]
      simpa [lead, uncached, unpersisted] using h
  | getUserCache => exact balanced_spawn.mpr h
  | advance k failing =>
    rw [step]
    cases hk : w.tasks[k]? with
    | none => exact h
    | some task => exact balanced_advance hk h (hup task hk)
  | expire => exact nofun
  | swapQueue =>
    refine balanced_of_ledger_eq h rfl rfl ?_
    simp only [step, ledger, sum_append, sum_cons, sum_nil]
    omega
  | writeQueued n =>
    rw [step]
    cases hn : w.flushing[n]? with
    | none => exact h
    | some delta =>
      have hsum := Tally.sum_map_eraseIdx id hn
      simp only [map_id, id] at hsum
      refine balanced_of_ledger_eq h rfl rfl ?_
      simp only [ledger]
      omega

/-! ## Signs -/

theorem signed_spawn (h : ∀ task ∈ w.tasks, task.Signed) (hnew : ∀ task ∈ tasks, task.Signed) :
    ∀ task ∈ (w.spawn tasks).tasks, task.Signed := by
  intro task htask
  rcases mem_append.mp htask with ht | ht
  · exact h task ht
  · exact hnew task ht

theorem signed_retry (h : ∀ quota ∈ reserving, 0 < quota) :
    ∀ task ∈ retry reserving, task.Signed := by
  cases reserving with
  | none => exact nofun
  | some quota => simpa [retry, Signed] using h

theorem signed_fallback (h : ∀ quota ∈ reserving, 0 < quota) :
    ∀ task ∈ fallback reserving, task.Signed := by
  cases reserving with
  | none => exact nofun
  | some quota => simpa [fallback, Signed] using h

theorem perform_signed (h : ∀ task ∈ w.tasks, task.Signed) (htask : task.Signed) :
    ∀ t ∈ (w.perform batchUpdateEnabled failing task).tasks, t.Signed := by
  cases task with
  | tryReserve quota hydrated =>
    have hpos : 0 < quota := htask
    rw [perform]
    split
    · refine signed_spawn h ?_
      split <;> simpa [Signed] using hpos
    · split
      · exact h
      · exact signed_spawn h (by simpa [Signed] using hpos.le)
  | getUserCache reserving =>
    refine signed_spawn h ?_
    split_ifs
    · exact signed_retry htask
    · exact signed_fallback htask
    · simpa [Signed] using htask
  | populate snapshot reserving =>
    rw [perform]
    split
    · exact signed_spawn h (signed_fallback htask)
    · exact signed_spawn h (signed_retry htask)
  | reserveUserQuotaDB quota =>
    rw [perform]
    split <;> exact h
  | persist delta =>
    rw [perform]
    split
    · exact signed_spawn h (by simp [Signed])
    · rw [tasks_record]
      exact h
  | decrease quota db =>
    rw [perform, tasks_record]
    exact h
  | cacheDelta delta => exact h

theorem step_signed (w : QuotaRun) (op : QuotaOp) (h : ∀ task ∈ w.tasks, task.Signed) :
    ∀ task ∈ (w.step batchUpdateEnabled op).tasks, task.Signed := by
  cases op with
  | tryReserveUserQuota quota =>
    rw [step]
    split
    · exact h
    · next hpos => exact signed_spawn h (by simpa [Signed] using hpos)
  | increaseUserQuota quota db =>
    rw [step]
    split_ifs
    · exact h
    · exact signed_spawn h (by simp [Signed])
    · exact signed_spawn h (by simp [Signed])
    · exact h
  | decreaseUserQuota quota db =>
    rw [step]
    split
    · exact h
    · next hneg => exact signed_spawn h (by simpa [Signed] using hneg)
  | getUserCache => exact signed_spawn h (by simp [Signed])
  | advance k failing =>
    rw [step]
    cases hk : w.tasks[k]? with
    | none => exact h
    | some task =>
      exact perform_signed (fun t ht => h t (mem_of_mem_eraseIdx ht))
        (h task (mem_of_getElem? hk))
  | expire => exact h
  | swapQueue => exact h
  | writeQueued n =>
    rw [step]
    split <;> exact h

/-! ## Runs -/

/-- No cache update is outstanding. -/
def Quiet (w : QuotaRun) : Prop := ∀ task ∈ w.tasks, task.isCacheDelta = false

instance (w : QuotaRun) : Decidable w.Quiet :=
  inferInstanceAs (Decidable (∀ task ∈ w.tasks, task.isCacheDelta = false))

/-- What the calls under way will still add to the ledger. -/
def unpersisted (w : QuotaRun) : ℤ := (w.tasks.map QuotaTask.unpersisted).sum

theorem Quiet.sum_lead (h : Quiet w) : (w.tasks.map lead).sum = -w.unpersisted := by
  have hlead : ∀ task ∈ w.tasks, task.lead = -task.unpersisted := by
    intro task htask
    have hne := h task htask
    cases task with
    | cacheDelta delta => cases hne
    | _ => simp [lead, uncached]
  rw [map_congr_left hlead, unpersisted, sum_neg, map_map]
  rfl

/-- A reservation the cache accepts is still to be persisted. -/
theorem step_accepts {amount balance : ℤ} (failing : Bool)
    (hk : w.tasks[k]? = some (.tryReserve amount hydrated)) (hcached : w.cached = some balance)
    (hle : amount ≤ balance) :
    (w.step batchUpdateEnabled (.advance k failing)).ledger = w.ledger ∧
      (w.step batchUpdateEnabled (.advance k failing)).unpersisted = w.unpersisted - amount := by
  have hsum := Tally.sum_map_eraseIdx QuotaTask.unpersisted hk
  have hnot : ¬ balance < amount := by omega
  have hstep : w.step batchUpdateEnabled (.advance k failing) =
      { w with
        cached := some (balance - amount)
        tasks := w.tasks.eraseIdx k ++ [.persist (-amount)] } := by
    simp only [step, hk, perform, hcached, if_neg hnot, spawn]
  rw [hstep]
  refine ⟨rfl, ?_⟩
  simp only [unpersisted, map_append, sum_append, hsum]
  simp [QuotaTask.unpersisted]
  omega

end QuotaRun

/-- **The cached balance is the ledger's**: while no cache update is outstanding, it is the database
balance with the deltas not yet flushed and the reservations and decreases not yet persisted — never
more than the ledger, and the ledger itself when no call is under way.  A reservation the cache
accepts then leaves a balance that is not negative.  All that if fills are up to date, and the
fallback to the database leaves no cached balance behind. -/
theorem cached_quota_matches (batchUpdateEnabled : Bool) (quota : ℤ) (ops : List QuotaOp)
    (hup : Runs.Guarded (QuotaRun.step batchUpdateEnabled) QuotaRun.UpToDate { quota } ops) :
    let w := Runs.run (QuotaRun.step batchUpdateEnabled) { quota } ops
    w.Quiet → ∀ balance, w.cached = some balance →
      balance = w.quota + w.queue + w.flushing.sum + w.unpersisted ∧
      balance ≤ w.quota + w.queue + w.flushing.sum ∧
      (w.tasks = [] → balance = w.quota + w.queue + w.flushing.sum) ∧
      ∀ k amount hydrated failing, w.tasks[k]? = some (.tryReserve amount hydrated) →
        amount ≤ balance →
        let w' := w.step batchUpdateEnabled (.advance k failing)
        0 ≤ w'.quota + w'.queue + w'.flushing.sum + w'.unpersisted := by
  intro w hquiet balance hcached
  have hbalanced : QuotaRun.Balanced 0 w :=
    Runs.invariant QuotaRun.step_balanced nofun hup
  have hsigned : ∀ task ∈ w.tasks, task.Signed :=
    Runs.stable QuotaRun.step_signed (forall_mem_nil _) ops
  have heq := hbalanced balance hcached
  rw [hquiet.sum_lead, QuotaRun.ledger] at heq
  have hnonpos : w.unpersisted ≤ 0 := by
    refine (sum_le_card_nsmul _ 0 fun x hx => ?_).trans_eq (nsmul_zero _)
    obtain ⟨task, htask, rfl⟩ := mem_map.mp hx
    exact (hsigned task htask).unpersisted_nonpos
  refine ⟨by omega, by omega, fun hnone => ?_, ?_⟩
  · have hzero : w.unpersisted = 0 := by rw [QuotaRun.unpersisted, hnone]; rfl
    omega
  · intro k amount hydrated failing hk hle w'
    obtain ⟨hledger, hunpersisted⟩ := QuotaRun.step_accepts failing hk hcached hle
    change 0 ≤ w'.ledger + w'.unpersisted
    rw [hledger, hunpersisted, QuotaRun.ledger]
    omega

/-- The steps of a reservation through an empty cache. -/
def reserveSix : List QuotaOp := .tryReserveUserQuota 6 :: List.replicate 5 (.advance 0 false)

/-- …with an increase and a flush behind it. -/
theorem cached_quota_matches_reserved :
    let w := Runs.run (QuotaRun.step true) { quota := 10 }
      (reserveSix ++ [.increaseUserQuota 5 false, .swapQueue, .advance 0 false])
    w.cached = some 9 ∧ 9 = w.quota + w.queue + w.flushing.sum :=
  ⟨by decide, ((cached_quota_matches true 10 _ (by decide)) (by decide) 9 (by decide)).2.2.1
    (by decide)⟩

/-- **The cached balance drifts above the ledger.**  With the batch queue: a fill after the cache has
expired does not see the reservation in the queue, and a second one is accepted beyond the balance.
Without it: a fill between an increase and its cache update counts the increase twice. -/
theorem cached_quota_drifts :
    (let w := Runs.run (QuotaRun.step true) { quota := 10 }
        (reserveSix ++ [.expire, .getUserCache, .advance 0 false, .advance 0 false])
     w.tasks = [] ∧ w.cached = some 10 ∧ w.ledger = 4) ∧
    (let w := Runs.run (QuotaRun.step true) { quota := 10 } (reserveSix ++ .expire :: reserveSix)
     w.tasks = [] ∧ w.ledger = -2) ∧
    (let w := Runs.run (QuotaRun.step false) { quota := 10 } [.increaseUserQuota 5 false,
        .getUserCache, .advance 1 false, .advance 1 false, .advance 0 false]
     w.tasks = [] ∧ w.cached = some 20 ∧ w.ledger = 15) := by
  decide

end Wallet
