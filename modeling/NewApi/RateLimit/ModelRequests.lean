import NewApi.Machinery.GoInt
import NewApi.Machinery.Runs
import Mathlib.Tactic.Linarith
import Mathlib.Tactic.Ring

/-!
# RateLimit/ModelRequests — the limits on model requests, with Redis

`redisRateLimitHandler` (`middleware/model-rate-limit.go`) checks the successes of a user, takes
tokens from the bucket of `rate_limit.lua`, handles the request and records a success.  Between
these steps other requests take theirs.  Times are in milliseconds; the bucket counts seconds.

* `Filled.take` — the tokens of the bucket pay for what it admits.
* `admitted_le` — a bucket that starts full and refills admits at most twice its limit in any
  window.
-/

namespace RateLimit

open List

/-- The limits of a deployment or a group. -/
structure Limits where
  totalMaxCount : ℤ
  successMaxCount : ℤ
  /-- In seconds. -/
  duration : ℤ
  duration_pos : 0 < duration := by decide

/-- `rateLimitCapacity`, saturated at the largest `int64`. -/
def rateLimitCapacity (count durationSeconds : ℤ) : ℤ :=
  if count ≤ 0 ∨ durationSeconds ≤ 0 then 0
  else if GoInt.maxInt / durationSeconds < count then GoInt.maxInt
  else count * durationSeconds

/-- The hash of a key: `last_time` is in seconds. -/
structure Bucket where
  tokens : ℤ
  lastTime : ℤ
  deriving DecidableEq

/-- The script of `rate_limit.lua`: the bucket it leaves and whether the request is allowed. -/
def takeTokens (requested rate capacity now : ℤ) (bucket : Option Bucket) : Bucket × Bool :=
  let tokens :=
    match bucket with
    | none => capacity
    | some b => min capacity (b.tokens + (now - b.lastTime) * rate)
  if requested ≤ tokens then (⟨tokens - requested, now⟩, true) else (⟨tokens, now⟩, false)

/-- How far a request has come. -/
inductive Phase where
  | arriving
  | checked (user : String)
  | running (user : String)
  | ended
  deriving DecidableEq

/-- What Redis holds, how far each request is, and what was admitted and recorded. -/
structure State where
  buckets : String → Option Bucket := fun _ => none
  /-- The times of successes, the last one first, and when the list expires. -/
  successes : String → List ℤ × ℤ := fun _ => ([], 0)
  phase : ℕ → Phase := fun _ => .arriving
  /-- The users and times of admitted requests. -/
  admitted : List (String × ℤ) := []
  /-- …and of recorded successes. -/
  recorded : List (String × ℤ) := []

/-- The steps of the handler, each of one request. -/
inductive Step where
  | check (id : ℕ) (user : String)
  | allow (id : ℕ)
  | finish (id : ℕ) (succeeded : Bool)
  deriving DecidableEq

section Handler

variable (L : Limits) (s : State) (now : ℤ)

/-- A request goes on. -/
def setPhase (id : ℕ) (phase : Phase) : State :=
  { s with phase := fun i => if i = id then phase else s.phase i }

/-- The list of a user's successes, where it has not expired. -/
def successTimes (user : String) : List ℤ :=
  if now < (s.successes user).2 then (s.successes user).1 else []

/-- `checkRedisRateLimit`, on the successes. -/
def checkRedisRateLimit (user : String) : Bool :=
  if L.successMaxCount = 0 then true
  else if (successTimes s now user).length < L.successMaxCount then true
  else
    match (successTimes s now user).getLast? with
    | none => false
    | some oldTime => L.duration ≤ (now - oldTime) / 1000

/-- A refused check renews the list. -/
def check (id : ℕ) (user : String) : State :=
  if checkRedisRateLimit L s now user then setPhase s id (.checked user)
  else
    setPhase { s with
      successes := fun u => if u = user then
        (successTimes s now user, now + L.duration * 1000) else s.successes u } id .ended

/-- The total limit, and the admission of the request. -/
def allow (id : ℕ) (user : String) : State :=
  if 0 < L.totalMaxCount then
    let (bucket, allowed) := takeTokens L.duration L.totalMaxCount
      (rateLimitCapacity L.totalMaxCount L.duration) (now / 1000) (s.buckets user)
    let s := { s with buckets := fun u => if u = user then some bucket else s.buckets u }
    if allowed then
      setPhase { s with admitted := (user, now) :: s.admitted } id (.running user)
    else setPhase s id .ended
  else setPhase { s with admitted := (user, now) :: s.admitted } id (.running user)

/-- `recordRedisRequest`: the list keeps as many successes as the limit allows. -/
def recordRedisRequest (user : String) : State :=
  if L.successMaxCount = 0 then s
  else
    { s with
      successes := fun u => if u = user then
        ((now :: successTimes s now user).take L.successMaxCount.toNat, now + L.duration * 1000)
        else s.successes u
      recorded := (user, now) :: s.recorded }

/-- One step of one request, at its time. -/
def step : ℤ × Step → State
  | (now, .check id user) => if s.phase id = .arriving then check L s now id user else s
  | (now, .allow id) =>
    match s.phase id with
    | .checked user => allow L s now id user
    | _ => s
  | (now, .finish id succeeded) =>
    match s.phase id with
    | .running user =>
      setPhase (if succeeded then recordRedisRequest L s now user else s) id .ended
    | _ => s

end Handler

/-- The clock does not go back. -/
def Clocked (events : List (ℤ × Step)) : Prop := (events.map Prod.fst).Pairwise (· ≤ ·)

instance (events : List (ℤ × Step)) : Decidable (Clocked events) :=
  inferInstanceAs (Decidable (List.Pairwise _ _))

/-- The requests of a user in the window of `d` seconds from the millisecond `a`. -/
def inWindow (d a : ℤ) (user : String) (requests : List (String × ℤ)) : ℤ :=
  (requests.countP fun r => r.1 = user ∧ a ≤ r.2 ∧ r.2 < a + d * 1000 : ℕ)

/-! ## The bucket -/

variable {L : Limits} {s : State} {user : String} {a : ℤ}

theorem rateLimitCapacity_le (hM : 0 < L.totalMaxCount) :
    rateLimitCapacity L.totalMaxCount L.duration ≤ L.totalMaxCount * L.duration := by
  have hd := L.duration_pos
  unfold rateLimitCapacity
  split_ifs with hzero hmax
  · exact (mul_pos hM hd).le
  · have h := Int.lt_mul_of_ediv_lt hd hmax
    exact h.le
  · exact le_rfl

/-- What the tokens of a user's bucket leave for a window. -/
structure Filled (L : Limits) (a : ℤ) (user : String) (now : ℤ) (s : State) : Prop where
  fresh : s.buckets user = none → inWindow L.duration a user s.admitted = 0
  time : ∀ b, s.buckets user = some b → b.lastTime ≤ now / 1000
  before : ∀ b, s.buckets user = some b → b.lastTime < a / 1000 →
    inWindow L.duration a user s.admitted = 0
  /-- A window that begins within a second ends within the second `duration` later. -/
  within : ∀ b, s.buckets user = some b → a / 1000 ≤ b.lastTime →
    b.lastTime ≤ a / 1000 + L.duration →
    L.duration * inWindow L.duration a user s.admitted + b.tokens ≤
      L.totalMaxCount * L.duration + L.totalMaxCount * (b.lastTime - a / 1000)
  tokens : ∀ b, s.buckets user = some b → 0 ≤ b.tokens
  bound : L.duration * inWindow L.duration a user s.admitted ≤ L.duration * (2 * L.totalMaxCount)

theorem rateLimitCapacity_nonneg (L : Limits) :
    0 ≤ rateLimitCapacity L.totalMaxCount L.duration := by
  unfold rateLimitCapacity
  split_ifs with hzero hmax
  · exact le_rfl
  · decide
  · rw [not_or, not_le, not_le] at hzero
    exact (mul_pos hzero.1 hzero.2).le

/-- The tokens a request finds. -/
def refilled (rate capacity now : ℤ) : Option Bucket → ℤ
  | none => capacity
  | some b => min capacity (b.tokens + (now - b.lastTime) * rate)

theorem takeTokens_eq (requested rate capacity now : ℤ) (bucket : Option Bucket) :
    takeTokens requested rate capacity now bucket =
      if requested ≤ refilled rate capacity now bucket then
        (⟨refilled rate capacity now bucket - requested, now⟩, true)
      else (⟨refilled rate capacity now bucket, now⟩, false) := by
  cases bucket <;> rfl

variable {now : ℤ} {rate capacity : ℤ} {bucket : Option Bucket}

theorem refilled_nonneg (hcapacity : 0 ≤ capacity) (hrate : 0 ≤ rate)
    (hbucket : ∀ b, bucket = some b → 0 ≤ b.tokens ∧ b.lastTime ≤ now) :
    0 ≤ refilled rate capacity now bucket := by
  cases bucket with
  | none => exact hcapacity
  | some b =>
    obtain ⟨htokens, htime⟩ := hbucket b rfl
    exact le_min hcapacity (add_nonneg htokens (mul_nonneg (by omega) hrate))

/-- A bucket holds its capacity. -/
theorem refilled_le_capacity (rate capacity now : ℤ) (bucket : Option Bucket) :
    refilled rate capacity now bucket ≤ capacity := by
  cases bucket with
  | none => exact le_rfl
  | some b => exact min_le_left _ _

variable {taken : Bucket × Bool}

/-- What the script takes and leaves was there or has been refilled. -/
theorem takeTokens_spec {requested : ℤ} (h : takeTokens requested rate capacity now bucket = taken)
    (hnonneg : 0 ≤ refilled rate capacity now bucket) :
    taken.1.lastTime = now ∧ 0 ≤ taken.1.tokens ∧
      taken.1.tokens + (if taken.2 then requested else 0) = refilled rate capacity now bucket := by
  rw [takeTokens_eq] at h
  subst h
  by_cases hle : requested ≤ refilled rate capacity now bucket
  · rw [if_pos hle]
    exact ⟨rfl, Int.sub_nonneg_of_le hle, by simp⟩
  · rw [if_neg hle]
    exact ⟨rfl, hnonneg, by simp⟩

theorem inWindow_cons (d a : ℤ) (user : String) (r : String × ℤ) (l : List (String × ℤ)) :
    inWindow d a user (r :: l) =
      inWindow d a user l + if r.1 = user ∧ a ≤ r.2 ∧ r.2 < a + d * 1000 then 1 else 0 := by
  unfold inWindow
  split_ifs <;> simp_all

variable {now' : ℤ} {s' : State}

/-- Steps that leave the bucket and the admissions of the user alone. -/
theorem Filled.frame (h : Filled L a user now s) (hnow : now ≤ now')
    (hbucket : s'.buckets user = s.buckets user)
    (hwindow : inWindow L.duration a user s'.admitted = inWindow L.duration a user s.admitted) :
    Filled L a user now' s' where
  fresh hb := hwindow ▸ h.fresh (hbucket ▸ hb)
  time b hb := (h.time b (hbucket ▸ hb)).trans (Int.ediv_le_ediv (by decide) hnow)
  before b hb ha := hwindow ▸ h.before b (hbucket ▸ hb) ha
  within b hb ha hd := hwindow ▸ h.within b (hbucket ▸ hb) ha hd
  tokens b hb := h.tokens b (hbucket ▸ hb)
  bound := hwindow ▸ h.bound

/-- Before a window nothing is counted in it. -/
theorem Filled.inWindow_eq_zero (h : Filled L a user now s) (hlt : now / 1000 < a / 1000) :
    inWindow L.duration a user s.admitted = 0 := by
  cases hb : s.buckets user with
  | none => exact h.fresh hb
  | some b => exact h.before b hb ((h.time b hb).trans_lt hlt)

/-- What a window has admitted and what it still finds. -/
theorem Filled.refilled_le {second : ℤ} (hM : 0 < L.totalMaxCount) (h : Filled L a user now s)
    (hnow : now / 1000 ≤ second) (ha : a / 1000 ≤ second) (hd : second ≤ a / 1000 + L.duration) :
    L.duration * inWindow L.duration a user s.admitted +
        refilled L.totalMaxCount (rateLimitCapacity L.totalMaxCount L.duration) second
          (s.buckets user) ≤
      L.totalMaxCount * L.duration + L.totalMaxCount * (second - a / 1000) := by
  have hwindow : inWindow L.duration a user s.admitted = 0 ∨
      ∃ b, s.buckets user = some b ∧ a / 1000 ≤ b.lastTime := by
    cases hb : s.buckets user with
    | none => exact .inl (h.fresh hb)
    | some b =>
      exact (lt_or_ge b.lastTime (a / 1000)).imp (h.before b hb) fun hge => ⟨b, rfl, hge⟩
  rcases hwindow with hzero | ⟨b, hb, hafter⟩
  · have hgrow : 0 ≤ L.totalMaxCount * (second - a / 1000) := mul_nonneg hM.le (by omega)
    have hcap := rateLimitCapacity_le hM
    have hfull := refilled_le_capacity L.totalMaxCount
      (rateLimitCapacity L.totalMaxCount L.duration) second (s.buckets user)
    rw [hzero, mul_zero]
    omega
  · have htime := h.time b hb
    have hold := h.within b hb hafter (by omega)
    have hnew : refilled L.totalMaxCount (rateLimitCapacity L.totalMaxCount L.duration) second
        (s.buckets user) ≤ b.tokens + (second - b.lastTime) * L.totalMaxCount := by
      rw [hb]
      exact min_le_right _ _
    have hsplit : L.totalMaxCount * (second - a / 1000) =
        L.totalMaxCount * (b.lastTime - a / 1000) + (second - b.lastTime) * L.totalMaxCount := by
      ring
    linarith

/-- **The bucket takes tokens for what it admits.** -/
theorem Filled.take (hM : 0 < L.totalMaxCount) (h : Filled L a user now s) (hnow : now ≤ now')
    (htaken : takeTokens L.duration L.totalMaxCount
      (rateLimitCapacity L.totalMaxCount L.duration) (now' / 1000) (s.buckets user) = taken)
    (hbucket : s'.buckets user = some taken.1)
    (hwindow : inWindow L.duration a user s'.admitted = inWindow L.duration a user s.admitted +
      if taken.2 ∧ a ≤ now' ∧ now' < a + L.duration * 1000 then 1 else 0) :
    Filled L a user now' s' := by
  have hd := L.duration_pos
  have hsecond : now / 1000 ≤ now' / 1000 := Int.ediv_le_ediv (by decide) hnow
  obtain ⟨htime, htokens, hrefill⟩ := takeTokens_spec htaken
    (refilled_nonneg (rateLimitCapacity_nonneg L) hM.le
      fun b hb => ⟨h.tokens b hb, (h.time b hb).trans hsecond⟩)
  have hwithin : a / 1000 ≤ taken.1.lastTime → taken.1.lastTime ≤ a / 1000 + L.duration →
      L.duration * inWindow L.duration a user s'.admitted + taken.1.tokens ≤
        L.totalMaxCount * L.duration + L.totalMaxCount * (taken.1.lastTime - a / 1000) := by
    intro ha hlt
    rw [htime] at ha hlt ⊢
    have hle := h.refilled_le hM hsecond ha hlt
    have hspent : L.duration * inWindow L.duration a user s'.admitted ≤
        L.duration * inWindow L.duration a user s.admitted +
          if taken.2 then L.duration else 0 := by
      rw [hwindow, mul_add]
      refine add_le_add_right ?_ _
      cases taken.2 <;> simp
      split_ifs <;> omega
    omega
  refine ⟨fun hb => ?_, fun b hb => ?_, fun b hb ha => ?_, fun b hb => ?_, fun b hb => ?_, ?_⟩
  · rw [hbucket] at hb
    cases hb
  · obtain rfl := Option.some.inj (hbucket.symm.trans hb)
    exact htime.le
  · obtain rfl := Option.some.inj (hbucket.symm.trans hb)
    rw [hwindow, h.inWindow_eq_zero (by omega), if_neg (by omega), add_zero]
  · obtain rfl := Option.some.inj (hbucket.symm.trans hb)
    exact hwithin
  · obtain rfl := Option.some.inj (hbucket.symm.trans hb)
    exact htokens
  · by_cases hlate : taken.2 = true ∧ a ≤ now' ∧ now' < a + L.duration * 1000
    · have hle := hwithin (by omega) (by omega)
      have hlast : L.totalMaxCount * (taken.1.lastTime - a / 1000) ≤
          L.totalMaxCount * L.duration := mul_le_mul_of_nonneg_left (by omega) hM.le
      linarith
    · rw [hwindow, if_neg hlate, add_zero]
      exact h.bound

/-! ## Runs -/

@[simp] theorem setPhase_admitted (s : State) (id : ℕ) (phase : Phase) :
    (setPhase s id phase).admitted = s.admitted := rfl

theorem inWindow_other {other : String} (hne : other ≠ user) (time : ℤ)
    (l : List (String × ℤ)) :
    inWindow L.duration a user ((other, time) :: l) = inWindow L.duration a user l := by
  rw [inWindow_cons, if_neg (fun hc => hne hc.1), add_zero]

section

variable (hM : 0 < L.totalMaxCount) (h : Filled L a user now s)

include hM h

/-- A request is admitted, or not. -/
theorem Filled.allow (hnow : now ≤ now') (id : ℕ) (other : String) :
    Filled L a user now' (allow L s now' id other) := by
  rw [RateLimit.allow]
  dsimp only
  by_cases hother : other = user
  · subst hother
    split_ifs with hallowed
    · refine h.take hM hnow rfl (if_pos rfl) ?_
      rw [setPhase_admitted, inWindow_cons]
      simp only [hallowed, true_and]
    · refine h.take hM hnow rfl (if_pos rfl) ?_
      rw [setPhase_admitted, if_neg (fun hc => hallowed hc.1), add_zero]
  · have hkept : (if user = other then some (takeTokens L.duration L.totalMaxCount
        (rateLimitCapacity L.totalMaxCount L.duration) (now' / 1000) (s.buckets other)).1
        else s.buckets user) = s.buckets user := if_neg fun hc => hother hc.symm
    split_ifs
    · exact h.frame hnow hkept (inWindow_other hother _ _)
    · exact h.frame hnow hkept rfl

/-- **A step keeps the bound.** -/
theorem Filled.step {event : ℤ × Step} (hnow : now ≤ event.1) :
    Filled L a user event.1 (step L s event) := by
  obtain ⟨now', st⟩ := event
  cases st with
  | check id other =>
    rw [RateLimit.step, check]
    split_ifs <;> exact h.frame hnow rfl rfl
  | allow id =>
    rw [RateLimit.step]
    split
    · exact h.allow hM hnow id _
    · exact h.frame hnow rfl rfl
  | finish id succeeded =>
    rw [RateLimit.step]
    split
    · rw [recordRedisRequest]
      split_ifs <;> exact h.frame hnow rfl rfl
    · exact h.frame hnow rfl rfl

/-- **So does a run.** -/
theorem filled_run {events : List (ℤ × Step)} (hclock : Clocked events)
    (hnow : ∀ e ∈ events, now ≤ e.1) :
    ∃ now', Filled L a user now' (Runs.run (step L) s events) := by
  induction events generalizing s now with
  | nil => exact ⟨now, h⟩
  | cons e events ih =>
    obtain ⟨hfirst, hrest⟩ := pairwise_cons.1 hclock
    refine ih (h.step hM (hnow e mem_cons_self)) hrest fun e' he' => ?_
    exact hfirst _ (mem_map_of_mem he')

end

/-- At the start all is free. -/
theorem filled_start (hM : 0 < L.totalMaxCount) (now : ℤ) : Filled L a user now {} where
  fresh _ := rfl
  time _ hb := nomatch hb
  before _ hb := nomatch hb
  within _ hb := nomatch hb
  tokens _ hb := nomatch hb
  bound := by
    have hzero : inWindow L.duration a user ({} : State).admitted = 0 := rfl
    rw [hzero, mul_zero]
    exact mul_nonneg L.duration_pos.le (by omega)

/-- **A bucket admits at most twice its limit in any window**, however the steps of requests are
interleaved. -/
theorem admitted_le (L : Limits) (hM : 0 < L.totalMaxCount) {events : List (ℤ × Step)}
    (hclock : Clocked events) (user : String) (a : ℤ) :
    inWindow L.duration a user (Runs.run (step L) {} events).admitted ≤ 2 * L.totalMaxCount := by
  have hrun : ∃ now', Filled L a user now' (Runs.run (step L) {} events) := by
    cases events with
    | nil => exact ⟨0, filled_start hM 0⟩
    | cons e events =>
      refine filled_run hM (filled_start hM e.1) hclock (forall_mem_cons.2 ⟨le_rfl, ?_⟩)
      intro e' he'
      exact (pairwise_cons.1 hclock).1 _ (mem_map_of_mem he')
  obtain ⟨now', hfilled⟩ := hrun
  exact le_of_mul_le_mul_left hfilled.bound L.duration_pos

/-- Two requests, and one success, in two seconds. -/
def twoInTwo : Limits where
  totalMaxCount := 2
  successMaxCount := 1
  duration := 2

/-- Requests that begin one after another, but end only after the last has begun. -/
def fourRequests : List (ℤ × Step) :=
  [(900, .check 0 "user"), (900, .allow 0), (900, .check 1 "user"), (900, .allow 1),
    (1000, .check 2 "user"), (1000, .allow 2), (2000, .check 3 "user"), (2000, .allow 3),
    (2100, .finish 0 true), (2100, .finish 1 true)]

/-- **Both limits are exceeded**: the tokens of a full bucket come on top of those of the window, and
a success is recorded only after others have been checked. -/
theorem four_admitted :
    let s := Runs.run (step twoInTwo) {} fourRequests
    Clocked fourRequests ∧ inWindow 2 900 "user" s.admitted = 4 ∧
      inWindow 2 900 "user" s.recorded = 2 := by
  decide +kernel

theorem admitted_le_four :
    inWindow 2 900 "user" (Runs.run (step twoInTwo) {} fourRequests).admitted ≤ 2 * 2 :=
  admitted_le twoInTwo (by decide) (by decide +kernel : Clocked fourRequests) "user" 900

end RateLimit
