import Mathlib.Algebra.Group.Nat.Defs
import NewApi.Machinery.Calendar
import NewApi.Machinery.Text

/-!
# Subscription/ResetTime — when a subscription's period ends, and the lazy reset

`model/subscription.go`.  `calcNextResetTime` aligns the next period to a local midnight, Monday or
first of the month, or adds a custom number of seconds.  `maybeResetUserSubscriptionWithPlanTx`
walks over every boundary that has passed and zeroes the usage if there was one.

The walk is a Go `for` loop with no bound of its own.  `catchUp` takes the number of iterations it
may make; `none` is a walk that has not ended by then.
-/

open Calendar

namespace Subscription

/-- The periods of a plan. -/
inductive ResetPeriod where
  | never | daily | weekly | monthly | custom
  deriving DecidableEq

/-- The period that a text stands for. -/
def normalizeResetPeriod (period : String) : ResetPeriod :=
  if Text.trimsTo period "daily" then .daily
  else if Text.trimsTo period "weekly" then .weekly
  else if Text.trimsTo period "monthly" then .monthly
  else if Text.trimsTo period "custom" then .custom
  else .never

/-- The columns of `subscription_plans` that consumption reads. -/
structure SubscriptionPlan where
  id : ℤ
  quotaResetPeriod : String := "never"
  quotaResetCustomSeconds : ℤ := 0

/-- The status of a subscription. -/
inductive SubscriptionStatus where
  | active | expired | cancelled
  deriving DecidableEq

/-- A row of `user_subscriptions`. -/
structure UserSubscription where
  id : ℤ
  userId : ℤ
  planId : ℤ
  amountTotal : ℤ
  amountUsed : ℤ := 0
  startTime : ℤ := 0
  endTime : ℤ
  status : SubscriptionStatus := .active
  lastResetTime : ℤ := 0
  nextResetTime : ℤ := 0
  allowWalletOverflow : Bool := true
  deriving DecidableEq

/-- The row with another usage. -/
def UserSubscription.withUsed (sub : UserSubscription) (used : ℤ) : UserSubscription :=
  { sub with amountUsed := used }

variable (sub : UserSubscription)

@[simp] theorem UserSubscription.withUsed_id (used : ℤ) : (sub.withUsed used).id = sub.id := rfl

@[simp] theorem UserSubscription.withUsed_amountTotal (used : ℤ) :
    (sub.withUsed used).amountTotal = sub.amountTotal := rfl

@[simp] theorem UserSubscription.withUsed_amountUsed (used : ℤ) :
    (sub.withUsed used).amountUsed = used := rfl

/-! ## The next boundary -/

/-- `time.Duration(seconds) * time.Second` in whole seconds: the product is taken in `int64`
nanoseconds, so it wraps, and `Time.Add` rounds it down. -/
def durationSeconds (seconds : ℤ) : ℤ := (seconds * 1000000000).bmod (2 ^ 64) / 1000000000

/-- The boundary after `base`, or `0` if the end comes first. -/
def calcNextResetTime (loc : Location) (base : ℤ) (plan : SubscriptionPlan) (endUnix : ℤ) : ℤ :=
  let capped (next : ℤ) : ℤ := if endUnix > 0 ∧ next > endUnix then 0 else next
  match normalizeResetPeriod plan.quotaResetPeriod with
  | .never => 0
  | .daily => capped (loc.addDate (loc.startOfDay base) 0 1)
  | .weekly =>
    -- Monday is 1 and Sunday is 7, so that the Monday after a Sunday is one day away.
    let weekday := if loc.weekday base = 0 then 7 else loc.weekday base
    capped (loc.addDate (loc.startOfDay base) 0 (8 - weekday))
  | .monthly => capped (loc.addDate (loc.startOfMonth base) 1 0)
  | .custom =>
    if plan.quotaResetCustomSeconds ≤ 0 then 0
    else capped (base + durationSeconds plan.quotaResetCustomSeconds)

/-! ## The walk over passed boundaries -/

/-- The three locals of the loop. -/
structure ResetWalk where
  base : ℤ
  next : ℤ
  advanced : Bool

/-- The loop over boundaries that have passed. -/
def catchUp (loc : Location) (plan : SubscriptionPlan) (endTime now : ℤ) :
    ℕ → ResetWalk → Option ResetWalk
  | 0, w => if 0 < w.next ∧ w.next ≤ now then none else some w
  | fuel + 1, w =>
    if 0 < w.next ∧ w.next ≤ now then
      catchUp loc plan endTime now fuel
        ⟨w.next, calcNextResetTime loc w.next plan endTime, true⟩
    else some w

/-- `maybeResetUserSubscriptionWithPlanTx`: the row it leaves, and its local `advanced`. -/
def maybeResetUserSubscription (loc : Location) (plan : SubscriptionPlan) (now : ℤ) (fuel : ℕ)
    (sub : UserSubscription) : Option (UserSubscription × Bool) :=
  if sub.nextResetTime > 0 ∧ sub.nextResetTime > now then some (sub, false)
  else if normalizeResetPeriod plan.quotaResetPeriod = .never then some (sub, false)
  else
    let base := if sub.lastResetTime ≤ 0 then sub.startTime else sub.lastResetTime
    match catchUp loc plan sub.endTime now fuel
        ⟨base, calcNextResetTime loc base plan sub.endTime, false⟩ with
    | none => none
    | some w =>
      if w.advanced then
        some ({ sub with amountUsed := 0, lastResetTime := w.base, nextResetTime := w.next }, true)
      else if sub.nextResetTime = 0 ∧ w.next > 0 then
        some ({ sub with lastResetTime := w.base, nextResetTime := w.next }, false)
      else some (sub, false)

/-- **A lazy reset touches the two reset times and, if a boundary has passed, the usage.** -/
theorem maybeReset_eq {loc : Location} {plan : SubscriptionPlan} {now : ℤ} {fuel : ℕ}
    {sub sub' : UserSubscription} {advanced : Bool}
    (h : maybeResetUserSubscription loc plan now fuel sub = some (sub', advanced)) :
    ∃ last next, sub' = { sub with
      amountUsed := if advanced then 0 else sub.amountUsed
      lastResetTime := last, nextResetTime := next } := by
  unfold maybeResetUserSubscription at h
  split at h
  · cases h; exact ⟨_, _, rfl⟩
  split at h
  · cases h; exact ⟨_, _, rfl⟩
  simp only at h
  split at h
  · cases h
  · split at h
    · cases h; exact ⟨_, _, rfl⟩
    split at h
    · cases h; exact ⟨_, _, rfl⟩
    · cases h; exact ⟨_, _, rfl⟩

end Subscription
